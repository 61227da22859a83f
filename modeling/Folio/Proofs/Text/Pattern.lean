import Folio.Text.Pattern
import Mathlib.Data.List.TakeWhile

/-!
# Matches of patterns

What a part of a pattern does is an equation, except for one that stands for any number of
characters: there the farthest place decides if what comes after it matches, and otherwise a nearer
one may. So the text that a group captures is known where the first attempt succeeds, and otherwise
it is known to consist of characters that stand after the place.

Results:

* `firstMatch?_many`: the farthest place decides if the rest matches there.
* `firstMatch?_run`: a group that is a run of characters captures all of them.
* `subset_of_firstMatch?`: what a group captures stands after the place where the match begins.
* `Pattern.captureFrom?_append`: places at which nothing matches are passed over.
* `Pattern.exists_of_captureFrom?`: a text that is found is captured at some place.
-/

namespace Folio.Text

/-! ## Parts -/

namespace Place

variable {p : Char → Bool}

theorem head?_spread (passed : List Place) (before after : List Char) :
    (spread p passed before after).head? =
      some ⟨(after.takeWhile p).reverse ++ before, after.dropWhile p⟩ := by
  induction after generalizing passed before with
  | nil => rfl
  | cons c after ih =>
    rw [spread]
    by_cases hc : p c
    · rw [if_pos hc, ih, List.takeWhile_cons_of_pos hc, List.dropWhile_cons_of_pos hc]
      simp
    · rw [if_neg hc, List.takeWhile_cons_of_neg hc, List.dropWhile_cons_of_neg hc]
      rfl

theorem suffix_of_mem_spread {passed : List Place} {before after : List Char} {place : Place}
    (h : place ∈ spread p passed before after) : place ∈ passed ∨ place.after <:+ after := by
  induction after generalizing passed before with
  | nil =>
    rcases List.mem_cons.mp h with rfl | hpassed
    · exact .inr List.suffix_rfl
    · exact .inl hpassed
  | cons c after ih =>
    have hstay (h : place ∈ ⟨before, c :: after⟩ :: passed) :
        place ∈ passed ∨ place.after <:+ c :: after := by
      rcases List.mem_cons.mp h with rfl | hpassed
      · exact .inr List.suffix_rfl
      · exact .inl hpassed
    rw [spread] at h
    split at h
    · rcases ih h with hpassed | hafter
      · exact hstay hpassed
      · exact .inr (hafter.trans (List.suffix_cons c after))
    · exact hstay h

theorem textTo_dropWhile (before start after : List Char) :
    textTo ⟨start, after⟩ ⟨before, after.dropWhile p⟩ = after.takeWhile p := by
  have hlength := congrArg List.length (List.takeWhile_append_dropWhile (p := p) (l := after))
  rw [List.length_append] at hlength
  rw [textTo, ← hlength, Nat.add_sub_cancel]
  exact (List.prefix_iff_eq_take.mp (List.takeWhile_prefix p)).symm

theorem textTo_subset (start stop : Place) : start.textTo stop ⊆ start.after :=
  List.take_subset _ _

end Place

/-- No part ends before the place where it begins. -/
theorem Part.suffix_of_mem_ends {part : Part} {place stop : Place} (h : stop ∈ part.ends place) :
    stop.after <:+ place.after := by
  cases part with
  | one p =>
    obtain ⟨before, after⟩ := place
    cases after with
    | nil => cases h
    | cons c after =>
      rw [ends, Place.next?] at h
      split at h
      · obtain rfl := List.mem_singleton.mp h
        exact List.suffix_cons c after
      · cases h
  | many p =>
    rcases Place.suffix_of_mem_spread h with hpassed | hafter
    · cases hpassed
    · exact hafter
  | lineStart =>
    rw [ends] at h
    split at h
    · obtain rfl := List.mem_singleton.mp h
      exact List.suffix_rfl
    · cases h
  | lineEnd =>
    rw [ends] at h
    split at h
    · obtain rfl := List.mem_singleton.mp h
      exact List.suffix_rfl
    · cases h

section Parts

variable {α : Type} {p : Char → Bool} {parts : List Part} {result : Place → Option α}
  {before after : List Char}

theorem firstMatch?_one_cons (c : Char) :
    firstMatch? (.one p :: parts) result ⟨before, c :: after⟩ =
      if p c then firstMatch? parts result ⟨c :: before, after⟩ else none := by
  rw [firstMatch?, Part.ends, Place.next?]
  split <;> simp

theorem firstMatch?_lineStart (place : Place) :
    firstMatch? (.lineStart :: parts) result place =
      if place.isLineStart then firstMatch? parts result place else none := by
  rw [firstMatch?, Part.ends]
  split <;> simp

theorem firstMatch?_lineEnd (place : Place) :
    firstMatch? (.lineEnd :: parts) result place =
      if place.isLineEnd then firstMatch? parts result place else none := by
  rw [firstMatch?, Part.ends]
  split <;> simp

/-- The farthest place decides if the rest matches there. -/
theorem firstMatch?_many {a : α} (h : firstMatch? parts result
      ⟨(after.takeWhile p).reverse ++ before, after.dropWhile p⟩ = some a) :
    firstMatch? (.many p :: parts) result ⟨before, after⟩ = some a := by
  obtain ⟨nearer, hends⟩ := List.head?_eq_some_iff.mp (Place.head?_spread (p := p) [] before after)
  rw [firstMatch?, Part.ends, hends, List.findSome?_cons, h]

theorem exists_of_firstMatch? {place : Place} {a : α}
    (h : firstMatch? parts result place = some a) :
    ∃ stop : Place, stop.after <:+ place.after ∧ result stop = some a := by
  induction parts generalizing place with
  | nil => exact ⟨place, List.suffix_rfl, h⟩
  | cons part parts ih =>
    obtain ⟨next, hnext, hrest⟩ := List.exists_of_findSome?_eq_some h
    obtain ⟨stop, hstop, ha⟩ := ih hrest
    exact ⟨stop, hstop.trans (Part.suffix_of_mem_ends hnext), ha⟩

end Parts

/-- A group that is a run of characters captures all of them if what comes after it matches at their
end, and nothing if there are none. -/
theorem firstMatch?_run {p : Char → Bool} {tail : List Part} {before after : List Char}
    (htail : ∀ text : List Char, firstMatch? tail (fun _ => some text)
      ⟨(after.takeWhile p).reverse ++ before, after.dropWhile p⟩ = some text) :
    firstMatch? (Part.run p)
        (fun stop => firstMatch? tail (fun _ => some (Place.textTo ⟨before, after⟩ stop)) stop)
        ⟨before, after⟩ =
      if after.takeWhile p = [] then none else some (after.takeWhile p) := by
  cases after with
  | nil => rfl
  | cons c after =>
    rw [Part.run, firstMatch?_one_cons]
    by_cases hc : p c
    · rw [if_pos hc, if_neg (by simp [hc])]
      have hstop := htail ((c :: after).takeWhile p)
      rw [List.takeWhile_cons_of_pos hc, List.dropWhile_cons_of_pos hc, List.reverse_cons,
        List.append_assoc] at hstop
      apply firstMatch?_many
      have htext := Place.textTo_dropWhile (p := p)
        ((after.takeWhile p).reverse ++ c :: before) before (c :: after)
      rw [List.dropWhile_cons_of_pos hc] at htext
      rw [firstMatch?, htext, List.takeWhile_cons_of_pos hc]
      exact hstop
    · rw [if_neg hc, List.takeWhile_cons_of_neg hc, if_pos rfl]

/-- What a group captures stands after the place where the match begins. -/
theorem subset_of_firstMatch? {lead group tail : List Part} {place : Place} {text : List Char}
    (h : firstMatch? lead (fun start => firstMatch? group (fun stop =>
      firstMatch? tail (fun _ => some (start.textTo stop)) stop) start) place = some text) :
    text ⊆ place.after := by
  obtain ⟨start, hstart, hgroup⟩ := exists_of_firstMatch? h
  obtain ⟨stop, -, htail⟩ := exists_of_firstMatch? hgroup
  obtain ⟨-, -, htext⟩ := exists_of_firstMatch? htail
  obtain rfl := Option.some.inj htext
  exact List.Subset.trans (start.textTo_subset stop) hstart.subset

/-! ## Searching -/

namespace Pattern

variable {pattern : Pattern} {before : List Char}

theorem captureFrom?_of_some {after text : List Char}
    (h : pattern.captureAt? ⟨before, after⟩ = some text) :
    pattern.captureFrom? before after = some text := by
  cases after with
  | nil => exact h
  | cons c after => rw [captureFrom?, h]

theorem captureFrom?_cons_of_none {c : Char} {after : List Char}
    (h : pattern.captureAt? ⟨before, c :: after⟩ = none) :
    pattern.captureFrom? before (c :: after) = pattern.captureFrom? (c :: before) after := by
  rw [captureFrom?, h]

/-- Places at which nothing matches are passed over. -/
theorem captureFrom?_append {skipped after : List Char}
    (h : ∀ taken rest, skipped = taken ++ rest → rest ≠ [] →
      pattern.captureAt? ⟨taken.reverse ++ before, rest ++ after⟩ = none) :
    pattern.captureFrom? before (skipped ++ after) =
      pattern.captureFrom? (skipped.reverse ++ before) after := by
  induction skipped generalizing before with
  | nil => rfl
  | cons c skipped ih =>
    have hnone := h [] (c :: skipped) rfl (List.cons_ne_nil _ _)
    rw [List.reverse_nil, List.nil_append, List.cons_append] at hnone
    rw [List.cons_append, captureFrom?_cons_of_none hnone, List.reverse_cons,
      List.append_assoc, List.singleton_append]
    apply ih
    rintro taken rest rfl hrest
    have hnone := h (c :: taken) rest rfl hrest
    rwa [List.reverse_cons, List.append_assoc] at hnone

/-- A text that is found is captured at some place. -/
theorem exists_of_captureFrom? {after text : List Char}
    (h : pattern.captureFrom? before after = some text) :
    ∃ taken rest, after = taken ++ rest ∧
      pattern.captureAt? ⟨taken.reverse ++ before, rest⟩ = some text := by
  induction after generalizing before with
  | nil => exact ⟨[], [], rfl, h⟩
  | cons c after ih =>
    cases hfirst : pattern.captureAt? ⟨before, c :: after⟩ with
    | some first =>
      obtain rfl := Option.some.inj ((captureFrom?_of_some hfirst).symm.trans h)
      exact ⟨[], c :: after, rfl, hfirst⟩
    | none =>
      obtain ⟨taken, rest, rfl, hat⟩ := ih ((captureFrom?_cons_of_none hfirst).symm.trans h)
      refine ⟨c :: taken, rest, rfl, ?_⟩
      rwa [List.reverse_cons, List.append_assoc]

/-- A text that is found consists of characters of the text that is searched. -/
theorem subset_of_captureFrom? {after text : List Char}
    (h : pattern.captureFrom? before after = some text) : text ⊆ after := by
  obtain ⟨taken, rest, rfl, hat⟩ := exists_of_captureFrom? h
  have hrest : text ⊆ rest := subset_of_firstMatch? hat
  exact List.Subset.trans hrest (List.subset_append_right taken rest)

end Pattern

end Folio.Text
