import Folio.Text.Split
import Mathlib.Data.List.Infix

/-!
# Replacing a part of a text

A text is searched from left to right, and an occurrence of the part is replaced before the search
goes on behind it.

Results:

* `replaceAll_part`, `replaceAll_cons`: one step of the search.
* `replace_induction`: induction on the steps of the search.
* `replaceAll_append_cons`: a text falls apart before a character that no part goes on with.
* `replaceAll_eq_self`: a text without the part stays as it is.
-/

namespace Folio.Text

section Replace

variable {part new : List Char}

theorem replaceFrom_skip (skipped rest : List Char) :
    replaceFrom part new skipped.length (skipped ++ rest) = replaceAll part new rest := by
  induction skipped with
  | nil => rfl
  | cons c skipped ih => exact ih

/-- An occurrence is replaced, and the search goes on behind it. -/
theorem replaceAll_part (hne : part ≠ []) (rest : List Char) :
    replaceAll part new (part ++ rest) = new ++ replaceAll part new rest := by
  obtain ⟨c, tail, rfl⟩ := List.exists_cons_of_ne_nil hne
  have hfound : (c :: tail).isPrefixOf (c :: (tail ++ rest)) := by
    rw [List.isPrefixOf_iff_prefix]
    exact List.prefix_append (c :: tail) rest
  unfold replaceAll
  rw [List.cons_append, replaceFrom, if_pos hfound]
  exact congrArg (new ++ ·) (replaceFrom_skip tail rest)

/-- A character that no occurrence begins with is kept. -/
theorem replaceAll_cons {c : Char} {rest : List Char} (h : ¬part <+: c :: rest) :
    replaceAll part new (c :: rest) = c :: replaceAll part new rest := by
  rw [← List.isPrefixOf_iff_prefix] at h
  unfold replaceAll
  rw [replaceFrom, if_neg h]

/-- Induction on the steps of the search. -/
@[elab_as_elim]
theorem replace_induction {motive : List Char → Prop} (hne : part ≠ []) (cs : List Char)
    (nil : motive []) (keep : ∀ c rest, ¬part <+: c :: rest → motive rest → motive (c :: rest))
    (replace : ∀ rest, motive rest → motive (part ++ rest)) : motive cs := by
  by_cases hpart : part <+: cs
  · obtain ⟨rest, hcs⟩ := hpart
    have hlength : rest.length < cs.length := by
      have hpos := List.length_pos_iff.mpr hne
      rw [← hcs, List.length_append]
      omega
    rw [← hcs]
    exact replace rest (replace_induction hne rest nil keep replace)
  · cases cs with
    | nil => exact nil
    | cons c rest => exact keep c rest hpart (replace_induction hne rest nil keep replace)
termination_by cs.length

/-- A text falls apart before a character that occurs in the part at its beginning only. -/
theorem replaceAll_append_cons {x : Char} (hne : part ≠ []) (hx : x ∉ part.tail)
    (before after : List Char) : replaceAll part new (before ++ x :: after) =
      replaceAll part new before ++ replaceAll part new (x :: after) := by
  induction before using replace_induction hne with
  | nil => rfl
  | keep c rest hkeep ih =>
    have hlonger : ¬part <+: c :: (rest ++ x :: after) := by
      intro hlonger
      have hkept : c :: rest <+: c :: (rest ++ x :: after) := List.prefix_append (c :: rest) _
      rcases List.prefix_or_prefix_of_prefix hlonger hkept with hstart | ⟨tail, rfl⟩
      · exact hkeep hstart
      · -- The part would go on with the character.
        rw [List.cons_append, List.cons_prefix_cons, List.prefix_append_right_inj] at hlonger
        cases tail with
        | nil => exact hkeep (by simp)
        | cons d tail =>
          obtain ⟨rfl, -⟩ := List.cons_prefix_cons.mp hlonger.2
          exact hx (by simp)
    rw [List.cons_append, replaceAll_cons hlonger, ih, replaceAll_cons hkeep, List.cons_append]
  | replace rest ih =>
    rw [List.append_assoc, replaceAll_part hne, ih, replaceAll_part hne, List.append_assoc]

theorem replaceAll_eq_self {cs : List Char} (h : ¬part <:+: cs) :
    replaceAll part new cs = cs := by
  induction cs with
  | nil => rfl
  | cons c rest ih =>
    rw [List.infix_cons_iff, not_or] at h
    rw [replaceAll_cons h.1, ih h.2]

theorem mem_replaceAll {c : Char} {cs : List Char} (hne : part ≠ [])
    (h : c ∈ replaceAll part new cs) : c ∈ cs ∨ c ∈ new := by
  induction cs using replace_induction hne with
  | nil => exact .inl h
  | keep d rest hkeep ih =>
    rw [replaceAll_cons hkeep, List.mem_cons] at h
    rcases h with rfl | h
    · exact .inl List.mem_cons_self
    · exact (ih h).imp_left (List.mem_cons_of_mem d)
  | replace rest ih =>
    rw [replaceAll_part hne, List.mem_append] at h
    rcases h with h | h
    · exact .inr h
    · exact (ih h).imp_left (List.mem_append_right part)

theorem replaceAll_ne_nil {cs : List Char} (hne : part ≠ []) (hnew : new ≠ []) (h : cs ≠ []) :
    replaceAll part new cs ≠ [] := by
  induction cs using replace_induction hne with
  | nil => exact absurd rfl h
  | keep c rest hkeep _ => simp [replaceAll_cons hkeep]
  | replace rest _ => simp [replaceAll_part hne, hnew]

end Replace

end Folio.Text
