import Folio.Proofs.Text.Trim
import Mathlib.Data.List.Basic

/-!
# Words of a text

The words of a text are its maximal runs of characters that do not separate. What words make up
when they are joined by single spaces has no other white space.

Main definition:

* `AreRuns`: the maximal runs of a text, taken off its beginning one after another.

Results:

* `areRuns_iff`: every text has just those that are computed.
* `mem_unwords`, `trim_unwords`, `not_infix_unwords`: the white space of words that are joined.
-/

namespace Folio.Text

open Unicode (isSpace)

/-! ## Maximal runs -/

/-- The maximal runs of characters that fail `sep`: characters that satisfy it may stand before a
run, and one of them follows it unless the text is over. -/
inductive AreRuns (sep : Char → Bool) : List Char → List (List Char) → Prop
  | none {gap : List Char} (hgap : ∀ c ∈ gap, sep c) : AreRuns sep gap []
  | more {gap word rest : List Char} {ws : List (List Char)} (hgap : ∀ c ∈ gap, sep c)
      (hne : word ≠ []) (hword : ∀ c ∈ word, sep c = false)
      (hend : ∀ c, rest.head? = some c → sep c) (hrest : AreRuns sep rest ws) :
      AreRuns sep (gap ++ word ++ rest) (word :: ws)

section Runs

variable {sep : Char → Bool} {cs : List Char} {ws : List (List Char)}

theorem runs_gap {gap : List Char} (hgap : ∀ c ∈ gap, sep c) (rest : List Char) :
    runs sep (gap ++ rest) = runs sep rest := by
  induction gap with
  | nil => rfl
  | cons c gap ih =>
    rw [List.forall_mem_cons] at hgap
    unfold runs at ih ⊢
    rw [List.cons_append, runsFrom, if_pos hgap.1]
    exact ih hgap.2

theorem runsFrom_word {word : List Char} (hword : ∀ c ∈ word, sep c = false)
    (held rest : List Char) :
    runsFrom sep held (word ++ rest) = runsFrom sep (word.reverse ++ held) rest := by
  induction word generalizing held with
  | nil => rfl
  | cons c word ih =>
    rw [List.forall_mem_cons] at hword
    rw [List.cons_append, runsFrom, if_neg (by simp [hword.1]), ih hword.2]
    simp

theorem runs_word {word rest : List Char} (hne : word ≠ []) (hword : ∀ c ∈ word, sep c = false)
    (hend : ∀ c, rest.head? = some c → sep c) :
    runs sep (word ++ rest) = word :: runs sep rest := by
  have hheld : word.reverse.isEmpty = false := by simp [hne]
  unfold runs
  rw [runsFrom_word hword, List.append_nil]
  cases rest with
  | nil =>
    rw [runsFrom, hheld, if_neg Bool.false_ne_true, List.reverse_reverse]
    rfl
  | cons c rest =>
    have hc := hend c rfl
    rw [runsFrom, if_pos hc, hheld, if_neg Bool.false_ne_true, List.reverse_reverse, runsFrom,
      if_pos hc]
    rfl

theorem AreRuns.eq_runs (h : AreRuns sep cs ws) : ws = runs sep cs := by
  induction h with
  | none hgap =>
    have hruns := runs_gap hgap []
    rw [List.append_nil] at hruns
    rw [hruns]
    rfl
  | more hgap hne hword hend _ ih =>
    rw [List.append_assoc, runs_gap hgap, runs_word hne hword hend, ih]

/-- A character that separates may come before any text. -/
theorem AreRuns.cons_gap {c : Char} (hc : sep c) (h : AreRuns sep cs ws) :
    AreRuns sep (c :: cs) ws := by
  cases h with
  | none hgap => exact .none (List.forall_mem_cons.mpr ⟨hc, hgap⟩)
  | more hgap hne hword hend hrest =>
    exact @more sep (c :: _) _ _ _ (List.forall_mem_cons.mpr ⟨hc, hgap⟩) hne hword hend hrest

/-- Any other character belongs to the first word, or is one if a separating character follows. -/
theorem AreRuns.exists_cons {c : Char} (hc : sep c = false) (h : AreRuns sep cs ws) :
    ∃ ws', AreRuns sep (c :: cs) ws' := by
  have hone : ∀ d ∈ [c], sep d = false := by simpa using hc
  cases h with
  | none hgap =>
    refine ⟨[[c]], @more sep [] [c] _ _ (by simp) (by simp) hone ?_ (.none hgap)⟩
    exact fun d hd => hgap d (List.mem_of_mem_head? hd)
  | @more gap word rest ws hgap hne hword hend hrest =>
    cases gap with
    | nil =>
      have hlonger : ∀ d ∈ c :: word, sep d = false := List.forall_mem_cons.mpr ⟨hc, hword⟩
      exact ⟨_, @more sep [] (c :: word) _ _ (by simp) (by simp) hlonger hend hrest⟩
    | cons d gap =>
      refine ⟨_, @more sep [] [c] _ _ (by simp) (by simp) hone ?_
        (.more hgap hne hword hend hrest)⟩
      intro e he
      obtain rfl : d = e := by simpa using he
      exact hgap d List.mem_cons_self

theorem exists_areRuns (sep : Char → Bool) (cs : List Char) : ∃ ws, AreRuns sep cs ws := by
  induction cs with
  | nil => exact ⟨[], .none (by simp)⟩
  | cons c cs ih =>
    obtain ⟨ws, hws⟩ := ih
    by_cases hc : sep c
    · exact ⟨ws, hws.cons_gap hc⟩
    · exact hws.exists_cons (Bool.eq_false_iff.mpr hc)

/-- Every text has maximal runs, and no others than are computed. -/
theorem areRuns_iff : AreRuns sep cs ws ↔ ws = runs sep cs := by
  refine ⟨AreRuns.eq_runs, ?_⟩
  rintro rfl
  obtain ⟨ws, hws⟩ := exists_areRuns sep cs
  rw [← hws.eq_runs]
  exact hws

theorem AreRuns.of_mem {word : List Char} (h : AreRuns sep cs ws) (hmem : word ∈ ws) :
    word ≠ [] ∧ ∀ c ∈ word, sep c = false := by
  induction h with
  | none _ => simp at hmem
  | more _ hne hword _ _ ih =>
    rcases List.mem_cons.mp hmem with rfl | hmem
    · exact ⟨hne, hword⟩
    · exact ih hmem

end Runs

/-! ## Words joined by spaces -/

theorem unwords_cons_cons (word next : List Char) (ws : List (List Char)) :
    unwords (word :: next :: ws) = word ++ ' ' :: unwords (next :: ws) := by
  unfold unwords
  rw [List.intercalate_cons_cons, List.append_assoc, List.singleton_append]

theorem unwords_singleton (word : List Char) : unwords [word] = word :=
  List.intercalate_singleton

section Unwords

variable {ws : List (List Char)}

theorem mem_unwords {c : Char} (h : c ∈ unwords ws) : c = ' ' ∨ ∃ word ∈ ws, c ∈ word := by
  induction ws with
  | nil => simp [unwords, List.intercalate] at h
  | cons word ws ih =>
    cases ws with
    | nil =>
      rw [unwords_singleton] at h
      exact .inr ⟨word, by simp, h⟩
    | cons next ws =>
      rw [unwords_cons_cons, List.mem_append, List.mem_cons] at h
      rcases h with h | h | h
      · exact .inr ⟨word, by simp, h⟩
      · exact .inl h
      · obtain hspace | ⟨word', hmem, hc⟩ := ih h
        · exact .inl hspace
        · exact .inr ⟨word', List.mem_cons_of_mem _ hmem, hc⟩

/-- Words that are not empty and hold no white space. -/
def AreWords (ws : List (List Char)) : Prop :=
  ∀ word ∈ ws, word ≠ [] ∧ ∀ c ∈ word, isSpace c = false

theorem head?_unwords {c : Char} (h : AreWords ws) (hc : (unwords ws).head? = some c) :
    isSpace c = false := by
  cases ws with
  | nil => simp [unwords, List.intercalate] at hc
  | cons word ws =>
    obtain ⟨⟨hne, hword⟩, -⟩ := List.forall_mem_cons.mp h
    have hmem : c ∈ word := by
      cases ws with
      | nil =>
        rw [unwords_singleton] at hc
        exact List.mem_of_mem_head? hc
      | cons next ws =>
        rw [unwords_cons_cons, List.head?_append_of_ne_nil _ hne] at hc
        exact List.mem_of_mem_head? hc
    exact hword c hmem

theorem getLast?_unwords {c : Char} (h : AreWords ws) (hc : (unwords ws).getLast? = some c) :
    isSpace c = false := by
  induction ws with
  | nil => simp [unwords, List.intercalate] at hc
  | cons word ws ih =>
    obtain ⟨⟨-, hword⟩, hrest⟩ := List.forall_mem_cons.mp h
    cases ws with
    | nil =>
      rw [unwords_singleton] at hc
      exact hword c (List.mem_of_getLast? hc)
    | cons next ws =>
      have hne : unwords (next :: ws) ≠ [] := by
        obtain ⟨⟨hnext, -⟩, -⟩ := List.forall_mem_cons.mp hrest
        cases ws with
        | nil => rwa [unwords_singleton]
        | cons => simp [unwords_cons_cons]
      rw [unwords_cons_cons, List.append_cons, List.getLast?_append_of_ne_nil _ hne] at hc
      exact ih hrest hc

theorem trim_unwords (h : AreWords ws) : trim (unwords ws) = unwords ws :=
  trim_eq_self (fun _ => head?_unwords h) fun _ => getLast?_unwords h

/-- What begins with a character that a word does not hold lies behind the word. -/
theorem infix_of_infix_append {x : Char} {part word rest : List Char} (hx : x ∉ word)
    (h : x :: part <:+: word ++ rest) : x :: part <:+: rest := by
  induction word with
  | nil => exact h
  | cons c word ih =>
    rw [List.mem_cons, not_or] at hx
    rw [List.cons_append, List.infix_cons_iff, List.cons_prefix_cons] at h
    rcases h with ⟨heq, -⟩ | h
    · exact absurd heq hx.1
    · exact ih hx.2 h

/-- No two spaces follow one another between words. -/
theorem not_infix_unwords (h : AreWords ws) : ¬[' ', ' '] <:+: unwords ws := by
  have hblank : isSpace ' ' := by decide
  induction ws with
  | nil => simp [unwords, List.intercalate]
  | cons word ws ih =>
    obtain ⟨⟨-, hword⟩, hrest⟩ := List.forall_mem_cons.mp h
    have hnot : ' ' ∉ word := fun hmem => by simp [hword ' ' hmem] at hblank
    intro hin
    cases ws with
    | nil =>
      rw [unwords_singleton] at hin
      exact hnot (hin.subset (by simp))
    | cons next ws =>
      rw [unwords_cons_cons] at hin
      have hbehind := infix_of_infix_append hnot hin
      rw [List.infix_cons_iff, List.cons_prefix_cons] at hbehind
      rcases hbehind with ⟨-, hstart⟩ | hbehind
      · obtain ⟨rest, hnext⟩ := hstart
        have hhead : (unwords (next :: ws)).head? = some ' ' := by
          rw [← hnext]
          rfl
        simp [head?_unwords hrest hhead] at hblank
      · exact ih hrest hbehind

end Unwords

end Folio.Text
