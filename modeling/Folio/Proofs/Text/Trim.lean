import Folio.Text.Words
import Mathlib.Data.List.DropRight
import Mathlib.Data.List.TakeWhile

/-!
# White space around a text

White space at either end of a text does not count once the text is trimmed, and nothing is left
just if there is nothing else. What is left neither begins nor ends with white space, and a text
that does neither stays as it is.

Results:

* `exists_dropEndWhile`, `getLast?_dropEndWhile`: what is dropped from the end of a text and what
  is not.
* `head?_trim`, `getLast?_trim`, `trim_eq_self`: the ends of a trimmed text.
* `trimmed?_eq_none_iff`: nothing is left of a text of white space alone.
* `trimmed?_dropWhile`, `trimmed?_append`: white space at the ends does not count.
* `trim_of_word`: a text without white space stays as it is.
-/

namespace Folio.Text

open Unicode (isSpace)

/-! ## The end of a text -/

section End

variable {p : Char → Bool} {cs : List Char}

theorem exists_dropEndWhile (p : Char → Bool) (cs : List Char) :
    ∃ tail, cs = dropEndWhile p cs ++ tail ∧ ∀ c ∈ tail, p c :=
  ⟨cs.rtakeWhile p, List.rdropWhile_append_rtakeWhile.symm, fun _ => List.mem_rtakeWhile_imp⟩

theorem getLast?_dropEndWhile {c : Char} (h : (dropEndWhile p cs).getLast? = some c) :
    p c = false := by
  have hne : dropEndWhile p cs ≠ [] := by
    intro hnil
    simp [hnil] at h
  rw [← (List.getLast_eq_iff_getLast?_eq_some hne).mpr h]
  exact Bool.eq_false_iff.mpr (List.rdropWhile_last_not p cs hne)

theorem dropEndWhile_append (cs : List Char) {tail : List Char} (h : ∀ c ∈ tail, p c) :
    dropEndWhile p (cs ++ tail) = dropEndWhile p cs := by
  have hreverse : ∀ c ∈ tail.reverse, p c := by simpa using h
  rw [dropEndWhile, List.reverse_append, List.dropWhile_append_of_pos hreverse, dropEndWhile]

theorem dropEndWhile_eq_self (h : ∀ c, cs.getLast? = some c → p c = false) :
    dropEndWhile p cs = cs := by
  refine List.rdropWhile_eq_self_iff.mpr fun hne => ?_
  simp [h _ (List.getLast?_eq_some_getLast hne)]

end End

/-! ## White space -/

theorem trimEnd_eq_nil_iff {cs : List Char} : trimEnd cs = [] ↔ ∀ c ∈ cs, isSpace c := by
  simp [trimEnd, dropEndWhile]

theorem forall_dropWhile_iff {cs : List Char} :
    (∀ c ∈ cs.dropWhile isSpace, isSpace c) ↔ ∀ c ∈ cs, isSpace c := by
  constructor
  · intro h c hc
    rw [← List.takeWhile_append_dropWhile (p := isSpace) (l := cs), List.mem_append] at hc
    rcases hc with hc | hc
    · exact List.mem_takeWhile_imp hc
    · exact h c hc
  · intro h c hc
    exact h c ((List.dropWhile_sublist _).mem hc)

theorem trim_eq_nil_iff {cs : List Char} : trim cs = [] ↔ ∀ c ∈ cs, isSpace c := by
  rw [trim, trimStart, trimEnd_eq_nil_iff, forall_dropWhile_iff]

theorem trim_dropWhile (cs : List Char) : trim (cs.dropWhile isSpace) = trim cs := by
  rw [trim, trimStart, List.dropWhile_idempotent, trim, trimStart]

theorem trimEnd_append (cs : List Char) {space : List Char} (h : ∀ c ∈ space, isSpace c) :
    trimEnd (cs ++ space) = trimEnd cs :=
  dropEndWhile_append cs h

theorem trim_append (cs : List Char) {space : List Char} (h : ∀ c ∈ space, isSpace c) :
    trim (cs ++ space) = trim cs := by
  by_cases hcs : ∀ c ∈ cs, isSpace c
  · rw [trim_eq_nil_iff.mpr hcs, trim_eq_nil_iff]
    intro c hc
    rcases List.mem_append.mp hc with hc | hc
    · exact hcs c hc
    · exact h c hc
  · have hne : (cs.dropWhile isSpace).isEmpty = false := by
      rw [List.isEmpty_eq_false_iff, ne_eq, List.dropWhile_eq_nil_iff]
      exact hcs
    rw [trim, trimStart, List.dropWhile_append, hne, if_neg Bool.false_ne_true, trimEnd_append _ h,
      trim, trimStart]

/-- White space on both sides of a text does not count. -/
theorem trim_pad (cs : List Char) {lead trail : List Char} (hlead : ∀ c ∈ lead, isSpace c)
    (htrail : ∀ c ∈ trail, isSpace c) : trim (lead ++ cs ++ trail) = trim cs := by
  rw [trim_append _ htrail, ← trim_dropWhile, List.dropWhile_append_of_pos hlead, trim_dropWhile]

/-! ## The ends of a trimmed text -/

theorem head?_trimStart {cs : List Char} {c : Char} (h : (trimStart cs).head? = some c) :
    isSpace c = false := by
  have hnot := List.head?_dropWhile_not isSpace cs
  rw [trimStart] at h
  rwa [h] at hnot

theorem trimStart_eq_self {cs : List Char} (h : ∀ c, cs.head? = some c → isSpace c = false) :
    trimStart cs = cs := by
  cases cs with
  | nil => rfl
  | cons c rest => exact List.dropWhile_cons_of_neg (by simp [h c rfl])

theorem getLast?_trimStart {cs : List Char} {c : Char} (h : (trimStart cs).getLast? = some c) :
    cs.getLast? = some c := by
  rw [← List.takeWhile_append_dropWhile (p := isSpace) (l := cs), List.getLast?_append]
  exact Option.or_eq_some_iff.mpr (.inl h)

theorem head?_trim {cs : List Char} {c : Char} (h : (trim cs).head? = some c) :
    isSpace c = false := by
  obtain ⟨tail, htail, -⟩ := exists_dropEndWhile isSpace (trimStart cs)
  have hstart : (trimStart cs).head? = some c := by
    rw [htail, List.head?_append]
    exact Option.or_eq_some_iff.mpr (.inl h)
  exact head?_trimStart hstart

theorem getLast?_trim {cs : List Char} {c : Char} (h : (trim cs).getLast? = some c) :
    isSpace c = false :=
  getLast?_dropEndWhile h

theorem trim_eq_self {cs : List Char} (hhead : ∀ c, cs.head? = some c → isSpace c = false)
    (hlast : ∀ c, cs.getLast? = some c → isSpace c = false) : trim cs = cs := by
  rw [trim, trimStart_eq_self hhead, trimEnd, dropEndWhile_eq_self hlast]

/-- A text is white space, what is left of it, and white space. -/
theorem exists_trim (cs : List Char) :
    ∃ lead trail, cs = lead ++ trim cs ++ trail ∧ (∀ c ∈ lead, isSpace c) ∧
      ∀ c ∈ trail, isSpace c := by
  obtain ⟨trail, htrail, hspace⟩ := exists_dropEndWhile isSpace (trimStart cs)
  refine ⟨cs.takeWhile isSpace, trail, ?_, fun _ => List.mem_takeWhile_imp, hspace⟩
  rw [List.append_assoc, trim, trimEnd, ← htrail, trimStart, List.takeWhile_append_dropWhile]

/-! ## What is left -/

theorem trimmed?_eq_none_iff {cs : List Char} : trimmed? cs = none ↔ ∀ c ∈ cs, isSpace c := by
  rw [trimmed?, ← trim_eq_nil_iff]
  simp

theorem trimmed?_eq_some_iff {cs text : List Char} :
    trimmed? cs = some text ↔ text = trim cs ∧ text ≠ [] := by
  rw [trimmed?]
  split
  · next hempty =>
    rw [List.isEmpty_iff] at hempty
    simp [hempty]
  · next hne =>
    rw [List.isEmpty_iff] at hne
    constructor
    · rintro ⟨⟩
      exact ⟨rfl, hne⟩
    · rintro ⟨rfl, -⟩
      rfl

theorem trimmed?_dropWhile (cs : List Char) : trimmed? (cs.dropWhile isSpace) = trimmed? cs := by
  rw [trimmed?, trim_dropWhile, trimmed?]

theorem trimmed?_append (cs : List Char) {space : List Char} (h : ∀ c ∈ space, isSpace c) :
    trimmed? (cs ++ space) = trimmed? cs := by
  rw [trimmed?, trim_append cs h, trimmed?]

/-- What is found in white space is not left once it is trimmed. -/
theorem bind_trimmed?_eq_none {found : Option (List Char)} {space : List Char}
    (hspace : ∀ c ∈ space, isSpace c) (h : ∀ text, found = some text → text ⊆ space) :
    found.bind trimmed? = none := by
  rw [Option.bind_eq_none_iff]
  intro text htext
  rw [trimmed?_eq_none_iff]
  intro c hc
  exact hspace c (h text htext hc)

/-! ## Words -/

theorem trim_of_word {word : List Char} (hword : ∀ c ∈ word, isSpace c = false) :
    trim word = word :=
  trim_eq_self (fun c hc => hword c (List.mem_of_mem_head? hc))
    fun c hc => hword c (List.mem_of_getLast? hc)

/-- A text that begins and ends with words stays as it is. -/
theorem trim_of_words {lead trail : List Char} (cs : List Char) (hlead : lead ≠ [])
    (htrail : trail ≠ []) (hspace : ∀ c ∈ lead ++ trail, isSpace c = false) :
    trim (lead ++ (cs ++ trail)) = lead ++ (cs ++ trail) := by
  refine trim_eq_self (fun c hc => ?_) fun c hc => ?_
  · rw [List.head?_append_of_ne_nil _ hlead] at hc
    exact hspace c (List.mem_append_left _ (List.mem_of_mem_head? hc))
  · rw [← List.append_assoc, List.getLast?_append_of_ne_nil _ htrail] at hc
    exact hspace c (List.mem_append_right _ (List.mem_of_getLast? hc))

end Folio.Text
