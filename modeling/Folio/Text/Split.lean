/-!
# Cutting text at a mark

Main definitions:

* `cutLast`: the parts before and after the last occurrence of a character
  (`cutLast_eq_some_iff`).
* `cutFirst`: the parts before and after the first occurrence of a character.
* `linesInclusive`: the lines of a text, each with the line feed that ends it.
* `replaceAll`: every occurrence of one text replaced by another, from left to right.
-/

namespace Folio.Text

/-- The parts before and after the first occurrence of a character. -/
def cutFirst (mark : Char) : List Char → Option (List Char × List Char)
  | [] => none
  | c :: rest =>
    if c = mark then some ([], rest)
    else (cutFirst mark rest).map fun (before, after) => (c :: before, after)

/-- The parts before and after the last occurrence of a character. -/
def cutLast (mark : Char) : List Char → Option (List Char × List Char)
  | [] => none
  | c :: rest =>
    match cutLast mark rest with
    | some (before, after) => some (c :: before, after)
    | none => if c = mark then some ([], rest) else none

theorem cutLast_eq_none_iff {mark : Char} {cs : List Char} :
    cutLast mark cs = none ↔ mark ∉ cs := by
  induction cs with
  | nil => simp [cutLast]
  | cons c rest ih =>
    rw [cutLast]
    cases h : cutLast mark rest with
    | some parts =>
      have : mark ∈ rest := Decidable.not_not.mp fun hm => by simp [ih.mpr hm] at h
      simp [this]
    | none =>
      have : mark ∉ rest := ih.mp h
      by_cases hc : c = mark
      · simp [hc]
      · simp [hc, this, Ne.symm hc]

theorem cutLast_append {mark : Char} (before : List Char) {after : List Char}
    (h : mark ∉ after) : cutLast mark (before ++ mark :: after) = some (before, after) := by
  induction before with
  | nil =>
    rw [List.nil_append, cutLast, cutLast_eq_none_iff.mpr h]
    simp
  | cons c before ih => rw [List.cons_append, cutLast, ih]

theorem eq_of_cutLast_eq_some {mark : Char} {cs before after : List Char}
    (h : cutLast mark cs = some (before, after)) :
    cs = before ++ mark :: after ∧ mark ∉ after := by
  induction cs generalizing before with
  | nil => simp [cutLast] at h
  | cons c rest ih =>
    rw [cutLast] at h
    cases hcut : cutLast mark rest with
    | some parts =>
      obtain ⟨rfl, rfl⟩ : c :: parts.1 = before ∧ parts.2 = after := by simpa [hcut] using h
      obtain ⟨hrest, hmark⟩ := ih hcut
      exact ⟨by rw [hrest, List.cons_append], hmark⟩
    | none =>
      obtain ⟨rfl, rfl, rfl⟩ : c = mark ∧ [] = before ∧ rest = after := by simpa [hcut] using h
      exact ⟨rfl, cutLast_eq_none_iff.mp hcut⟩

/-- A text is cut at the last mark, so that none is left in what follows. -/
theorem cutLast_eq_some_iff {mark : Char} {cs before after : List Char} :
    cutLast mark cs = some (before, after) ↔ cs = before ++ mark :: after ∧ mark ∉ after := by
  refine ⟨eq_of_cutLast_eq_some, ?_⟩
  rintro ⟨rfl, h⟩
  exact cutLast_append before h

/-- The text after a given beginning. -/
def dropLead (lead cs : List Char) : Option (List Char) := lead.isPrefixOf? cs

/-- The text before a given ending. -/
def dropTail (tail cs : List Char) : Option (List Char) :=
  (tail.reverse.isPrefixOf? cs.reverse).map List.reverse

/-- The lines of a text, the first of them continuing `line`, which is held in reverse. -/
def linesFrom (line : List Char) : List Char → List (List Char)
  | [] => if line.isEmpty then [] else [line.reverse]
  | c :: rest =>
    if c = '\n' then (c :: line).reverse :: linesFrom [] rest else linesFrom (c :: line) rest

/-- The lines of a text, each with the line feed that ends it. Only the last may lack one, and it
is then not empty. -/
def linesInclusive (cs : List Char) : List (List Char) := linesFrom [] cs

/-- Whether a text occurs inside another. -/
def occursIn (part : List Char) : List Char → Bool
  | [] => part.isEmpty
  | c :: rest => part.isPrefixOf (c :: rest) || occursIn part rest

/-- Replaces every occurrence of `part` from left to right while `skip` characters of an
occurrence remain to be passed over. -/
def replaceFrom (part new : List Char) : (skip : Nat) → List Char → List Char
  | _, [] => []
  | skip + 1, _ :: rest => replaceFrom part new skip rest
  | 0, c :: rest =>
    if part.isPrefixOf (c :: rest) then new ++ replaceFrom part new (part.length - 1) rest
    else c :: replaceFrom part new 0 rest

/-- Every occurrence of a part that is not empty replaced, from left to right. -/
def replaceAll (part new cs : List Char) : List Char := replaceFrom part new 0 cs

end Folio.Text
