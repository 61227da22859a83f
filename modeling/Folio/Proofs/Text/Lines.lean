import Folio.Proofs.Text.Trim
import Folio.Text.Split
import Mathlib.Data.List.Forall2

/-!
# Lines of a text

A text is a last line without a line feed, or a line that a line feed ends and a text after it. If
its lines end with a carriage return and a line feed, they are the lines of the text without the
returns, up to a carriage return at the end of each but the last.

Main definitions:

* `IsLine`: a line with the line feed that ends it.
* `crlf`: a text with a carriage return before every line feed.
* `SameLine`: a line that is the same, or the same with a carriage return at its end.

Results:

* `line_induction`: induction on the lines of a text.
* `linesInclusive_append`, `flatten_linesInclusive`, `isLine_of_linesInclusive`: the lines of a text
  with their line feeds.
* `forall₂_splitOn_crlf`, `linesInclusive_crlf`: the lines of a text with carriage returns.
* `findSome?_sameLine`: what is searched for in them line by line.
* `cutFirst_append`, `cutFirst_crlf`: its first line and the text after that.
* `trimEnd_crlf`: its end without white space.
-/

namespace Folio.Text

open Unicode (isSpace)

/-- Induction on the lines of a text. -/
@[elab_as_elim]
theorem line_induction {motive : List Char → Prop} (text : List Char)
    (last : ∀ line, '\n' ∉ line → motive line)
    (line : ∀ line rest, '\n' ∉ line → motive rest → motive (line ++ '\n' :: rest)) :
    motive text := by
  by_cases h : '\n' ∈ text
  · obtain ⟨first, rest, htext, hfirst⟩ := List.eq_append_cons_of_mem h
    have hrest : rest.length < text.length := by
      rw [htext, List.length_append, List.length_cons]
      omega
    rw [htext]
    exact line first rest hfirst (line_induction rest last line)
  · exact last text h
termination_by text.length

theorem notMem_of_mem_splitOn {text line : List Char} (h : line ∈ text.splitOn '\n') :
    '\n' ∉ line := by
  induction text using line_induction with
  | last first hfirst =>
    rw [List.splitOn_eq_singleton hfirst] at h
    obtain rfl := List.mem_singleton.mp h
    exact hfirst
  | line first rest hfirst ih =>
    rw [List.splitOn_append_cons_self_of_not_mem hfirst] at h
    rcases List.mem_cons.mp h with rfl | hrest
    · exact hfirst
    · exact ih hrest

/-! ## Lines with their line feeds -/

/-- A line with the line feed that ends it. -/
def IsLine (line : List Char) : Prop := ∃ text, '\n' ∉ text ∧ line = text ++ ['\n']

theorem linesFrom_last {line text : List Char} (h : '\n' ∉ text)
    (hne : line.reverse ++ text ≠ []) : linesFrom line text = [line.reverse ++ text] := by
  induction text generalizing line with
  | nil =>
    have hline : line ≠ [] := by simpa using hne
    simp [linesFrom, hline]
  | cons c text ih =>
    rw [List.mem_cons, not_or] at h
    rw [linesFrom, if_neg (Ne.symm h.1), ih h.2 (by simp)]
    simp

theorem linesFrom_append (line : List Char) {text : List Char} (h : '\n' ∉ text)
    (rest : List Char) : linesFrom line (text ++ '\n' :: rest) =
      (line.reverse ++ text ++ ['\n']) :: linesInclusive rest := by
  induction text generalizing line with
  | nil => simp [linesFrom, linesInclusive]
  | cons c text ih =>
    rw [List.mem_cons, not_or] at h
    rw [List.cons_append, linesFrom, if_neg (Ne.symm h.1), ih (c :: line) h.2]
    simp

@[simp] theorem linesInclusive_nil : linesInclusive [] = [] := rfl

theorem linesInclusive_last {line : List Char} (h : '\n' ∉ line) (hne : line ≠ []) :
    linesInclusive line = [line] :=
  linesFrom_last h (by simpa using hne)

theorem linesInclusive_append {line : List Char} (h : IsLine line) (rest : List Char) :
    linesInclusive (line ++ rest) = line :: linesInclusive rest := by
  obtain ⟨text, htext, rfl⟩ := h
  rw [List.append_assoc, List.singleton_append, linesInclusive, linesFrom_append [] htext]
  rfl

theorem linesInclusive_flatten_append {lines : List (List Char)} (h : ∀ line ∈ lines, IsLine line)
    (rest : List Char) : linesInclusive (lines.flatten ++ rest) = lines ++ linesInclusive rest := by
  induction lines with
  | nil => rfl
  | cons line lines ih =>
    rw [List.forall_mem_cons] at h
    rw [List.flatten_cons, List.append_assoc, linesInclusive_append h.1, ih h.2, List.cons_append]

theorem flatten_linesInclusive (text : List Char) : (linesInclusive text).flatten = text := by
  induction text using line_induction with
  | last line h =>
    by_cases hne : line = []
    · rw [hne]
      rfl
    · rw [linesInclusive_last h hne, List.flatten_singleton]
  | line line rest h ih =>
    have hline : IsLine (line ++ ['\n']) := ⟨line, h, rfl⟩
    rw [← List.singleton_append, ← List.append_assoc, linesInclusive_append hline,
      List.flatten_cons, ih]

/-- A line feed ends every line that another follows. -/
theorem isLine_of_linesInclusive {text line : List Char} {before after : List (List Char)}
    (h : linesInclusive text = before ++ line :: after) :
    (∀ other ∈ before, IsLine other) ∧ (IsLine line ∨ '\n' ∉ line ∧ after = []) := by
  induction text using line_induction generalizing before with
  | last last hlast =>
    by_cases hne : last = []
    · simp [hne] at h
    · rw [linesInclusive_last hlast hne] at h
      obtain ⟨rfl, rfl, rfl⟩ : before = [] ∧ line = last ∧ after = [] := by
        cases before with
        | nil => simpa [eq_comm] using h
        | cons other before => simp at h
      exact ⟨by simp, .inr ⟨hlast, rfl⟩⟩
  | line first rest hfirst ih =>
    have hline : IsLine (first ++ ['\n']) := ⟨first, hfirst, rfl⟩
    rw [← List.singleton_append, ← List.append_assoc, linesInclusive_append hline] at h
    cases before with
    | nil =>
      obtain ⟨rfl, -⟩ := List.cons.inj h
      exact ⟨by simp, .inl hline⟩
    | cons other before =>
      obtain ⟨rfl, hrest⟩ := List.cons.inj h
      obtain ⟨hbefore, hend⟩ := ih hrest
      exact ⟨List.forall_mem_cons.mpr ⟨hline, hbefore⟩, hend⟩

/-! ## Line endings -/

/-- A text with a carriage return before every line feed. -/
def crlf (text : List Char) : List Char :=
  text.flatMap fun c => if c = '\n' then ['\r', '\n'] else [c]

@[simp] theorem crlf_nil : crlf [] = [] := rfl

@[simp] theorem crlf_feed (text : List Char) : crlf ('\n' :: text) = '\r' :: '\n' :: crlf text :=
  rfl

theorem crlf_cons {c : Char} (hc : c ≠ '\n') (text : List Char) :
    crlf (c :: text) = c :: crlf text := by
  rw [crlf, List.flatMap_cons, if_neg hc, crlf, List.singleton_append]

theorem crlf_append (text text' : List Char) : crlf (text ++ text') = crlf text ++ crlf text' :=
  List.flatMap_append

theorem crlf_of_notMem {text : List Char} (h : '\n' ∉ text) : crlf text = text := by
  induction text with
  | nil => rfl
  | cons c text ih =>
    rw [List.mem_cons, not_or] at h
    obtain ⟨hc, htext⟩ := h
    rw [crlf_cons (Ne.symm hc), ih htext]

theorem feed_mem_crlf {text : List Char} (h : '\n' ∈ text) : '\n' ∈ crlf text :=
  List.mem_flatMap.mpr ⟨'\n', h, by decide⟩

/-- Only a text without a line feed becomes one. -/
theorem crlf_eq_iff {text line : List Char} (h : '\n' ∉ line) : crlf text = line ↔ text = line := by
  constructor
  · intro htext
    have hfeed : '\n' ∉ text := fun hmem => h (htext ▸ feed_mem_crlf hmem)
    rwa [crlf_of_notMem hfeed] at htext
  · rintro rfl
    exact crlf_of_notMem h

theorem crlf_flatten (lines : List (List Char)) :
    (lines.map crlf).flatten = crlf lines.flatten := by
  induction lines with
  | nil => rfl
  | cons line lines ih => rw [List.map_cons, List.flatten_cons, ih, List.flatten_cons, crlf_append]

/-! ## Lines with a carriage return -/

/-- The same line, or the same with a carriage return at its end. -/
def SameLine (line line' : List Char) : Prop :=
  '\n' ∉ line ∧ (line' = line ∨ line' = line ++ ['\r'])

theorem SameLine.notMem {line line' : List Char} (h : SameLine line line') : '\n' ∉ line' := by
  obtain ⟨hline, rfl | rfl⟩ := h
  · exact hline
  · simpa using hline

theorem SameLine.read_eq {α : Type} {read : List Char → α}
    (hread : ∀ line, '\n' ∉ line → read (line ++ ['\r']) = read line) {line line' : List Char}
    (h : SameLine line line') : read line' = read line := by
  obtain ⟨hline, rfl | rfl⟩ := h
  · rfl
  · exact hread line hline

/-- What is searched for line by line is found if a carriage return does not count on a line. -/
theorem findSome?_sameLine {α : Type} {read : List Char → Option α}
    (hread : ∀ line, '\n' ∉ line → read (line ++ ['\r']) = read line)
    {lines lines' : List (List Char)} (h : List.Forall₂ SameLine lines lines') :
    lines'.findSome? read = lines.findSome? read := by
  induction h with
  | nil => rfl
  | cons hline _ ih => rw [List.findSome?_cons, hline.read_eq hread, ih, List.findSome?_cons]

theorem forall₂_splitOn_crlf (text : List Char) :
    List.Forall₂ SameLine (text.splitOn '\n') ((crlf text).splitOn '\n') := by
  induction text using line_induction with
  | last line h =>
    rw [crlf_of_notMem h, List.splitOn_eq_singleton h]
    exact .cons ⟨h, .inl rfl⟩ .nil
  | line line rest h ih =>
    have hline : SameLine line (line ++ ['\r']) := ⟨h, .inr rfl⟩
    have hcrlf : crlf (line ++ '\n' :: rest) = (line ++ ['\r']) ++ '\n' :: crlf rest := by
      rw [crlf_append, crlf_of_notMem h, crlf_feed]
      simp
    rw [hcrlf, List.splitOn_append_cons_self_of_not_mem h,
      List.splitOn_append_cons_self_of_not_mem hline.notMem]
    exact .cons hline ih

theorem linesFrom_crlf {line : List Char} (h : crlf line.reverse = line.reverse)
    (text : List Char) : linesFrom line (crlf text) = (linesFrom line text).map crlf := by
  induction text generalizing line with
  | nil =>
    rw [crlf_nil, linesFrom]
    split
    · rfl
    · rw [List.map_singleton, h]
  | cons c text ih =>
    by_cases hc : c = '\n'
    · subst hc
      rw [crlf_feed, linesFrom, if_neg (by decide), linesFrom, if_pos rfl, linesFrom, if_pos rfl,
        List.map_cons, ih rfl]
      simp [crlf_append, h]
    · have hline : crlf (c :: line).reverse = (c :: line).reverse := by
        rw [List.reverse_cons, crlf_append, h, crlf_cons hc, crlf_nil]
      rw [crlf_cons hc, linesFrom, if_neg hc, linesFrom, if_neg hc, ih hline]

theorem linesInclusive_crlf (text : List Char) :
    linesInclusive (crlf text) = (linesInclusive text).map crlf :=
  linesFrom_crlf rfl text

theorem cutFirst_of_notMem {mark : Char} {text : List Char} (h : mark ∉ text) :
    cutFirst mark text = none := by
  induction text with
  | nil => rfl
  | cons c text ih =>
    rw [List.mem_cons, not_or] at h
    rw [cutFirst, if_neg (Ne.symm h.1), ih h.2, Option.map_none]

theorem cutFirst_append {mark : Char} {before : List Char} (h : mark ∉ before)
    (after : List Char) : cutFirst mark (before ++ mark :: after) = some (before, after) := by
  induction before with
  | nil => simp [cutFirst]
  | cons c before ih =>
    rw [List.mem_cons, not_or] at h
    rw [List.cons_append, cutFirst, if_neg (Ne.symm h.1), ih h.2, Option.map_some]

theorem cutFirst_crlf (text : List Char) : cutFirst '\n' (crlf text) =
    (cutFirst '\n' text).map fun (line, rest) => (line ++ ['\r'], crlf rest) := by
  induction text with
  | nil => rfl
  | cons c text ih =>
    by_cases hc : c = '\n'
    · subst hc
      rfl
    · rw [crlf_cons hc, cutFirst, if_neg hc, cutFirst, if_neg hc, ih, Option.map_map,
        Option.map_map]
      rfl

/-! ## White space -/

theorem isSpace_return : ∀ c ∈ ['\r'], isSpace c := List.forall_mem_singleton.mpr (by decide)

theorem trimEnd_concat {c : Char} (hc : isSpace c = false) (text : List Char) :
    trimEnd (text ++ [c]) = text ++ [c] := by
  apply dropEndWhile_eq_self
  intro d hd
  obtain rfl : c = d := by simpa using hd
  exact hc

theorem trimEnd_crlf (text : List Char) : trimEnd (crlf text) = crlf (trimEnd text) := by
  induction text using List.reverseRecOn with
  | nil => rfl
  | append_singleton text c ih =>
    rw [crlf_append]
    by_cases hc : isSpace c
    · have hspace : ∀ d ∈ crlf [c], isSpace d := by
        intro d hd
        by_cases hfeed : c = '\n'
        · subst hfeed
          rcases List.mem_pair.mp hd with rfl | rfl <;> decide
        · rw [crlf_cons hfeed, crlf_nil, List.mem_singleton] at hd
          rwa [hd]
      rw [trimEnd_append _ hspace, trimEnd_append text (by simpa using hc), ih]
    · have hfeed : c ≠ '\n' := by
        rintro rfl
        exact hc (by decide)
      have hc' : isSpace c = false := by simpa using hc
      rw [crlf_cons hfeed, crlf_nil, trimEnd_concat hc', trimEnd_concat hc', crlf_append,
        crlf_cons hfeed, crlf_nil]

end Folio.Text
