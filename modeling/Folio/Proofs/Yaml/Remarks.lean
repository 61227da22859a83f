import Folio.Yaml.Composition

/-!
# Texts of comments only

A text on whose lines stand only blanks and comments is a document without events, and so a null.
Such lines may be empty.

**Deviation.** A tab before the comment of such a line, or on a line without a comment, is a fault,
though it separates words elsewhere: a key could start there, and tabs do not indent.

Main definitions:

* `isRemark`: whether a line holds nothing but blanks and a comment.
* `isTabbed`: whether a tab is among the blanks that a line begins with.

Main results:

* `skipSpace_remarks`: where the space before the first token of such a text ends.
* `parse_remarks`: the value of such a text is a null, unless a tab comes first on a line.
-/

namespace Folio.Yaml

/-- The lines of a text. A line is empty between a carriage return and a line feed. -/
def linesOf (text : List Char) : List (List Char) := text.splitOnP isBreak

/-- Whether a line holds nothing but blanks and a comment after them. -/
def isRemark (line : List Char) : Bool := (line.dropWhile isBlank).head?.all (· == '#')

/-- Whether a tab is among the blanks that a line begins with. -/
def isTabbed (line : List Char) : Bool := (line.takeWhile isBlank).contains '\t'

/-! ## Lines -/

theorem linesOf_break {c : Char} (h : isBreak c) (rest : List Char) :
    linesOf (c :: rest) = [] :: linesOf rest := by
  rw [linesOf, List.splitOnP_cons_eq_if_modifyHead, if_pos h, linesOf]

theorem exists_linesOf_cons {c : Char} (h : ¬isBreak c) (rest : List Char) :
    ∃ first others, linesOf rest = first :: others ∧
      linesOf (c :: rest) = (c :: first) :: others := by
  obtain ⟨first, others, hrest⟩ := List.exists_cons_of_ne_nil (List.splitOnP_ne_nil isBreak rest)
  refine ⟨first, others, hrest, ?_⟩
  rw [linesOf, List.splitOnP_cons_eq_if_modifyHead, if_neg h, hrest]
  rfl

theorem isTabbed_space (line : List Char) : isTabbed (' ' :: line) = isTabbed line := by
  rw [isTabbed, List.takeWhile_cons_of_pos (by decide), isTabbed]
  simp

theorem cases_of_isRemark {c : Char} {line : List Char} (h : isRemark (c :: line)) :
    c = ' ' ∨ c = '\t' ∨ c = '#' := by
  by_cases hblank : isBlank c
  · rcases Bool.or_eq_true_iff.mp hblank with hc | hc
    · exact .inl (beq_iff_eq.mp hc)
    · exact .inr (.inl (beq_iff_eq.mp hc))
  · rw [isRemark, List.dropWhile_cons_of_neg hblank] at h
    exact .inr (.inr (by simpa using h))

/-- The lines of which something is still to be read: not the first, if that is in a comment. -/
def linesAhead (comment : Bool) (text : List Char) : List (List Char) :=
  if comment then (linesOf text).tail else linesOf text

theorem all_linesAhead_break {f : List Char → Bool} (hf : f [] = true) {c : Char} (h : isBreak c)
    (comment : Bool) (rest : List Char) :
    (linesAhead comment (c :: rest)).all f = (linesOf rest).all f := by
  cases comment <;> simp [linesAhead, linesOf_break h, hf]

/-! ## Space before the first token -/

open Lexer (skipSpace)

/-- A break ends a comment, be it at once or, before a line feed, with the next character. -/
theorem skipSpace_break {c : Char} (h : isBreak c) (comment : Bool) (m : Mark)
    (rest : List Char) : ∃ comment' m',
      skipSpace false true comment m (c :: rest) = skipSpace false true comment' m' rest ∧
      ∀ f : List Char → Bool, f [] = true →
        (linesAhead comment' rest).all f = (linesOf rest).all f := by
  by_cases hfeed : c = '\r' ∧ rest.head? = some '\n'
  · obtain ⟨rfl, hfeed⟩ := hfeed
    obtain ⟨rest, rfl⟩ : ∃ rest', rest = '\n' :: rest' := by
      cases rest with
      | nil => cases hfeed
      | cons d rest => exact ⟨rest, by rw [Option.some.inj hfeed]⟩
    refine ⟨comment, m.beforeFeed, by simp [skipSpace, h], fun f hf => ?_⟩
    have hbreak : isBreak '\n' := by decide
    rw [all_linesAhead_break hf hbreak, linesOf_break hbreak, List.all_cons, hf, Bool.true_and]
  · refine ⟨false, m.newLine c, ?_, fun f _ => rfl⟩
    simp [skipSpace, h, hfeed]

/-- The space before the first token takes in all of a text of remarks, up to a tab that comes first
on a line. -/
theorem skipSpace_remarks {text : List Char} {comment : Bool} (m : Mark)
    (h : (linesAhead comment text).all isRemark) :
    ∃ m' rest, skipSpace false true comment m text = (⟨m', rest⟩, true) ∧
      rest.head? =
        if (linesAhead comment text).all fun line => !isTabbed line then none else some '\t' := by
  induction text generalizing comment m with
  | nil => cases comment <;> exact ⟨m, [], rfl, rfl⟩
  | cons c rest ih =>
    by_cases hbreak : isBreak c
    · obtain ⟨comment', m', hskip, hahead⟩ := skipSpace_break hbreak comment m rest
      rw [all_linesAhead_break rfl hbreak, ← hahead _ rfl] at h
      rw [all_linesAhead_break rfl hbreak, ← hahead _ rfl, hskip]
      exact ih m' h
    · obtain ⟨first, others, hrest, hlines⟩ := exists_linesOf_cons hbreak rest
      cases comment with
      | true =>
        have hahead : linesAhead true (c :: rest) = linesAhead true rest := by
          simp [linesAhead, hrest, hlines]
        have hskip : skipSpace false true true m (c :: rest) =
            skipSpace false true true (m.next c) rest := by simp [skipSpace, hbreak]
        rw [hahead] at h ⊢
        rw [hskip]
        exact ih _ h
      | false =>
        have hahead : linesAhead false (c :: rest) = (c :: first) :: others := by
          simp [linesAhead, hlines]
        rw [hahead, List.all_cons, Bool.and_eq_true] at h
        rw [hahead, List.all_cons]
        rcases cases_of_isRemark h.1 with rfl | rfl | rfl
        · have hskip : skipSpace false true false m (' ' :: rest) =
              skipSpace false true false (m.next ' ') rest := by simp [skipSpace, hbreak]
          have hnext : linesAhead false rest = first :: others := by simp [linesAhead, hrest]
          have hall : ((linesAhead false rest).all fun line => !isTabbed line) =
              (!isTabbed first && others.all fun line => !isTabbed line) := by
            rw [hnext, List.all_cons]
          rw [isTabbed_space, ← hall, hskip]
          apply ih
          rw [hnext, List.all_cons, Bool.and_eq_true]
          exact h
        · have hskip : skipSpace false true false m ('\t' :: rest) = (⟨m, '\t' :: rest⟩, true) := by
            simp [skipSpace, hbreak]
          exact ⟨m, _, hskip, rfl⟩
        · have hskip : skipSpace false true false m ('#' :: rest) =
              skipSpace false true true (m.next '#') rest := by simp [skipSpace, hbreak]
          have hnext : linesAhead true rest = others := by simp [linesAhead, hrest]
          have hplain : isTabbed ('#' :: first) = false := rfl
          rw [hplain, Bool.not_false, Bool.true_and, ← hnext, hskip]
          apply ih
          rw [hnext]
          exact h.2

/-! ## The first token -/

namespace Lexer

variable {text rest : List Char} {m : Mark}

theorem toNextToken_start (h : skipSpace false true false .start text = (⟨m, rest⟩, true)) :
    (start text).toNextToken = { start text with cursor := ⟨m, rest⟩ } := by
  have hstart : skipSpace (start text).inFlow (start text).keyAllowed false (start text).mark
      (start text).cursor.rest = (⟨m, rest⟩, true) := h
  rw [toNextToken, hstart]
  rfl

theorem run_end (h : skipSpace false true false .start text = (⟨m, []⟩, true)) (steps : Nat) :
    ∃ line, (start text).run (steps + 1) = ([⟨.streamEnd, line⟩], none) := by
  refine ⟨(if m.column = 0 then m else { m with line := m.line + 1, column := 0 }).line, ?_⟩
  rw [run, fetch, toNextToken_start h]
  rfl

/-- No token begins with a tab. -/
theorem fetchHere_tab {l : Lexer} (h : l.cursor = ⟨m, '\t' :: rest⟩) :
    l.fetchHere = .error ⟨.unexpectedCharacter, some m.line⟩ := by
  have hblank : isBlank '\t' = true := rfl
  have hmarker : isDocumentMarker ('\t' :: rest) = false := rfl
  simp [fetchHere, h, hmarker, beginsPlain, hblank, Cursor.fail, Mark.fail]

theorem run_tab (h : skipSpace false true false .start text = (⟨m, '\t' :: rest⟩, true))
    (steps : Nat) :
    (start text).run (steps + 1) = ([], some ⟨.unexpectedCharacter, some m.line⟩) := by
  rw [run, fetch, toNextToken_start h]
  have hhere := fetchHere_tab (l := { start text with cursor := ⟨m, '\t' :: rest⟩ }) rfl
  have hfetch : (do
      let l ← { start text with cursor := ⟨m, '\t' :: rest⟩ }.dropStale
      let l ← (l.closeBlocks (some l.mark.column)).fetchHere
      l.dropStale) = { start text with cursor := ⟨m, '\t' :: rest⟩ }.fetchHere >>= dropStale := rfl
  rw [hfetch, hhere]
  rfl

end Lexer

/-! ## The value -/

theorem value_broken (e : Error) : (Document.broken e).value = .error e := by
  have hanchored : Anchored.ofEvents (Document.broken e).events (Document.broken e).fault =
      ⟨[], [], some e⟩ := rfl
  rw [Document.value, hanchored]
  simp [Composer.node, Composer.ownNode, bind, Except.bind]

/-- A text of remarks is a null, or the first tab that comes first on a line is a fault. -/
theorem parse_remarks {text : List Char} (hallowed : text.all isAllowed)
    (h : (linesOf text).all isRemark) :
    if (linesOf text).any isTabbed then
      ∃ line, parse text = .error ⟨.unexpectedCharacter, some line⟩
    else parse text = .ok .null := by
  have hahead : (linesAhead false text).all isRemark := h
  obtain ⟨m, rest, hskip, hrest⟩ := skipSpace_remarks .start hahead
  have hany : (linesOf text).any isTabbed =
      !(linesAhead false text).all fun line => !isTabbed line := by
    simp [linesAhead, List.any_eq_not_all_not]
  rw [hany]
  unfold parse tokensOf
  rw [if_pos hallowed]
  cases hall : (linesAhead false text).all fun line => !isTabbed line with
  | true =>
    rw [hall, if_pos rfl, List.head?_eq_none_iff] at hrest
    rw [hrest] at hskip
    obtain ⟨line, hrun⟩ := Lexer.run_end hskip text.length
    rw [hrun]
    rfl
  | false =>
    rw [hall, if_neg (by decide)] at hrest
    obtain ⟨rest, rfl⟩ := List.head?_eq_some_iff.mp hrest
    rw [Lexer.run_tab hskip]
    refine ⟨m.line, ?_⟩
    have hdocument (e : Error) : Document.ofTokens [] (some e) = .broken e := rfl
    simp only [hdocument, value_broken]
    rfl

end Folio.Yaml
