import Folio.Metadata.Markdown
import Folio.Proofs.Text.Lines
import Folio.Proofs.Text.Pattern
import Folio.Proofs.Text.Trim

/-!
# Headings of prose documents

A heading is meant to stand on one line: a number sign, white space, and text. But the white space
of the pattern may be line feeds, so that a number sign with nothing after it on its line is
followed to the next line that is not blank, and that line is taken for its text.

Results:

* `bind_captureFrom?`: the search for the pattern goes through the lines as `titleIn?` does.
* `title?_eq_heading_iff`: when the title is the text of the first heading.
* `title?_of_word`: the title of a document that is a heading of one word.
-/

namespace Folio.Markdown

open Text (Part Pattern Place firstMatch? trimmed?)
open Unicode (isSpace)

/-! ## Titles by lines -/

/-- The text of a heading on one line: what follows a number sign and white space. -/
def headingText? : List Char → Option (List Char)
  | '#' :: c :: rest => if isSpace c then trimmed? rest else none
  | _ => none

/-- Whether a line has a number sign and nothing but white space after it. -/
def isBareSign : List Char → Bool
  | '#' :: rest => rest.all isSpace
  | _ => false

/-- The title in lines: the text of the first heading, or else, if a bare number sign comes before
it, the first line after the sign that is not blank. -/
def titleIn? : List (List Char) → Option (List Char)
  | [] => none
  | line :: after =>
    if isBareSign line then after.findSome? trimmed? else (headingText? line).or (titleIn? after)

/-! ## Matches of the heading pattern -/

section Match

variable {before text : List Char}

theorem captureAt?_heading (after : List Char) : headingPattern.captureAt? ⟨before, after⟩ =
    if before.head?.all (· == '\n') then
      firstMatch? (.one (· == '#') :: Part.run isSpace)
        (fun start => firstMatch? (Part.run isInLine)
          (fun stop => firstMatch? [.lineEnd] (fun _ => some (start.textTo stop)) stop) start)
        ⟨before, after⟩
    else none :=
  Text.firstMatch?_lineStart _

/-- A match begins with a number sign where a line begins, and white space follows. -/
theorem captureAt?_eq_none (h : before.head?.all (· == '\n') →
    ∀ rest, text = '#' :: rest → rest.head?.any isSpace = false) :
    headingPattern.captureAt? ⟨before, text⟩ = none := by
  rw [captureAt?_heading]
  split
  · next hstart =>
    cases text with
    | nil => rfl
    | cons c rest =>
      rw [Text.firstMatch?_one_cons]
      split
      · next hc =>
        obtain rfl := beq_iff_eq.mp hc
        have hrest := h hstart rest rfl
        cases rest with
        | nil => rfl
        | cons d rest =>
          rw [Part.run, Text.firstMatch?_one_cons, if_neg]
          simpa using hrest
      · rfl
  · rfl

theorem isLineEnd_dropWhile (before text : List Char) :
    Place.isLineEnd ⟨before, text.dropWhile isInLine⟩ := by
  induction text with
  | nil => rfl
  | cons c rest ih =>
    rw [List.dropWhile_cons]
    split
    · exact ih
    · next hc => simpa [Place.isLineEnd, isInLine] using hc

/-- A heading is what is left of the line that the white space leads to. -/
theorem captureAt?_sign {c : Char} (hstart : before.head?.all (· == '\n')) (hc : isSpace c)
    (htext : text.dropWhile isSpace ≠ []) :
    headingPattern.captureAt? ⟨before, '#' :: c :: text⟩ =
      some ((text.dropWhile isSpace).takeWhile isInLine) := by
  rw [captureAt?_heading, if_pos hstart, Text.firstMatch?_one_cons, if_pos (beq_self_eq_true '#'),
    Part.run, Text.firstMatch?_one_cons, if_pos hc]
  apply Text.firstMatch?_many
  rw [firstMatch?, Text.firstMatch?_run, if_neg]
  · obtain ⟨d, rest, hrest⟩ := List.exists_cons_of_ne_nil htext
    have hd : isSpace d = false := by simpa [hrest] using List.head_dropWhile_not isSpace htext
    have hline : isInLine d := by
      rw [isInLine, bne_iff_ne]
      rintro rfl
      exact absurd hd (by decide)
    simp [hrest, hline]
  · intro found
    rw [Text.firstMatch?_lineEnd, if_pos (isLineEnd_dropWhile _ _), firstMatch?]

/-- What a match at a number sign captures stands after the sign. -/
theorem subset_of_captureFrom?_sign {found : List Char} (hstart : before.head?.all (· == '\n'))
    (h : headingPattern.captureFrom? before ('#' :: text) = some found) : found ⊆ text := by
  cases hat : headingPattern.captureAt? ⟨before, '#' :: text⟩ with
  | some first =>
    obtain rfl := Option.some.inj ((Pattern.captureFrom?_of_some hat).symm.trans h)
    rw [captureAt?_heading, if_pos hstart, Text.firstMatch?_one_cons,
      if_pos (beq_self_eq_true '#')] at hat
    exact Text.subset_of_firstMatch? hat
  | none =>
    rw [Pattern.captureFrom?_cons_of_none hat] at h
    exact Pattern.subset_of_captureFrom? h

theorem bind_captureFrom?_sign {c : Char} (hstart : before.head?.all (· == '\n')) (hc : isSpace c) :
    (headingPattern.captureFrom? before ('#' :: c :: text)).bind trimmed? =
      trimmed? ((text.dropWhile isSpace).takeWhile isInLine) := by
  by_cases htext : text.dropWhile isSpace = []
  · -- The white space takes all, and gives back no more than white space.
    have hspace : ∀ d ∈ c :: text, isSpace d :=
      List.forall_mem_cons.mpr ⟨hc, List.dropWhile_eq_nil_iff.mp htext⟩
    rw [htext, List.takeWhile_nil]
    exact Text.bind_trimmed?_eq_none hspace fun found => subset_of_captureFrom?_sign hstart
  · rw [Pattern.captureFrom?_of_some (captureAt?_sign hstart hc htext), Option.bind_some]

/-- Within a line no heading begins. -/
theorem captureAt?_inside {taken : List Char} (hne : taken ≠ []) (htaken : '\n' ∉ taken) :
    headingPattern.captureAt? ⟨taken.reverse ++ before, text⟩ = none := by
  apply captureAt?_eq_none
  intro hstart
  obtain ⟨line, c, rfl⟩ := (List.eq_nil_or_concat taken).resolve_left hne
  have hc : c = '\n' := by simpa using hstart
  simp [hc] at htaken

/-- A line at whose beginning nothing matches is passed over. -/
theorem captureFrom?_skip {line after : List Char} (hline : '\n' ∉ line)
    (hat : headingPattern.captureAt? ⟨before, line ++ after⟩ = none) :
    headingPattern.captureFrom? before (line ++ after) =
      headingPattern.captureFrom? (line.reverse ++ before) after := by
  apply Pattern.captureFrom?_append
  rintro taken rest rfl -
  rcases List.eq_nil_or_concat taken with rfl | hconcat
  · exact hat
  · apply captureAt?_inside
    · rintro rfl
      simp at hconcat
    · exact fun h => hline (List.mem_append_left rest h)

end Match

/-! ## The search by lines -/

/-- Whether a line has no number sign that white space or the end of the line follows. -/
def IsPlain (line : List Char) : Prop := ∀ rest, line = '#' :: rest → rest.head?.all isSpace = false

theorem isPlain_or_sign (line : List Char) :
    IsPlain line ∨ line = ['#'] ∨ ∃ c rest, line = '#' :: c :: rest ∧ isSpace c := by
  by_cases h : IsPlain line
  · exact .inl h
  · rw [IsPlain] at h
    push Not at h
    obtain ⟨rest, rfl, hrest⟩ := h
    cases rest with
    | nil => exact .inr (.inl rfl)
    | cons c rest => exact .inr (.inr ⟨c, rest, rfl, by simpa using hrest⟩)

theorem titleIn?_of_isPlain {line : List Char} (h : IsPlain line) (after : List (List Char)) :
    titleIn? (line :: after) = titleIn? after := by
  cases line with
  | nil => rfl
  | cons c rest =>
    rw [titleIn?]
    by_cases hc : c = '#'
    · subst hc
      cases rest with
      | nil => cases h [] rfl
      | cons d rest =>
        have hd : isSpace d = false := by simpa using h (d :: rest) rfl
        simp [isBareSign, headingText?, hd]
    · simp [isBareSign, headingText?, hc]

theorem titleIn?_sign {c : Char} (hc : isSpace c) (rest : List Char) (after : List (List Char)) :
    titleIn? (('#' :: c :: rest) :: after) = (rest :: after).findSome? trimmed? := by
  rw [titleIn?, List.findSome?_cons, headingText?, if_pos hc]
  have hbare : isBareSign ('#' :: c :: rest) ↔ trimmed? rest = none := by
    rw [Text.trimmed?_eq_none_iff]
    simp [isBareSign, hc]
  cases hrest : trimmed? rest with
  | none => rw [if_pos (hbare.mpr hrest)]
  | some text =>
    rw [if_neg, Option.some_or]
    rw [hbare, hrest]
    simp

/-- The first line that is not blank. -/
theorem trimmed?_takeWhile (text : List Char) :
    trimmed? ((text.dropWhile isSpace).takeWhile isInLine) =
      (text.splitOn '\n').findSome? trimmed? := by
  have hline {line : List Char} (h : '\n' ∉ line) : ∀ c ∈ line.dropWhile isSpace, isInLine c :=
    isInLine_of_notMem fun hmem => h ((List.dropWhile_sublist isSpace).mem hmem)
  induction text using Text.line_induction with
  | last line h =>
    rw [List.takeWhile_eq_self_iff.mpr (hline h), List.splitOn_eq_singleton h,
      Text.trimmed?_dropWhile]
    simp
  | line line rest h ih =>
    rw [List.splitOn_append_cons_self_of_not_mem h, List.findSome?_cons]
    by_cases hblank : line.dropWhile isSpace = []
    · have hspace : ∀ c ∈ line, isSpace c := List.dropWhile_eq_nil_iff.mp hblank
      rw [Text.trimmed?_eq_none_iff.mpr hspace, List.dropWhile_append_of_pos hspace,
        List.dropWhile_cons_of_pos (by decide), ih]
    · have hfirst : (line ++ '\n' :: rest).dropWhile isSpace =
          line.dropWhile isSpace ++ '\n' :: rest := by
        rw [List.dropWhile_append, if_neg (by simpa using hblank)]
      have hsome : trimmed? line ≠ none := by
        rwa [ne_eq, Text.trimmed?_eq_none_iff, ← List.dropWhile_eq_nil_iff]
      rw [hfirst, List.takeWhile_append_of_pos (hline h), List.takeWhile_cons_of_neg (by decide),
        List.append_nil, Text.trimmed?_dropWhile]
      cases hfound : trimmed? line with
      | none => exact absurd hfound hsome
      | some found => rfl

theorem captureAt?_of_isPlain {line : List Char} (h : IsPlain line) (before : List Char)
    {after : List Char} (hafter : after.head? ≠ some '#') :
    headingPattern.captureAt? ⟨before, line ++ after⟩ = none := by
  apply captureAt?_eq_none
  rintro - rest hrest
  cases line with
  | nil =>
    rw [List.nil_append] at hrest
    rw [hrest] at hafter
    exact absurd rfl hafter
  | cons c line =>
    obtain ⟨rfl, rfl⟩ := List.cons.inj hrest
    have hline := h line rfl
    cases line with
    | nil => cases hline
    | cons d line => simpa using hline

theorem captureFrom?_nil (before : List Char) : headingPattern.captureFrom? before [] = none :=
  captureAt?_eq_none fun _ _ h => by cases h

/-- From the beginning of a line the search goes through the lines. -/
theorem bind_captureFrom? {before text : List Char} (hstart : before.head?.all (· == '\n')) :
    (headingPattern.captureFrom? before text).bind trimmed? = titleIn? (text.splitOn '\n') := by
  induction text using Text.line_induction generalizing before with
  | last line h =>
    rw [List.splitOn_eq_singleton h]
    rcases isPlain_or_sign line with hplain | rfl | ⟨c, rest, rfl, hc⟩
    · have hat : headingPattern.captureAt? ⟨before, line ++ []⟩ = none :=
        captureAt?_of_isPlain hplain before (by simp)
      have hskip := captureFrom?_skip h hat
      rw [List.append_nil] at hskip
      rw [titleIn?_of_isPlain hplain, hskip, captureFrom?_nil]
      rfl
    · have hat : headingPattern.captureAt? ⟨before, ['#']⟩ = none :=
        captureAt?_eq_none fun _ rest hrest => by
          obtain rfl := (List.cons.inj hrest).2
          rfl
      rw [Pattern.captureFrom?_cons_of_none hat, captureFrom?_nil]
      rfl
    · have hrest : '\n' ∉ rest := fun hmem => h (.tail _ (.tail _ hmem))
      rw [bind_captureFrom?_sign hstart hc, titleIn?_sign hc, trimmed?_takeWhile,
        List.splitOn_eq_singleton hrest]
  | line line rest h ih =>
    rw [List.splitOn_append_cons_self_of_not_mem h]
    rcases isPlain_or_sign line with hplain | rfl | ⟨c, text, rfl, hc⟩
    · have hat : headingPattern.captureAt? ⟨before, line ++ '\n' :: rest⟩ = none :=
        captureAt?_of_isPlain hplain before (by simp)
      have hfeed : headingPattern.captureAt? ⟨line.reverse ++ before, '\n' :: rest⟩ = none :=
        captureAt?_eq_none fun _ _ hsign => by cases hsign
      rw [titleIn?_of_isPlain hplain, captureFrom?_skip h hat,
        Pattern.captureFrom?_cons_of_none hfeed]
      exact ih rfl
    · have hfeed : isSpace '\n' := by decide
      show (headingPattern.captureFrom? before ('#' :: '\n' :: rest)).bind trimmed? = _
      rw [bind_captureFrom?_sign hstart hfeed, trimmed?_takeWhile]
      rfl
    · have htext : '\n' ∉ text := fun hmem => h (.tail _ (.tail _ hmem))
      show (headingPattern.captureFrom? before
        ('#' :: c :: (text ++ '\n' :: rest))).bind trimmed? = _
      rw [bind_captureFrom?_sign hstart hc, titleIn?_sign hc, trimmed?_takeWhile,
        List.splitOn_append_cons_self_of_not_mem htext]

theorem title?_eq_titleIn? (content : String) :
    title? content = (titleIn? (content.toList.splitOn '\n')).map .ofList := by
  rw [title?, Pattern.capture?, bind_captureFrom? rfl]

/-! ## The first heading -/

/-- Whether lines are what comes after a bare number sign that stands before all headings. -/
def AreAfterSign (lines after : List (List Char)) : Prop :=
  ∃ before sign, lines = before ++ sign :: after ∧ isBareSign sign ∧
    ∀ line ∈ before, isBareSign line = false ∧ headingText? line = none

theorem areAfterSign_cons_iff {line : List Char} {lines after : List (List Char)} :
    AreAfterSign (line :: lines) after ↔
      isBareSign line ∧ after = lines ∨
        (isBareSign line = false ∧ headingText? line = none) ∧ AreAfterSign lines after := by
  constructor
  · rintro ⟨before, sign, hlines, hsign, hbefore⟩
    cases before with
    | nil =>
      obtain ⟨rfl, rfl⟩ := List.cons.inj hlines
      exact .inl ⟨hsign, rfl⟩
    | cons first before =>
      obtain ⟨rfl, rfl⟩ := List.cons.inj hlines
      obtain ⟨hfirst, hrest⟩ := List.forall_mem_cons.mp hbefore
      exact .inr ⟨hfirst, before, sign, rfl, hsign, hrest⟩
  · rintro (⟨hsign, rfl⟩ | ⟨hline, before, sign, rfl, hsign, hbefore⟩)
    · exact ⟨[], line, rfl, hsign, by simp⟩
    · exact ⟨line :: before, sign, rfl, hsign, List.forall_mem_cons.mpr ⟨hline, hbefore⟩⟩

theorem headingText?_of_isBareSign {line : List Char} (h : isBareSign line) :
    headingText? line = none := by
  fun_cases isBareSign line with
  | case1 rest =>
    have hspace : ∀ c ∈ rest, isSpace c := by simpa [isBareSign] using h
    cases rest with
    | nil => rfl
    | cons c rest =>
      rw [headingText?, Text.trimmed?_eq_none_iff.mpr fun d hd => hspace d (.tail c hd), ite_self]
  | case2 hne =>
    simp [isBareSign] at h

/-- The title is the first heading's unless what comes after a bare number sign begins otherwise. -/
theorem titleIn?_eq_findSome?_iff (lines : List (List Char)) :
    titleIn? lines = lines.findSome? headingText? ↔
      ∀ after, AreAfterSign lines after →
        after.findSome? trimmed? = after.findSome? headingText? := by
  induction lines with
  | nil => simp [titleIn?, AreAfterSign]
  | cons line lines ih =>
    rw [titleIn?, List.findSome?_cons]
    by_cases hsign : isBareSign line
    · rw [if_pos hsign, headingText?_of_isBareSign hsign]
      simp [areAfterSign_cons_iff, hsign]
    · rw [if_neg hsign]
      cases hline : headingText? line with
      | none => simpa [areAfterSign_cons_iff, hsign, hline] using ih
      | some text => simp [areAfterSign_cons_iff, hsign, hline]

/-- The title goes by the lines of the document. It is the text of the first heading just if, where
a bare number sign comes before that, the first line after the sign that is not blank reads the same
or neither is there. A document without a title is named so. -/
theorem title?_eq_heading_iff (content : String) :
    title? content = (titleIn? (content.toList.splitOn '\n')).map .ofList ∧
    (title? content = ((content.toList.splitOn '\n').findSome? headingText?).map .ofList ↔
      ∀ after, AreAfterSign (content.toList.splitOn '\n') after →
        after.findSome? trimmed? = after.findSome? headingText?) ∧
    (metadata content).title = (title? content).getD "Untitled Specification" := by
  refine ⟨title?_eq_titleIn? content, ?_, rfl⟩
  rw [title?_eq_titleIn?, ← titleIn?_eq_findSome?_iff]
  exact (Option.map_injective fun _ _ => String.ofList_injective).eq_iff

/-- A bare number sign before the first heading takes it whole for its text. -/
theorem title?_eq_heading_iff_bareSign :
    title? "#\n# Real Title\n" = some "# Real Title" ∧
      (("#\n# Real Title\n".toList.splitOn '\n').findSome? headingText?).map .ofList =
        some "Real Title" := by
  obtain ⟨htitle, -, -⟩ := title?_eq_heading_iff "#\n# Real Title\n"
  rw [htitle]
  exact ⟨by decide +kernel, by decide +kernel⟩

theorem title?_of_word {word : List Char} (hne : word ≠ [])
    (hword : ∀ c ∈ word, isSpace c = false) :
    title? (.ofList ('#' :: ' ' :: word)) = some (.ofList word) := by
  have hfeed : '\n' ∉ word := fun h => absurd (hword '\n' h) (by decide)
  have hline : '\n' ∉ '#' :: ' ' :: word := by simpa using hfeed
  have htrim : trimmed? word = some word :=
    Text.trimmed?_eq_some_iff.mpr ⟨(Text.trim_of_word hword).symm, hne⟩
  rw [title?_eq_titleIn?, String.toList_ofList, List.splitOn_eq_singleton hline,
    titleIn?_sign (by decide), List.findSome?_cons, htrim]
  rfl

end Folio.Markdown
