import Folio.Blog.Frontmatter
import Folio.Proofs.Text.Lines

/-!
# The block between two fences

A text has a block just if it is a line that is a fence, lines that are none, and a line that is one
again; the body is what comes after that. There is at most one way to take a text apart like this,
since the closing fence is the first after the opening one.

The block and the body can be cut out of the text by byte offsets, which are added up line by line.
They always lie between two characters, whatever characters the lines hold.

Main definitions:

* `IsUnmarked`: a text without the byte order mark that it may begin with.
* `Parts`, `Parts.Partition`: a text as fence, block, fence and body.
* `fenceSpan`, `cutAt?`, `splitByOffset?`: the block and the body by byte offsets, which fails if an
  offset is none of a character.

Main result:

* `split_isPartition`: a text is split just as it can be taken apart, and so it is by byte offsets.
-/

namespace Folio.Frontmatter

open Text (IsLine linesInclusive)

/-! ## Parts of a text -/

/-- A text without the byte order mark that it may begin with. -/
def IsUnmarked (source text : List Char) : Prop :=
  source = '\ufeff' :: text ∨ source = text ∧ text.head? ≠ some '\ufeff'

theorem dropMark_eq {source text : List Char} (h : IsUnmarked source text) :
    dropMark source = text := by
  rcases h with rfl | ⟨rfl, hmark⟩
  · simp [dropMark, Text.dropLead, List.isPrefixOf?]
  · cases source with
    | nil => rfl
    | cons c rest =>
      have hc : c ≠ '\ufeff' := by simpa using hmark
      simp [dropMark, Text.dropLead, List.isPrefixOf?, Ne.symm hc]

/-- An opening fence, a block, a closing fence and a body. -/
@[ext]
structure Parts where
  opening : List Char
  block : List Char
  closing : List Char
  body : List Char

/-- The parts that a text falls into. The end of the text may take the place of the line feed that
ends the closing fence. -/
structure Parts.Partition (parts : Parts) (text : List Char) : Prop where
  text_eq : text = parts.opening ++ parts.block ++ parts.closing ++ parts.body
  opening_isLine : IsLine parts.opening
  opening_isFence : Text.trimEnd parts.opening = "---".toList
  block_lines : ∃ lines : List (List Char), parts.block = lines.flatten ∧
    ∀ line ∈ lines, IsLine line ∧ Text.trimEnd line ≠ "---".toList
  closing_isLine : IsLine parts.closing ∨ '\n' ∉ parts.closing ∧ parts.body = []
  closing_isFence : Text.trimEnd parts.closing = "---".toList

theorem isFence_iff {line : List Char} : isFence line ↔ Text.trimEnd line = "---".toList :=
  beq_iff_eq

theorem isFence_eq_false_iff {line : List Char} :
    isFence line = false ↔ Text.trimEnd line ≠ "---".toList :=
  beq_eq_false_iff_ne

/-- The line feed at the end of a line does not count for a fence. -/
theorem trimEnd_feed (line : List Char) : Text.trimEnd (line ++ ['\n']) = Text.trimEnd line :=
  Text.trimEnd_append line (List.forall_mem_singleton.mpr (by decide))

theorem ne_nil_of_isFence {line : List Char} (h : isFence line) : line ≠ [] := by
  rintro rfl
  exact absurd h (by decide)

/-! ## The closing fence -/

theorem cutAtFence_eq_some_iff {before lines found rest : List (List Char)} :
    cutAtFence before lines = some (found, rest) ↔
      ∃ block closing, lines = block ++ closing :: rest ∧ found = before.reverse ++ block ∧
        isFence closing ∧ ∀ line ∈ block, isFence line = false := by
  induction lines generalizing before with
  | nil => simp [cutAtFence]
  | cons line lines ih =>
    rw [cutAtFence]
    split
    · next hline =>
      constructor
      · rintro ⟨⟩
        exact ⟨[], line, rfl, (List.append_nil _).symm, hline, by simp⟩
      · rintro ⟨block, closing, hlines, rfl, -, hblock⟩
        cases block with
        | nil =>
          obtain ⟨rfl, rfl⟩ := List.cons.inj hlines
          simp
        | cons other block =>
          obtain ⟨rfl, -⟩ := List.cons.inj hlines
          simp [hline] at hblock
    · next hline =>
      rw [ih]
      constructor
      · rintro ⟨block, closing, rfl, rfl, hclosing, hblock⟩
        refine ⟨line :: block, closing, rfl, by simp, hclosing, ?_⟩
        exact List.forall_mem_cons.mpr ⟨by simpa using hline, hblock⟩
      · rintro ⟨block, closing, hlines, rfl, hclosing, hblock⟩
        cases block with
        | nil =>
          obtain ⟨rfl, rfl⟩ := List.cons.inj hlines
          exact absurd hclosing hline
        | cons other block =>
          obtain ⟨rfl, rfl⟩ := List.cons.inj hlines
          exact ⟨block, closing, rfl, by simp, hclosing, (List.forall_mem_cons.mp hblock).2⟩

theorem cutAtFence_eq_none_iff {before lines : List (List Char)} :
    cutAtFence before lines = none ↔ ∀ line ∈ lines, isFence line = false := by
  induction lines generalizing before with
  | nil => simp [cutAtFence]
  | cons line lines ih =>
    rw [cutAtFence, List.forall_mem_cons]
    split
    · next hline => simp [hline]
    · next hline => simpa [hline] using ih

/-! ## Splitting -/

theorem split_of_notMem {source text : List Char} (hsource : IsUnmarked source text)
    (h : '\n' ∉ text) : split source = ⟨none, text⟩ := by
  simp only [split, dropMark_eq hsource, Text.cutFirst_of_notMem h]

/-- The block ends before the first fence after the first line, if that line is a fence. -/
theorem split_of_line {source first rest : List Char} (hfirst : '\n' ∉ first)
    (hsource : IsUnmarked source (first ++ '\n' :: rest)) :
    split source = if isFence first then
        (cutAtFence [] (linesInclusive rest)).elim ⟨none, first ++ '\n' :: rest⟩
          fun found => ⟨some found.1.flatten, found.2.flatten⟩
      else ⟨none, first ++ '\n' :: rest⟩ := by
  simp only [split, dropMark_eq hsource, Text.cutFirst_append hfirst]
  cases cutAtFence [] (linesInclusive rest) <;> rfl

/-- Without a block all is body. -/
theorem body_of_split {source text body : List Char} (hsource : IsUnmarked source text)
    (h : split source = ⟨none, body⟩) : body = text := by
  cases text using Text.line_induction with
  | last line hline =>
    rw [split_of_notMem hsource hline] at h
    simpa using h.symm
  | line first rest hfirst _ =>
    rw [split_of_line hfirst hsource] at h
    split at h
    · cases hcut : cutAtFence [] (linesInclusive rest) with
      | none => simpa [hcut] using h.symm
      | some found => simp [hcut] at h
    · simpa using h.symm

/-- What is split off are parts of the text. -/
theorem exists_partition_of_split {source text block body : List Char}
    (hsource : IsUnmarked source text) (h : split source = ⟨some block, body⟩) :
    ∃ parts : Parts, parts.Partition text ∧ parts.block = block ∧ parts.body = body := by
  cases text using Text.line_induction with
  | last line hline =>
    rw [split_of_notMem hsource hline] at h
    simp at h
  | line first rest hfirst _ =>
    rw [split_of_line hfirst hsource] at h
    split at h
    · next hopening =>
      cases hcut : cutAtFence [] (linesInclusive rest) with
      | none => simp [hcut] at h
      | some found =>
        obtain ⟨lines, closing, hlines, hfound, hclosing, hblock⟩ :=
          cutAtFence_eq_some_iff.mp hcut
        obtain ⟨hbefore, hend⟩ := Text.isLine_of_linesInclusive hlines
        obtain ⟨rfl, rfl⟩ : lines.flatten = block ∧ found.2.flatten = body := by
          simpa [hcut, hfound] using h
        have hrest : rest = lines.flatten ++ closing ++ found.2.flatten := by
          rw [← Text.flatten_linesInclusive rest, hlines]
          simp
        refine ⟨⟨first ++ ['\n'], lines.flatten, closing, found.2.flatten⟩, ?_, rfl, rfl⟩
        constructor
        · simp [hrest]
        · exact ⟨first, hfirst, rfl⟩
        · rw [trimEnd_feed]
          exact isFence_iff.mp hopening
        · refine ⟨lines, rfl, fun line hline => ⟨hbefore line hline, ?_⟩⟩
          exact isFence_eq_false_iff.mp (hblock line hline)
        · rcases hend with hend | ⟨hend, hnil⟩
          · exact .inl hend
          · exact .inr ⟨hend, by rw [hnil, List.flatten_nil]⟩
        · exact isFence_iff.mp hclosing
    · simp at h

/-- The lines after the opening fence, of which the closing fence is the first one that is a
fence. -/
theorem Parts.Partition.exists_lines {parts : Parts} {text : List Char}
    (h : parts.Partition text) :
    ∃ first lines, parts.opening = first ++ ['\n'] ∧ '\n' ∉ first ∧ isFence first ∧
      parts.block = lines.flatten ∧ (∀ line ∈ lines, isFence line = false) ∧
      linesInclusive (parts.block ++ parts.closing ++ parts.body) =
        lines ++ parts.closing :: linesInclusive parts.body := by
  obtain ⟨first, hfirst, hopening⟩ := h.opening_isLine
  obtain ⟨lines, hblock, hlines⟩ := h.block_lines
  have hclosing : isFence parts.closing := isFence_iff.mpr h.closing_isFence
  refine ⟨first, lines, hopening, hfirst, ?_, hblock, ?_, ?_⟩
  · rw [isFence_iff, ← trimEnd_feed, ← hopening]
    exact h.opening_isFence
  · intro line hline
    exact isFence_eq_false_iff.mpr (hlines line hline).2
  · rw [hblock, List.append_assoc,
      Text.linesInclusive_flatten_append fun line hline => (hlines line hline).1]
    rcases h.closing_isLine with hline | ⟨hline, hbody⟩
    · rw [Text.linesInclusive_append hline]
    · rw [hbody, List.append_nil, Text.linesInclusive_last hline (ne_nil_of_isFence hclosing),
        Text.linesInclusive_nil]

theorem split_of_partition {source text : List Char} {parts : Parts}
    (hsource : IsUnmarked source text) (h : parts.Partition text) :
    split source = ⟨some parts.block, parts.body⟩ := by
  obtain ⟨first, lines, hopening, hfirst, hfence, hblock, hlines, hrest⟩ := h.exists_lines
  have htext : text = first ++ '\n' :: (parts.block ++ parts.closing ++ parts.body) := by
    rw [h.text_eq, hopening]
    simp
  have hcut : cutAtFence [] (lines ++ parts.closing :: linesInclusive parts.body) =
      some (lines, linesInclusive parts.body) :=
    cutAtFence_eq_some_iff.mpr
      ⟨lines, parts.closing, rfl, rfl, isFence_iff.mpr h.closing_isFence, hlines⟩
  rw [htext] at hsource
  rw [split_of_line hfirst hsource, if_pos hfence, hrest, hcut]
  show (⟨some lines.flatten, (linesInclusive parts.body).flatten⟩ : Split) = _
  rw [hblock, Text.flatten_linesInclusive]

/-- There is one way to take a text apart at most. -/
theorem Parts.Partition.eq {text : List Char} {parts parts' : Parts} (h : parts.Partition text)
    (h' : parts'.Partition text) : parts = parts' := by
  -- A mark before the text rules out that the text itself begins with one.
  have hsplit : (⟨some parts.block, parts.body⟩ : Split) = ⟨some parts'.block, parts'.body⟩ := by
    rw [← split_of_partition (.inl rfl) h, split_of_partition (.inl rfl) h']
  obtain ⟨hblock, hbody⟩ : parts.block = parts'.block ∧ parts.body = parts'.body := by
    simpa using hsplit
  obtain ⟨first, -, hopening, hfirst, -⟩ := h.exists_lines
  obtain ⟨first', -, hopening', hfirst', -⟩ := h'.exists_lines
  have htext : first ++ '\n' :: (parts.block ++ parts.closing ++ parts.body) =
      first' ++ '\n' :: (parts'.block ++ parts'.closing ++ parts'.body) := by
    have heq := h.text_eq.symm.trans h'.text_eq
    rw [hopening, hopening'] at heq
    simpa using heq
  have hcut := Text.cutFirst_append hfirst (parts.block ++ parts.closing ++ parts.body)
  rw [htext, Text.cutFirst_append hfirst'] at hcut
  obtain ⟨rfl, hrest⟩ : first' = first ∧ parts'.block ++ parts'.closing ++ parts'.body =
      parts.block ++ parts.closing ++ parts.body := by
    simpa using hcut
  have hclosing : parts.closing = parts'.closing := by
    rw [hblock, hbody, List.append_left_inj, List.append_right_inj] at hrest
    exact hrest.symm
  exact Parts.ext (hopening.trans hopening'.symm) hblock hclosing hbody

/-! ## Byte offsets -/

/-- The number of bytes of a text. -/
def size (cs : List Char) : Nat := (String.ofList cs).utf8ByteSize

theorem size_append (cs cs' : List Char) : size (cs ++ cs') = size cs + size cs' := by
  rw [size, String.ofList_append, String.utf8ByteSize_append, size, size]

/-- The parts of a text before and after a byte offset, which has to lie in the text and between
two characters. -/
def cutAt? (offset : Nat) (cs : List Char) : Option (List Char × List Char) :=
  let text := String.ofList cs
  if h : (String.Pos.Raw.mk offset).IsValid text then
    let place : text.Pos := ⟨⟨offset⟩, h⟩
    some ((text.sliceTo place).copy.toList, (text.sliceFrom place).copy.toList)
  else none

theorem cutAt?_append (before after : List Char) :
    cutAt? (size before) (before ++ after) = some (before, after) := by
  have happend : String.ofList (before ++ after) = String.ofList before ++ String.ofList after :=
    String.ofList_append
  have hvalid : (String.Pos.Raw.mk (size before)).IsValid (String.ofList (before ++ after)) :=
    String.Pos.Raw.isValid_iff_exists_append.mpr ⟨_, _, happend, rfl⟩
  have hsplits : (String.Pos.mk _ hvalid).Splits (String.ofList before) (String.ofList after) :=
    ⟨happend, rfl⟩
  simp only [cutAt?, dif_pos hvalid, hsplits.copy_sliceTo_eq, hsplits.copy_sliceFrom_eq,
    String.toList_ofList]

/-- The byte offsets at which the first fence of a list of lines begins and ends, where the lines
begin at `offset`. -/
def fenceSpan (offset : Nat) : List (List Char) → Option (Nat × Nat)
  | [] => none
  | line :: rest =>
    if isFence line then some (offset, offset + size line)
    else fenceSpan (offset + size line) rest

/-- The offset is the number of bytes of the lines that have been passed. -/
theorem fenceSpan_append {block : List (List Char)} (hblock : ∀ line ∈ block, isFence line = false)
    {closing : List Char} (hclosing : isFence closing) (offset : Nat) (rest : List (List Char)) :
    fenceSpan offset (block ++ closing :: rest) =
      some (offset + size block.flatten, offset + size (block.flatten ++ closing)) := by
  induction block generalizing offset with
  | nil => simp [fenceSpan, hclosing, size]
  | cons line block ih =>
    rw [List.forall_mem_cons] at hblock
    rw [List.cons_append, fenceSpan, if_neg (by simp [hblock.1]), ih hblock.2]
    simp only [List.flatten_cons, size_append, Nat.add_assoc]

theorem fenceSpan_eq_none {lines : List (List Char)} (h : ∀ line ∈ lines, isFence line = false)
    (offset : Nat) : fenceSpan offset lines = none := by
  induction lines generalizing offset with
  | nil => rfl
  | cons line lines ih =>
    rw [List.forall_mem_cons] at h
    rw [fenceSpan, if_neg (by simp [h.1]), ih h.2]

/-- What lies before the span of a closing fence and what lies after it. -/
def cutOut? (rest : List Char) (span : Nat × Nat) : Option Split := do
  let (block, _) ← cutAt? span.1 rest
  let (_, body) ← cutAt? span.2 rest
  some ⟨some block, body⟩

/-- A text as its block and its body, which are cut out by byte offsets. -/
def splitByOffset? (source : List Char) : Option Split :=
  let text := dropMark source
  match Text.cutFirst '\n' text with
  | some (first, rest) =>
    if isFence first then
      match fenceSpan 0 (linesInclusive rest) with
      | some span => cutOut? rest span
      | none => some ⟨none, text⟩
    else some ⟨none, text⟩
  | none => some ⟨none, text⟩

theorem exists_span_of_cutAtFence {rest : List Char} {lines body : List (List Char)}
    (h : cutAtFence [] (linesInclusive rest) = some (lines, body)) :
    ∃ span, fenceSpan 0 (linesInclusive rest) = some span ∧
      cutOut? rest span = some ⟨some lines.flatten, body.flatten⟩ := by
  obtain ⟨_, closing, hlines, rfl, hclosing, hblock⟩ := cutAtFence_eq_some_iff.mp h
  have hrest : rest = lines.flatten ++ closing ++ body.flatten := by
    rw [← Text.flatten_linesInclusive rest, hlines]
    simp
  have hstart : cutAt? (size lines.flatten) rest =
      some (lines.flatten, closing ++ body.flatten) := by
    rw [hrest, List.append_assoc]
    exact cutAt?_append lines.flatten (closing ++ body.flatten)
  have hstop : cutAt? (size (lines.flatten ++ closing)) rest =
      some (lines.flatten ++ closing, body.flatten) := by
    rw [hrest]
    exact cutAt?_append (lines.flatten ++ closing) body.flatten
  refine ⟨_, by rw [hlines, fenceSpan_append hblock hclosing], ?_⟩
  simp [cutOut?, hstart, hstop]

/-- Every offset lies in the text and between two characters, so that both parts can be cut out. -/
theorem splitByOffset?_eq (source : List Char) : splitByOffset? source = some (split source) := by
  cases hcut : Text.cutFirst '\n' (dropMark source) with
  | none => simp only [splitByOffset?, split, hcut]
  | some parts =>
    obtain ⟨first, rest⟩ := parts
    by_cases hfirst : isFence first
    · cases hfence : cutAtFence [] (linesInclusive rest) with
      | none =>
        have hspan := fenceSpan_eq_none (cutAtFence_eq_none_iff.mp hfence) 0
        simp only [splitByOffset?, split, hcut, if_pos hfirst, hfence, hspan]
      | some found =>
        obtain ⟨span, hspan, hout⟩ := exists_span_of_cutAtFence hfence
        simp only [splitByOffset?, split, hcut, if_pos hfirst, hfence, hspan, hout]
    · simp only [splitByOffset?, split, hcut, if_neg hfirst]

/-! ## Main result -/

/-- A text has a block and a body just if it can be taken apart so, which can be done in one way at
most; otherwise all of it is body. Byte offsets lead to the same block and body for every text. -/
theorem split_isPartition {source text : List Char} (hsource : IsUnmarked source text) :
    (∀ block body, split source = ⟨some block, body⟩ ↔
      ∃ parts : Parts, parts.Partition text ∧ parts.block = block ∧ parts.body = body) ∧
    (∀ parts parts' : Parts, parts.Partition text → parts'.Partition text → parts = parts') ∧
    ((¬∃ parts : Parts, parts.Partition text) → split source = ⟨none, text⟩) ∧
    splitByOffset? source = some (split source) := by
  refine ⟨fun block body => ⟨exists_partition_of_split hsource, ?_⟩, fun _ _ h h' => h.eq h', ?_,
    splitByOffset?_eq source⟩
  · rintro ⟨parts, hparts, rfl, rfl⟩
    exact split_of_partition hsource hparts
  · intro hnone
    cases hsplit : split source with
    | mk yaml body =>
      cases yaml with
      | some block =>
        obtain ⟨parts, hparts, -⟩ := exists_partition_of_split hsource hsplit
        exact absurd ⟨parts, hparts⟩ hnone
      | none => rw [body_of_split hsource hsplit]

/-- A text with a mark before it, characters of several bytes, white space before and after three
hyphens and a fence in its body. -/
def markedText : List Char := "---\r\nä: 1\n ---\n---\u3000\nBody\n---\n".toList

theorem split_isPartition_markedText :
    IsUnmarked ('\ufeff' :: markedText) markedText ∧
      ∃ parts : Parts, parts.Partition markedText ∧ parts.block = "ä: 1\n ---\n".toList ∧
        parts.body = "Body\n---\n".toList := by
  have hsource : IsUnmarked ('\ufeff' :: markedText) markedText := .inl rfl
  obtain ⟨hsplit, -, -, -⟩ := split_isPartition hsource
  exact ⟨hsource, (hsplit _ _).mp (by decide +kernel)⟩

end Folio.Frontmatter
