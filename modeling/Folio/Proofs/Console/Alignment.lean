import Folio.Proofs.Console.Reply
import Mathlib.Data.List.Forall2
import Mathlib.Data.String.Basic

/-!
# Columns of tables

The width of a column is a number of bytes, and a cell is padded to a number of characters. As a text
has no more characters than bytes, every cell stands in full where its column begins, and a space
follows it.

Main definitions:

* `Aligned`: a row in which cells begin at given places, with spaces between them.
* `Prints`: a run that writes an aligned row for each item, unless a cell is too long.

Main results:

* `Table.alignedRows`: the rows of a table are aligned if its fixed widths suffice.
* `tables_aligned`: what is written of documents, of posts, of summaries and of sections.
-/

namespace Folio.Console

theorem length_le_utf8ByteSize (text : String) : text.length ≤ text.utf8ByteSize := by
  obtain ⟨cs, rfl⟩ : ∃ cs, text = .ofList cs := ⟨text.toList, String.ofList_toList.symm⟩
  rw [String.length_ofList]
  induction cs with
  | nil => exact Nat.zero_le _
  | cons c cs ih =>
    have hc := c.utf8Size_pos
    rw [String.ofList_cons, String.utf8ByteSize_append, String.utf8ByteSize_singleton,
      List.length_cons]
    omega

/-! ## Aligned rows -/

/-- A row with cells at the given places. Between a cell and the next there are spaces, at least one,
and the row ends with its last cell. -/
inductive Aligned (row : List Char) : List Nat → List String → Prop
  | last {place : Nat} {cell : String} (h : row.drop place = cell.toList) :
    Aligned row [place] [cell]
  | cons {place next : Nat} {places : List Nat} {cell : String} {cells : List String}
    (hspace : place + cell.length < next)
    (h : row.drop place =
      cell.toList ++ List.replicate (next - (place + cell.length)) ' ' ++ row.drop next)
    (rest : Aligned row (next :: places) cells) :
    Aligned row (place :: next :: places) (cell :: cells)

/-- Rows with the cells of items, where each column begins at one place in all rows. -/
def AlignedRows {α : Type} (cells : α → List String) (items : List α) (rows : List String) : Prop :=
  ∃ places, List.Forall₂ (fun item row => Aligned row.toList places (cells item)) items rows

/-- What comes of a run that prints items. If no cell that is measured is longer than 65535 bytes, it
writes an aligned row for each item, and the lines below them. Otherwise it fails before the first
row. -/
structure Prints {α : Type} (cells measured : α → List String) (below : List String)
    (items : List α) (run : Run Unit) : Prop where
  rows : (∀ item ∈ items, ∀ cell ∈ measured item, cell.utf8ByteSize ≤ 65535) →
    ∃ rows, AlignedRows cells items rows ∧ run = .write (Text.unlines (rows ++ below))
  tooWide : (∃ item ∈ items, ∃ cell ∈ measured item, 65535 < cell.utf8ByteSize) →
    run = .fail .tooWide

/-! ## Rows of tables -/

section Table

variable {α : Type}

/-- The cell of an item is no longer than its column is wide, if it is no longer than a width that
is given. -/
theorem Column.length_cell_le {column : Column α} {items : List α} {item : α} (hitem : item ∈ items)
    (hleast : ∀ width, column.width = .least width → (column.cell item).length ≤ width) :
    (column.cell item).length ≤ column.widthFor items := by
  rw [widthFor]
  split
  · next width hwidth => exact hleast width hwidth
  · exact (length_le_utf8ByteSize _).trans
      (longest_le_iff.mp le_rfl _ (List.mem_map_of_mem hitem))

theorem Column.toList_padded {column : Column α} {items : List α} {item : α}
    (h : (column.cell item).length ≤ column.widthFor items) :
    (column.padded items item).toList = (column.cell item).toList ++
      List.replicate (column.widthFor items + column.gap - (column.cell item).length) ' ' := by
  have hspaces : column.widthFor items + column.gap - (column.cell item).length =
      column.widthFor items - (column.cell item).length + column.gap := by omega
  simp only [padded, padTo, spaces, String.toList_append, String.toList_ofList, hspaces,
    List.replicate_add, List.append_assoc]

namespace Table

variable (table : Table α)

/-- The cells of an item. -/
def cells (item : α) : List String := table.columns.map (·.cell item) ++ [table.last item]

/-- The cells of an item that make columns wider. -/
def measured (item : α) : List String :=
  (table.columns.filter (·.width = .longest)).map (·.cell item)

/-- Where columns begin, and what follows them, if the first begins at a place. -/
def placesFrom (items : List α) (place : Nat) : List (Column α) → List Nat
  | [] => [place]
  | column :: columns =>
    place :: placesFrom items (place + (column.widthFor items + column.gap)) columns

theorem exists_placesFrom (items : List α) (place : Nat) (columns : List (Column α)) :
    ∃ places, placesFrom items place columns = place :: places := by
  cases columns with
  | nil => exact ⟨[], rfl⟩
  | cons => exact ⟨_, rfl⟩

/-- Columns are aligned after any first characters of a row if no cell is longer than its column. -/
theorem aligned_columns {items : List α} {item : α} (last : String) {columns : List (Column α)}
    (hroom : ∀ column ∈ columns, 0 < column.gap ∧
      (column.cell item).length ≤ column.widthFor items) (lead : List Char) :
    Aligned (lead ++ ((columns.flatMap fun column => (column.padded items item).toList) ++
        last.toList)) (placesFrom items lead.length columns)
      (columns.map (·.cell item) ++ [last]) := by
  -- What comes before the columns is a parameter, as places count from the beginning of the row.
  induction columns generalizing lead with
  | nil => exact .last (by simp)
  | cons column columns ih =>
    obtain ⟨⟨hgap, hlength⟩, hroom⟩ := List.forall_mem_cons.mp hroom
    have hpadded := column.toList_padded hlength
    have hnext : (lead ++ (column.padded items item).toList).length =
        lead.length + (column.widthFor items + column.gap) := by
      rw [hpadded, List.length_append, List.length_append, List.length_replicate,
        String.length_toList]
      omega
    have hrest := ih hroom (lead ++ (column.padded items item).toList)
    obtain ⟨places, hplaces⟩ := exists_placesFrom items
      (lead ++ (column.padded items item).toList).length columns
    rw [hplaces] at hrest
    rw [placesFrom, ← hnext, hplaces, List.flatMap_cons, List.append_assoc, ← List.append_assoc]
    have hspaces : (lead ++ (column.padded items item).toList).length -
        (lead.length + (column.cell item).length) =
          column.widthFor items + column.gap - (column.cell item).length := by omega
    refine .cons (by dsimp only; omega) ?_ hrest
    rw [hspaces, ← hpadded, List.drop_left, List.append_assoc, List.drop_left]

theorem toList_row (items : List α) (item : α) : (table.row items item).toList =
    (spaces table.indent).toList ++ ((table.columns.flatMap fun column =>
      (column.padded items item).toList) ++ (table.last item).toList) := by
  rw [row, String.toList_append, String.toList_append, String.toList_join, List.flatMap_map,
    List.append_assoc]

/-- Columns are apart, and widths that are given suffice for all cells. -/
def HasRoom : Prop :=
  ∀ column ∈ table.columns, 0 < column.gap ∧
    ∀ width, column.width = .least width → ∀ item, (column.cell item).length ≤ width

variable {table} (hroom : table.HasRoom) (items : List α)

include hroom in
theorem alignedRows : AlignedRows table.cells items (table.rows items) := by
  refine ⟨placesFrom items (spaces table.indent).toList.length table.columns, ?_⟩
  rw [rows, List.forall₂_map_right_iff, List.forall₂_same]
  intro item hitem
  rw [toList_row]
  refine aligned_columns (table.last item) (fun column hcolumn => ?_) _
  obtain ⟨hgap, hleast⟩ := hroom column hcolumn
  exact ⟨hgap, Column.length_cell_le hitem fun width hwidth => hleast width hwidth item⟩

theorem fits_iff_measured : table.fits items ↔
    ∀ item ∈ items, ∀ cell ∈ table.measured item, cell.utf8ByteSize ≤ 65535 := by
  rw [fits_iff]
  simp only [measured, List.mem_map, List.mem_filter, decide_eq_true_eq]
  constructor
  · rintro h item hitem _ ⟨column, ⟨hcolumn, hwidth⟩, rfl⟩
    exact h column hcolumn hwidth item hitem
  · intro h column hcolumn hwidth item hitem
    exact h item hitem _ ⟨column, ⟨hcolumn, hwidth⟩, rfl⟩

include hroom in
theorem prints : Prints table.cells table.measured [] items (table.write items) where
  rows := by
    intro hmeasured
    have hfits := (fits_iff_measured items).mpr hmeasured
    refine ⟨table.rows items, alignedRows hroom items, ?_⟩
    rw [List.append_nil, Table.write_of_fits _ hfits]
  tooWide := by
    rintro ⟨item, hitem, cell, hcell, hwide⟩
    refine Table.write_of_not_fits _ fun hfits => ?_
    have hsize := (fits_iff_measured items).mp hfits item hitem cell hcell
    exact absurd hwide (Nat.not_lt.mpr hsize)

end Table

theorem Prints.andWrite {cells measured : α → List String} {items : List α} {run : Run Unit}
    (h : Prints cells measured [] items run) (below : List String) :
    Prints cells measured below items (do run; Run.write (Text.unlines below)) where
  rows := by
    intro hmeasured
    obtain ⟨rows, haligned, rfl⟩ := h.rows hmeasured
    refine ⟨rows, haligned, ?_⟩
    rw [List.append_nil, Run.write_bind_write, ← Text.unlines_append]
  tooWide := by
    intro hwide
    rw [h.tooWide hwide]
    rfl

end Table

/-! ## Tables that are written -/

theorem hasRoom_documentTable : documentTable.HasRoom := by
  simp only [Table.HasRoom, documentTable, List.forall_mem_cons]
  refine ⟨by simp, ⟨by simp, ?_⟩, by simp, by simp, by simp⟩
  intro width hwidth d
  cases hwidth
  cases d.metadata.status <;> decide

theorem hasRoom_itemTable (settings : Settings) : (itemTable settings).HasRoom := by
  simp only [Table.HasRoom, itemTable, List.forall_mem_cons]
  refine ⟨⟨by simp, ?_⟩, by simp, by simp⟩
  intro width hwidth item
  cases hwidth
  cases item.status <;> decide

theorem hasRoom_postTable : postTable.HasRoom := by
  simp [Table.HasRoom, postTable]

theorem hasRoom_summaryTable : summaryTable.HasRoom := by
  simp [Table.HasRoom, summaryTable]

/-! ## Sections -/

section Sections

variable {settings : Settings}

theorem fits_itemTable_iff {items : List Section.Item} : (itemTable settings).fits items ↔
    ∀ item ∈ items, item.title.utf8ByteSize ≤ 65535 := by
  rw [Table.fits_iff_measured]
  simp [Table.measured, itemTable]

variable (settings) in
/-- The lines of a section: its title and its links. -/
def sectionLines (s : Section) : List String := s.title :: (itemTable settings).rows s.items

theorem writeSection_of_fits {s : Section} (h : (itemTable settings).fits s.items) :
    writeSection settings s = .write (Text.unlines (sectionLines settings s)) := by
  rw [writeSection, Table.write_of_fits _ h, Run.write_bind_write, ← Text.unlines_append]
  rfl

theorem writeSection_of_not_fits {s : Section} (h : ¬ (itemTable settings).fits s.items) :
    writeSection settings s = ⟨Text.unlines [s.title], .error .tooWide⟩ := by
  rw [writeSection, Table.write_of_not_fits _ h]
  show Run.mk (Text.unlines [s.title] ++ "") (.error .tooWide) = _
  rw [String.append_empty]

variable (settings) in
/-- Writes a section below others. -/
def writeBelow (s : Section) : Run Unit := do
  Run.write (Text.unlines [""])
  writeSection settings s

theorem writeBelow_of_fits {s : Section} (h : (itemTable settings).fits s.items) :
    writeBelow settings s = .write (Text.unlines ("" :: sectionLines settings s)) := by
  rw [writeBelow, writeSection_of_fits h, Run.write_bind_write, ← Text.unlines_append]
  rfl

theorem Run.write_bind_write_bind (text text' : String) (run : Run Unit) :
    (Run.write text >>= fun _ => Run.write text' >>= fun _ => run) =
      Run.write (text ++ text') >>= fun _ => run := by
  show Run.mk (text ++ (text' ++ run.written)) run.result = ⟨text ++ text' ++ run.written, _⟩
  rw [String.append_assoc]

/-- Sections that can be written are written below other lines, each after an empty line. -/
theorem write_bind_forM_append {sections : List Section}
    (hfits : ∀ s ∈ sections, (itemTable settings).fits s.items) (lines : List String)
    (others : List Section) :
    (Run.write (Text.unlines lines) >>= fun _ =>
        forM (sections ++ others) (writeBelow settings)) =
      Run.write (Text.unlines
          (lines ++ (sections.map (sectionLines settings)).flatMap ("" :: ·))) >>= fun _ =>
        forM others (writeBelow settings) := by
  induction sections generalizing lines with
  | nil => rw [List.map_nil, List.flatMap_nil, List.append_nil, List.nil_append]
  | cons s sections ih =>
    obtain ⟨hs, hfits⟩ := List.forall_mem_cons.mp hfits
    rw [List.cons_append, List.forM_cons, writeBelow_of_fits hs, Run.write_bind_write_bind,
      ← Text.unlines_append, ih hfits, List.map_cons, List.flatMap_cons, List.append_assoc]

theorem intercalate_cons (block : List String) (blocks : List (List String)) :
    [""].intercalate (block :: blocks) = block ++ blocks.flatMap ("" :: ·) := by
  induction blocks generalizing block with
  | nil => simp
  | cons next blocks ih =>
    rw [List.intercalate_cons_cons, ih, List.flatMap_cons, List.append_assoc]
    rfl

/-- Sections that can all be written, with an empty line between them. -/
theorem writeSections_of_fits {sections : List Section} (hne : sections ≠ [])
    (hfits : ∀ s ∈ sections, (itemTable settings).fits s.items) :
    writeSections settings sections .human =
      .write (Text.unlines ([""].intercalate (sections.map (sectionLines settings)))) := by
  obtain ⟨first, others, rfl⟩ := List.exists_cons_of_ne_nil hne
  obtain ⟨hfirst, hfits⟩ := List.forall_mem_cons.mp hfits
  have hothers := write_bind_forM_append hfits (sectionLines settings first) []
  rw [List.append_nil] at hothers
  rw [List.map_cons, intercalate_cons, writeSections, writeSection_of_fits hfirst]
  refine hothers.trans ?_
  show Run.mk (Text.unlines _ ++ "") (.ok ()) = _
  rw [String.append_empty]
  rfl

/-- Of sections that cannot all be written, those before the first that cannot be are, and then the
title of that one. -/
theorem writeSections_of_not_fits {before : List Section} {s : Section} (after : List Section)
    (hfits : ∀ t ∈ before, (itemTable settings).fits t.items)
    (hs : ¬ (itemTable settings).fits s.items) :
    writeSections settings (before ++ s :: after) .human =
      ⟨Text.unlines ([""].intercalate (before.map (sectionLines settings) ++ [[s.title]])),
        .error .tooWide⟩ := by
  cases before with
  | nil =>
    rw [List.nil_append, writeSections, writeSection_of_not_fits hs]
    rfl
  | cons first others =>
    obtain ⟨hfirst, hfits⟩ := List.forall_mem_cons.mp hfits
    have hothers := write_bind_forM_append hfits (sectionLines settings first) (s :: after)
    rw [List.map_cons, List.cons_append, List.cons_append, intercalate_cons, writeSections,
      writeSection_of_fits hfirst, List.flatMap_append, ← List.append_assoc]
    refine hothers.trans ?_
    rw [List.forM_cons, writeBelow, writeSection_of_not_fits hs]
    show Run.mk (Text.unlines _ ++ (Text.unlines [""] ++ Text.unlines [s.title]))
      (.error .tooWide) = _
    rw [← Text.unlines_append, ← Text.unlines_append]
    rfl

end Sections

/-- What is written of documents, of posts and of summaries has an aligned row for each of them, and
so has each section for its links, whatever characters the cells hold. Only a table with a cell
longer than 65535 bytes, in a column that takes its width from its cells, is not written. -/
theorem tables_aligned (settings : Settings) :
    (∀ documents : List Document, documents ≠ [] →
      Prints (fun d => [d.metadata.title, d.metadata.status.label, d.metadata.version, placeOf d,
          d.format.name]) (fun d => [d.metadata.title, d.metadata.version, placeOf d]) []
        documents (writeDocuments documents .human)) ∧
    (∀ posts : List Listing, posts ≠ [] →
      Prints (fun p => [formatDate p.header.date, p.slug,
          p.header.title ++ if p.header.published then "" else "  (unpublished)"])
        (fun p => [formatDate p.header.date, p.slug]) [] posts (writePosts posts .human)) ∧
    (∀ summaries : List Summary,
      Prints (fun s => [s.category, plural s.count "specification"]) (fun s => [s.category])
        ["", summaryClosing summaries] summaries (writeSummaries summaries .human)) ∧
    ∀ sections : List Section, sections ≠ [] → ∃ blocks : List (List String),
      List.Forall₂ (fun s block => ∃ rows, block = s.title :: rows ∧
        AlignedRows (fun item : Section.Item =>
          ["[" ++ item.status.label ++ "]", item.title, settings.link item.href]) s.items rows)
        sections blocks ∧
      ((∀ s ∈ sections, ∀ item ∈ s.items, item.title.utf8ByteSize ≤ 65535) →
        writeSections settings sections .human =
          .write (Text.unlines ([""].intercalate blocks))) ∧
      ∀ before s after, sections = before ++ s :: after →
        (∀ t ∈ before, ∀ item ∈ t.items, item.title.utf8ByteSize ≤ 65535) →
        (∃ item ∈ s.items, 65535 < item.title.utf8ByteSize) →
          writeSections settings sections .human =
            ⟨Text.unlines ([""].intercalate (blocks.take before.length ++ [[s.title]])),
              .error .tooWide⟩ := by
  refine ⟨fun documents hne => ?_, fun posts hne => ?_, fun summaries => ?_,
    fun sections hne => ⟨sections.map (sectionLines settings), ?_, fun hsize => ?_, ?_⟩⟩
  · rw [writeDocuments, if_neg (by simpa using hne)]
    exact Table.prints hasRoom_documentTable documents
  · rw [writePosts, if_neg (by simpa using hne)]
    have hcells : postTable.cells = fun p => [formatDate p.header.date, p.slug,
        p.header.title ++ if p.header.published then "" else "  (unpublished)"] := by
      funext p
      simp only [Table.cells, postTable, List.map_cons, List.map_nil, List.cons_append,
        List.nil_append]
    have hmeasured : postTable.measured = fun p => [formatDate p.header.date, p.slug] := by
      funext p
      simp [Table.measured, postTable]
    rw [← hcells, ← hmeasured]
    exact Table.prints hasRoom_postTable posts
  · exact (Table.prints hasRoom_summaryTable summaries).andWrite _
  · rw [List.forall₂_map_right_iff, List.forall₂_same]
    intro s _
    exact ⟨_, rfl, Table.alignedRows (hasRoom_itemTable settings) s.items⟩
  · exact writeSections_of_fits hne fun s hs => fits_itemTable_iff.mpr (hsize s hs)
  · rintro before s after rfl hbefore ⟨item, hitem, hwide⟩
    have hs : ¬ (itemTable settings).fits s.items := fun hfits =>
      absurd hwide (Nat.not_lt.mpr (fits_itemTable_iff.mp hfits item hitem))
    rw [writeSections_of_not_fits after (fun t ht => fits_itemTable_iff.mpr (hbefore t ht)) hs,
      List.map_append, List.take_left' (List.length_map _)]

/-- A document with a title of two bytes to the first character. -/
def umlautDocument : Document where
  slug := "audit"
  filename := "audit.md"
  category := "identity"
  subcategory := some "eu"
  format := .markdown
  metadata := ⟨"Übersicht", .standard, "2.0", "", none⟩

/-- A document with a title of three bytes to a character. -/
def kanjiDocument : Document where
  slug := "did"
  filename := "did.json"
  category := "identity"
  subcategory := none
  format := .json
  metadata := ⟨"身元", .draft, "1.0.0", "", none⟩

example : documentTable.rows [umlautDocument, kanjiDocument] =
    ["Übersicht   Standard  2.0    eu/audit  markdown",
      "身元          Draft     1.0.0  did       json"] := by decide +kernel

theorem tables_aligned_mixed :
    (∃ rows, AlignedRows (fun d : Document => [d.metadata.title, d.metadata.status.label,
        d.metadata.version, placeOf d, d.format.name]) [umlautDocument, kanjiDocument] rows ∧
      writeDocuments [umlautDocument, kanjiDocument] .human = .write (Text.unlines rows)) ∧
    writeDocuments [umlautDocument, wideDocument 65536] .human = .fail .tooWide := by
  obtain ⟨hdocuments, -⟩ := tables_aligned sealedSettings
  constructor
  · obtain ⟨rows, haligned, hrun⟩ := (hdocuments [umlautDocument, kanjiDocument] (by simp)).rows
      (by decide +kernel)
    rw [List.append_nil] at hrun
    exact ⟨rows, haligned, hrun⟩
  · refine (hdocuments [umlautDocument, wideDocument 65536] (by simp)).tooWide
      ⟨wideDocument 65536, by simp, (wideDocument 65536).metadata.title, by simp, ?_⟩
    rw [size_title_wideDocument (by decide)]
    decide

end Folio.Console
