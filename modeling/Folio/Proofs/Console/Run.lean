import Folio.Console.BlogAnswer
import Folio.Console.CatalogAnswer

/-!
# What runs write

A run begins with steps that write nothing. A table is written in full or, if a column is too wide,
not at all, since already its first row cannot be written.

Results:

* `Run.answer_attempt_bind`: the answer of a run that begins with such a step.
* `Table.fits_iff`: which tables can be written.
* `Table.write_of_fits`, `Table.write_of_not_fits`: what comes of writing a table.
* `result_writeSections`, `written_writeSections_ne_empty`: what comes of writing sections one after
  another, and that some of it is written in any case.
-/

namespace Folio

theorem Text.unlines_append (lines lines' : List String) :
    Text.unlines (lines ++ lines') = Text.unlines lines ++ Text.unlines lines' := by
  rw [Text.unlines, List.map_append, String.join_append]
  rfl

namespace Console

/-! ## Steps -/

namespace Run

variable {α : Type}

theorem lift_eq (x : Except Failure α) : (liftM x : Run α) = attempt x := rfl

theorem attempt_ok_bind (a : α) (next : α → Run Unit) : (attempt (.ok a) >>= next) = next a := by
  show Run.mk ("" ++ (next a).written) (next a).result = next a
  rw [String.empty_append]

theorem write_bind_write (text text' : String) :
    (write text >>= fun _ => write text') = write (text ++ text') := rfl

theorem answer_write (text : String) : (write text).answer = .ok text := rfl

theorem answer_attempt_bind (x : Except Failure α) (next : α → Run Unit) :
    (attempt x >>= next).answer = x >>= fun a => (next a).answer := by
  cases x with
  | error failure => rfl
  | ok a => rw [attempt_ok_bind]; rfl

theorem result_bind (run : Run α) (next : α → Run Unit) :
    (run >>= next).result = run.result >>= fun a => (next a).result := by
  show (Run.bind run next).result = _
  rw [Run.bind]
  cases run.result with
  | error failure => rfl
  | ok a => rfl

theorem exists_written_bind (run : Run α) (next : α → Run Unit) :
    ∃ text, (run >>= next).written = run.written ++ text := by
  show ∃ text, (Run.bind run next).written = _
  rw [Run.bind]
  cases run.result with
  | error failure => exact ⟨"", String.append_empty.symm⟩
  | ok a => exact ⟨_, rfl⟩

/-- Runs one after another, each of which succeeds or fails alike, fail iff one of them does. -/
theorem result_forM (succeeds : α → Bool) (step : α → Run Unit) (failure : Failure)
    (hstep : ∀ x, (step x).result = if succeeds x then .ok () else .error failure) (xs : List α) :
    (forM xs step).result = if xs.all succeeds then .ok () else .error failure := by
  induction xs with
  | nil => rfl
  | cons x xs ih =>
    rw [List.forM_cons, result_bind, hstep, ih, List.all_cons]
    by_cases hx : succeeds x
    · rw [if_pos hx, hx, Bool.true_and]
      rfl
    · rw [if_neg hx, eq_false_of_ne_true hx, Bool.false_and]
      rfl

theorem forM_write (rows : List String) :
    (forM rows fun row => write (Text.unlines [row])) = write (Text.unlines rows) := by
  induction rows with
  | nil => rfl
  | cons row rows ih =>
    rw [List.forM_cons, ih, write_bind_write, ← Text.unlines_append, List.singleton_append]

end Run

/-! ## Tables -/

theorem longest_le_iff {texts : List String} {limit : Nat} :
    longest texts ≤ limit ↔ ∀ text ∈ texts, text.utf8ByteSize ≤ limit := by
  have hfoldl (sizes : List Nat) (least : Nat) :
      sizes.foldl max least ≤ limit ↔ least ≤ limit ∧ ∀ size ∈ sizes, size ≤ limit := by
    induction sizes generalizing least with
    | nil => simp
    | cons size sizes ih =>
      rw [List.foldl_cons, ih, Nat.max_le, List.forall_mem_cons, and_assoc]
  rw [longest, hfoldl, List.forall_mem_map]
  simp

section Table

variable {α : Type} (table : Table α) {items : List α}

theorem Table.fits_iff : table.fits items ↔ ∀ column ∈ table.columns, column.width = .longest →
    ∀ item ∈ items, (column.cell item).utf8ByteSize ≤ widthLimit := by
  rw [Table.fits, List.all_eq_true]
  refine forall₂_congr fun column _ => ?_
  rw [Column.fits]
  split
  · next hwidth => simp [hwidth]
  · next hwidth =>
    rw [Column.widthFor, hwidth, decide_eq_true_eq, longest_le_iff, List.forall_mem_map]
    simp

theorem Table.fits_nil : table.fits [] :=
  (table.fits_iff).mpr fun _ _ _ _ h => absurd h List.not_mem_nil

theorem Table.write_of_fits (h : table.fits items) :
    table.write items = .write (Text.unlines (table.rows items)) := by
  simp only [Table.write, h, if_true]
  exact Run.forM_write (table.rows items)

/-- No row of a table that is too wide is written: its first one already fails. -/
theorem Table.write_of_not_fits (h : ¬ table.fits items) : table.write items = .fail .tooWide := by
  cases items with
  | nil => exact absurd table.fits_nil h
  | cons item items =>
    rw [Table.write, Table.rows, List.map_cons, List.forM_cons, if_neg h]
    rfl

end Table

/-! ## Sections -/

section Sections

variable (settings : Settings)

theorem result_writeSection (s : Section) : (writeSection settings s).result =
    if (itemTable settings).fits s.items then .ok () else .error .tooWide := by
  rw [writeSection]
  split
  · next h => rw [Table.write_of_fits _ h]; rfl
  · next h => rw [Table.write_of_not_fits _ h]; rfl

theorem result_writeSections (sections : List Section) :
    (writeSections settings sections .human).result =
      if sections.all fun s => (itemTable settings).fits s.items then .ok ()
      else .error .tooWide := by
  cases sections with
  | nil => rfl
  | cons first others =>
    have hothers := Run.result_forM (fun s : Section => (itemTable settings).fits s.items)
      (fun s => (do Run.write (Text.unlines [""]); writeSection settings s)) .tooWide
      (fun s => result_writeSection settings s) others
    rw [writeSections, Run.result_bind, result_writeSection, List.all_cons]
    by_cases h : (itemTable settings).fits first.items
    · rw [if_pos h, h, Bool.true_and, ← hothers]
      rfl
    · rw [if_neg h, eq_false_of_ne_true h, Bool.false_and]
      rfl

/-- The title of the first section is written before anything can fail. -/
theorem written_writeSections_ne_empty {sections : List Section} (hne : sections ≠ []) :
    (writeSections settings sections .human).written ≠ "" := by
  cases sections with
  | nil => exact absurd rfl hne
  | cons first others =>
    rw [writeSections, writeSection]
    obtain ⟨links, hlinks⟩ := Run.exists_written_bind
      (Run.write (Text.unlines [first.title])) fun _ => (itemTable settings).write first.items
    obtain ⟨rest, hrest⟩ := Run.exists_written_bind
      (do Run.write (Text.unlines [first.title]); (itemTable settings).write first.items)
      fun _ => forM others fun s => do Run.write (Text.unlines [""]); writeSection settings s
    rw [hrest, hlinks]
    simp [Run.write, Text.unlines, String.join_cons]

end Sections

end Console

end Folio
