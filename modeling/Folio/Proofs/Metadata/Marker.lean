import Folio.Metadata.Markdown
import Folio.Proofs.Text.Case
import Folio.Proofs.Text.Lines
import Folio.Proofs.Text.Pattern
import Folio.Proofs.Text.Trim

/-!
# Markers of prose documents

The pattern of a marker tries a mark wherever one may begin, lets white space take what it can and
give it back, and leaves an attempt that captures nothing for a later mark on the line. None of this
shows in the value, though: all marks of a key are of one length, so that what comes after a later
one is an end of what comes after the first, and is blank if that is.

Results:

* `isMark_iff`: the characters of a mark, of which only those of the key can differ in case.
* `bind_captureFrom?_eq_some_iff`: the search for the pattern gives what follows the first mark.
* `marker?_isMarkerValue`: markers and fields by the lines of a document.
-/

namespace Folio.Markdown

open Text (Part Pattern Place firstMatch? trimmed?)
open Unicode (fold isSpace)

/-! ## Values by lines -/

/-- A key in bold, up to case. -/
def IsMark (key mark : List Char) : Prop :=
  ∃ name, mark = "**".toList ++ name ++ ":**".toList ∧ name.map fold = key.map fold

/-- A key in bold stands on a line, with `before` before it and `rest` after it. -/
def Occurs (key line before rest : List Char) : Prop :=
  ∃ mark, IsMark key mark ∧ line = before ++ mark ++ rest

/-- What comes after the first key in bold on a line. -/
def Follows (key line rest : List Char) : Prop :=
  ∃ before, Occurs key line before rest ∧
    ∀ before' rest', Occurs key line before' rest' → before.length ≤ before'.length

/-- The value of a key on a line: what comes after the first mark, without the white space around
it. -/
def HasValue (key line value : List Char) : Prop :=
  ∃ rest, Follows key line rest ∧ value = Text.trim rest ∧ value ≠ []

/-- The value of a key in a document: that on the first of the first twenty lines that has one. -/
def IsMarkerValue (content key value : String) : Prop :=
  ∃ before line after, (content.toList.splitOn '\n').take 20 = before ++ line :: after ∧
    HasValue key.toList line value.toList ∧
    ∀ other ∈ before, ∀ text, ¬ HasValue key.toList other text

/-! ## Occurrences -/

section Occurrence

variable {key line mark rest : List Char}

theorem isMark_iff : IsMark key mark ↔ mark.map fold = (markOf key).map fold := by
  rw [markOf, List.map_append, List.map_append]
  constructor
  · rintro ⟨name, rfl, hname⟩
    rw [List.map_append, List.map_append, hname]
  · intro h
    obtain ⟨start, close, rfl, hstart, hclose⟩ := List.map_eq_append_iff.mp h
    obtain ⟨opening, name, rfl, hopening, hname⟩ := List.map_eq_append_iff.mp hstart
    have hstars : opening = "**".toList :=
      Unicode.eq_of_map_fold_eq (hopening.trans (by decide)) (by simp)
    have hcolon : close = ":**".toList :=
      Unicode.eq_of_map_fold_eq (hclose.trans (by decide)) (by simp)
    exact ⟨name, by rw [hstars, hcolon], hname⟩

theorem IsMark.length_eq (h : IsMark key mark) : mark.length = (markOf key).length := by
  simpa using congrArg List.length (isMark_iff.mp h)

theorem IsMark.ne_nil (h : IsMark key mark) : mark ≠ [] := by
  obtain ⟨name, rfl, -⟩ := h
  simp

theorem not_occurs_nil (before : List Char) : ¬ Occurs key [] before rest := by
  rintro ⟨mark, hmark, hline⟩
  obtain ⟨hbefore, -⟩ := List.append_eq_nil_iff.mp hline.symm
  exact hmark.ne_nil (List.append_eq_nil_iff.mp hbefore).2

/-- All marks of a key are of one length, so that an earlier one leaves more of the line. -/
theorem Occurs.suffix {before before' rest' : List Char} (h : Occurs key line before rest)
    (h' : Occurs key line before' rest') (hle : before.length ≤ before'.length) :
    rest' <:+ rest := by
  obtain ⟨mark, hmark, rfl⟩ := h
  obtain ⟨mark', hmark', hline⟩ := h'
  have hlength := congrArg List.length hline
  simp only [List.length_append, hmark.length_eq, hmark'.length_eq] at hlength
  have hrest' : rest' <:+ before ++ mark ++ rest := by
    rw [hline]
    exact List.suffix_append _ _
  exact List.suffix_of_suffix_length_le hrest' (List.suffix_append _ _) (by omega)

theorem follows_of_occurs_nil (h : Occurs key line [] rest) {rest' : List Char} :
    Follows key line rest' ↔ rest' = rest := by
  constructor
  · rintro ⟨before, hbefore, hfirst⟩
    have hzero : before.length ≤ 0 := hfirst [] rest h
    exact (h.suffix hbefore (Nat.zero_le _)).eq_of_length_le
      (hbefore.suffix h hzero).length_le
  · rintro rfl
    exact ⟨[], h, fun _ _ _ => Nat.zero_le _⟩

theorem occurs_cons_cons_iff {c d : Char} {before : List Char} :
    Occurs key (c :: line) (d :: before) rest ↔ d = c ∧ Occurs key line before rest := by
  constructor
  · rintro ⟨mark, hmark, hline⟩
    obtain ⟨rfl, hrest⟩ := List.cons.inj hline
    exact ⟨rfl, mark, hmark, hrest⟩
  · rintro ⟨rfl, mark, hmark, rfl⟩
    exact ⟨mark, hmark, rfl⟩

theorem follows_cons_iff {c : Char} (h : ∀ rest, ¬ Occurs key (c :: line) [] rest) :
    Follows key (c :: line) rest ↔ Follows key line rest := by
  constructor
  · rintro ⟨before, hbefore, hfirst⟩
    cases before with
    | nil => exact absurd hbefore (h rest)
    | cons d before =>
      refine ⟨before, (occurs_cons_cons_iff.mp hbefore).2, fun before' rest' hother => ?_⟩
      have hle := hfirst (c :: before') rest' (occurs_cons_cons_iff.mpr ⟨rfl, hother⟩)
      simpa using hle
  · rintro ⟨before, hbefore, hfirst⟩
    refine ⟨c :: before, occurs_cons_cons_iff.mpr ⟨rfl, hbefore⟩, fun before' rest' hother => ?_⟩
    cases before' with
    | nil => exact absurd hother (h rest')
    | cons d before' =>
      have hle := hfirst before' rest' (occurs_cons_cons_iff.mp hother).2
      simpa using hle

end Occurrence

/-! ## Matches of the marker pattern -/

section Match

variable {key line before rest : List Char}

/-- The parts of a pattern that stand for a key, up to case. -/
def foldedParts (key : List Char) : List Part := key.map fun k => .one fun c => fold k == fold c

theorem firstMatch?_folded {α : Type} {parts : List Part} {result : Place → Option α}
    {found : List Char} (h : found.map fold = key.map fold) :
    firstMatch? (foldedParts key ++ parts) result ⟨before, found ++ rest⟩ =
      firstMatch? parts result ⟨found.reverse ++ before, rest⟩ := by
  induction key generalizing found before with
  | nil =>
    obtain rfl := List.map_eq_nil_iff.mp h
    rfl
  | cons k key ih =>
    obtain ⟨c, found, rfl, hc, hfound⟩ := List.map_eq_cons_iff.mp h
    have hk : (fold k == fold c) = true := by rw [hc, beq_self_eq_true]
    rw [foldedParts, List.map_cons, List.cons_append, List.cons_append, Text.firstMatch?_one_cons,
      if_pos hk, List.reverse_cons, List.append_assoc]
    exact ih hfound

theorem exists_of_firstMatch?_folded {α : Type} {parts : List Part} {result : Place → Option α}
    {a : α} (h : firstMatch? (foldedParts key ++ parts) result ⟨before, rest⟩ = some a) :
    ∃ found after, rest = found ++ after ∧ found.map fold = key.map fold ∧
      firstMatch? parts result ⟨found.reverse ++ before, after⟩ = some a := by
  induction key generalizing before rest with
  | nil => exact ⟨[], rest, rfl, rfl, h⟩
  | cons k key ih =>
    rw [foldedParts, List.map_cons, List.cons_append] at h
    cases rest with
    | nil => cases h
    | cons c rest =>
      rw [Text.firstMatch?_one_cons] at h
      split at h
      · next hk =>
        obtain ⟨found, after, rfl, hfound, ha⟩ := ih h
        refine ⟨c :: found, after, rfl, ?_, ?_⟩
        · rw [List.map_cons, List.map_cons, hfound, beq_iff_eq.mp hk]
        · rwa [List.reverse_cons, List.append_assoc]
      · cases h

theorem captureAt?_marker (after : List Char) : (markerPattern key).captureAt? ⟨before, after⟩ =
    firstMatch? (foldedParts (markOf key) ++ [.many isSpace])
      (fun start => firstMatch? (Part.run isInLine)
        (fun stop => firstMatch? [] (fun _ => some (start.textTo stop)) stop) start)
      ⟨before, after⟩ :=
  rfl

/-- What is captured stands after a mark. -/
theorem exists_of_captureAt?_marker {text : List Char}
    (h : (markerPattern key).captureAt? ⟨before, line⟩ = some text) :
    ∃ rest, Occurs key line [] rest ∧ text ⊆ rest := by
  rw [captureAt?_marker] at h
  obtain ⟨mark, rest, rfl, hmark, hrest⟩ := exists_of_firstMatch?_folded h
  exact ⟨rest, ⟨mark, isMark_iff.mpr hmark, rfl⟩, Text.subset_of_firstMatch? hrest⟩

theorem captureAt?_of_occurs (hline : '\n' ∉ line) (h : Occurs key line [] rest)
    (hrest : rest.dropWhile isSpace ≠ []) :
    (markerPattern key).captureAt? ⟨before, line⟩ = some (rest.dropWhile isSpace) := by
  obtain ⟨mark, hmark, rfl⟩ := h
  have hinline : ∀ c ∈ rest.dropWhile isSpace, isInLine c := isInLine_of_notMem fun hmem =>
    hline (List.mem_append_right _ ((List.dropWhile_sublist isSpace).mem hmem))
  rw [captureAt?_marker, List.nil_append, firstMatch?_folded (isMark_iff.mp hmark)]
  apply Text.firstMatch?_many
  rw [firstMatch?, Text.firstMatch?_run fun _ => rfl, List.takeWhile_eq_self_iff.mpr hinline,
    if_neg hrest]

/-- Where a mark comes first, what is left of the line decides. -/
theorem bind_captureFrom?_of_occurs (hline : '\n' ∉ line) (h : Occurs key line [] rest) :
    ((markerPattern key).captureFrom? before line).bind trimmed? = trimmed? rest := by
  by_cases hrest : rest.dropWhile isSpace = []
  · -- Nothing but white space is left, also after a later mark.
    have hspace : ∀ c ∈ rest, isSpace c := List.dropWhile_eq_nil_iff.mp hrest
    rw [Text.trimmed?_eq_none_iff.mpr hspace]
    apply Text.bind_trimmed?_eq_none hspace
    intro text htext
    obtain ⟨taken, after, rfl, hat⟩ := Pattern.exists_of_captureFrom? htext
    obtain ⟨rest', hlater, hsubset⟩ := exists_of_captureAt?_marker hat
    have hoccurs : Occurs key (taken ++ after) taken rest' := by
      obtain ⟨mark, hmark, rfl⟩ := hlater
      exact ⟨mark, hmark, by simp⟩
    have hsuffix : rest' <:+ rest := h.suffix hoccurs (Nat.zero_le _)
    exact List.Subset.trans hsubset hsuffix.subset
  · rw [Pattern.captureFrom?_of_some (captureAt?_of_occurs hline h hrest), Option.bind_some,
      Text.trimmed?_dropWhile]

theorem bind_captureFrom?_eq_some_iff {value : List Char} (hline : '\n' ∉ line) :
    ((markerPattern key).captureFrom? before line).bind trimmed? = some value ↔
      ∃ rest, Follows key line rest ∧ trimmed? rest = some value := by
  have hnone {before line : List Char} (h : ∀ rest, ¬ Occurs key line [] rest) :
      (markerPattern key).captureAt? ⟨before, line⟩ = none := by
    rw [Option.eq_none_iff_forall_ne_some]
    intro text htext
    obtain ⟨rest, hrest, -⟩ := exists_of_captureAt?_marker htext
    exact h rest hrest
  induction line generalizing before with
  | nil =>
    have hempty : ∀ rest, ¬ Occurs key [] [] rest := fun rest => not_occurs_nil []
    rw [Pattern.captureFrom?, hnone hempty]
    simp [Follows, not_occurs_nil]
  | cons c line ih =>
    by_cases h : ∃ rest, Occurs key (c :: line) [] rest
    · obtain ⟨rest, hrest⟩ := h
      rw [bind_captureFrom?_of_occurs hline hrest]
      simp [follows_of_occurs_nil hrest]
    · push Not at h
      have hline' : '\n' ∉ line := fun hmem => hline (.tail c hmem)
      rw [Pattern.captureFrom?_cons_of_none (hnone h)]
      simp only [follows_cons_iff h]
      exact ih hline'

end Match

/-! ## Values and fields -/

theorem lineValue?_eq_some_iff {key line value : List Char} (hline : '\n' ∉ line) :
    lineValue? key line = some value ↔ HasValue key line value := by
  rw [lineValue?, Pattern.capture?, bind_captureFrom?_eq_some_iff hline]
  simp only [Text.trimmed?_eq_some_iff, HasValue]

theorem lineValue?_eq_none_iff {key line : List Char} (hline : '\n' ∉ line) :
    lineValue? key line = none ↔ ∀ value, ¬ HasValue key line value := by
  simp only [Option.eq_none_iff_forall_ne_some, ne_eq, lineValue?_eq_some_iff hline]

theorem marker?_eq_some_iff {content key value : String} :
    marker? content key = some value ↔ IsMarkerValue content key value := by
  have hlines : ∀ line ∈ windowLines content, '\n' ∉ line := fun line hline =>
    Text.notMem_of_mem_splitOn (List.mem_of_mem_take hline)
  have hvalue (text : List Char) : String.ofList text = value ↔ text = value.toList := by
    rw [← String.toList_inj, String.toList_ofList]
  simp only [marker?, Option.map_eq_some_iff, hvalue, exists_eq_right, List.findSome?_eq_some_iff]
  refine exists_congr fun before => exists_congr fun line => exists_congr fun after =>
    and_congr_right fun hwindow => ?_
  rw [hwindow] at hlines
  have hline : '\n' ∉ line := hlines line (by simp)
  have hbefore : ∀ other ∈ before, '\n' ∉ other :=
    fun other hother => hlines other (by simp [hother])
  exact and_congr (lineValue?_eq_some_iff hline)
    (forall₂_congr fun other hother => lineValue?_eq_none_iff (hbefore other hother))

theorem marker?_eq_none_iff {content key : String} :
    marker? content key = none ↔ ∀ value, ¬ IsMarkerValue content key value := by
  simp only [Option.eq_none_iff_forall_ne_some, ne_eq, marker?_eq_some_iff]

/-- A field reads a marker by `read`, or takes a default if the marker has no value. -/
def IsField {α : Type} (content key : String) (read : String → α) (default field : α) : Prop :=
  (∃ value, IsMarkerValue content key value ∧ field = read value) ∨
    (∀ value, ¬ IsMarkerValue content key value) ∧ field = default

theorem isField_getD {α : Type} (content key : String) (read : String → α) (default : α) :
    IsField content key read default (((marker? content key).map read).getD default) := by
  cases h : marker? content key with
  | none => exact .inr ⟨marker?_eq_none_iff.mp h, rfl⟩
  | some value => exact .inl ⟨value, marker?_eq_some_iff.mp h, rfl⟩

theorem marker?_congr {content other : String} (h : windowLines other = windowLines content) :
    marker? other = marker? content := by
  funext key
  rw [marker?, h, marker?]

/-- Markers read as they are defined: a value is the rest of a line behind the first mark on it, on
the first of twenty lines that has one. The fields take such values or their defaults, the
identifier by the first key that has one, and nothing after those lines counts. -/
theorem marker?_isMarkerValue (content : String) :
    (∀ key value, marker? content key = some value ↔ IsMarkerValue content key value) ∧
    IsField content "Status" Status.normalize .draft (metadata content).status ∧
    IsField content "Version" id "1.0.0" (metadata content).version ∧
    IsField content "Last Updated" id "" (metadata content).lastUpdated ∧
    (∀ value, (metadata content).identifier = some value ↔
      ∃ before key after,
        ["Specification Series", "Specification ID", "Specification", "Requirement"] =
          before ++ key :: after ∧
        IsMarkerValue content key value ∧
        ∀ other ∈ before, ∀ text, ¬ IsMarkerValue content other text) ∧
    ∀ other : String,
      (other.toList.splitOn '\n').take 20 = (content.toList.splitOn '\n').take 20 →
        (metadata other).status = (metadata content).status ∧
        (metadata other).version = (metadata content).version ∧
        (metadata other).lastUpdated = (metadata content).lastUpdated ∧
        (metadata other).identifier = (metadata content).identifier := by
  have hid (key default : String) :
      IsField content key id default ((marker? content key).getD default) := by
    simpa using isField_getD content key id default
  refine ⟨fun key value => marker?_eq_some_iff, isField_getD .., hid .., hid .., fun value => ?_,
    fun other h => ?_⟩
  · rw [metadata, identifierKeys, List.findSome?_eq_some_iff]
    simp only [marker?_eq_some_iff, marker?_eq_none_iff]
  · rw [metadata, metadata, marker?_congr h]
    exact ⟨rfl, rfl, rfl, rfl⟩

/-- Twenty empty lines and a text after them. -/
def belowWindow (text : String) : String := .ofList (List.replicate 20 '\n' ++ text.toList)

theorem marker?_isMarkerValue_belowWindow :
    ((belowWindow "**Version:** 2").toList.splitOn '\n').take 20 =
        ((belowWindow "").toList.splitOn '\n').take 20 ∧
      (metadata (belowWindow "**Version:** 2")).version = "1.0.0" := by
  have hwindow : ((belowWindow "**Version:** 2").toList.splitOn '\n').take 20 =
      ((belowWindow "").toList.splitOn '\n').take 20 := by decide +kernel
  obtain ⟨-, -, -, -, -, hcongr⟩ := marker?_isMarkerValue (belowWindow "")
  obtain ⟨-, hversion, -, -⟩ := hcongr (belowWindow "**Version:** 2") hwindow
  have hdefault : (metadata (belowWindow "")).version = "1.0.0" := by decide +kernel
  exact ⟨hwindow, hversion.trans hdefault⟩

end Folio.Markdown
