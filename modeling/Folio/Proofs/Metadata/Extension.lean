import Folio.Metadata.Extraction
import Folio.Proofs.Document.FileName
import Folio.Proofs.FileSystem.Tree
import Folio.Proofs.Title.Words

/-!
# Names that are read alike

The extension of a name is read at four places: a file is listed by it, the slug of a document is
cut before it, its metadata are read according to it, and it is dropped from the title. All four cut
a name that has a format at the same dot. They part only over a name that is a dot and the extension
of a document: such a file is not listed, but its metadata would be read.

Main definition:

* `Extraction.readAs`: the metadata of a file in a given format.

Main result:

* `nameReaders_agree`: what the four make of every name.
-/

namespace Folio

namespace Format

/-- The name of an entry is the file name of its path. -/
theorem ofPath?_of_isPlainName {name : String} (h : IsPlainName name) :
    ofPath? name = ofName? name := by
  have hparts : Path.parts name = [name] := by
    unfold Path.parts
    rw [List.splitOn_eq_singleton h.no_separator]
    simp [h.ne_empty, h.ne_here]
  have hname : Path.fileName? name = some name := by
    unfold Path.fileName?
    simp [hparts, h.ne_above]
  unfold ofPath?
  rw [hname, Option.bind_some]

theorem dot_notMem_of_ofExtension? {ext : String} {format : Format}
    (h : ofExtension? ext = some format) : '.' ∉ ext.toList := by
  intro hdot
  rw [ofExtension?_eq_some_iff] at h
  have hlower : '.' ∈ ext.toList.map Char.toLower := List.mem_map_of_mem (f := Char.toLower) hdot
  rw [h] at hlower
  exact dot_notMem_ext format hlower

theorem ofLastDot?_append (stem : String) {ext : String} (h : '.' ∉ ext.toList) :
    ofLastDot? (stem ++ "." ++ ext) = ofExtension? ext := by
  have hcut := Text.cutLast_append stem.toList h
  unfold ofLastDot?
  simp [hcut]

theorem exists_of_ofLastDot? {name : String} {format : Format}
    (h : ofLastDot? name = some format) :
    ∃ stem ext, name = stem ++ "." ++ ext ∧ ofExtension? ext = some format := by
  unfold ofLastDot? at h
  cases hcut : Text.cutLast '.' name.toList with
  | none => simp [hcut] at h
  | some parts =>
    obtain ⟨stem, ext⟩ := parts
    simp only [hcut] at h
    refine ⟨.ofList stem, .ofList ext, ?_, h⟩
    rw [eq_append_dot_iff, String.toList_ofList, String.toList_ofList]
    exact (Text.eq_of_cutLast_eq_some hcut).1

/-- A name that has no format, but an extension of one behind its last dot, is a dot and the
extension. -/
theorem isParted_iff {name : String} :
    (ofName? name = none ∧ ∃ format, ofLastDot? name = some format) ↔
      ∃ ext, name = "." ++ ext ∧ (ofExtension? ext).isSome := by
  constructor
  · rintro ⟨hnone, format, hlast⟩
    obtain ⟨stem, ext, rfl, hext⟩ := exists_of_ofLastDot? hlast
    by_cases hstem : stem = ""
    · exact ⟨ext, by rw [hstem]; rfl, by rw [hext]; rfl⟩
    · rw [ofName?_append hstem (dot_notMem_of_ofExtension? hext), hext] at hnone
      cases hnone
  · rintro ⟨ext, rfl, hsome⟩
    obtain ⟨format, hext⟩ := Option.isSome_iff_exists.mp hsome
    have hdot := dot_notMem_of_ofExtension? hext
    have hdotted : "." ++ ext = "" ++ "." ++ ext := rfl
    refine ⟨?_, format, ?_⟩
    · rw [Option.eq_none_iff_forall_ne_some]
      intro format' hformat'
      obtain ⟨stem, ext', heq, hstem, hdot', -⟩ := ofName?_eq_some_iff.mp hformat'
      -- What stands before the last dot is empty.
      have hslug := congrArg slugOf heq
      rw [hdotted, slugOf_append hdot, slugOf_append hdot'] at hslug
      exact hstem hslug.symm
    · rw [hdotted, ofLastDot?_append "" hdot, hext]

end Format

/-! ## Metadata -/

namespace Extraction

/-- The metadata of a file that is read in a given format. -/
def readAs (format : Format) (content filename : String) : Extraction :=
  match format with
  | .markdown => parsed (Markdown.metadata content)
  | .json | .jsonld => ofSchema content filename

theorem ofFile_of_format {name : String} {format : Format}
    (h : Format.ofLastDot? name = some format) (content : String) :
    ofFile content name = readAs format content name := by
  unfold ofFile
  rw [h]
  cases format <;> rfl

theorem ofFile_of_none {name : String} (h : Format.ofLastDot? name = none) (content : String) :
    ofFile content name = fallback (.ofFilename name) := by
  unfold ofFile
  rw [h]

/-- In every format there are files whose metadata are read from their text. -/
theorem exists_readAs_eq_parsed (format : Format) (name : String) :
    ∃ content m, readAs format content name = parsed m := by
  have hobject : Json.parse? "{}".toList = some (.object []) := rfl
  cases format with
  | markdown => exact ⟨"", _, rfl⟩
  | json | jsonld =>
    refine ⟨"{}", Schema.ofJson (.object []) name, ?_⟩
    unfold readAs ofSchema Schema.metadata?
    rw [hobject]
    rfl

/-- A file is read in a format just if its extension is one of that format. -/
theorem ofFile_eq_readAs_iff {name : String} :
    (∃ format, ∀ content, ofFile content name = readAs format content name) ↔
      ∃ format, Format.ofLastDot? name = some format := by
  constructor
  · rintro ⟨format, hread⟩
    cases hdot : Format.ofLastDot? name with
    | some format' => exact ⟨format', rfl⟩
    | none =>
      obtain ⟨content, m, hparsed⟩ := exists_readAs_eq_parsed format name
      have hfile := hread content
      rw [ofFile_of_none hdot, hparsed] at hfile
      cases hfile
  · rintro ⟨format, hdot⟩
    exact ⟨format, ofFile_of_format hdot⟩

end Extraction

/-! ## All readers -/

/-- A name that has a format is cut at one dot, before which there is something: what stands before
it is the slug and the stem of the title, and what follows it tells the format in which the metadata
are read. A name without a format whose metadata would be read in one is a dot and an extension. -/
theorem nameReaders_agree {name : String} (hname : IsPlainName name) :
    (∀ format, Format.ofPath? name = some format → ∃ stem ext,
      name = stem ++ "." ++ ext ∧ stem ≠ "" ∧ Format.ofExtension? ext = some format ∧
      (∀ category subcategory metadata,
        (Document.ofFile category subcategory name format metadata).slug = stem) ∧
      (∀ content, Extraction.ofFile content name = Extraction.readAs format content name) ∧
      Title.stem name.toList = stem.toList) ∧
    ((Format.ofPath? name = none ∧
        ∃ format, ∀ content, Extraction.ofFile content name = Extraction.readAs format content name) ↔
      ∃ ext, name = "." ++ ext ∧ (Format.ofExtension? ext).isSome) := by
  rw [Format.ofPath?_of_isPlainName hname, Extraction.ofFile_eq_readAs_iff]
  refine ⟨fun format hformat => ?_, Format.isParted_iff⟩
  obtain ⟨stem, ext, rfl, hstem, hdot, hlower⟩ := Format.ofName?_eq_some_iff.mp hformat
  have hext : Format.ofExtension? ext = some format := Format.ofExtension?_eq_some_iff.mpr hlower
  have hlast := (Format.ofLastDot?_append stem hdot).trans hext
  have hdocument : Title.IsDocumentExtension ext.toList := by
    rw [← Title.isSome_ofExtension?_iff, String.ofList_toList, hext]
    rfl
  refine ⟨stem, ext, rfl, hstem, hext, fun _ _ _ => slugOf_append hdot,
    Extraction.ofFile_of_format hlast, ?_⟩
  rw [eq_append_dot_iff.mp rfl, Title.stem_append stem.toList hdocument]

theorem nameReaders_agree_didJsonld :
    IsPlainName "did.v1.JSONLD" ∧ Format.ofPath? "did.v1.JSONLD" = some .jsonld ∧
      (∃ stem ext, "did.v1.JSONLD" = stem ++ "." ++ ext ∧ stem ≠ "" ∧
        Format.ofExtension? ext = some .jsonld ∧
        (Document.ofFile "" "" "did.v1.JSONLD" .jsonld default).slug = stem ∧
        (∀ content, Extraction.ofFile content "did.v1.JSONLD" =
          Extraction.readAs .jsonld content "did.v1.JSONLD") ∧
        Title.stem "did.v1.JSONLD".toList = stem.toList) ∧
      IsPlainName ".md" ∧ Format.ofPath? ".md" = none ∧
      ∃ format, ∀ content,
        Extraction.ofFile content ".md" = Extraction.readAs format content ".md" := by
  have hname : IsPlainName "did.v1.JSONLD" := ⟨by decide, by decide, by decide, by decide⟩
  have hformat : Format.ofPath? "did.v1.JSONLD" = some .jsonld := by decide
  have hhidden : IsPlainName ".md" := ⟨by decide, by decide, by decide, by decide⟩
  obtain ⟨hread, -⟩ := nameReaders_agree hname
  obtain ⟨-, hparted⟩ := nameReaders_agree hhidden
  obtain ⟨stem, ext, heq, hstem, hext, hslug, hfile, htitle⟩ := hread _ hformat
  obtain ⟨hnone, hmetadata⟩ := hparted.mpr ⟨"md", rfl, by decide⟩
  exact ⟨hname, hformat, ⟨stem, ext, heq, hstem, hext, hslug _ _ _, hfile, htitle⟩, hhidden, hnone,
    hmetadata⟩

end Folio
