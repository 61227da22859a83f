import Folio.Proofs.Document.FileName
import Folio.Proofs.Title.Capitals
import Folio.Proofs.Title.Correction

/-!
# Titles word by word

The title of a file is made of the words of its name, each of them capitalized and corrected for
itself, with a single space between any two. Which characters separate the words of the name, and
how many of them, does not matter.

Main definitions:

* `IsStem`: a name without its document extension.
* `HasWords`: the words of a name.
* `ofWord`: what becomes of a word.
* `IsTidy`: a title without separators and with single spaces only.

Main result:

* `ofFilename_eq_ofWord`: the title of every name.
-/

namespace Folio.Title

open Text (AreRuns AreWords areRuns_iff cutLast_append eq_of_cutLast_eq_some mem_unwords
  not_infix_unwords runs trim_unwords unwords words)
open Unicode (isSpace)

/-! ## Names without their extension -/

/-- The extensions of documents, in any ASCII case. -/
def IsDocumentExtension (ext : List Char) : Prop :=
  ext.map Char.toLower ∈ ["md".toList, "json".toList, "jsonld".toList]

/-- A name without its last dot and what follows it, if that is the extension of a document. -/
inductive IsStem : List Char → List Char → Prop
  | dropped {stem ext : List Char} (hext : IsDocumentExtension ext) :
    IsStem (stem ++ '.' :: ext) stem
  | kept {filename : List Char}
    (hext : ∀ stem ext, filename = stem ++ '.' :: ext → ¬IsDocumentExtension ext) :
    IsStem filename filename

theorem dot_notMem_of_isDocumentExtension {ext : List Char} (h : IsDocumentExtension ext) :
    '.' ∉ ext := by
  intro hdot
  have hlower : '.' ∈ ext.map Char.toLower := List.mem_map_of_mem (f := Char.toLower) hdot
  have hnone : ∀ ext ∈ ["md".toList, "json".toList, "jsonld".toList], '.' ∉ ext := by decide
  exact hnone _ h hlower

theorem isSome_ofExtension?_iff {ext : List Char} :
    (Format.ofExtension? (.ofList ext)).isSome ↔ IsDocumentExtension ext := by
  unfold IsDocumentExtension
  simp only [Option.isSome_iff_exists, Format.ofExtension?_eq_some_iff, String.toList_ofList,
    List.mem_cons, List.not_mem_nil, or_false]
  constructor
  · rintro ⟨format, hformat⟩
    cases format
    · exact .inl hformat
    · exact .inr (.inl hformat)
    · exact .inr (.inr hformat)
  · rintro (h | h | h)
    · exact ⟨.markdown, h⟩
    · exact ⟨.json, h⟩
    · exact ⟨.jsonld, h⟩

theorem stem_append {ext : List Char} (stem : List Char) (h : IsDocumentExtension ext) :
    Title.stem (stem ++ '.' :: ext) = stem := by
  unfold Title.stem
  rw [cutLast_append stem (dot_notMem_of_isDocumentExtension h)]
  simp only [isSome_ofExtension?_iff.mpr h, if_true]

theorem stem_eq_self {filename : List Char}
    (h : ∀ stem ext, filename = stem ++ '.' :: ext → ¬IsDocumentExtension ext) :
    Title.stem filename = filename := by
  unfold Title.stem
  cases hcut : Text.cutLast '.' filename with
  | none => rfl
  | some parts =>
    obtain ⟨stem, ext⟩ := parts
    have hext := h stem ext (eq_of_cutLast_eq_some hcut).1
    rw [← isSome_ofExtension?_iff] at hext
    exact if_neg hext

/-- Every name has one stem. -/
theorem isStem_iff {filename stem : List Char} :
    IsStem filename stem ↔ stem = Title.stem filename := by
  constructor
  · rintro (hext | hext)
    · exact (stem_append stem hext).symm
    · exact (stem_eq_self hext).symm
  · rintro rfl
    by_cases h : ∃ stem ext, filename = stem ++ '.' :: ext ∧ IsDocumentExtension ext
    · obtain ⟨stem, ext, rfl, hext⟩ := h
      rw [stem_append stem hext]
      exact .dropped hext
    · have hnone : ∀ stem ext, filename = stem ++ '.' :: ext → ¬IsDocumentExtension ext :=
        fun stem ext hname hext => h ⟨stem, ext, hname, hext⟩
      rw [stem_eq_self hnone]
      exact .kept hnone

/-! ## Words -/

/-- The words of a name: the maximal runs of its stem without white space and separators. -/
def HasWords (filename : List Char) (ws : List (List Char)) : Prop :=
  ∃ stem, IsStem filename stem ∧ AreRuns isBreak stem ws

/-- What becomes of a word: it is put in capitals, and acronyms in it are corrected. -/
def ofWord (word : List Char) : List Char := correctAcronyms (withCapitals word)

theorem hasWords_iff {filename : List Char} {ws : List (List Char)} :
    HasWords filename ws ↔ ws = runs isBreak (Title.stem filename) := by
  unfold HasWords
  simp only [isStem_iff, areRuns_iff, exists_eq_left]

theorem humanize_eq {filename : List Char} {ws : List (List Char)} (h : HasWords filename ws) :
    humanize filename = unwords (ws.map ofWord) := by
  obtain ⟨stem, hstem, hruns⟩ := h
  have hwords : words (capitalize (spaced stem)) = ws.map withCapitals :=
    (areRuns_capitalize hruns).eq_runs.symm
  have hword : correctWith acronyms ∘ withCapitals = ofWord := by
    funext word
    unfold ofWord
    rw [correctAcronyms_eq, Function.comp_apply]
  unfold humanize
  rw [← isStem_iff.mp hstem, hwords, correctAcronyms_eq,
    correctWith_unwords (List.Subset.refl acronyms), List.map_map, hword]

theorem isBreak_proper : ∀ e ∈ acronyms, e.2.toList.any isBreak = false := by decide

theorem isBreak_of_mem_ofWord {word : List Char} (h : ∀ c ∈ word, isBreak c = false) {c : Char}
    (hc : c ∈ ofWord word) : isBreak c = false := by
  unfold ofWord at hc
  rw [correctAcronyms_eq, ← capitalize_eq_withCapitals] at hc
  rcases mem_correctWith (List.Subset.refl acronyms) hc with hc | ⟨e, he, hc⟩
  · exact mem_capitalizeFrom h hc
  · have hnone := List.any_eq_false.mp (isBreak_proper e he) c hc
    exact Bool.eq_false_iff.mpr hnone

theorem ofWord_ne_nil {word : List Char} (h : word ≠ []) : ofWord word ≠ [] := by
  unfold ofWord
  rw [correctAcronyms_eq, ← capitalize_eq_withCapitals]
  exact correctWith_ne_nil (List.Subset.refl acronyms) (capitalize_ne_nil h)

/-! ## Titles -/

/-- A title without characters that separate words in names, and with white space only in the form
of single spaces between words. -/
structure IsTidy (title : List Char) : Prop where
  isSeparator_of_mem : ∀ c ∈ title, c ≠ '-' ∧ c ≠ '_' ∧ c ≠ '.'
  eq_of_isSpace : ∀ c ∈ title, isSpace c → c = ' '
  trim_eq : Text.trim title = title
  not_infix : ¬[' ', ' '] <:+: title

theorem isTidy_unwords {ws : List (List Char)}
    (h : ∀ word ∈ ws, word ≠ [] ∧ ∀ c ∈ word, isBreak c = false) : IsTidy (unwords ws) := by
  have hwords : AreWords ws := fun word hword =>
    ⟨(h word hword).1, fun c hc => (isBreak_eq_false_iff.mp ((h word hword).2 c hc)).2⟩
  refine ⟨fun c hc => ?_, fun c hc hspace => ?_, trim_unwords hwords, not_infix_unwords hwords⟩
  · obtain rfl | ⟨word, hword, hc⟩ := mem_unwords hc
    · decide
    · have hseparator := (isBreak_eq_false_iff.mp ((h word hword).2 c hc)).1
      simpa [isSeparator, and_assoc] using hseparator
  · obtain rfl | ⟨word, hword, hc⟩ := mem_unwords hc
    · rfl
    · simp [(hwords word hword).2 c hc] at hspace

/-- The title of a file is made of the words of its name, which become what they do in any other
name: each is capitalized and corrected for itself. Names with the same words have the same title.
Its words have single spaces between them, and there are no other white space and no separators. -/
theorem ofFilename_eq_ofWord (filename : String) :
    (∃! ws, HasWords filename.toList ws) ∧
    (∀ ws, HasWords filename.toList ws →
      ofFilename filename = .ofList (List.intercalate [' '] (ws.map ofWord)) ∧
        ∀ other : String, HasWords other.toList ws → ofFilename other = ofFilename filename) ∧
    IsTidy (ofFilename filename).toList := by
  have htitle (name : String) (ws : List (List Char)) (hws : HasWords name.toList ws) :
      ofFilename name = .ofList (unwords (ws.map ofWord)) := by
    unfold ofFilename
    rw [humanize_eq hws]
  refine ⟨⟨_, hasWords_iff.mpr rfl, fun ws => hasWords_iff.mp⟩, fun ws hws => ?_, ?_⟩
  · refine ⟨htitle filename ws hws, fun other hother => ?_⟩
    rw [htitle other ws hother, htitle filename ws hws]
  · have hws : HasWords filename.toList _ := hasWords_iff.mpr rfl
    rw [htitle filename _ hws, String.toList_ofList]
    refine isTidy_unwords fun word hword => ?_
    obtain ⟨plain, hplain, rfl⟩ := List.mem_map.mp hword
    obtain ⟨stem, -, hruns⟩ := hws
    obtain ⟨hne, hbreak⟩ := hruns.of_mem hplain
    exact ⟨ofWord_ne_nil hne, fun c hc => isBreak_of_mem_ofWord hbreak hc⟩

theorem ofFilename_eq_ofWord_digitalLink :
    HasWords "-gs1..digital_link.JSON".toList ["gs1".toList, "digital".toList, "link".toList] ∧
      HasWords "gs1 digital link".toList ["gs1".toList, "digital".toList, "link".toList] ∧
      ofFilename "-gs1..digital_link.JSON" = "GS1 Digital Link" ∧
      ofFilename "gs1 digital link" = "GS1 Digital Link" := by
  have hdashed : HasWords "-gs1..digital_link.JSON".toList
      ["gs1".toList, "digital".toList, "link".toList] := hasWords_iff.mpr (by decide)
  have hspaced : HasWords "gs1 digital link".toList
      ["gs1".toList, "digital".toList, "link".toList] := hasWords_iff.mpr (by decide)
  obtain ⟨-, hwords, -⟩ := ofFilename_eq_ofWord "-gs1..digital_link.JSON"
  obtain ⟨htitle, hothers⟩ := hwords _ hdashed
  have hshown : ofFilename "-gs1..digital_link.JSON" = "GS1 Digital Link" := by
    rw [htitle]
    decide
  exact ⟨hdashed, hspaced, hshown, (hothers _ hspaced).trans hshown⟩

end Folio.Title
