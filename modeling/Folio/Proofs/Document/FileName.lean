import Folio.Document.Basic

/-!
# Names of document files

A name is cut at its last dot. What stands before it is the slug, and what follows it tells the
format; only a name with a slug that is not empty has one.

Results:

* `slugOf_append`: the slug of a name is what stands before its last dot.
* `Path.nameExtension?_eq_some_iff`: the extension of a name is what follows its last dot.
* `Format.ofName?_eq_some_iff`: the names that have a format.
-/

namespace Folio

namespace Format

theorem ofExtension?_eq_some_iff {extension : String} {format : Format} :
    ofExtension? extension = some format ↔
      extension.toList.map Char.toLower = format.ext.toList := by
  rw [ofExtension?]
  constructor
  · intro h
    have hfound := List.find?_some h
    exact (beq_iff_eq.mp hfound).symm
  · intro h
    rw [h]
    cases format <;> rfl

theorem ofExtension?_ext (format : Format) : ofExtension? format.ext = some format := by
  rw [ofExtension?_eq_some_iff]
  cases format <;> rfl

theorem dot_notMem_ext (format : Format) : '.' ∉ format.ext.toList := by
  cases format <;> decide

end Format

theorem eq_append_dot_iff {name stem ext : String} :
    name = stem ++ "." ++ ext ↔ name.toList = stem.toList ++ '.' :: ext.toList := by
  rw [← String.toList_inj]
  simp

theorem Path.nameExtension?_eq_some_iff {name ext : String} :
    Path.nameExtension? name = some ext ↔
      ∃ stem, stem ≠ "" ∧ name = stem ++ "." ++ ext ∧ '.' ∉ ext.toList := by
  rw [Path.nameExtension?]
  cases hcut : Text.cutLast '.' name.toList with
  | none =>
    have hdot := Text.cutLast_eq_none_iff.mp hcut
    simp only [reduceCtorEq, false_iff]
    rintro ⟨stem, -, rfl, -⟩
    simp at hdot
  | some parts =>
    obtain ⟨stem, after⟩ := parts
    obtain ⟨hname, hafter⟩ := Text.cutLast_eq_some_iff.mp hcut
    simp only [Option.ite_none_left_eq_some, Option.some.injEq]
    constructor
    · rintro ⟨hstem, rfl⟩
      refine ⟨.ofList stem, ?_, ?_, ?_⟩
      · simpa using hstem
      · rw [eq_append_dot_iff]
        simpa using hname
      · simpa using hafter
    · rintro ⟨stem', hstem', rfl, hext⟩
      have := Text.cutLast_append stem'.toList hext
      simp [this] at hcut
      simp [← hcut, hstem']

theorem slugOf_append {stem ext : String} (h : '.' ∉ ext.toList) :
    slugOf (stem ++ "." ++ ext) = stem := by
  have := Text.cutLast_append stem.toList h
  rw [slugOf]
  simp [this]

theorem Format.ofName?_eq_some_iff {name : String} {format : Format} :
    Format.ofName? name = some format ↔ ∃ stem ext, name = stem ++ "." ++ ext ∧ stem ≠ "" ∧
      '.' ∉ ext.toList ∧ ext.toList.map Char.toLower = format.ext.toList := by
  simp only [Format.ofName?, Option.bind_eq_some_iff, Path.nameExtension?_eq_some_iff,
    Format.ofExtension?_eq_some_iff]
  constructor
  · rintro ⟨ext, ⟨stem, hstem, hname, hext⟩, hformat⟩
    exact ⟨stem, ext, hname, hstem, hext, hformat⟩
  · rintro ⟨stem, ext, hname, hstem, hext, hformat⟩
    exact ⟨ext, ⟨stem, hstem, hname, hext⟩, hformat⟩

example : Format.ofName? "did.v1.JSON" = some .json := by decide

example : Format.ofName? ".md" = none := by decide

theorem Format.ofName?_append {stem ext : String} (hstem : stem ≠ "") (hext : '.' ∉ ext.toList) :
    Format.ofName? (stem ++ "." ++ ext) = Format.ofExtension? ext := by
  have hname : Path.nameExtension? (stem ++ "." ++ ext) = some ext :=
    Path.nameExtension?_eq_some_iff.mpr ⟨stem, hstem, rfl, hext⟩
  rw [Format.ofName?, hname, Option.bind_some]

end Folio
