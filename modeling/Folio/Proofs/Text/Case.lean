import Folio.Unicode.Case
import Mathlib

/-!
# Case folding

Folding takes a character to a small letter or leaves it as it is. So a character before the small
letters, such as a digit or a mark of punctuation, is the folding of no other.

Results:

* `fold_eq_self`: a character that folds to one before the small letters is that character.
* `eq_of_map_fold_eq`: the same for a text.
-/

namespace Folio.Unicode

theorem le_image_of_mem_foldRuns : ∀ run ∈ foldRuns, 'a'.toNat ≤ run.image := by decide +kernel

theorem toLower_eq_self {c : Char} (h : c.toLower.toNat < 'a'.toNat) : c.toLower = c := by
  by_cases hupper : c.isUpper
  · have hlower : c.toLower.isLower := by simp [Char.isAlpha, hupper]
    have hle : 'a'.toNat ≤ c.toLower.toNat := by
      rw [Char.isLower, Bool.and_eq_true, decide_eq_true_eq] at hlower
      exact hlower.1
    omega
  · exact Char.toLower_eq_of_not_isUpper hupper

theorem fold_eq_self {c : Char} (hpos : 0 < (fold c).toNat) (hlt : (fold c).toNat < 'a'.toNat) :
    fold c = c := by
  rw [fold] at hpos hlt ⊢
  by_cases hascii : c.toNat < 0x80
  · rw [if_pos hascii] at hlt ⊢
    exact toLower_eq_self hlt
  · rw [if_neg hascii, mapRuns] at hpos hlt ⊢
    cases hrun : foldRuns.find? (·.covers c.toNat) with
    | none => rfl
    | some run =>
      simp only [hrun, CaseRun.apply] at hpos hlt
      have himage := le_image_of_mem_foldRuns run (List.mem_of_find?_eq_some hrun)
      rw [Char.toNat_ofNat] at hpos hlt
      by_cases hvalid : (run.image + (c.toNat - run.first)).isValidChar
      · rw [if_pos hvalid] at hlt
        omega
      · -- A number that is no code point stands for the first character.
        rw [if_neg hvalid] at hpos
        omega

theorem eq_of_map_fold_eq {cs marks : List Char} (h : cs.map fold = marks)
    (hmarks : ∀ c ∈ marks, 0 < c.toNat ∧ c.toNat < 'a'.toNat) : cs = marks := by
  have hself : ∀ c ∈ cs, fold c = id c := by
    intro c hc
    have hfold : fold c ∈ marks := h ▸ List.mem_map_of_mem hc
    obtain ⟨hpos, hlt⟩ := hmarks (fold c) hfold
    exact fold_eq_self hpos hlt
  rw [← h, List.map_congr_left hself, List.map_id]

end Folio.Unicode
