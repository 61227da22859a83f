import Folio.Proofs.Text.Runs
import Folio.Title
import Mathlib.Data.List.Basic

/-!
# Capital letters in names

The first character of every run of letters and digits is put in upper case, which can make several
characters of it. None of them is white space or a mark that separates words, so that a name has the
same words before and after, each of them capitalized for itself.

Main definitions:

* `isBreak`: the characters that no word of a name has.
* `withCapitals`: a word in capitals, character by character.

Results:

* `isBreak_of_mem_upper`: what becomes of a letter is no break.
* `capitalize_eq_withCapitals`: the scan of a text is a rule for each of its characters.
* `areRuns_capitalize`: the words of a name in capitals.
-/

namespace Folio.Title

open Text (AreRuns)
open Unicode (Range alphanumericRanges inRanges inRanges_iff isAlphanumeric isSpace spaceRanges
  upper upperExpansions upperRuns)

/-! ## Breaks -/

/-- White space and the characters that separate words in names. -/
def isBreak (c : Char) : Bool := isSeparator c || isSpace c

/-- The code points of breaks. -/
def breakRanges : List Range :=
  [(0x9, 0xD), (0x20, 0x20), (0x2D, 0x2E), (0x5F, 0x5F)] ++ spaceRanges

theorem isBreak_eq_false_iff {c : Char} :
    isBreak c = false ↔ isSeparator c = false ∧ isSpace c = false := by
  unfold isBreak
  rw [Bool.or_eq_false_iff]

theorem inRanges_of_isBreak {c : Char} (h : isBreak c) : inRanges breakRanges c.toNat := by
  unfold isBreak isSeparator isSpace at h
  simp only [Bool.or_eq_true, beq_iff_eq] at h
  rw [inRanges_iff]
  rcases h with ((rfl | rfl) | rfl) | h
  · exact ⟨(0x2D, 0x2E), by decide, by decide, by decide⟩
  · exact ⟨(0x5F, 0x5F), by decide, by decide, by decide⟩
  · exact ⟨(0x2D, 0x2E), by decide, by decide, by decide⟩
  · split at h
    · simp only [Bool.or_eq_true, beq_iff_eq, Bool.and_eq_true, decide_eq_true_eq] at h
      rcases h with rfl | ⟨hle, hge⟩
      · exact ⟨(0x20, 0x20), by decide, by decide, by decide⟩
      · exact ⟨(0x9, 0xD), by decide, hle, hge⟩
    · obtain ⟨r, hr, hin⟩ := inRanges_iff.mp h
      exact ⟨r, List.mem_append_right _ hr, hin⟩

theorem isBreak_eq_false {c : Char} (h : ∀ r ∈ breakRanges, c.toNat < r.1 ∨ r.2 < c.toNat) :
    isBreak c = false := by
  rw [Bool.eq_false_iff]
  intro hbreak
  obtain ⟨r, hr, hle, hge⟩ := inRanges_iff.mp (inRanges_of_isBreak hbreak)
  have houtside := h r hr
  omega

/-! ## Upper case -/

theorem breakRanges_outside_letters :
    ∀ a ∈ alphanumericRanges, ∀ r ∈ breakRanges, a.2 < r.1 ∨ r.2 < a.1 := by
  decide +kernel

theorem breakRanges_outside_images :
    ∀ run ∈ upperRuns, ∀ r ∈ breakRanges,
      run.image + (run.last - run.first) < r.1 ∨ r.2 < run.image := by
  decide +kernel

theorem expansion_ne_nil : ∀ e ∈ upperExpansions, e.2 ≠ [] := by decide

theorem isBreak_expansion :
    ∀ e ∈ upperExpansions, ∀ code ∈ e.2, isBreak (Char.ofNat code) = false := by
  decide

theorem isBreak_ascii : ∀ code < 0x80, (Char.ofNat code).isAlphanum →
    isBreak (Char.ofNat code) = false ∧ isBreak (Char.ofNat code).toUpper = false := by
  decide

/-- Letters and digits of every script are no breaks. -/
theorem isBreak_of_isAlphanumeric {c : Char} (h : isAlphanumeric c) : isBreak c = false := by
  unfold isAlphanumeric at h
  split at h
  · next hascii =>
    have hcode := isBreak_ascii c.toNat hascii
    rw [Char.ofNat_toNat] at hcode
    exact (hcode h).1
  · obtain ⟨a, ha, hle, hge⟩ := inRanges_iff.mp h
    refine isBreak_eq_false fun r hr => ?_
    have houtside := breakRanges_outside_letters a ha r hr
    omega

theorem isBreak_apply {run : Unicode.CaseRun} (hrun : run ∈ upperRuns) {code : Nat}
    (hcovers : run.covers code) : isBreak (run.apply code) = false := by
  unfold Unicode.CaseRun.covers at hcovers
  simp only [Bool.and_eq_true, decide_eq_true_eq] at hcovers
  refine isBreak_eq_false fun r hr => ?_
  have houtside := breakRanges_outside_images run hrun r hr
  have hzero : 0 < r.1 := (by decide : ∀ r ∈ breakRanges, 0 < r.1) r hr
  unfold Unicode.CaseRun.apply Char.ofNat
  by_cases hvalid : (run.image + (code - run.first)).isValidChar
  · rw [dif_pos hvalid]
    show run.image + (code - run.first) < r.1 ∨ r.2 < run.image + (code - run.first)
    omega
  · -- A number that is no code point stands for the first character.
    rw [dif_neg hvalid]
    exact .inl hzero

theorem isBreak_mapRuns {c : Char} (h : isBreak c = false) :
    isBreak (Unicode.mapRuns upperRuns c) = false := by
  unfold Unicode.mapRuns
  cases hrun : upperRuns.find? (·.covers c.toNat) with
  | none => exact h
  | some run =>
    have hcovers := List.find?_some hrun
    exact isBreak_apply (List.mem_of_find?_eq_some hrun) hcovers

/-- What becomes of a letter in upper case is no break, whatever its length. -/
theorem isBreak_of_mem_upper {c d : Char} (hc : isAlphanumeric c) (hd : d ∈ upper c) :
    isBreak d = false := by
  unfold upper at hd
  split at hd
  · next hascii =>
    obtain rfl := List.mem_singleton.mp hd
    unfold isAlphanumeric at hc
    rw [if_pos hascii] at hc
    have hcode := isBreak_ascii c.toNat hascii
    rw [Char.ofNat_toNat] at hcode
    exact (hcode hc).2
  · cases hlookup : upperExpansions.lookup c.toNat with
    | none =>
      rw [hlookup] at hd
      obtain rfl := List.mem_singleton.mp hd
      exact isBreak_mapRuns (isBreak_of_isAlphanumeric hc)
    | some codes =>
      rw [hlookup] at hd
      obtain ⟨before, after, htable, -⟩ := List.lookup_eq_some_iff.mp hlookup
      obtain ⟨code, hcode, rfl⟩ := List.mem_map.mp hd
      exact isBreak_expansion (c.toNat, codes) (htable ▸ by simp) code hcode

theorem upper_ne_nil (c : Char) : upper c ≠ [] := by
  unfold upper
  split
  · simp
  · cases hlookup : upperExpansions.lookup c.toNat with
    | none => simp
    | some codes =>
      obtain ⟨before, after, htable, -⟩ := List.lookup_eq_some_iff.mp hlookup
      have hmem : (c.toNat, codes) ∈ upperExpansions := htable ▸ by simp
      have hne := expansion_ne_nil _ hmem
      simpa using hne

/-! ## Capitals -/

/-- A word with the first character of every run of letters and digits in upper case: each character
is seen with the one before it. -/
def withCapitals (word : List Char) : List Char :=
  ((none :: word.map some).zip word).flatMap fun (before, c) =>
    if isAlphanumeric c && !before.any isAlphanumeric then upper c else [c]

theorem capitalizeFrom_eq (before : Option Char) (cs : List Char) :
    capitalizeFrom (before.any isAlphanumeric) cs =
      ((before :: cs.map some).zip cs).flatMap fun (before, c) =>
        if isAlphanumeric c && !before.any isAlphanumeric then upper c else [c] := by
  induction cs generalizing before with
  | nil => rfl
  | cons c cs ih =>
    have hrest := ih (some c)
    rw [Option.any_some] at hrest
    rw [capitalizeFrom, List.map_cons, List.zip_cons_cons, List.flatMap_cons]
    simp only [hrest]

theorem capitalize_eq_withCapitals (cs : List Char) : capitalize cs = withCapitals cs :=
  capitalizeFrom_eq none cs

theorem mem_capitalizeFrom {inRun : Bool} {cs : List Char} {d : Char}
    (hcs : ∀ c ∈ cs, isBreak c = false) (hd : d ∈ capitalizeFrom inRun cs) : isBreak d = false := by
  induction cs generalizing inRun with
  | nil => simp [capitalizeFrom] at hd
  | cons c cs ih =>
    obtain ⟨hc, hcs⟩ := List.forall_mem_cons.mp hcs
    simp only [capitalizeFrom, List.mem_append] at hd
    rcases hd with hd | hd
    · split_ifs at hd with hupper
      · rw [Bool.and_eq_true] at hupper
        exact isBreak_of_mem_upper hupper.1 hd
      · rwa [List.mem_singleton.mp hd]
    · exact ih hcs hd

theorem capitalize_ne_nil {cs : List Char} (h : cs ≠ []) : capitalize cs ≠ [] := by
  obtain ⟨c, rest, rfl⟩ := List.exists_cons_of_ne_nil h
  unfold capitalize
  rw [capitalizeFrom]
  split_ifs
  · simp [upper_ne_nil]
  · simp

/-- A character that is no letter and no digit begins a new run. -/
theorem capitalizeFrom_of_head {cs : List Char} (inRun : Bool)
    (h : ∀ c, cs.head? = some c → isAlphanumeric c = false) :
    capitalizeFrom inRun cs = capitalize cs := by
  cases cs with
  | nil => rfl
  | cons c rest =>
    unfold capitalize
    rw [capitalizeFrom, capitalizeFrom, h c rfl]
    rfl

theorem capitalizeFrom_append {rest : List Char} (inRun : Bool) (cs : List Char)
    (h : ∀ c, rest.head? = some c → isAlphanumeric c = false) :
    capitalizeFrom inRun (cs ++ rest) = capitalizeFrom inRun cs ++ capitalize rest := by
  induction cs generalizing inRun with
  | nil => exact capitalizeFrom_of_head inRun h
  | cons c cs ih =>
    rw [List.cons_append, capitalizeFrom, capitalizeFrom, ih, List.append_assoc]

theorem capitalize_gap {gap : List Char} (h : ∀ c ∈ gap, isAlphanumeric c = false)
    (rest : List Char) : capitalize (gap ++ rest) = gap ++ capitalize rest := by
  induction gap with
  | nil => rfl
  | cons c gap ih =>
    obtain ⟨hc, hgap⟩ := List.forall_mem_cons.mp h
    have hrest := ih hgap
    unfold capitalize at hrest ⊢
    rw [List.cons_append, capitalizeFrom, hc]
    exact congrArg (c :: ·) hrest

/-! ## Words of a name -/

theorem isSpace_spaced {c : Char} (h : isBreak c) : isSpace (if isSeparator c then ' ' else c) := by
  unfold isBreak at h
  split_ifs with hsep
  · decide
  · simpa [hsep] using h

theorem isAlphanumeric_of_isSpace {c : Char} (h : isSpace c) : isAlphanumeric c = false := by
  rw [Bool.eq_false_iff]
  intro hc
  have hbreak := isBreak_eq_false_iff.mp (isBreak_of_isAlphanumeric hc)
  rw [hbreak.2] at h
  exact Bool.false_ne_true h

theorem spaced_word {word : List Char} (h : ∀ c ∈ word, isBreak c = false) : spaced word = word := by
  unfold spaced
  refine (List.map_congr_left fun c hc => ?_).trans (List.map_id word)
  rw [(isBreak_eq_false_iff.mp (h c hc)).1]
  rfl

theorem isSpace_of_mem_spaced {gap : List Char} (h : ∀ c ∈ gap, isBreak c) :
    ∀ c ∈ spaced gap, isSpace c := by
  intro c hc
  obtain ⟨d, hd, rfl⟩ := List.mem_map.mp hc
  exact isSpace_spaced (h d hd)

theorem isSpace_of_head?_spaced {rest : List Char}
    (h : ∀ c, rest.head? = some c → isBreak c) {c : Char} (hc : (spaced rest).head? = some c) :
    isSpace c := by
  unfold spaced at hc
  rw [List.head?_map, Option.map_eq_some_iff] at hc
  obtain ⟨d, hd, rfl⟩ := hc
  exact isSpace_spaced (h d hd)

theorem isSpace_of_head?_capitalize {cs : List Char}
    (h : ∀ c, cs.head? = some c → isSpace c) {c : Char} (hc : (capitalize cs).head? = some c) :
    isSpace c := by
  cases cs with
  | nil => simp [capitalize, capitalizeFrom] at hc
  | cons d rest =>
    have hd := h d rfl
    unfold capitalize at hc
    rw [capitalizeFrom, isAlphanumeric_of_isSpace hd] at hc
    obtain rfl := Option.some.inj hc
    exact hd

theorem capitalize_spaced_append {gap word rest : List Char} (hgap : ∀ c ∈ gap, isBreak c)
    (hword : ∀ c ∈ word, isBreak c = false) (hend : ∀ c, rest.head? = some c → isBreak c) :
    capitalize (spaced (gap ++ word ++ rest)) =
      spaced gap ++ withCapitals word ++ capitalize (spaced rest) := by
  have hspace := isSpace_of_mem_spaced hgap
  have hspaced : spaced (gap ++ word ++ rest) = spaced gap ++ (word ++ spaced rest) := by
    unfold spaced
    rw [List.map_append, List.map_append, List.append_assoc]
    exact congrArg (fun cs => _ ++ (cs ++ _)) (spaced_word hword)
  have hnext : ∀ c, (spaced rest).head? = some c → isAlphanumeric c = false :=
    fun c hc => isAlphanumeric_of_isSpace (isSpace_of_head?_spaced hend hc)
  rw [hspaced, capitalize_gap fun c hc => isAlphanumeric_of_isSpace (hspace c hc)]
  unfold capitalize
  rw [capitalizeFrom_append false word hnext, List.append_assoc, ← capitalize_eq_withCapitals]
  rfl

/-- The words of a name are capitalized one by one. -/
theorem areRuns_capitalize {cs : List Char} {ws : List (List Char)} (h : AreRuns isBreak cs ws) :
    AreRuns isSpace (capitalize (spaced cs)) (ws.map withCapitals) := by
  induction h with
  | none hgap =>
    have hspace := isSpace_of_mem_spaced hgap
    have hkept := capitalize_gap (fun c hc => isAlphanumeric_of_isSpace (hspace c hc)) []
    rw [List.append_nil] at hkept
    rw [hkept]
    exact .none (by simpa [capitalize, capitalizeFrom] using hspace)
  | more hgap hne hword hend _ ih =>
    rw [capitalize_spaced_append hgap hword hend, List.map_cons, ← capitalize_eq_withCapitals]
    refine .more (isSpace_of_mem_spaced hgap) (capitalize_ne_nil hne) ?_ ?_ ih
    · intro c hc
      exact (isBreak_eq_false_iff.mp (mem_capitalizeFrom hword hc)).2
    · intro c hc
      exact isSpace_of_head?_capitalize (fun _ => isSpace_of_head?_spaced hend) hc

end Folio.Title
