import Folio.Document.Status
import Folio.Proofs.Text.Trim
import Mathlib

/-!
# How a status is spelled

A status is told from the text in lower case. Of the characters beyond ASCII only two have a letter
of ASCII in their lower-case form: the sign of the kelvin, which becomes a k, and the capital I with
a dot, which becomes an i with a mark above it. No word for a status has a k or a mark. So a text
stands for a status other than draft just if it is one of these words up to the case of ASCII
letters, with white space around it.

Main definition:

* `Status.Spells`: a text is a word up to the case of ASCII letters, with white space around it.

Results:

* `Unicode.lowercase_eq_iff`: which texts become a word of small letters other than k.
* `Text.trim_map_toLower`: white space is the same in either case.
* `Status.normalize_isSpelling`: which texts stand for which status.
-/

namespace Folio

/-! ## Letters -/

namespace Unicode

theorem isUpper_iff {c : Char} : c.isUpper ↔ 65 ≤ c.toNat ∧ c.toNat ≤ 90 := by
  simp [Char.isUpper, UInt32.le_iff_toNat_le]

theorem isLower_iff {c : Char} : c.isLower ↔ 97 ≤ c.toNat ∧ c.toNat ≤ 122 := by
  simp [Char.isLower, UInt32.le_iff_toNat_le]

/-- A small letter of ASCII that no character beyond ASCII has in its lower-case form. The i of the
capital I with a dot does not come without its mark. -/
def isPlain (c : Char) : Bool := c.isLower && c != 'k'

theorem toNat_of_isPlain {c : Char} (h : isPlain c) : 97 ≤ c.toNat ∧ c.toNat ≤ 122 := by
  rw [isPlain, Bool.and_eq_true] at h
  exact isLower_iff.mp h.1

theorem isSpace_of_isPlain {c : Char} (h : isPlain c) : isSpace c = false := by
  obtain ⟨hle, hge⟩ := toNat_of_isPlain h
  have hne : c ≠ ' ' := by
    rintro rfl
    exact absurd hle (by decide)
  rw [isSpace, if_pos (by omega)]
  simp only [Bool.or_eq_false_iff, beq_eq_false_iff_ne, Bool.and_eq_false_iff,
    decide_eq_false_iff_not]
  exact ⟨hne, .inr (by omega)⟩

/-- White space is the same in either case, as no capital letter is white space. -/
theorem isSpace_toLower (c : Char) : isSpace c.toLower = isSpace c := by
  by_cases hupper : c.isUpper
  · have hcapitals : ∀ code < 0x80, (Char.ofNat code).isUpper →
        isSpace (Char.ofNat code).toLower = isSpace (Char.ofNat code) := by decide +kernel
    have hlt : c.toNat < 0x80 := by
      have hge := (isUpper_iff.mp hupper).2
      omega
    have hspace := hcapitals c.toNat hlt
    rw [Char.ofNat_toNat] at hspace
    exact hspace hupper
  · rw [Char.toLower_eq_of_not_isUpper hupper]

theorem toNat_lt_of_isPlain_toLower {c : Char} (h : isPlain c.toLower) : c.toNat < 0x80 := by
  by_cases hupper : c.isUpper
  · have hge := (isUpper_iff.mp hupper).2
    omega
  · rw [Char.toLower_eq_of_not_isUpper hupper] at h
    have hge := (toNat_of_isPlain h).2
    omega

/-! ## Lower case -/

theorem image_of_mem_lowerRuns : ∀ run ∈ lowerRuns,
    0x80 ≤ run.image ∨ run.first = run.last ∧ run.image = 'k'.toNat := by decide +kernel

theorem isPlain_mapRuns {c : Char} (hc : 0x80 ≤ c.toNat) :
    isPlain (mapRuns lowerRuns c) = false := by
  by_contra hplain
  rw [Bool.not_eq_false, mapRuns] at hplain
  cases hrun : lowerRuns.find? (·.covers c.toNat) with
  | none =>
    simp only [hrun] at hplain
    have hge := (toNat_of_isPlain hplain).2
    omega
  | some run =>
    simp only [hrun, CaseRun.apply] at hplain
    rcases image_of_mem_lowerRuns run (List.mem_of_find?_eq_some hrun) with himage | ⟨hone, hk⟩
    · have hletter := toNat_of_isPlain hplain
      rw [Char.toNat_ofNat] at hletter
      -- A number that is no code point stands for the first character, which is no letter.
      split at hletter <;> omega
    · have hcovers := List.find?_some hrun
      simp only [CaseRun.covers, Bool.and_eq_true, decide_eq_true_eq] at hcovers
      have hzero : c.toNat - run.first = 0 := by omega
      rw [hk, hzero] at hplain
      exact absurd hplain (by decide)

theorem lowercaseFrom_cons_of_lt {c : Char} (hc : c.toNat < 0x80) (before rest : List Char) :
    lowercaseFrom before (c :: rest) = c.toLower :: lowercaseFrom (c :: before) rest := by
  have hsigma : c.toNat ≠ 0x3A3 := by omega
  simp [lowercaseFrom, lower, hc, hsigma]

/-- What becomes of a character beyond ASCII is not made of such letters alone. -/
theorem exists_notPlain_lowercaseFrom {c : Char} (hc : 0x80 ≤ c.toNat) (before rest : List Char) :
    ∃ d ∈ lowercaseFrom before (c :: rest), isPlain d = false := by
  rw [lowercaseFrom]
  by_cases hsigma : c.toNat = 0x3A3
  · rw [if_pos hsigma]
    refine ⟨_, List.mem_append_left _ (List.mem_singleton_self _), ?_⟩
    split <;> decide
  · rw [if_neg hsigma, lower, if_neg (by omega)]
    by_cases hdotted : c.toNat = 0x130
    · rw [if_pos hdotted]
      exact ⟨Char.ofNat 0x307, by simp, by decide⟩
    · rw [if_neg hdotted]
      exact ⟨_, List.mem_append_left _ (List.mem_singleton_self _), isPlain_mapRuns hc⟩

theorem lowercaseFrom_eq_iff {word : List Char} (hword : ∀ c ∈ word, isPlain c)
    (before cs : List Char) : lowercaseFrom before cs = word ↔ cs.map Char.toLower = word := by
  induction cs generalizing before word with
  | nil => rfl
  | cons c rest ih =>
    by_cases hc : c.toNat < 0x80
    · rw [lowercaseFrom_cons_of_lt hc, List.map_cons]
      cases word with
      | nil => simp
      | cons d word =>
        rw [List.forall_mem_cons] at hword
        rw [List.cons.injEq, List.cons.injEq, ih hword.2]
    · constructor
      · rintro rfl
        obtain ⟨d, hd, hplain⟩ := exists_notPlain_lowercaseFrom (Nat.le_of_not_lt hc) before rest
        exact absurd (hword d hd) (by simp [hplain])
      · rintro rfl
        exact absurd (toNat_lt_of_isPlain_toLower (hword c.toLower (by simp))) hc

/-- The texts that are a word in lower case are those that are it up to the case of ASCII letters,
if the word has only small letters other than k. -/
theorem lowercase_eq_iff {word : List Char} (hword : ∀ c ∈ word, isPlain c) (cs : List Char) :
    lowercase cs = word ↔ cs.map Char.toLower = word :=
  lowercaseFrom_eq_iff hword [] cs

end Unicode

/-! ## White space -/

namespace Text

theorem dropWhile_map_toLower (cs : List Char) :
    (cs.map Char.toLower).dropWhile Unicode.isSpace =
      (cs.dropWhile Unicode.isSpace).map Char.toLower := by
  have hspace : Unicode.isSpace ∘ Char.toLower = Unicode.isSpace := funext Unicode.isSpace_toLower
  rw [List.dropWhile_map, hspace]

theorem trim_map_toLower (cs : List Char) :
    trim (cs.map Char.toLower) = (trim cs).map Char.toLower := by
  rw [trim, trimStart, dropWhile_map_toLower, trimEnd, dropEndWhile, ← List.map_reverse,
    dropWhile_map_toLower, ← List.map_reverse, trim, trimStart, trimEnd, dropEndWhile]

end Text

namespace Status

open Unicode (isPlain isSpace)

/-! ## Spellings -/

/-- A text is a word up to the case of ASCII letters, with white space around it. -/
def Spells (word raw : String) : Prop :=
  ∃ lead spelled trail, raw.toList = lead ++ spelled ++ trail ∧
    (∀ c ∈ lead ++ trail, isSpace c) ∧ spelled.map Char.toLower = word.toList

theorem spells_iff {word : String} (hword : ∀ c ∈ word.toList, isPlain c) (raw : String) :
    Spells word raw ↔ (Text.trim raw.toList).map Char.toLower = word.toList := by
  constructor
  · rintro ⟨lead, spelled, trail, hraw, hspace, hspelled⟩
    rw [List.forall_mem_append] at hspace
    rw [hraw, Text.trim_pad _ hspace.1 hspace.2, ← Text.trim_map_toLower, hspelled]
    exact Text.trim_of_word fun c hc => Unicode.isSpace_of_isPlain (hword c hc)
  · intro h
    obtain ⟨lead, trail, hraw, hlead, htrail⟩ := Text.exists_trim raw.toList
    exact ⟨lead, _, trail, hraw, List.forall_mem_append.mpr ⟨hlead, htrail⟩, h⟩

/-- The words that stand for a status other than draft. -/
def recognized : List String := ["active", "standard", "stable"]

theorem isPlain_of_mem_recognized : ∀ word ∈ recognized, ∀ c ∈ word.toList, isPlain c := by
  simp [recognized, isPlain]

theorem Spells.eq {word word' raw : String} (hword : word ∈ recognized)
    (hword' : word' ∈ recognized) (h : Spells word raw) (h' : Spells word' raw) : word = word' := by
  rw [spells_iff (isPlain_of_mem_recognized word hword)] at h
  rw [spells_iff (isPlain_of_mem_recognized word' hword')] at h'
  exact String.toList_injective (h.symm.trans h')

/-- Every character of a spelling is of ASCII or white space. -/
theorem Spells.isSpace_or_lt {word raw : String} (hword : word ∈ recognized)
    (h : Spells word raw) {c : Char} (hc : c ∈ raw.toList) : isSpace c ∨ c.toNat < 0x80 := by
  obtain ⟨lead, spelled, trail, hraw, hspace, hspelled⟩ := h
  rw [hraw, List.append_assoc, List.mem_append, List.mem_append] at hc
  rcases hc with hc | hc | hc
  · exact .inl (hspace c (List.mem_append_left _ hc))
  · have hmem : c.toLower ∈ word.toList := hspelled ▸ List.mem_map_of_mem hc
    exact .inr (Unicode.toNat_lt_of_isPlain_toLower
      (isPlain_of_mem_recognized word hword _ hmem))
  · exact .inl (hspace c (List.mem_append_right _ hc))

/-- White space around a text and the case of ASCII letters do not show in what it spells. -/
theorem spells_pad_iff {word : String} (hword : word ∈ recognized) {raw : String}
    {lead cased trail : List Char} (hspace : ∀ c ∈ lead ++ trail, isSpace c)
    (hcased : cased.map Char.toLower = raw.toList.map Char.toLower) :
    Spells word (.ofList (lead ++ cased ++ trail)) ↔ Spells word raw := by
  have hplain := isPlain_of_mem_recognized word hword
  rw [List.forall_mem_append] at hspace
  rw [spells_iff hplain, spells_iff hplain, String.toList_ofList,
    Text.trim_pad _ hspace.1 hspace.2, ← Text.trim_map_toLower, hcased, Text.trim_map_toLower]

/-! ## Statuses -/

section Normalize

variable (raw : String)

theorem lowercase_trim_eq_iff (word : String) (hword : word ∈ recognized) :
    Unicode.lowercase (Text.trim raw.toList) = word.toList ↔ Spells word raw := by
  have hplain := isPlain_of_mem_recognized word hword
  rw [Unicode.lowercase_eq_iff hplain, spells_iff hplain]

/-- A text spells the word for its status, or none and is a draft. -/
theorem normalize_cases :
    Spells "active" raw ∧ normalize raw = active ∨
      (Spells "standard" raw ∨ Spells "stable" raw) ∧ normalize raw = standard ∨
      (∀ word ∈ recognized, ¬ Spells word raw) ∧ normalize raw = draft := by
  have hactive := lowercase_trim_eq_iff raw "active" (by decide)
  have hstandard := lowercase_trim_eq_iff raw "standard" (by decide)
  have hstable := lowercase_trim_eq_iff raw "stable" (by decide)
  unfold normalize
  generalize Unicode.lowercase (Text.trim raw.toList) = word at hactive hstandard hstable
  dsimp only
  by_cases h : word = "active".toList
  · rw [if_pos h]
    exact .inl ⟨hactive.mp h, rfl⟩
  · rw [if_neg h]
    rw [← Bool.decide_or]
    by_cases h' : word = "standard".toList ∨ word = "stable".toList
    · rw [if_pos (decide_eq_true h')]
      exact .inr (.inl ⟨h'.imp hstandard.mp hstable.mp, rfl⟩)
    · rw [if_neg (by rwa [decide_eq_true_eq])]
      rw [not_or, hstandard, hstable] at h'
      rw [hactive] at h
      exact .inr (.inr ⟨by simp [recognized, h, h'], rfl⟩)

theorem normalize_eq_active_iff : normalize raw = active ↔ Spells "active" raw := by
  rcases normalize_cases raw with ⟨h, heq⟩ | ⟨h, heq⟩ | ⟨h, heq⟩
  · simp [h, heq]
  · have hnot : ¬ Spells "active" raw := by
      intro hactive
      rcases h with h | h
      · exact absurd (hactive.eq (by decide) (by decide) h) (by decide)
      · exact absurd (hactive.eq (by decide) (by decide) h) (by decide)
    simp [hnot, heq]
  · simp [h "active" (by decide), heq]

theorem normalize_eq_draft_iff :
    normalize raw = draft ↔ ∀ word ∈ recognized, ¬ Spells word raw := by
  rcases normalize_cases raw with ⟨h, heq⟩ | ⟨h, heq⟩ | ⟨h, heq⟩
  · simp [recognized, h, heq]
  · rcases h with h | h <;> simp [recognized, h, heq]
  · simp only [heq, true_iff]
    exact h

theorem normalize_eq_standard_iff :
    normalize raw = standard ↔ Spells "standard" raw ∨ Spells "stable" raw := by
  rcases normalize_cases raw with ⟨h, heq⟩ | ⟨h, heq⟩ | ⟨h, heq⟩
  · have hnot : ¬ (Spells "standard" raw ∨ Spells "stable" raw) := by
      rintro (h' | h')
      · exact absurd (h.eq (by decide) (by decide) h') (by decide)
      · exact absurd (h.eq (by decide) (by decide) h') (by decide)
    simp [hnot, heq]
  · simp [h, heq]
  · simp [h "standard" (by decide), h "stable" (by decide), heq]

end Normalize

/-- A text stands for a status other than draft just if it spells one of the words for it up to the
case of ASCII letters, with white space around it. So a text with any other character beyond ASCII
is a draft, and neither white space around a text nor the case of its ASCII letters shows. -/
theorem normalize_isSpelling (raw : String) :
    (normalize raw = active ↔ Spells "active" raw) ∧
      (normalize raw = standard ↔ Spells "standard" raw ∨ Spells "stable" raw) ∧
      (normalize raw = draft ↔
        ¬ Spells "active" raw ∧ ¬ Spells "standard" raw ∧ ¬ Spells "stable" raw) ∧
      (∀ c ∈ raw.toList, 0x80 ≤ c.toNat → isSpace c = false → normalize raw = draft) ∧
      ∀ lead cased trail : List Char, (∀ c ∈ lead ++ trail, isSpace c) →
        cased.map Char.toLower = raw.toList.map Char.toLower →
        normalize (.ofList (lead ++ cased ++ trail)) = normalize raw := by
  refine ⟨normalize_eq_active_iff raw, normalize_eq_standard_iff raw, ?_, ?_, ?_⟩
  · simp [normalize_eq_draft_iff, recognized]
  · intro c hc hle hspace
    rw [normalize_eq_draft_iff]
    intro word hword h
    rcases h.isSpace_or_lt hword hc with hc | hlt
    · simp [hspace] at hc
    · omega
  · intro lead cased trail hspace hcased
    have hspells (word : String) (hword : word ∈ recognized) :=
      spells_pad_iff hword hspace hcased
    cases hraw : normalize raw with
    | draft =>
      rw [normalize_eq_draft_iff] at hraw ⊢
      intro word hword h
      exact hraw word hword ((hspells word hword).mp h)
    | active =>
      rw [normalize_eq_active_iff] at hraw ⊢
      exact (hspells "active" (by decide)).mpr hraw
    | standard =>
      rw [normalize_eq_standard_iff] at hraw ⊢
      exact hraw.imp (hspells "standard" (by decide)).mpr (hspells "stable" (by decide)).mpr

theorem normalize_isSpelling_stable :
    (∀ c ∈ ['\u00A0'] ++ ['\n'], isSpace c) ∧
      "STABLE".toList.map Char.toLower = "sTaBle".toList.map Char.toLower ∧
      normalize (.ofList (['\u00A0'] ++ "STABLE".toList ++ ['\n'])) = normalize "sTaBle" ∧
      normalize "sTaBle" = standard ∧
      'İ' ∈ "ACTİVE".toList ∧ 0x80 ≤ 'İ'.toNat ∧ isSpace 'İ' = false ∧
      normalize "ACTİVE" = draft := by
  have hspace : ∀ c ∈ ['\u00A0'] ++ ['\n'], isSpace c :=
    List.forall_mem_cons.mpr ⟨by decide +kernel, List.forall_mem_singleton.mpr (by decide)⟩
  have hcased : "STABLE".toList.map Char.toLower = "sTaBle".toList.map Char.toLower := by decide
  have hspells : Spells "stable" "sTaBle" := ⟨[], "sTaBle".toList, [], rfl, nofun, by decide⟩
  have hmem : 'İ' ∈ "ACTİVE".toList := by decide
  obtain ⟨-, hstandard, -, -, hpad⟩ := normalize_isSpelling "sTaBle"
  obtain ⟨-, -, -, hdraft, -⟩ := normalize_isSpelling "ACTİVE"
  exact ⟨hspace, hcased, hpad _ _ _ hspace hcased, hstandard.mpr (.inr hspells), hmem, by decide,
    by decide, hdraft 'İ' hmem (by decide) (by decide)⟩

end Status

end Folio
