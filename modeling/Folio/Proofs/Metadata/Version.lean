import Folio.Metadata.Schema

/-!
# Versions in identifiers

A version is three numbers with dots between them. In an identifier it stands behind `/v` and before
a slash. No slash stands inside, so that every attempt to read a version ends at the next slash, and
that slash can begin the version that is found.

Main definitions:

* `IsVersion`: three numbers of decimal digits, in any script, joined by dots.
* `Occurs`: a version between its marks in a text, with what comes before it.

Main results:

* `versionAt?_eq_some_iff`: the texts that begin with a version.
* `findVersion?_append`: what comes before a slash hides nothing that begins at it.
* `version?_isEarliest`: an identifier has the version that occurs first in it, if any occurs.
-/

namespace Folio.Schema

open Unicode (isDecimal)

/-- A number as it is written: decimal digits, at least one of them. -/
def IsNumber (digits : List Char) : Prop := digits ≠ [] ∧ ∀ c ∈ digits, isDecimal c

/-- Three numbers with dots between them. -/
def IsVersion (text : List Char) : Prop :=
  ∃ major minor patch, IsNumber major ∧ IsNumber minor ∧ IsNumber patch ∧
    text = major ++ '.' :: minor ++ '.' :: patch

/-- A version occurs in a text between `/v` and a slash, and `before` comes before these. -/
def Occurs (version before text : List Char) : Prop :=
  IsVersion version ∧ ∃ after, text = before ++ '/' :: 'v' :: version ++ '/' :: after

/-! ## Numbers -/

theorem isDecimal_dot : isDecimal '.' = false := by decide

theorem isDecimal_slash : isDecimal '/' = false := by decide

/-- The digits before a mark are all digits that the text begins with. -/
theorem digitsThen?_eq_some_iff {mark : Char} (hmark : isDecimal mark = false)
    {cs digits rest : List Char} :
    digitsThen? mark cs = some (digits, rest) ↔ IsNumber digits ∧ cs = digits ++ mark :: rest := by
  simp only [digitsThen?]
  constructor
  · intro h
    split at h
    · next c after hdigits hafter =>
      split at h
      · next hc =>
        obtain ⟨rfl, rfl⟩ : cs.takeWhile isDecimal = digits ∧ after = rest := by simpa using h
        refine ⟨⟨by simpa using hdigits, fun d hd => ?_⟩, ?_⟩
        · exact List.all_eq_true.mp List.all_takeWhile d hd
        · rw [← hc, ← hafter, List.takeWhile_append_dropWhile]
      · cases h
    · cases h
  · rintro ⟨⟨hne, hdigits⟩, rfl⟩
    have htake : (digits ++ mark :: rest).takeWhile isDecimal = digits := by
      rw [List.takeWhile_append_of_pos hdigits, List.takeWhile_cons_of_neg (by simp [hmark]),
        List.append_nil]
    have hdrop : (digits ++ mark :: rest).dropWhile isDecimal = mark :: rest := by
      rw [List.dropWhile_append_of_pos hdigits, List.dropWhile_cons_of_neg (by simp [hmark])]
    have hempty : digits.isEmpty = false := by simpa using hne
    rw [htake, hdrop, hempty]
    simp

/-! ## Versions -/

theorem slash_notMem {version : List Char} (h : IsVersion version) : '/' ∉ version := by
  obtain ⟨major, minor, patch, hmajor, hminor, hpatch, rfl⟩ := h
  have hnumber {digits : List Char} (hdigits : IsNumber digits) : '/' ∉ digits := by
    intro hmem
    have hslash := hdigits.2 _ hmem
    rw [isDecimal_slash] at hslash
    cases hslash
  simp [hnumber hmajor, hnumber hminor, hnumber hpatch]

/-- A text has a version to begin with just if it is one between its marks and something more. -/
theorem versionAt?_eq_some_iff {cs version : List Char} :
    versionAt? cs = some version ↔ Occurs version [] cs := by
  constructor
  · intro h
    unfold versionAt? at h
    split at h
    · next rest =>
      obtain ⟨⟨major, rest₁⟩, hmajor, h₁⟩ := Option.bind_eq_some_iff.mp h
      obtain ⟨⟨minor, rest₂⟩, hminor, h₂⟩ := Option.bind_eq_some_iff.mp h₁
      obtain ⟨⟨patch, rest₃⟩, hpatch, h₃⟩ := Option.bind_eq_some_iff.mp h₂
      obtain ⟨hmajor, hrest⟩ := (digitsThen?_eq_some_iff isDecimal_dot).mp hmajor
      obtain ⟨hminor, hrest₁⟩ := (digitsThen?_eq_some_iff isDecimal_dot).mp hminor
      obtain ⟨hpatch, hrest₂⟩ := (digitsThen?_eq_some_iff isDecimal_slash).mp hpatch
      obtain rfl : major ++ '.' :: minor ++ '.' :: patch = version := Option.some.inj h₃
      refine ⟨⟨major, minor, patch, hmajor, hminor, hpatch, rfl⟩, rest₃, ?_⟩
      simp [hrest, hrest₁, hrest₂]
    · cases h
  · rintro ⟨⟨major, minor, patch, hmajor, hminor, hpatch, rfl⟩, after, rfl⟩
    have hread {mark : Char} (hmark : isDecimal mark = false) {digits : List Char}
        (hdigits : IsNumber digits) (rest : List Char) :
        digitsThen? mark (digits ++ mark :: rest) = some (digits, rest) :=
      (digitsThen?_eq_some_iff hmark).mpr ⟨hdigits, rfl⟩
    have htext : [] ++ '/' :: 'v' :: (major ++ '.' :: minor ++ '.' :: patch) ++ '/' :: after =
        '/' :: 'v' :: (major ++ '.' :: (minor ++ '.' :: (patch ++ '/' :: after))) := by simp
    simp only [htext, versionAt?, hread isDecimal_dot hmajor, hread isDecimal_dot hminor,
      hread isDecimal_slash hpatch, Option.bind_eq_bind, Option.bind_some]

/-! ## The earliest version -/

theorem not_occurs_nil {version before : List Char} : ¬Occurs version before [] := by
  rintro ⟨-, after, h⟩
  simp at h

/-- A version occurs at the first character of a text or behind it. -/
theorem occurs_cons_iff {version before cs : List Char} {c : Char} :
    Occurs version before (c :: cs) ↔
      (before = [] ∧ versionAt? (c :: cs) = some version) ∨
        ∃ before', before = c :: before' ∧ Occurs version before' cs := by
  cases before with
  | nil => simp [versionAt?_eq_some_iff]
  | cons d before =>
    simp only [Occurs, reduceCtorEq, false_and, false_or, List.cons_append, List.cons.injEq]
    constructor
    · rintro ⟨hversion, after, rfl, rfl⟩
      exact ⟨before, ⟨rfl, rfl⟩, hversion, after, rfl⟩
    · rintro ⟨before', ⟨rfl, rfl⟩, hversion, after, rfl⟩
      exact ⟨hversion, after, rfl, rfl⟩

/-- The version that is found occurs, and none occurs before it. -/
theorem findVersion?_eq_some_iff {cs version : List Char} :
    findVersion? cs = some version ↔ ∃ before, Occurs version before cs ∧
      ∀ version' before', Occurs version' before' cs → before.length ≤ before'.length := by
  induction cs with
  | nil => simp [findVersion?, not_occurs_nil]
  | cons c cs ih =>
    rw [findVersion?]
    cases hhere : versionAt? (c :: cs) with
    | some here =>
      rw [Option.orElse_some, Option.some_inj]
      have hoccurs := occurs_cons_iff.mpr (.inl ⟨rfl, hhere⟩)
      constructor
      · rintro rfl
        exact ⟨[], hoccurs, by simp⟩
      · rintro ⟨before, hbefore, hfirst⟩
        obtain rfl : before = [] := List.length_eq_zero_iff.mp (by simpa using hfirst _ _ hoccurs)
        rw [← versionAt?_eq_some_iff, hhere] at hbefore
        exact Option.some.inj hbefore
    | none =>
      rw [Option.orElse_none, ih]
      -- All that occurs does so behind the first character.
      have hcons {version' before' : List Char} : Occurs version' before' (c :: cs) ↔
          ∃ before'', before' = c :: before'' ∧ Occurs version' before'' cs := by
        rw [occurs_cons_iff, hhere]
        simp
      constructor
      · rintro ⟨before, hbefore, hfirst⟩
        refine ⟨c :: before, hcons.mpr ⟨before, rfl, hbefore⟩, fun version' before' hother => ?_⟩
        obtain ⟨before'', rfl, hbehind⟩ := hcons.mp hother
        simpa using hfirst version' before'' hbehind
      · rintro ⟨_, hoccurs, hfirst⟩
        obtain ⟨before, rfl, hbehind⟩ := hcons.mp hoccurs
        refine ⟨before, hbehind, fun version' before' hother => ?_⟩
        simpa using hfirst version' _ (hcons.mpr ⟨before', rfl, hother⟩)

theorem isSome_findVersion?_iff {cs : List Char} :
    (findVersion? cs).isSome ↔ ∃ version before, Occurs version before cs := by
  constructor
  · intro h
    obtain ⟨version, hfind⟩ := Option.isSome_iff_exists.mp h
    obtain ⟨before, hoccurs, -⟩ := findVersion?_eq_some_iff.mp hfind
    exact ⟨version, before, hoccurs⟩
  · rintro ⟨version, before, hoccurs⟩
    induction cs generalizing before with
    | nil => exact absurd hoccurs not_occurs_nil
    | cons c cs ih =>
      rw [findVersion?]
      rcases occurs_cons_iff.mp hoccurs with ⟨-, hhere⟩ | ⟨before, -, hoccurs⟩
      · rw [hhere]
        rfl
      · cases versionAt? (c :: cs) with
        | some here => rfl
        | none => exact ih before hoccurs

/-! ## Slashes between candidates -/

/-- What stands before a slash and holds none ends no later than another slash. -/
theorem exists_append_slash {text after lead rest : List Char} (htext : '/' ∉ text)
    (h : text ++ '/' :: after = lead ++ '/' :: rest) :
    ∃ after', lead ++ ['/'] = text ++ '/' :: after' := by
  rcases List.append_eq_append_iff.mp h with ⟨more, rfl, hmore⟩ | ⟨more, rfl, hmore⟩
  · cases more with
    | nil => exact ⟨[], by simp⟩
    | cons c more =>
      obtain rfl : '/' = c := (List.cons.inj hmore).1
      exact ⟨more ++ ['/'], by simp⟩
  · cases more with
    | nil => exact ⟨[], by simp⟩
    | cons c more =>
      obtain rfl : '/' = c := (List.cons.inj hmore).1
      simp at htext

/-- Of a text that begins with a version only the part up to its next slash is read. -/
theorem versionAt?_append (c : Char) (lead rest : List Char) :
    versionAt? (c :: lead ++ '/' :: rest) = versionAt? (c :: lead ++ ['/']) := by
  ext version
  rw [versionAt?_eq_some_iff, versionAt?_eq_some_iff]
  constructor
  · rintro ⟨hversion, after, htext⟩
    obtain ⟨rfl, hlead⟩ : c = '/' ∧ lead ++ '/' :: rest = 'v' :: version ++ '/' :: after := by
      simpa using htext
    have hslash : '/' ∉ 'v' :: version := by simp [slash_notMem hversion]
    obtain ⟨after', hafter⟩ := exists_append_slash hslash hlead.symm
    exact ⟨hversion, after', by simpa using hafter⟩
  · rintro ⟨hversion, after, htext⟩
    obtain ⟨rfl, hlead⟩ : c = '/' ∧ lead ++ ['/'] = 'v' :: version ++ '/' :: after := by
      simpa using htext
    refine ⟨hversion, after ++ rest, ?_⟩
    have hrest := congrArg (· ++ rest) hlead
    simpa using hrest

/-- A slash parts what is found before it, up to the slash itself, from what is found at it or
after it. -/
theorem findVersion?_append (lead rest : List Char) :
    findVersion? (lead ++ '/' :: rest) =
      (findVersion? (lead ++ ['/'])).orElse fun _ => findVersion? ('/' :: rest) := by
  induction lead with
  | nil =>
    have hnone : findVersion? ([] ++ ['/']) = none := rfl
    rw [hnone]
    rfl
  | cons c lead ih =>
    have hhere := versionAt?_append c lead rest
    rw [List.cons_append, List.cons_append] at hhere ⊢
    rw [findVersion?, findVersion?, hhere, ih]
    cases versionAt? (c :: (lead ++ ['/'])) <;> rfl

/-! ## Main result -/

/-- An identifier has a version just if one occurs in it, and then it is the one that occurs first.
Whatever comes before a slash, a version that begins at this slash or after it is found, unless
one is found up to the slash. -/
theorem version?_isEarliest :
    (∀ identifier, (version? identifier).isSome ↔
      ∃ version before, Occurs version before identifier.toList) ∧
    (∀ identifier version, version? identifier = some version ↔
      ∃ before, Occurs version.toList before identifier.toList ∧
        ∀ version' before', Occurs version' before' identifier.toList →
          before.length ≤ before'.length) ∧
    ∀ lead rest : String, version? (lead ++ "/" ++ rest) =
      (version? (lead ++ "/")).orElse fun _ => version? ("/" ++ rest) := by
  refine ⟨fun identifier => ?_, fun identifier version => ?_, fun lead rest => ?_⟩
  · rw [version?, Option.isSome_map, isSome_findVersion?_iff]
  · rw [version?, ← findVersion?_eq_some_iff, Option.map_eq_some_iff]
    constructor
    · rintro ⟨text, hfind, rfl⟩
      rw [hfind, String.toList_ofList]
    · intro hfind
      exact ⟨version.toList, hfind, String.ofList_toList⟩
  · have htext : (lead ++ "/" ++ rest).toList = lead.toList ++ '/' :: rest.toList := by simp
    rw [version?, version?, version?, htext, findVersion?_append]
    have hlead : (lead ++ "/").toList = lead.toList ++ ['/'] := by simp
    have hrest : ("/" ++ rest).toList = '/' :: rest.toList := by simp
    rw [hlead, hrest]
    cases findVersion? (lead.toList ++ ['/']) <;> rfl

/-- Candidates that fail, even at the slash that the version begins with, hide nothing. -/
example : version? "//v1.2/vv1.2.3/v1.2.3.4/v5.6.7/a/v8.9.0/" = some "5.6.7" := by decide

end Folio.Schema
