import Folio.Proofs.FileSystem.Entry
import Folio.Proofs.Outcome
import Folio.Proofs.Text.Trim
import Folio.Proofs.Yaml.Pair
import Folio.Settings.Basic

/-!
# The base of links

A base is trimmed once: of the white space around it, and then of the slashes at its end. So it is a
web address that ends with no slash, and a link is the base and what it stands before.

**Deviation.** White space that stands before those slashes is left at the end of the base. It is
then in the middle of every link, a settings file with that base stands for another base or for
none, and nothing but white space may follow the scheme. This happens just if the text has such a
gap: white space, at least one slash and then nothing but white space.

Main definitions:

* `IsAddress`: what begins like a web address.
* `HasGap`: a text that ends with white space and slashes.
* `Settings.IsClean`: a base that is trimmed as a whole.

Main result:

* `Settings.resolve_baseUrl`: the base of the settings, which is clean, and stands for itself, iff
  the text of the file has no gap.
-/

namespace Folio

open Text (trim dropEndWhile)
open Unicode (isSpace)

namespace Settings

/-- What begins like a web address. -/
def IsAddress (cs : List Char) : Prop := "https://".toList <+: cs ∨ "http://".toList <+: cs

/-- White space before slashes at the end of a text, where white space after these does not
count. -/
def HasGap (raw : List Char) : Prop :=
  ∃ before space slashes after, raw = before ++ space :: slashes ++ after ∧ isSpace space ∧
    slashes ≠ [] ∧ (∀ c ∈ slashes, c = '/') ∧ ∀ c ∈ after, isSpace c

theorem isSpace_slash : isSpace '/' = false := by decide

theorem IsAddress.ne_nil {cs : List Char} (h : IsAddress cs) : cs ≠ [] := by
  rintro rfl
  rcases h with h | h <;> simp at h

theorem IsAddress.head?_eq {cs : List Char} (h : IsAddress cs) : cs.head? = some 'h' := by
  rcases h with ⟨rest, rfl⟩ | ⟨rest, rfl⟩ <;> rfl

/-! ## Trimming -/

theorem getLast?_trimUrl {raw : List Char} : (trimUrl raw).getLast? ≠ some '/' := by
  intro h
  have hslash := Text.getLast?_dropEndWhile h
  simp at hslash

/-- What trimming drops. -/
theorem exists_trimUrl (raw : List Char) :
    ∃ lead slashes trail, raw = lead ++ trimUrl raw ++ slashes ++ trail ∧
      trim raw = trimUrl raw ++ slashes ∧ (∀ c ∈ slashes, c = '/') ∧ ∀ c ∈ trail, isSpace c := by
  obtain ⟨lead, trail, hraw, -, htrail⟩ := Text.exists_trim raw
  obtain ⟨slashes, hslashes, hslash⟩ := Text.exists_dropEndWhile (· == '/') (trim raw)
  refine ⟨lead, slashes, trail, ?_, hslashes, fun c hc => by simpa using hslash c hc, htrail⟩
  rw [List.append_assoc lead, trimUrl, ← hslashes]
  exact hraw

/-- Slashes at the end of a text keep the white space before them from being trimmed. -/
theorem trim_slashes {cs slashes : List Char} (hne : slashes ≠ [])
    (hslashes : ∀ c ∈ slashes, c = '/') :
    trim (cs ++ slashes) = Text.trimStart (cs ++ slashes) := by
  apply Text.dropEndWhile_eq_self
  intro c hc
  have hlast : (cs ++ slashes).getLast? = some c := Text.getLast?_trimStart hc
  rw [List.getLast?_append_of_ne_nil _ hne] at hlast
  rw [hslashes c (List.mem_of_getLast? hlast)]
  exact isSpace_slash

/-- What is left of a text without the white space before it ends as the text does. -/
theorem getLast?_trimStart_concat {before : List Char} {space c : Char}
    (h : (Text.trimStart (before ++ [space])).getLast? = some c) : c = space := by
  have hlast := Text.getLast?_trimStart h
  rw [List.getLast?_concat] at hlast
  exact (Option.some.inj hlast).symm

/-- Of a text with a gap the slashes are dropped, and the white space before them is not. -/
theorem trimUrl_of_gap {before slashes after : List Char} {space : Char} (hspace : isSpace space)
    (hne : slashes ≠ []) (hslashes : ∀ c ∈ slashes, c = '/') (hafter : ∀ c ∈ after, isSpace c) :
    trimUrl (before ++ space :: slashes ++ after) = Text.trimStart (before ++ [space]) := by
  have hhead (c : Char) (hc : slashes.head? = some c) : isSpace c = false := by
    rw [hslashes c (List.mem_of_mem_head? hc)]
    exact isSpace_slash
  have hstart : Text.trimStart (before ++ [space] ++ slashes) =
      Text.trimStart (before ++ [space]) ++ slashes := by
    unfold Text.trimStart
    rw [List.dropWhile_append]
    split
    · next hempty =>
      rw [List.isEmpty_iff.mp hempty, List.nil_append]
      exact Text.trimStart_eq_self hhead
    · rfl
  have hlast (c : Char) (hc : (Text.trimStart (before ++ [space])).getLast? = some c) :
      (c == '/') = false := by
    rw [getLast?_trimStart_concat hc, beq_eq_false_iff_ne]
    rintro rfl
    simp [isSpace_slash] at hspace
  unfold trimUrl
  rw [Text.trim_append _ hafter, List.append_cons, trim_slashes hne hslashes, hstart,
    Text.dropEndWhile_append _ fun c hc => beq_iff_eq.mpr (hslashes c hc),
    Text.dropEndWhile_eq_self hlast]

/-- A gap is left at the end of a text that is trimmed, unless nothing is left. -/
theorem getLast?_trimUrl_isSpace_iff {raw : List Char} (hne : trimUrl raw ≠ []) :
    (∃ c, (trimUrl raw).getLast? = some c ∧ isSpace c) ↔ HasGap raw := by
  constructor
  · rintro ⟨space, hspace, hc⟩
    obtain ⟨lead, slashes, trail, hraw, htrim, hslashes, htrail⟩ := exists_trimUrl raw
    obtain ⟨before, hbefore⟩ := List.getLast?_eq_some_iff.mp hspace
    refine ⟨lead ++ before, space, slashes, trail, ?_, hc, ?_, hslashes, htrail⟩
    · rw [hbefore] at hraw
      simpa using hraw
    · -- Without slashes the text would still be trimmed of white space.
      rintro rfl
      rw [List.append_nil] at htrim
      rw [← htrim] at hspace
      simp [Text.getLast?_trim hspace] at hc
  · rintro ⟨before, space, slashes, after, rfl, hspace, hslashes, hslash, hafter⟩
    rw [trimUrl_of_gap hspace hslashes hslash hafter] at hne ⊢
    have hlast := List.getLast?_eq_some_getLast hne
    refine ⟨_, hlast, ?_⟩
    rw [getLast?_trimStart_concat hlast]
    exact hspace

/-- What is trimmed stays as it is just if it does not end with white space. -/
theorem trimUrl_trimUrl_iff {raw : List Char} (h : IsAddress (trimUrl raw)) :
    trimUrl (trimUrl raw) = trimUrl raw ↔ ¬HasGap raw := by
  rw [← getLast?_trimUrl_isSpace_iff h.ne_nil]
  constructor
  · rintro heq ⟨c, hc, hspace⟩
    obtain ⟨lead, slashes, trail, hbase, htrim, -, -⟩ := exists_trimUrl (trimUrl raw)
    rw [heq] at hbase htrim
    -- Nothing is dropped, so that not even white space at the end is.
    have hlength := congrArg List.length hbase
    simp only [List.length_append] at hlength
    have hslashes : slashes = [] := List.length_eq_zero_iff.mp (by omega)
    rw [hslashes, List.append_nil] at htrim
    rw [← htrim] at hc
    simp [Text.getLast?_trim hc] at hspace
  · intro hnot
    have hhead (c : Char) (hc : (trimUrl raw).head? = some c) : isSpace c = false := by
      rw [h.head?_eq] at hc
      cases hc
      decide
    have hlast (c : Char) (hc : (trimUrl raw).getLast? = some c) : isSpace c = false := by
      rw [← Bool.not_eq_true]
      exact fun hspace => hnot ⟨c, hc, hspace⟩
    have hslash (c : Char) (hc : (trimUrl raw).getLast? = some c) : (c == '/') = false := by
      rw [beq_eq_false_iff_ne]
      rintro rfl
      exact getLast?_trimUrl hc
    rw [trimUrl, Text.trim_eq_self hhead hlast, Text.dropEndWhile_eq_self hslash]

/-! ## The base of the settings -/

theorem baseUrlOf_eq_ok_iff {raw base : String} :
    baseUrlOf raw = .ok base ↔
      IsAddress (trimUrl raw.toList) ∧ base.toList = trimUrl raw.toList := by
  have haddress : ("https://".toList.isPrefixOf (trimUrl raw.toList) ||
      "http://".toList.isPrefixOf (trimUrl raw.toList)) = true ↔
        IsAddress (trimUrl raw.toList) := by
    rw [Bool.or_eq_true, List.isPrefixOf_iff_prefix, List.isPrefixOf_iff_prefix, IsAddress]
  simp only [baseUrlOf]
  split
  · next h =>
    rw [haddress] at h
    constructor
    · rintro ⟨⟩
      exact ⟨h, String.toList_ofList⟩
    · rintro ⟨-, hbase⟩
      rw [← hbase, String.ofList_toList]
  · next h =>
    rw [haddress] at h
    simp [h]

section Resolve

variable {fs : FileSystem} {overrides : Overrides} {path raw : String} {file : FileSettings}
  {settings : Settings}

theorem resolve_of_load (hconfig : overrides.config = some path)
    (hload : FileSettings.load fs path = .ok file) :
    resolve fs overrides = ofFile overrides file := by
  simp only [resolve, hconfig, hload]
  rfl

theorem ofFile_withBaseUrl (overrides : Overrides) (file : FileSettings) (raw : String) :
    ofFile overrides { file with baseUrl := some raw } = (do
      let base ← baseUrlOf raw
      let settings ← ofFile overrides { file with baseUrl := none }
      .ok { settings with baseUrl := some base }) := by
  cases hbase : baseUrlOf raw with
  | error e => simp [ofFile, hbase, bind, Except.bind]
  | ok base =>
    simp only [ofFile, Option.mapM_some, Option.mapM_none, hbase]
    cases hbad : (file.excluded.getD Catalog.defaultExcluded).find? fun name =>
        !isCategoryName name with
    | some name => simp [bind, Except.bind, pure, Except.pure]
    | none => simp [bind, Except.bind, pure, Except.pure]

/-! ## Clean bases -/

/-- A base without white space at either end, in which something follows the scheme. In a link no
slash and no white space comes before the slash that the base stands before. -/
structure IsClean (settings : Settings) (base : String) : Prop where
  trim_eq : trim base.toList = base.toList
  rest : ∃ scheme ∈ ["https://".toList, "http://".toList], ∃ rest,
    base.toList = scheme ++ rest ∧ ∃ c ∈ rest, isSpace c = false
  junction : ∀ href : String, href.toList.head? = some '/' → ∃ before c,
    settings.link href = .ofList (before ++ [c]) ++ href ∧ c ≠ '/' ∧ isSpace c = false

theorem exists_rest {base : List Char} (haddress : IsAddress base)
    (hslash : base.getLast? ≠ some '/') {c : Char} (hc : base.getLast? = some c)
    (hspace : isSpace c = false) :
    ∃ scheme ∈ ["https://".toList, "http://".toList], ∃ rest,
      base = scheme ++ rest ∧ ∃ c ∈ rest, isSpace c = false := by
  obtain ⟨scheme, hscheme, rest, rfl⟩ :
      ∃ scheme ∈ ["https://".toList, "http://".toList], scheme <+: base := by
    rcases haddress with h | h
    · exact ⟨_, by simp, h⟩
    · exact ⟨_, by simp, h⟩
  have hrest : rest ≠ [] := by
    -- Either scheme ends with a slash.
    rintro rfl
    rw [List.append_nil] at hslash
    rcases List.mem_pair.mp hscheme with rfl | rfl <;> exact hslash rfl
  rw [List.getLast?_append_of_ne_nil _ hrest] at hc
  exact ⟨scheme, hscheme, rest, rfl, c, List.mem_of_getLast? hc, hspace⟩

theorem isClean_iff {base : String} (hsettings : settings.baseUrl = some base)
    (haddress : IsAddress base.toList) (hslash : base.toList.getLast? ≠ some '/') :
    settings.IsClean base ↔ ∀ c, base.toList.getLast? = some c → isSpace c = false := by
  constructor
  · rintro ⟨htrim, -, -⟩ c hc
    rw [← htrim] at hc
    exact Text.getLast?_trim hc
  · intro hlast
    have hhead (c : Char) (hc : base.toList.head? = some c) : isSpace c = false := by
      rw [haddress.head?_eq] at hc
      cases hc
      decide
    obtain ⟨before, c, hbase⟩ :=
      (List.eq_nil_or_concat' base.toList).resolve_left haddress.ne_nil
    have hc : base.toList.getLast? = some c := by rw [hbase, List.getLast?_concat]
    refine ⟨Text.trim_eq_self hhead hlast, ?_, ?_⟩
    · exact exists_rest haddress hslash hc (hlast c hc)
    · intro href _
      refine ⟨before, c, ?_, ?_, hlast c hc⟩
      · rw [← hbase, String.ofList_toList, link, hsettings, Option.getD_some]
      · rintro rfl
        exact hslash hc

/-! ## Main result -/

/-- The base of the settings is a web address without a slash at its end, and a link is the base
with what it stands before. It is clean, and stands for itself in a settings file, iff the text that
it is made from has no gap. -/
theorem resolve_baseUrl (hconfig : overrides.config = some path)
    (hload : FileSettings.load fs path = .ok file) (hraw : file.baseUrl = some raw)
    (h : resolve fs overrides = .ok settings) :
    ∃ base, settings.baseUrl = some base ∧ IsAddress base.toList ∧
      base.toList.getLast? ≠ some '/' ∧ (∀ href, settings.link href = base ++ href) ∧
      (settings.IsClean base ↔ ¬HasGap raw.toList) ∧
      ∀ fs', FileSettings.load fs' path = .ok { file with baseUrl := some base } →
        (resolve fs' overrides = .ok settings ↔ ¬HasGap raw.toList) := by
  have hfile : file = { file with baseUrl := some raw } := by rw [← hraw]
  rw [resolve_of_load hconfig hload, hfile, ofFile_withBaseUrl] at h
  obtain ⟨base, hbase, h⟩ := bind_eq_ok_iff.mp h
  obtain ⟨others, hothers, h⟩ := bind_eq_ok_iff.mp h
  obtain rfl : { others with baseUrl := some base } = settings := Except.ok.inj h
  obtain ⟨haddress, htrim⟩ := baseUrlOf_eq_ok_iff.mp hbase
  have hgap := getLast?_trimUrl_isSpace_iff haddress.ne_nil
  have hagain := trimUrl_trimUrl_iff haddress
  have hslash : (trimUrl raw.toList).getLast? ≠ some '/' := getLast?_trimUrl
  rw [← htrim] at haddress hgap hslash hagain
  refine ⟨base, rfl, haddress, hslash, fun href => rfl, ?_, ?_⟩
  · rw [isClean_iff rfl haddress hslash, ← hgap]
    simp
  · intro fs' hload'
    rw [resolve_of_load hconfig hload', ofFile_withBaseUrl, hothers, ← hagain]
    constructor
    · intro hsame
      obtain ⟨base', hbase', hsame⟩ := bind_eq_ok_iff.mp hsame
      obtain rfl : base' = base := by
        simpa using congrArg Settings.baseUrl (Except.ok.inj hsame)
      exact (baseUrlOf_eq_ok_iff.mp hbase').2.symm
    · intro hfixed
      have hbase' : baseUrlOf base = .ok base :=
        baseUrlOf_eq_ok_iff.mpr ⟨by rwa [hfixed], hfixed.symm⟩
      rw [hbase']
      rfl

end Resolve

/-- The text of a settings file in which white space comes before the slash of a base. -/
def gapText : List Char := "base_url: https://example.org /\n".toList

/-- The bytes of that file. -/
def gapBytes : List UInt8 := gapText.map fun c => c.toNat.toUInt8

/-- A disk with that file. -/
def gapDisk : FileSystem := ⟨[("specdex.yaml", .file gapBytes)], []⟩

/-- Overrides that name it. -/
def gapOverrides : Overrides := ⟨none, none, some "specdex.yaml", none⟩

theorem parse_gapText : Yaml.parse gapText =
    .ok (.mapping [(.string "base_url", .string "https://example.org /")]) := by
  have hdocument : Yaml.Document.ofTokens (Yaml.tokensOf gapText).1 (Yaml.tokensOf gapText).2 =
      Yaml.pair "base_url".toList "https://example.org /".toList := rfl
  have hvalue : (Yaml.pair "base_url".toList "https://example.org /".toList).value =
      .ok (.mapping [(.string "base_url", .string "https://example.org /")]) :=
    Yaml.value_pair rfl rfl
  simp only [Yaml.parse, hdocument, hvalue, bind, Except.bind]
  rfl

/-- Characters below 128 are written as one byte each. -/
theorem decode?_map_of_ascii {cs : List Char} (h : cs.all fun c => c.toNat < 0x80) :
    Text.Utf8.decode? (cs.map fun c => c.toNat.toUInt8) = some cs := by
  have hsmall (c : Char) (hc : c ∈ cs) : c.toNat < 0x80 := by
    simpa using List.all_eq_true.mp h c hc
  have hbyte (c : Char) (hc : c ∈ cs) : c.toNat.toUInt8.toNat = c.toNat := by
    have hlt := hsmall c hc
    rw [Nat.toUInt8_eq, UInt8.toNat_ofNat', Nat.mod_eq_of_lt]
    omega
  have hascii : ∀ b ∈ cs.map fun c => c.toNat.toUInt8, b.toNat < 0x80 := by
    intro b hb
    obtain ⟨c, hc, rfl⟩ := List.mem_map.mp hb
    rw [hbyte c hc]
    exact hsmall c hc
  have hchar (c : Char) (hc : c ∈ cs) : Char.ofNat c.toNat.toUInt8.toNat = c := by
    rw [hbyte c hc, Char.ofNat_toNat]
  rw [Text.Utf8.decode?_of_ascii hascii, List.map_map, Option.some_inj]
  exact (List.map_congr_left hchar).trans (List.map_id cs)

/-- A file that is alone on a disk is read by its name. -/
theorem readFile_lone (bytes : List UInt8) :
    FileSystem.readFile ⟨[("specdex.yaml", .file bytes)], []⟩ "specdex.yaml" = .ok bytes := by
  have hsteps : FileSystem.steps "specdex.yaml" = ["specdex.yaml"] := by decide
  rw [FileSystem.readFile_eq_ok_iff, FileSystem.locate_eq_ok_iff, hsteps]
  refine ⟨by decide, by decide, by decide, ?_⟩
  exact FileSystem.follow_file (by decide) (by decide) (by decide) rfl _ []

theorem load_gapDisk : FileSettings.load gapDisk "specdex.yaml" =
    .ok ⟨none, none, none, some "https://example.org /"⟩ := by
  have hdecode : Text.Utf8.decode? gapBytes = some gapText := decode?_map_of_ascii (by decide)
  have hmark : (Text.dropLead ['\ufeff'] gapText).getD gapText = gapText := rfl
  have hread : gapDisk.readFile "specdex.yaml" = .ok gapBytes := readFile_lone gapBytes
  simp only [FileSettings.load, hread, hdecode, hmark, parse_gapText]
  rfl

/-- The base ends with the white space that comes before the slash. -/
theorem resolve_baseUrl_gapDisk :
    ∃ settings, resolve gapDisk gapOverrides = .ok settings ∧
      settings.baseUrl = some "https://example.org " ∧
      HasGap "https://example.org /".toList ∧ ¬settings.IsClean "https://example.org " := by
  have hgap : HasGap "https://example.org /".toList :=
    ⟨"https://example.org".toList, ' ', ['/'], [], by decide, by decide, by decide,
      fun c hc => List.mem_singleton.mp hc, by simp⟩
  have hresolve : resolve gapDisk gapOverrides =
      ofFile gapOverrides ⟨none, none, none, some "https://example.org /"⟩ :=
    resolve_of_load rfl load_gapDisk
  obtain ⟨base, hbase, -, -, -, hclean, -⟩ := resolve_baseUrl rfl load_gapDisk rfl hresolve
  cases hbase
  exact ⟨_, hresolve, rfl, hgap, fun h => hclean.mp h hgap⟩

end Settings

end Folio
