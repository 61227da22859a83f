import Folio.Proofs.Settings.BaseUrl
import Folio.Proofs.Yaml.Remarks

/-!
# Merging of settings

Settings are made of what is asked for directly, of what the settings file says and of defaults, in
this order. Only relative paths of the file are anchored, namely at its own directory. Faults come in
an order as well: first those of the file as such, then a base that is not a web address, and then a
name that no directory can have. No fault is forgiven because the field that has it is overridden.

A file with nothing but a null in it acts as no file, and so does one with nothing but comments.

**Deviation.** A file with nothing but comments is refused if a line of it begins with blanks and a
tab is among them. It acts as no file iff there is no such line.

Main definitions:

* `FileSettings.Says`: what is written in the file at a path.
* `Settings.Consulted`: what is written in the file that is asked for, and where that file is.
* `Settings.IsMerge`: the settings that overrides and such contents make up.
* `Settings.IsFault`: why there are no settings.

Main result:

* `Settings.resolve_isMerge`: when there are settings and which, which fault is told otherwise, and
  which files make no difference.
-/

namespace Folio

namespace FileSettings

variable {fs : FileSystem} {path : String} {text : List Char} {contents : FileSettings}

@[simp] theorem relativeTo_excluded (contents : FileSettings) (dir : String) :
    (contents.relativeTo dir).excluded = contents.excluded := rfl

@[simp] theorem relativeTo_baseUrl (contents : FileSettings) (dir : String) :
    (contents.relativeTo dir).baseUrl = contents.baseUrl := rfl

/-- The text of a settings file. A mark at its beginning does not belong to it. -/
def HasText (fs : FileSystem) (path : String) (text : List Char) : Prop :=
  ∃ bytes raw, fs.readFile path = .ok bytes ∧ bytes.length ≤ fileLimit ∧
    Text.Utf8.decode? bytes = some raw ∧ text = (Text.dropLead ['\ufeff'] raw).getD raw

/-- What is written in the file at a path. -/
def Says (fs : FileSystem) (path : String) (contents : FileSettings) : Prop :=
  ∃ text value, HasText fs path text ∧ Yaml.parse text = .ok value ∧ ofValue value = .ok contents

theorem load_of_says (h : Says fs path contents) :
    load fs path = .ok (contents.relativeTo (Path.parent path)) := by
  obtain ⟨text, value, ⟨bytes, raw, hbytes, hlength, hraw, rfl⟩, hvalue, hcontents⟩ := h
  simp only [load, hbytes, if_neg (Nat.not_lt.mpr hlength), hraw, hvalue, hcontents]

theorem load_of_malformed {e : Yaml.Error} (htext : HasText fs path text)
    (h : Yaml.parse text = .error e) : load fs path = .error (.yaml path e) := by
  obtain ⟨bytes, raw, hbytes, hlength, hraw, rfl⟩ := htext
  simp only [load, hbytes, if_neg (Nat.not_lt.mpr hlength), hraw, h]

/-- What is loaded is what the file says, with its paths anchored. -/
theorem load_eq_ok_iff {file : FileSettings} :
    load fs path = .ok file ↔
      ∃ contents, Says fs path contents ∧ file = contents.relativeTo (Path.parent path) := by
  constructor
  · intro h
    rw [load] at h
    split at h
    · cases h
    next bytes hbytes =>
    split at h
    · cases h
    next hlength =>
    split at h
    · cases h
    next raw hraw =>
    split at h
    · cases h
    next value hvalue =>
    split at h
    · cases h
    next contents hcontents =>
    have htext : HasText fs path ((Text.dropLead ['\ufeff'] raw).getD raw) :=
      ⟨bytes, raw, hbytes, Nat.not_lt.mp hlength, hraw, rfl⟩
    exact ⟨contents, ⟨_, value, htext, hvalue, hcontents⟩, (Except.ok.inj h).symm⟩
  · rintro ⟨contents, hsays, rfl⟩
    exact load_of_says hsays

end FileSettings

namespace Settings

open FileSettings (HasText Says)

/-! ## What the settings are made of -/

/-- What is written in the file that is asked for, and the directory of that file. Nothing is
written if no file is asked for. -/
inductive Consulted (fs : FileSystem) (overrides : Overrides) : FileSettings → String → Prop
  | none : overrides.config = none → Consulted fs overrides .empty ""
  | file {path : String} {contents : FileSettings} : overrides.config = some path →
      Says fs path contents → Consulted fs overrides contents (Path.parent path)

/-- The base of links, if there is one, is a web address. -/
def HasAddress (contents : FileSettings) : Prop :=
  ∀ raw, contents.baseUrl = some raw → IsAddress (trimUrl raw.toList)

/-- A name that a directory can have. -/
def IsBareName (name : String) : Prop := name ≠ "" ∧ '/' ∉ name.toList ∧ '\\' ∉ name.toList

/-- Excluded categories, if there are some, have names that a directory can have. -/
def HasBareNames (contents : FileSettings) : Prop :=
  ∀ names, contents.excluded = some names → ∀ name ∈ names, IsBareName name

/-- The path that is asked for, or else the one that a file of a directory says, or else a third. -/
def choosePath (dir fallback : String) (asked written : Option String) : String :=
  match asked, written with
  | some path, _ => path
  | none, some path => if Path.isAbsolute path then path else Path.join dir path
  | none, none => fallback

/-- The settings that overrides and the contents of a file of a directory make up. -/
structure IsMerge (overrides : Overrides) (contents : FileSettings) (dir : String)
    (settings : Settings) : Prop where
  root : settings.root = choosePath dir "../specifications" overrides.root contents.root
  blogDir : settings.blogDir = choosePath dir "content/blog" overrides.blogDir contents.blogDir
  excluded : settings.excluded = contents.excluded.getD ["contracts"]
  baseUrl : settings.baseUrl.map String.toList =
    contents.baseUrl.map fun raw => trimUrl raw.toList
  filter : settings.filter = .ofEnvironment overrides.environment

/-- What is wrong with the contents of a file. A base is looked at before the names, and these one
after the other. -/
inductive HasFault (contents : FileSettings) : SettingsError → Prop
  | baseUrl {raw : String} : contents.baseUrl = some raw → ¬IsAddress (trimUrl raw.toList) →
      HasFault contents (.badBaseUrl raw)
  | exclusion {before after : List String} {name : String} : HasAddress contents →
      contents.excluded = some (before ++ name :: after) → (∀ other ∈ before, IsBareName other) →
      ¬IsBareName name → HasFault contents (.badExclusion name)

/-- Why there are no settings. -/
inductive IsFault (fs : FileSystem) (overrides : Overrides) : SettingsError → Prop
  | load {path : String} {e : SettingsError} : overrides.config = some path →
      FileSettings.load fs path = .error e → IsFault fs overrides e
  | contents {contents : FileSettings} {dir : String} {e : SettingsError} :
      Consulted fs overrides contents dir → HasFault contents e → IsFault fs overrides e

/-- Contents that differ only in paths that are overridden. -/
structure AgreeUnless (overrides : Overrides) (contents contents' : FileSettings) : Prop where
  root : overrides.root = none → contents.root = contents'.root
  blogDir : overrides.blogDir = none → contents.blogDir = contents'.blogDir
  excluded : contents.excluded = contents'.excluded
  baseUrl : contents.baseUrl = contents'.baseUrl

/-- The file at a path makes no difference. -/
def IsIdle (fs : FileSystem) (overrides : Overrides) (path : String) : Prop :=
  resolve fs { overrides with config := some path } = resolve fs { overrides with config := none }

/-! ## The contents of a file -/

section

variable {fs : FileSystem} {overrides : Overrides} {contents : FileSettings} {dir : String}
  {settings : Settings}

theorem isCategoryName_iff {name : String} : isCategoryName name ↔ IsBareName name := by
  simp [isCategoryName, IsBareName, and_assoc]

theorem baseUrlOf_eq_error_iff {raw : String} {e : SettingsError} :
    baseUrlOf raw = .error e ↔ ¬IsAddress (trimUrl raw.toList) ∧ e = .badBaseUrl raw := by
  have haddress : IsAddress (trimUrl raw.toList) ↔ ∃ base, baseUrlOf raw = .ok base := by
    simp only [baseUrlOf_eq_ok_iff, exists_and_left]
    exact (and_iff_left ⟨.ofList (trimUrl raw.toList), String.toList_ofList⟩).symm
  rw [haddress]
  simp only [baseUrlOf]
  split <;> simp [eq_comm]

theorem mapM_baseUrlOf_eq_ok_iff {base? : Option String} :
    contents.baseUrl.mapM baseUrlOf = .ok base? ↔ HasAddress contents ∧
      base?.map String.toList = contents.baseUrl.map fun raw => trimUrl raw.toList := by
  unfold HasAddress
  cases contents.baseUrl with
  | none => cases base? <;> simp [pure, Except.pure]
  | some raw =>
    have hmap : (some raw).mapM baseUrlOf = .ok base? ↔
        ∃ base, baseUrlOf raw = .ok base ∧ base? = some base := by
      rw [Option.mapM_some]
      cases baseUrlOf raw <;> simp [Functor.map, Except.map, eq_comm]
    rw [hmap]
    simp only [baseUrlOf_eq_ok_iff, Option.some.injEq, forall_eq', Option.map_some]
    constructor
    · rintro ⟨base, ⟨haddress, hbase⟩, rfl⟩
      exact ⟨haddress, congrArg some hbase⟩
    · rintro ⟨haddress, hbase⟩
      obtain ⟨base, rfl, htrim⟩ := Option.map_eq_some_iff.mp hbase
      exact ⟨base, ⟨haddress, htrim⟩, rfl⟩

theorem mapM_baseUrlOf_eq_error_iff {e : SettingsError} :
    contents.baseUrl.mapM baseUrlOf = .error e ↔
      ∃ raw, contents.baseUrl = some raw ∧ ¬IsAddress (trimUrl raw.toList) ∧
        e = .badBaseUrl raw := by
  cases contents.baseUrl with
  | none => simp [pure, Except.pure]
  | some raw =>
    have hmap : (some raw).mapM baseUrlOf = .error e ↔ baseUrlOf raw = .error e := by
      rw [Option.mapM_some]
      cases baseUrlOf raw <;> simp [Functor.map, Except.map]
    rw [hmap, baseUrlOf_eq_error_iff]
    simp

/-- The names that are checked are those of the file: the default is one that a directory can
have. -/
theorem find?_excluded_eq_none_iff :
    ((contents.excluded.getD Catalog.defaultExcluded).find? fun name => !isCategoryName name) =
      none ↔ HasBareNames contents := by
  unfold HasBareNames
  cases contents.excluded with
  | none =>
    have hdefault : (Catalog.defaultExcluded.find? fun name => !isCategoryName name) = none := by
      decide
    simp [hdefault]
  | some names => simp [isCategoryName_iff]

theorem find?_excluded_eq_some_iff {name : String} :
    ((contents.excluded.getD Catalog.defaultExcluded).find? fun name => !isCategoryName name) =
      some name ↔ ∃ before after, contents.excluded = some (before ++ name :: after) ∧
        (∀ other ∈ before, IsBareName other) ∧ ¬IsBareName name := by
  cases hexcluded : contents.excluded with
  | none =>
    have hdefault : (Catalog.defaultExcluded.find? fun name => !isCategoryName name) = none := by
      decide
    simp [hdefault]
  | some names =>
    rw [Option.getD_some, List.find?_eq_some_iff_append]
    simp only [Bool.not_eq_true', Bool.not_not, isCategoryName_iff, ← Bool.not_eq_true,
      Option.some.injEq]
    constructor
    · rintro ⟨hname, before, after, hnames, hbefore⟩
      exact ⟨before, after, hnames, hbefore, hname⟩
    · rintro ⟨before, after, hnames, hbefore, hname⟩
      exact ⟨hname, before, after, hnames, hbefore⟩

theorem getD_join (dir fallback : String) (asked written : Option String) :
    (asked <|> written.map (Path.join dir)).getD fallback =
      choosePath dir fallback asked written := by
  cases asked with
  | some path => rfl
  | none =>
    cases written with
    | none => rfl
    | some path =>
      show Path.join dir path = if Path.isAbsolute path then path else Path.join dir path
      split
      · next h => rw [Path.join, if_pos h]
      · rfl

theorem ofFile_eq_ok_iff :
    ofFile overrides (contents.relativeTo dir) = .ok settings ↔
      HasAddress contents ∧ HasBareNames contents ∧ IsMerge overrides contents dir settings := by
  rw [ofFile, bind_eq_ok_iff]
  simp only [FileSettings.relativeTo_baseUrl, FileSettings.relativeTo_excluded,
    mapM_baseUrlOf_eq_ok_iff]
  constructor
  · rintro ⟨base?, ⟨haddress, hbase⟩, h⟩
    split at h
    · cases h
    · next hnames =>
      obtain rfl := Except.ok.inj h
      exact ⟨haddress, find?_excluded_eq_none_iff.mp hnames,
        ⟨getD_join .., getD_join .., rfl, hbase, rfl⟩⟩
  · rintro ⟨haddress, hnames, hmerge⟩
    refine ⟨settings.baseUrl, ⟨haddress, hmerge.baseUrl⟩, ?_⟩
    rw [find?_excluded_eq_none_iff.mpr hnames]
    obtain ⟨root, blogDir, excluded, baseUrl, filter⟩ := settings
    obtain ⟨rfl, rfl, rfl, -, rfl⟩ := hmerge
    simp only [← getD_join]
    rfl

theorem ofFile_eq_error_iff {e : SettingsError} :
    ofFile overrides (contents.relativeTo dir) = .error e ↔ HasFault contents e := by
  rw [ofFile]
  simp only [FileSettings.relativeTo_baseUrl, FileSettings.relativeTo_excluded]
  cases hbase : contents.baseUrl.mapM baseUrlOf with
  | error e' =>
    obtain ⟨raw, hraw, haddress, rfl⟩ := mapM_baseUrlOf_eq_error_iff.mp hbase
    constructor
    · intro h
      obtain rfl := Except.error.inj h
      exact .baseUrl hraw haddress
    · intro h
      cases h with
      | baseUrl hraw' _ =>
        obtain rfl := Option.some.inj (hraw.symm.trans hraw')
        rfl
      | exclusion hall _ _ _ => exact absurd (hall raw hraw) haddress
  | ok base? =>
    obtain ⟨haddress, -⟩ := mapM_baseUrlOf_eq_ok_iff.mp hbase
    simp only [bind, Except.bind]
    constructor
    · intro h
      split at h
      · next name hname =>
        obtain rfl := Except.error.inj h
        obtain ⟨before, after, hnames, hbefore, hbad⟩ := find?_excluded_eq_some_iff.mp hname
        exact .exclusion haddress hnames hbefore hbad
      · cases h
    · intro h
      cases h with
      | baseUrl hraw hnot => exact absurd (haddress _ hraw) hnot
      | exclusion _ hnames hbefore hbad =>
        rw [find?_excluded_eq_some_iff.mpr ⟨_, _, hnames, hbefore, hbad⟩]

/-- A path of the file that is overridden does not count. -/
theorem ofFile_congr {contents' : FileSettings} (h : AgreeUnless overrides contents contents') :
    ofFile overrides (contents.relativeTo dir) = ofFile overrides (contents'.relativeTo dir) := by
  have hroot : (overrides.root <|> contents.root.map (Path.join dir)) =
      (overrides.root <|> contents'.root.map (Path.join dir)) := by
    cases hasked : overrides.root with
    | none => rw [h.root hasked]
    | some path => rfl
  have hblogDir : (overrides.blogDir <|> contents.blogDir.map (Path.join dir)) =
      (overrides.blogDir <|> contents'.blogDir.map (Path.join dir)) := by
    cases hasked : overrides.blogDir with
    | none => rw [h.blogDir hasked]
    | some path => rfl
  simp only [ofFile, FileSettings.relativeTo, hroot, hblogDir, h.excluded, h.baseUrl]

/-! ## The file that is asked for -/

theorem resolve_of_load_error {path : String} {e : SettingsError}
    (hconfig : overrides.config = some path) (hload : FileSettings.load fs path = .error e) :
    resolve fs overrides = .error e := by
  simp only [resolve, hconfig, hload]
  rfl

theorem resolve_of_consulted (h : Consulted fs overrides contents dir) :
    resolve fs overrides = ofFile overrides (contents.relativeTo dir) := by
  cases h with
  | none hconfig =>
    simp only [resolve, hconfig]
    rfl
  | file hconfig hsays => exact resolve_of_load hconfig (FileSettings.load_of_says hsays)

theorem exists_consulted_or (fs : FileSystem) (overrides : Overrides) :
    (∃ contents dir, Consulted fs overrides contents dir) ∨
      ∃ path e, overrides.config = some path ∧ FileSettings.load fs path = .error e := by
  cases hconfig : overrides.config with
  | none => exact .inl ⟨_, _, .none hconfig⟩
  | some path =>
    cases hload : FileSettings.load fs path with
    | error e => exact .inr ⟨path, e, rfl, hload⟩
    | ok file =>
      obtain ⟨contents, hsays, -⟩ := FileSettings.load_eq_ok_iff.mp hload
      exact .inl ⟨contents, _, .file hconfig hsays⟩

theorem resolve_eq_ok_iff :
    resolve fs overrides = .ok settings ↔ ∃ contents dir, Consulted fs overrides contents dir ∧
      HasAddress contents ∧ HasBareNames contents ∧ IsMerge overrides contents dir settings := by
  constructor
  · intro h
    obtain ⟨contents, dir, hconsulted⟩ | ⟨path, e, hconfig, hload⟩ :=
      exists_consulted_or fs overrides
    · rw [resolve_of_consulted hconsulted, ofFile_eq_ok_iff] at h
      exact ⟨contents, dir, hconsulted, h⟩
    · rw [resolve_of_load_error hconfig hload] at h
      cases h
  · rintro ⟨contents, dir, hconsulted, h⟩
    rw [resolve_of_consulted hconsulted, ofFile_eq_ok_iff]
    exact h

theorem resolve_eq_error_iff {e : SettingsError} :
    resolve fs overrides = .error e ↔ IsFault fs overrides e := by
  constructor
  · intro h
    obtain ⟨contents, dir, hconsulted⟩ | ⟨path, e', hconfig, hload⟩ :=
      exists_consulted_or fs overrides
    · rw [resolve_of_consulted hconsulted, ofFile_eq_error_iff] at h
      exact .contents hconsulted h
    · rw [resolve_of_load_error hconfig hload] at h
      obtain rfl := Except.error.inj h
      exact .load hconfig hload
  · intro h
    cases h with
    | load hconfig hload => exact resolve_of_load_error hconfig hload
    | contents hconsulted hfault =>
      rw [resolve_of_consulted hconsulted, ofFile_eq_error_iff]
      exact hfault

theorem exists_isMerge (overrides : Overrides) (contents : FileSettings) (dir : String) :
    ∃ settings, IsMerge overrides contents dir settings := by
  let base? := contents.baseUrl.map fun raw => String.ofList (trimUrl raw.toList)
  have hbase : base?.map String.toList = contents.baseUrl.map fun raw => trimUrl raw.toList := by
    simp [base?, Function.comp_def]
  exact ⟨⟨_, _, _, base?, _⟩, rfl, rfl, rfl, hbase, rfl⟩

/-! ## Files that make no difference -/

section Idle

variable {path : String} {text : List Char}

theorem isIdle_of_null {value : Yaml.Value} (htext : HasText fs path text)
    (hvalue : Yaml.parse text = .ok value) (hnull : value.untagged = .null) :
    IsIdle fs overrides path := by
  have hempty : FileSettings.ofValue value = .ok .empty := by rw [FileSettings.ofValue, hnull]
  have hload := FileSettings.load_of_says ⟨text, value, htext, hvalue, hempty⟩
  rw [IsIdle, resolve_of_load rfl hload]
  rfl

/-- A file of comments makes no difference, unless it is refused for a tab. -/
theorem resolve_remarks (htext : HasText fs path text) (hallowed : text.all Yaml.isAllowed)
    (hremarks : (Yaml.linesOf text).all Yaml.isRemark) :
    if (Yaml.linesOf text).any Yaml.isTabbed then
      ∃ line, resolve fs { overrides with config := some path } =
        .error (.yaml path ⟨.unexpectedCharacter, some line⟩)
    else IsIdle fs overrides path := by
  have hparse := Yaml.parse_remarks hallowed hremarks
  split
  · next htab =>
    rw [if_pos htab] at hparse
    obtain ⟨line, hparse⟩ := hparse
    exact ⟨line, resolve_of_load_error rfl (FileSettings.load_of_malformed htext hparse)⟩
  · next htab =>
    rw [if_neg htab] at hparse
    exact isIdle_of_null htext hparse rfl

end Idle

end

/-! ## Main result -/

/-- There are settings iff the file, if one is asked for, can be loaded, its base is a web address
and its names are bare. They are then made of the overrides, the file and the defaults in this
order, and else the first fault is told. Two files of a directory that differ only in paths that are
overridden do the same. A file that is a null acts as no file, and a file of comments does iff no
line of it begins with a tab among its blanks. -/
theorem resolve_isMerge (fs : FileSystem) (overrides : Overrides) :
    ((∃ settings, resolve fs overrides = .ok settings) ↔
      ∃ contents dir, Consulted fs overrides contents dir ∧ HasAddress contents ∧
        HasBareNames contents) ∧
    (∀ settings, resolve fs overrides = .ok settings ↔
      ∃ contents dir, Consulted fs overrides contents dir ∧ HasAddress contents ∧
        HasBareNames contents ∧ IsMerge overrides contents dir settings) ∧
    (∀ e, resolve fs overrides = .error e ↔ IsFault fs overrides e) ∧
    (∀ fs' path path' contents contents', Says fs path contents → Says fs' path' contents' →
      Path.parent path = Path.parent path' → AgreeUnless overrides contents contents' →
        resolve fs { overrides with config := some path } =
          resolve fs' { overrides with config := some path' }) ∧
    ∀ path text, HasText fs path text →
      (∀ value, Yaml.parse text = .ok value → value.untagged = .null →
        IsIdle fs overrides path) ∧
      (text.all Yaml.isAllowed → (Yaml.linesOf text).all Yaml.isRemark →
        if (Yaml.linesOf text).any Yaml.isTabbed then
          ∃ line, resolve fs { overrides with config := some path } =
            .error (.yaml path ⟨.unexpectedCharacter, some line⟩)
        else IsIdle fs overrides path) := by
  refine ⟨⟨?_, ?_⟩, fun _ => resolve_eq_ok_iff, fun _ => resolve_eq_error_iff, ?_, ?_⟩
  · rintro ⟨settings, h⟩
    obtain ⟨contents, dir, hconsulted, haddress, hnames, -⟩ := resolve_eq_ok_iff.mp h
    exact ⟨contents, dir, hconsulted, haddress, hnames⟩
  · rintro ⟨contents, dir, hconsulted, haddress, hnames⟩
    obtain ⟨settings, hmerge⟩ := exists_isMerge overrides contents dir
    exact ⟨settings, resolve_eq_ok_iff.mpr
      ⟨contents, dir, hconsulted, haddress, hnames, hmerge⟩⟩
  · intro fs' path path' contents contents' hsays hsays' hparent hagree
    rw [resolve_of_load rfl (FileSettings.load_of_says hsays),
      resolve_of_load rfl (FileSettings.load_of_says hsays'), ← hparent]
    exact ofFile_congr ⟨hagree.root, hagree.blogDir, hagree.excluded, hagree.baseUrl⟩
  · intro path text htext
    exact ⟨fun value => isIdle_of_null htext, resolve_remarks htext⟩

/-- A text with nothing but a comment, before which a tab stands. -/
def tabText : List Char := "\t# none\n".toList

/-- The bytes of that text. -/
def tabBytes : List UInt8 := tabText.map fun c => c.toNat.toUInt8

/-- A disk with a settings file of them. -/
def tabDisk : FileSystem := ⟨[("specdex.yaml", .file tabBytes)], []⟩

theorem hasText_tabDisk : HasText tabDisk "specdex.yaml" tabText := by
  have hdecode : Text.Utf8.decode? tabBytes = some tabText := decode?_map_of_ascii (by decide)
  exact ⟨tabBytes, tabText, readFile_lone tabBytes, by decide, hdecode, rfl⟩

/-- That file is refused, though without it there would be settings. -/
theorem resolve_isMerge_tabDisk :
    HasText tabDisk "specdex.yaml" tabText ∧ (Yaml.linesOf tabText).all Yaml.isRemark ∧
    (∃ line, resolve tabDisk ⟨none, none, some "specdex.yaml", none⟩ =
      .error (.yaml "specdex.yaml" ⟨.unexpectedCharacter, some line⟩)) ∧
    ∃ settings, resolve tabDisk ⟨none, none, none, none⟩ = .ok settings := by
  obtain ⟨hok, -, -, -, hfile⟩ := resolve_isMerge tabDisk ⟨none, none, none, none⟩
  obtain ⟨-, hremarks⟩ := hfile _ _ hasText_tabDisk
  refine ⟨hasText_tabDisk, by decide, ?_, hok.mpr ⟨.empty, "", .none rfl, ?_, ?_⟩⟩
  · exact hremarks (by decide) (by decide)
  · rintro raw ⟨⟩
  · rintro names ⟨⟩

end Settings

end Folio
