import Folio.Proofs.Metadata.Extension

/-!
# Metadata of schemas, all or nothing

The metadata of a schema are read from its text or made from its file name. Nothing is taken from a
text that cannot be read: one that is not JSON, that is null, or whose identifier is neither a
string nor null. Every other value has metadata, whatever its shape.

Main definitions:

* `Json.Holds`: the member of an object under a name, of several the last.
* `Schema.IsUnreadable`: the texts that no metadata are read from.
* `Schema.IsMetadata`: the metadata of a value, field by field.

Main result:

* `ofFile_allOrNothing`: what is read from a schema file, and its status.
-/

namespace Folio

/-! ## Members -/

/-- A member of an object under a name. Of several members of that name it is the last. -/
def Json.Holds (value : Json) (name : String) (member : Json) : Prop :=
  ∃ before after, value = .object (before ++ (name, member) :: after) ∧
    ∀ other ∈ after, other.1 ≠ name

theorem Json.member?_eq_some_iff {value member : Json} {name : String} :
    value.member? name = some member ↔ value.Holds name member := by
  cases value with
  | object members =>
    unfold member? Holds
    rw [List.lookup_eq_some_iff]
    constructor
    · rintro ⟨after, before, hmembers, hafter⟩
      refine ⟨before.reverse, after.reverse, ?_, ?_⟩
      · rw [← List.reverse_reverse members, hmembers]
        simp
      · intro other hother
        exact (bne_iff_ne.mp (hafter other (List.mem_reverse.mp hother))).symm
    · rintro ⟨before, after, hobject, hafter⟩
      cases hobject
      refine ⟨after.reverse, before.reverse, by simp, ?_⟩
      intro other hother
      exact bne_iff_ne.mpr (hafter other (List.mem_reverse.mp hother)).symm
  | _ => simp [member?, Holds]

theorem Json.bind_text?_eq_some_iff {value : Json} {name text : String} :
    (value.member? name).bind text? = some text ↔ value.Holds name (.string text) := by
  rw [← member?_eq_some_iff]
  cases value.member? name with
  | none => simp
  | some member => cases member <;> simp [text?]

namespace Schema

/-! ## Texts without metadata -/

/-- What no metadata are read from. -/
inductive IsUnreadable (content : String) : Prop where
  | malformed (h : Json.parse? content.toList = none)
  | null (h : Json.parse? content.toList = some .null)
  | identifier (value identifier : Json) (h : Json.parse? content.toList = some value)
      (hheld : value.Holds "$id" identifier) (htext : ∀ text, identifier ≠ .string text)
      (hnull : identifier ≠ .null)

theorem hasMalformedId_iff {value : Json} :
    hasMalformedId value ↔ ∃ identifier, value.Holds "$id" identifier ∧
      (∀ text, identifier ≠ .string text) ∧ identifier ≠ .null := by
  simp only [← Json.member?_eq_some_iff]
  unfold hasMalformedId
  cases value.member? "$id" with
  | none => simp
  | some identifier => cases identifier <;> simp

theorem isUnreadable_iff {content : String} (filename : String) :
    IsUnreadable content ↔ metadata? content filename = none := by
  unfold metadata?
  constructor
  · rintro (h | h | ⟨value, identifier, h, hheld, htext, hnull⟩)
    · rw [h]
    · rw [h]
    · have hmalformed := hasMalformedId_iff.mpr ⟨identifier, hheld, htext, hnull⟩
      rw [h]
      cases value <;> simp [hmalformed]
  · intro hnone
    cases h : Json.parse? content.toList with
    | none => exact .malformed h
    | some value =>
      by_cases hnull : value = .null
      · exact .null (hnull ▸ h)
      · have hmalformed : hasMalformedId value := by
          rw [h] at hnone
          cases value <;> simp_all
        obtain ⟨identifier, hheld, htext, hidentifier⟩ := hasMalformedId_iff.mp hmalformed
        exact .identifier value identifier h hheld htext hidentifier

/-! ## Metadata of a value -/

/-- A member of a value that is a string and not empty. -/
def HasText (value : Json) (name text : String) : Prop :=
  value.Holds name (.string text) ∧ text ≠ ""

/-- The title of a value: the text under `title`, or that under `name`, or the one that the file
name gives. -/
inductive IsTitle (value : Json) (filename : String) : String → Prop where
  | title {text : String} (h : HasText value "title" text) : IsTitle value filename text
  | name {text : String} (htitle : ∀ text', ¬HasText value "title" text')
      (h : HasText value "name" text) : IsTitle value filename text
  | filename (htitle : ∀ text, ¬HasText value "title" text)
      (hname : ∀ text, ¬HasText value "name" text) :
      IsTitle value filename (Title.ofFilename filename)

/-- The version of a value: the one that its identifier has, or else the first of all versions. -/
inductive IsVersionOf (value : Json) : String → Prop where
  | identifier {identifier version : String} (h : value.Holds "$id" (.string identifier))
      (hversion : version? identifier = some version) : IsVersionOf value version
  | default (h : ∀ identifier, value.Holds "$id" (.string identifier) →
      version? identifier = none) : IsVersionOf value "1.0.0"

/-- The metadata of a value in a file. -/
structure IsMetadata (value : Json) (filename : String) (m : Metadata) : Prop where
  title : IsTitle value filename m.title
  status : m.status = .standard
  version : IsVersionOf value m.version
  lastUpdated : m.lastUpdated = ""
  identifier : ∀ text, m.identifier = some text ↔ value.Holds "$id" (.string text)

theorem textMember?_eq_some_iff {value : Json} {name text : String} :
    textMember? name value = some text ↔ HasText value name text := by
  unfold textMember?
  rw [Option.filter_eq_some_iff, Json.bind_text?_eq_some_iff]
  simp [HasText]

theorem textMember?_eq_none_iff {value : Json} {name : String} :
    textMember? name value = none ↔ ∀ text, ¬HasText value name text := by
  rw [Option.eq_none_iff_forall_ne_some]
  simp only [ne_eq, textMember?_eq_some_iff]

theorem isTitle_iff {value : Json} {filename title : String} :
    IsTitle value filename title ↔ title = (ofJson value filename).title := by
  change _ ↔ title = ((textMember? "title" value).orElse fun _ => textMember? "name" value).getD
    (Title.ofFilename filename)
  constructor
  · rintro (h | ⟨htitle, h⟩ | ⟨htitle, hname⟩)
    · rw [textMember?_eq_some_iff.mpr h]
      rfl
    · rw [textMember?_eq_none_iff.mpr htitle, textMember?_eq_some_iff.mpr h]
      rfl
    · rw [textMember?_eq_none_iff.mpr htitle, textMember?_eq_none_iff.mpr hname]
      rfl
  · rintro rfl
    cases htitle : textMember? "title" value with
    | some text => exact .title (textMember?_eq_some_iff.mp htitle)
    | none =>
      have hnone := textMember?_eq_none_iff.mp htitle
      cases hname : textMember? "name" value with
      | some text => exact .name hnone (textMember?_eq_some_iff.mp hname)
      | none => exact .filename hnone (textMember?_eq_none_iff.mp hname)

theorem isVersionOf_iff {value : Json} {filename version : String} :
    IsVersionOf value version ↔ version = (ofJson value filename).version := by
  change _ ↔ version = (((value.member? "$id").bind Json.text?).bind version?).getD "1.0.0"
  constructor
  · rintro (⟨h, hversion⟩ | h)
    · rw [Json.bind_text?_eq_some_iff.mpr h, Option.bind_some, hversion, Option.getD_some]
    · have hnone : ((value.member? "$id").bind Json.text?).bind version? = none := by
        rw [Option.bind_eq_none_iff]
        exact fun identifier hheld => h identifier (Json.bind_text?_eq_some_iff.mp hheld)
      rw [hnone, Option.getD_none]
  · rintro rfl
    cases hid : ((value.member? "$id").bind Json.text?).bind version? with
    | some version =>
      obtain ⟨identifier, hheld, hversion⟩ := Option.bind_eq_some_iff.mp hid
      exact .identifier (Json.bind_text?_eq_some_iff.mp hheld) hversion
    | none =>
      rw [Option.bind_eq_none_iff] at hid
      exact .default fun identifier h => hid identifier (Json.bind_text?_eq_some_iff.mpr h)

/-- A value has just the metadata that are read from it. -/
theorem isMetadata_iff {value : Json} {filename : String} {m : Metadata} :
    IsMetadata value filename m ↔ m = ofJson value filename := by
  constructor
  · rintro ⟨htitle, hstatus, hversion, hdate, hid⟩
    have hidentifier : m.identifier = (ofJson value filename).identifier := by
      ext text
      rw [hid, ← Json.bind_text?_eq_some_iff]
      rfl
    cases m
    rw [Metadata.mk.injEq]
    exact ⟨isTitle_iff.mp htitle, hstatus, isVersionOf_iff.mp hversion, hdate, hidentifier⟩
  · rintro rfl
    exact ⟨isTitle_iff.mpr rfl, rfl, isVersionOf_iff.mpr rfl, rfl,
      fun _ => Json.bind_text?_eq_some_iff⟩

theorem metadata?_eq_some_iff {content filename : String} {m : Metadata} :
    metadata? content filename = some m ↔ ¬IsUnreadable content ∧
      ∃ value, Json.parse? content.toList = some value ∧ IsMetadata value filename m := by
  simp only [isMetadata_iff]
  rw [isUnreadable_iff filename]
  unfold metadata?
  cases Json.parse? content.toList with
  | none => simp
  | some value =>
    cases value <;> simp [eq_comm (a := m)]

end Schema

/-! ## Main result -/

namespace Extraction

theorem ofSchema_eq_fallback_iff {content filename : String} {m : Metadata} :
    ofSchema content filename = fallback m ↔
      Schema.IsUnreadable content ∧ m = .ofFilename filename := by
  rw [Schema.isUnreadable_iff filename]
  unfold ofSchema
  cases Schema.metadata? content filename with
  | none => simp [eq_comm (a := m)]
  | some m' => simp

theorem ofSchema_eq_parsed_iff {content filename : String} {m : Metadata} :
    ofSchema content filename = parsed m ↔ ¬Schema.IsUnreadable content ∧
      ∃ value, Json.parse? content.toList = some value ∧ Schema.IsMetadata value filename m := by
  rw [← Schema.metadata?_eq_some_iff]
  unfold ofSchema
  cases Schema.metadata? content filename <;> simp

/-- A file whose name ends like that of a schema, in any case, is read as one. -/
theorem ofFile_eq_ofSchema {filename : String}
    (hfilename : ∃ stem ext, filename = stem ++ "." ++ ext ∧
      ext.toList.map Char.toLower ∈ ["json".toList, "jsonld".toList]) (content : String) :
    ofFile content filename = ofSchema content filename := by
  obtain ⟨stem, ext, rfl, hext⟩ := hfilename
  obtain ⟨format, hformat, hjson⟩ :
      ∃ format, Format.ofExtension? ext = some format ∧ format ≠ .markdown := by
    rcases List.mem_pair.mp hext with h | h
    · exact ⟨.json, Format.ofExtension?_eq_some_iff.mpr h, by decide⟩
    · exact ⟨.jsonld, Format.ofExtension?_eq_some_iff.mpr h, by decide⟩
  have hlast := Format.ofLastDot?_append stem (Format.dot_notMem_of_ofExtension? hformat)
  rw [ofFile_of_format (hlast.trans hformat)]
  cases format with
  | markdown => exact absurd rfl hjson
  | json | jsonld => rfl

/-- The metadata of a schema file are made from its name alone just if its text cannot be read.
Otherwise all of them are those of the value that the text spells. The status tells the two apart:
what was read is standard, and what was made from the name is a draft. -/
theorem ofFile_allOrNothing {content filename : String}
    (hfilename : ∃ stem ext, filename = stem ++ "." ++ ext ∧
      ext.toList.map Char.toLower ∈ ["json".toList, "jsonld".toList]) :
    ((∃ m, ofFile content filename = fallback m) ↔ Schema.IsUnreadable content) ∧
      (∀ m, ofFile content filename = fallback m → m = .ofFilename filename) ∧
      (∀ m, ofFile content filename = parsed m ↔ ¬Schema.IsUnreadable content ∧
        ∃ value, Json.parse? content.toList = some value ∧
          Schema.IsMetadata value filename m) ∧
      ((ofFile content filename).metadata.status = .standard ↔
        ∃ m, ofFile content filename = parsed m) ∧
      ((ofFile content filename).metadata.status = .draft ↔
        ∃ m, ofFile content filename = fallback m) := by
  rw [ofFile_eq_ofSchema hfilename]
  refine ⟨?_, fun m h => (ofSchema_eq_fallback_iff.mp h).2, fun m => ofSchema_eq_parsed_iff, ?_⟩
  · simp only [ofSchema_eq_fallback_iff, exists_and_left, exists_eq, and_true]
  · cases h : ofSchema content filename with
    | parsed m =>
      obtain ⟨-, value, -, hvalue⟩ := ofSchema_eq_parsed_iff.mp h
      simp [metadata, hvalue.status]
    | fallback m =>
      obtain ⟨-, rfl⟩ := ofSchema_eq_fallback_iff.mp h
      simp [metadata, Metadata.ofFilename]

/-- A schema whose identifier is an array. -/
def arrayIdText : String := "\x7b\"$id\":[],\"title\":\"Token\"\x7d"

/-- A schema with an empty title and a version in its identifier. -/
def versionedText : String :=
  "\x7b\"$id\":\"/v2.1.0/\",\"title\":\"\",\"name\":\"Token\"\x7d"

theorem parse?_arrayIdText : Json.parse? arrayIdText.toList =
    some (.object [("$id", .array []), ("title", .string "Token")]) := by cbv

theorem parse?_versionedText : Json.parse? versionedText.toList =
    some (.object [("$id", .string "/v2.1.0/"), ("title", .string ""),
      ("name", .string "Token")]) := by cbv

/-- Not even the title of the one is taken, and of the other all is. -/
theorem ofFile_allOrNothing_token :
    (∃ stem ext, "token-registry.v2.JSONLD" = stem ++ "." ++ ext ∧
      ext.toList.map Char.toLower ∈ ["json".toList, "jsonld".toList]) ∧
      ofFile arrayIdText "token-registry.v2.JSONLD" =
        fallback (.ofFilename "token-registry.v2.JSONLD") ∧
      ofFile versionedText "token-registry.v2.JSONLD" =
        parsed ⟨"Token", .standard, "2.1.0", "", some "/v2.1.0/"⟩ := by
  have hname : ∃ stem ext, "token-registry.v2.JSONLD" = stem ++ "." ++ ext ∧
      ext.toList.map Char.toLower ∈ ["json".toList, "jsonld".toList] :=
    ⟨"token-registry.v2", "JSONLD", by decide, by decide⟩
  obtain ⟨hunreadable, hname₁, -⟩ := @ofFile_allOrNothing arrayIdText _ hname
  obtain ⟨-, -, hparsed, -⟩ := @ofFile_allOrNothing versionedText _ hname
  refine ⟨hname, ?_, ?_⟩
  · obtain ⟨m, hm⟩ := hunreadable.mpr
      (.identifier _ (.array []) parse?_arrayIdText
        ⟨[], [("title", .string "Token")], rfl, by simp⟩ (by simp) (by simp))
    rw [hm, hname₁ m hm]
  · have hread : Schema.metadata? versionedText "token-registry.v2.JSONLD" =
        some ⟨"Token", .standard, "2.1.0", "", some "/v2.1.0/"⟩ := by
      unfold Schema.metadata?
      rw [parse?_versionedText]
      rfl
    rw [hparsed, ← Schema.metadata?_eq_some_iff, hread]

end Extraction

end Folio
