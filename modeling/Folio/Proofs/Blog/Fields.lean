import Folio.Blog.Frontmatter
import Mathlib.Data.List.Basic

/-!
# Scalars and lists in frontmatter

The list that a field holds is read item by item: it is made up of the lists that its items make one
by one. A string that is not empty stands for the list of itself, which is also its text.

**Deviation.** A number has a text and is an item of a list like any other, but by itself it does
not stand for the list of that text: `tags: 2025` holds no tags, while `tags: [2025]` holds one.

Main definitions:

* `withField`: fields with one of them set.
* `HasItemText`: a number or a string that is not empty, with its text.

Main result:

* `list_withField`: the lists of scalars and sequences. A scalar and the list of it alone read the
  same iff the scalar is a string.
-/

namespace Folio

/-! ## Texts of numbers -/

namespace Binary64

theorem positional_ne_nil (digits : List Char) (k : Int) : positional digits k ≠ [] := by
  unfold positional
  dsimp only
  split
  · simp
  · split <;> simp

theorem scientific_ne_nil (digits : List Char) (k : Int) : scientific digits k ≠ [] := by
  simp [scientific]

theorem layout_ne_nil (isPositional : Bool) (digits : List Char) (k : Int) :
    (if isPositional then positional else scientific) digits k ≠ [] := by
  split
  · exact positional_ne_nil digits k
  · exact scientific_ne_nil digits k

theorem text_ne_empty {style : FloatStyle} (hnan : style.notANumber ≠ "")
    (hinfinity : style.infinity ≠ "") (hnegative : style.negativeInfinity ≠ "") (x : Binary64) :
    x.text style ≠ "" := by
  unfold text
  split
  · exact hnan
  · exact hinfinity
  · exact hnegative
  · next negative mantissa exponent =>
    dsimp only
    split
    · simp
    · rw [ne_eq, String.ofList_eq_empty_iff, List.append_eq_nil_iff, not_and]
      intro _
      exact layout_ne_nil _ _ _

end Binary64

theorem Yaml.Number.text_ne_empty (n : Yaml.Number) : n.text ≠ "" := by
  cases n with
  | integer n =>
    have hrepr (m : Nat) : Nat.repr m ≠ "" := by
      rw [Nat.repr, ne_eq, String.ofList_eq_empty_iff]
      exact Nat.toDigits_ne_nil
    show Int.repr n ≠ ""
    cases n with
    | ofNat m => exact hrepr m
    | negSucc m => simp [Int.repr]
  | float x => exact x.text_ne_empty (by decide) (by decide) (by decide)

namespace Frontmatter

/-! ## Setting a field -/

/-- The fields with one of them set: in its place if it is there, else after the others. -/
def withField (key : String) (value : Yaml.Value) : Fields → Fields
  | [] => [(.string key, value)]
  | entry :: rest =>
    if (Yaml.Value.string key).same entry.1 then (entry.1, value) :: rest
    else entry :: withField key value rest

theorem field?_withField (key : String) (value : Yaml.Value) (fields : Fields) :
    Yaml.Value.field? (withField key value fields) key = some value := by
  induction fields with
  | nil => simp [withField, Yaml.Value.field?, Yaml.Value.same]
  | cons entry rest ih =>
    unfold withField
    split
    · next h => simp [Yaml.Value.field?, h]
    · next h => simpa [Yaml.Value.field?, h] using ih

/-! ## Lists -/

/-- A scalar that a list keeps, with its text. -/
inductive HasItemText : Yaml.Value → String → Prop
  | number (n : Yaml.Number) : HasItemText (.number n) n.text
  | string {text : String} (h : text ≠ "") : HasItemText (.string text) text

section List

variable (fields : Fields) (key : String)

theorem list_sequence (items : List Yaml.Value) :
    list (withField key (.sequence items) fields) key = items.filterMap itemText? := by
  rw [list, field?_withField]

theorem list_number (n : Yaml.Number) : list (withField key (.number n) fields) key = [] := by
  rw [list, field?_withField]

theorem list_string {value : String} (h : value ≠ "") :
    list (withField key (.string value) fields) key = [value] := by
  simp only [list, field?_withField, if_neg h]

variable {fields key} {item : Yaml.Value} {value : String}

theorem HasItemText.itemText?_eq (h : HasItemText item value) : itemText? item = some value := by
  cases h with
  | number n => rfl
  | string hne => rfl

/-- A scalar that a list keeps has the same text as a field. -/
theorem HasItemText.text_eq (h : HasItemText item value) :
    text (withField key item fields) key = some value := by
  rw [text, field?_withField, Option.bind_some]
  cases h with
  | number n => simp [scalarText?, n.text_ne_empty]
  | string hne => simp [scalarText?, hne]

/-- A scalar in a list is the list of its text, and a list is made up of those of its items. By
itself a string is the same list, while a number is none. -/
theorem list_withField (h : HasItemText item value) :
    text (withField key item fields) key = some value ∧
    list (withField key (.sequence [item]) fields) key = [value] ∧
    (list (withField key item fields) key = list (withField key (.sequence [item]) fields) key ↔
      ∃ text, item = .string text) ∧
    ((∃ n, item = .number n) → list (withField key item fields) key = []) ∧
    ∀ items, list (withField key (.sequence items) fields) key =
      items.flatMap fun item => list (withField key (.sequence [item]) fields) key := by
  have hone : list (withField key (.sequence [item]) fields) key = [value] := by
    rw [list_sequence, List.filterMap_cons, h.itemText?_eq]
    rfl
  refine ⟨h.text_eq, hone, ?_, ?_, fun items => ?_⟩
  · rw [hone]
    cases h with
    | number n => simp [list_number]
    | string hne => simp [list_string fields key hne]
  · rintro ⟨n, rfl⟩
    exact list_number fields key n
  · have hitem (item : Yaml.Value) : [item].filterMap itemText? = (itemText? item).toList := by
      rw [List.filterMap_cons]
      cases itemText? item <;> rfl
    simp only [list_sequence, hitem, List.filterMap_eq_flatMap_toList]

/-- A number is an item of a list and no list. -/
theorem list_withField_year :
    HasItemText (.number (.integer 2025)) "2025" ∧
      text (withField "tags" (.number (.integer 2025)) []) "tags" = some "2025" ∧
      list (withField "tags" (.sequence [.number (.integer 2025)]) []) "tags" = ["2025"] ∧
      list (withField "tags" (.number (.integer 2025)) []) "tags" = [] := by
  have hitem : HasItemText (.number (.integer 2025)) "2025" := .number (.integer 2025)
  obtain ⟨htext, hlist, -, hnumber, -⟩ := @list_withField [] "tags" _ _ hitem
  exact ⟨hitem, htext, hlist, hnumber ⟨_, rfl⟩⟩

end List

end Frontmatter

end Folio
