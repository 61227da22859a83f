/-!
# JSON values

Main definitions:

* `Json`: a JSON value; a number is kept as it is spelled, an object as its members in order.
* `Json.member?`: the member of an object under a name; the last one written counts.
* `Json.pretty`: the text of a value, two spaces to a level.
-/

namespace Folio

/-- A JSON value. -/
inductive Json where
  | null
  | bool (value : Bool)
  | number (spelling : String)
  | string (text : String)
  | array (items : List Json)
  | object (members : List (String × Json))
  deriving Inhabited

namespace Json

/-- The value of a member, the last of its name; only objects have members. -/
def member? (name : String) : Json → Option Json
  | object members => members.reverse.lookup name
  | _ => none

/-- The text of a string value. -/
def text? : Json → Option String
  | string text => some text
  | _ => none

/-- A natural number in decimal. -/
def ofNat (n : Nat) : Json := number (toString n)

/-- A member that is written only when there is a value for it. -/
def optional (name : String) (value : Option String) : List (String × Json) :=
  match value with
  | some text => [(name, string text)]
  | none => []

/-- An array of strings. -/
def strings (texts : List String) : Json := array (texts.map string)

/-! ## Writing -/

/-- A character inside quotes. Quotes, backslashes and control characters are escaped, the latter
by a short escape where there is one. -/
def escaped (c : Char) : List Char :=
  if c = '"' then ['\\', '"']
  else if c = '\\' then ['\\', '\\']
  else if c = '\n' then ['\\', 'n']
  else if c = '\r' then ['\\', 'r']
  else if c = '\t' then ['\\', 't']
  else if c.toNat = 0x8 then ['\\', 'b']
  else if c.toNat = 0xC then ['\\', 'f']
  else if c.toNat < 0x20 then
    ['\\', 'u', '0', '0', Nat.digitChar (c.toNat / 16), Nat.digitChar (c.toNat % 16)]
  else [c]

/-- A string in quotes. -/
def quoted (text : String) : List Char :=
  '"' :: text.toList.flatMap escaped ++ ['"']

/-- A new line at a level. -/
def newLine (level : Nat) : List Char := '\n' :: List.replicate (2 * level) ' '

mutual

/-- The text of a value whose first line is already indented to `level`. -/
def prettyAt (level : Nat) : Json → List Char
  | null => "null".toList
  | bool true => "true".toList
  | bool false => "false".toList
  | number spelling => spelling.toList
  | string text => quoted text
  | array [] => ['[', ']']
  | array (item :: items) =>
    '[' :: newLine (level + 1) ++ prettyAt (level + 1) item ++ prettyItems (level + 1) items
      ++ newLine level ++ [']']
  | object [] => ['\x7b', '\x7d']
  | object ((name, value) :: members) =>
    '\x7b' :: newLine (level + 1) ++ quoted name ++ [':', ' '] ++ prettyAt (level + 1) value
      ++ prettyMembers (level + 1) members ++ newLine level ++ ['\x7d']

/-- The items of an array after the first. -/
def prettyItems (level : Nat) : List Json → List Char
  | [] => []
  | item :: items => ',' :: newLine level ++ prettyAt level item ++ prettyItems level items

/-- The members of an object after the first. -/
def prettyMembers (level : Nat) : List (String × Json) → List Char
  | [] => []
  | (name, value) :: members =>
    ',' :: newLine level ++ quoted name ++ [':', ' '] ++ prettyAt level value
      ++ prettyMembers level members

end

/-- The text of a value over several lines, two spaces to a level. -/
def pretty (value : Json) : String := .ofList (prettyAt 0 value)

end Json

end Folio
