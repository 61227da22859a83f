import Folio.Text.Utf8
import Folio.Yaml.Cursor
import Folio.Yaml.Token

/-!
# Tags

A tag is written in full between angle brackets or begins with a handle. `!` and `!!` are handles
of their own; directives define others and may redefine these.

Main definitions:

* `Tag`: what a tag means for the value that it is on.
* `Tag.ofRaw?`: the tag that is meant, by the handles that are defined.
* `scanTag`, `scanTagDirective`: the tag and the directive at a cursor.
-/

namespace Folio.Yaml

/-! ## Meaning -/

/-- A kind of scalar that a tag can ask for. -/
inductive CoreKind where
  | bool
  | int
  | float
  | null
  deriving DecidableEq, Repr

/-- What a tag means for the value that it is on. -/
inductive Tag where
  /-- A tag of the document's own, which stays with the value. -/
  | named (name : String)
  /-- A scalar of a certain kind. -/
  | core (kind : CoreKind)
  /-- Any other tag. It makes a plain scalar a string. -/
  | other
  deriving DecidableEq, Repr, Inhabited

/-- The bytes of an ASCII text. -/
def bytesOf (text : String) : List UInt8 := text.toList.map fun c => c.toNat.toUInt8

/-- What the tags of the common types begin with. -/
def commonTypes : String := "tag:yaml.org,2002:"

/-- The exclamation mark. -/
def bang : UInt8 := 0x21

/-- A tag without the exclamation mark that it begins with, unless it is nothing else. -/
def dropBang : List Char → List Char
  | '!' :: c :: rest => c :: rest
  | cs => cs

namespace Tag

/-- The meaning of a tag in full. A tag that begins with an exclamation mark is the document's own;
if it is not well formed it means nothing. -/
def ofBytes (bytes : List UInt8) : Option Tag :=
  if bytes.isEmpty then none
  else if bytes.head? == some bang then
    (Text.Utf8.decode? bytes).map fun name => named (.ofList (dropBang (dropBang name)))
  else if bytes == bytesOf (commonTypes ++ "bool") then some (core .bool)
  else if bytes == bytesOf (commonTypes ++ "int") then some (core .int)
  else if bytes == bytesOf (commonTypes ++ "float") then some (core .float)
  else if bytes == bytesOf (commonTypes ++ "null") then some (core .null)
  else some other

/-- Handles with what they stand for. -/
abbrev Handles := List (List UInt8 × List UInt8)

/-- The handles that are defined in every document. -/
def Handles.default : Handles :=
  [(bytesOf "!", bytesOf "!"), (bytesOf "!!", bytesOf commonTypes)]

/-- The bytes of a tag in full. A tag without a handle is already so; an undefined handle gives
none. -/
def expand (handles : Handles) (raw : RawTag) : Option (List UInt8) :=
  if raw.handle.isEmpty then some raw.suffix
  else (handles.lookup raw.handle).map (· ++ raw.suffix)

end Tag

/-! ## Scanning -/

/-- Whether a character may stand in a tag besides names. Where a tag is written in full, or in a
directive, it may also hold some indicators of flow collections. -/
def isUri (full : Bool) (c : Char) : Bool :=
  isName c || ";/?:@&=+$.!~*'()".toList.contains c || (full && (c == ',' || c == '[' || c == ']'))

/-- How many bytes a character takes whose encoding begins with a byte. -/
def encodingLength? (byte : Nat) : Option Nat :=
  if byte < 0x80 then some 1
  else if byte / 0x20 = 0x6 then some 2
  else if byte / 0x10 = 0xE then some 3
  else if byte / 0x8 = 0x1E then some 4
  else none

/-- How many more bytes of a character are to come after a byte, if `left` were to come with it. -/
def bytesLeft? (left byte : Nat) : Option Nat :=
  match left with
  | 0 => (encodingLength? byte).map (· - 1)
  | left + 1 => if byte / 0x40 = 2 then some left else none

/-- The bytes of a tag, in which a byte may be written as a percent sign and two hexadecimal
digits, with the number of characters that they take. While `left` bytes of a character are to come
only such bytes may follow. -/
def scanUri (full : Bool) (left count : Nat) (done : List UInt8) :
    List Char → Option (List UInt8 × Nat)
  | '%' :: a :: b :: rest => do
    let byte := 16 * (← hexValue? a) + (← hexValue? b)
    scanUri full (← bytesLeft? left byte) (count + 3) (byte.toUInt8 :: done) rest
  | c :: rest =>
    if left ≠ 0 || c == '%' then none
    else if isUri full c then scanUri full 0 (count + 1) (c.toNat.toUInt8 :: done) rest
    else some (done.reverse, count)
  | [] => if left ≠ 0 then none else some (done.reverse, count)

/-- The bytes of a tag at a cursor, and the cursor after them. -/
def uriAt (full : Bool) (c : Cursor) (problem : Problem) : Except Error (List UInt8 × Cursor) :=
  match scanUri full 0 0 [] c.rest with
  | some (bytes, count) => .ok (bytes, c.drop count)
  | none => c.fail problem

/-- What a tag begins with: an exclamation mark, a name and maybe another mark. -/
def handleAt (c : Cursor) : List UInt8 × Cursor :=
  let (name, after) := (c.drop 1).takeWhile isName
  let bytes := bang :: name.map fun ch => ch.toNat.toUInt8
  if after.rest.head? == some '!' then (bytes ++ [bang], after.drop 1) else (bytes, after)

/-- Whether what a tag begins with is a handle. -/
def isHandle (bytes : List UInt8) : Bool := 1 < bytes.length && bytes.getLast? == some bang

/-- The tag at a cursor. A mark alone is the tag `!`. -/
def scanTag (inFlow : Bool) (c : Cursor) : Except Error (RawTag × Cursor) := do
  let (raw, after) ←
    if c.rest.tail.head? == some '<' then
      let (suffix, after) ← uriAt true (c.drop 2) .badTag
      if suffix.isEmpty || after.rest.head? != some '>' then after.fail .badTag
      else .ok (⟨[], suffix⟩, after.drop 1)
    else
      let (start, after) := handleAt c
      let (suffix, after) ← uriAt false after .badTag
      if isHandle start then
        if suffix.isEmpty then after.fail .badTag else .ok (⟨start, suffix⟩, after)
      else
        let suffix := start.drop 1 ++ suffix
        .ok (if suffix.isEmpty then ⟨[], [bang]⟩ else ⟨[bang], suffix⟩, after)
  if atWordEnd after.rest || (inFlow && after.rest.head? == some ',') then .ok (raw, after)
  else after.fail .badTag

/-- A handle and what it stands for, with blanks before and after the handle. -/
def scanTagDirective (c : Cursor) : Except Error ((List UInt8 × List UInt8) × Cursor) := do
  let c := c.skipWhile isBlank
  if c.rest.head? != some '!' then c.fail .badDirective
  else
    let (handle, after) := handleAt c
    if !(handle == [bang] || isHandle handle) then after.fail .badDirective
    else if !after.rest.head?.any isBlank then after.fail .badDirective
    else
      let (lead, after) ← uriAt true (after.skipWhile isBlank) .badDirective
      if lead.isEmpty || !atWordEnd after.rest then after.fail .badDirective
      else .ok ((handle, lead), after)

end Folio.Yaml
