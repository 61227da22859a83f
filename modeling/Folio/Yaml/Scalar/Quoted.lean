import Folio.Yaml.Scalar.Folding

/-!
# Quoted scalars

Between single quotes a quote is written twice and nothing else is special. Between double quotes
a backslash begins an escape sequence or takes a break away.

Main definition:

* `Quoted.scan`: the text of the quoted scalar at a cursor.
-/

namespace Folio.Yaml.Quoted

/-- The character that a short escape stands for. -/
def shortEscape? : Char → Option Char
  | '0' => some '\x00'
  | 'a' => some '\x07'
  | 'b' => some '\x08'
  | 't' => some '\t'
  | '\t' => some '\t'
  | 'n' => some '\n'
  | 'v' => some '\x0b'
  | 'f' => some '\x0c'
  | 'r' => some '\r'
  | 'e' => some '\x1b'
  | ' ' => some ' '
  | '"' => some '"'
  | '/' => some '/'
  | '\\' => some '\\'
  | 'N' => some '\u0085'
  | '_' => some '\u00a0'
  | 'L' => some '\u2028'
  | 'P' => some '\u2029'
  | _ => none

/-- How many hexadecimal digits follow an escape that gives a code. -/
def codeLength? : Char → Option Nat
  | 'x' => some 2
  | 'u' => some 4
  | 'U' => some 8
  | _ => none

/-- The character of a code. -/
def character? (code : Nat) : Option Char :=
  if code.isValidChar then some (Char.ofNat code) else none

/-- What was read just before. -/
inductive Before where
  /-- Nothing that matters. -/
  | plain
  /-- A backslash. -/
  | backslash
  /-- A backslash and a carriage return that takes a line feed with it. -/
  | escapedReturn
  /-- Part of a code, with the number of digits that are left and the value so far. -/
  | code (left value : Nat)
  /-- The first of two single quotes. -/
  | quote

/-- Goes on with a scalar of which `text` is read, in reverse, and then a gap. -/
def scanFrom (single : Bool) (before : Before) (text : List Char) (gap : Gap) (m : Mark) :
    List Char → Except Error (List Char × Cursor)
  | [] =>
    match before with
    | .plain => m.fail .unclosedQuote
    | _ => m.fail .badEscape
  | c :: rest =>
    match before with
    | .quote => scanFrom single .plain (c :: text) .empty (m.next c) rest
    | .escapedReturn => scanFrom single .plain text .escaped (m.newLine c) rest
    | .code left value =>
      match hexValue? c with
      | none => m.fail .badEscape
      | some digit =>
        if left ≤ 1 then
          match character? (16 * value + digit) with
          | some ch => scanFrom single .plain (ch :: text) .empty (m.next c) rest
          | none => m.fail .badEscape
        else scanFrom single (.code (left - 1) (16 * value + digit)) text .empty (m.next c) rest
    | .backslash =>
      if isBreak c then
        if c == '\r' && rest.head? == some '\n' then
          scanFrom single .escapedReturn text .empty m.beforeFeed rest
        else scanFrom single .plain text .escaped (m.newLine c) rest
      else
        match shortEscape? c, codeLength? c with
        | some ch, _ => scanFrom single .plain (ch :: text) .empty (m.next c) rest
        | none, some length => scanFrom single (.code length 0) text .empty (m.next c) rest
        | none, none => m.fail .badEscape
    | .plain =>
      if isBlank c then scanFrom single .plain text (gap.addBlank c) (m.next c) rest
      else if isBreak c then
        if c == '\r' && rest.head? == some '\n' then
          scanFrom single .plain text gap m.beforeFeed rest
        else scanFrom single .plain text (gap.addBreak c) (m.newLine c) rest
      else if m.column == 0 && isDocumentMarker (c :: rest) then m.fail .unclosedQuote
      else
        let text := gap.text ++ text
        if single && c == '\'' && rest.head? == some '\'' then
          scanFrom single .quote text .empty (m.next c) rest
        else if c == (if single then '\'' else '"') then .ok (text.reverse, ⟨m.next c, rest⟩)
        else if !single && c == '\\' then scanFrom single .backslash text .empty (m.next c) rest
        else scanFrom single .plain (c :: text) .empty (m.next c) rest

/-- The quoted scalar whose opening quote is at a cursor. -/
def scan (single : Bool) (c : Cursor) : Except Error (List Char × Cursor) :=
  scanFrom single .plain [] .empty (c.drop 1).mark (c.drop 1).rest

end Folio.Yaml.Quoted
