/-!
# Decoding UTF-8

A byte sequence falls into pieces: well-formed encodings of characters, and maximal ill-formed
subparts, which are the longest beginnings of an encoding that the next byte breaks off, or else
single bytes. Lossy decoding writes a replacement character for each ill-formed piece; strict
decoding refuses them.

Main definitions:

* `pieces`: the pieces of a byte sequence in order, `none` for an ill-formed one.
* `decodeLossy`: one character per piece.
* `decode?`: the text, if every piece is well formed.

Main results:

* `decodeLossy_of_ascii`, `decode?_of_ascii`: bytes below 128 stand for one character each.
-/

namespace Folio.Text.Utf8

/-- Whether a byte continues an encoding. -/
def isTail (b : UInt8) : Bool := 0x80 ≤ b.toNat && b.toNat ≤ 0xBF

/-- What a first byte asks of the rest: how many bytes follow it, between which bounds the second
byte lies, and the bits the first byte gives. -/
structure Lead where
  extra : Nat
  low : Nat
  high : Nat
  bits : Nat

/-- The first bytes of the encodings of more than one byte. -/
def lead? (b : UInt8) : Option Lead :=
  let n := b.toNat
  if 0xC2 ≤ n && n ≤ 0xDF then some ⟨1, 0x80, 0xBF, n - 0xC0⟩
  else if n == 0xE0 then some ⟨2, 0xA0, 0xBF, 0⟩
  else if n == 0xED then some ⟨2, 0x80, 0x9F, 0xD⟩
  else if 0xE1 ≤ n && n ≤ 0xEF then some ⟨2, 0x80, 0xBF, n - 0xE0⟩
  else if n == 0xF0 then some ⟨3, 0x90, 0xBF, 0⟩
  else if 0xF1 ≤ n && n ≤ 0xF3 then some ⟨3, 0x80, 0xBF, n - 0xF0⟩
  else if n == 0xF4 then some ⟨3, 0x80, 0x8F, 4⟩
  else none

/-- Reads `extra` continuing bytes onto `bits`. The rest begins at the byte that does not fit. -/
def readTails : (extra bits : Nat) → List UInt8 → Option Nat × List UInt8
  | 0, bits, bytes => (some bits, bytes)
  | _ + 1, _, [] => (none, [])
  | extra + 1, bits, b :: rest =>
    if isTail b then readTails extra (bits * 64 + (b.toNat - 0x80)) rest else (none, b :: rest)

/-- Reads the bytes after a first byte. -/
def readLead (lead : Lead) : List UInt8 → Option Nat × List UInt8
  | [] => (none, [])
  | b :: rest =>
    if lead.low ≤ b.toNat && b.toNat ≤ lead.high then
      readTails (lead.extra - 1) (lead.bits * 64 + (b.toNat - 0x80)) rest
    else (none, b :: rest)

theorem readTails_length (extra bits : Nat) (bytes : List UInt8) :
    (readTails extra bits bytes).2.length ≤ bytes.length := by
  induction extra generalizing bits bytes with
  | zero => simp [readTails]
  | succ extra ih =>
    cases bytes with
    | nil => simp [readTails]
    | cons b rest =>
      unfold readTails
      split
      · exact Nat.le_succ_of_le (ih _ _)
      · simp

theorem readLead_length (lead : Lead) (bytes : List UInt8) :
    (readLead lead bytes).2.length ≤ bytes.length := by
  cases bytes with
  | nil => simp [readLead]
  | cons b rest =>
    simp only [readLead]
    split
    · exact Nat.le_succ_of_le (readTails_length _ _ _)
    · simp

/-- The pieces of a byte sequence in reverse, after those already found. -/
def piecesFrom (done : List (Option Char)) : List UInt8 → List (Option Char)
  | [] => done
  | b :: rest =>
    if b.toNat < 0x80 then piecesFrom (some (Char.ofNat b.toNat) :: done) rest
    else
      match lead? b with
      | none => piecesFrom (none :: done) rest
      | some lead =>
        have := readLead_length lead rest
        piecesFrom ((readLead lead rest).1.map Char.ofNat :: done) (readLead lead rest).2
termination_by bytes => bytes.length

theorem piecesFrom_of_ascii (done : List (Option Char)) {bytes : List UInt8}
    (h : ∀ b ∈ bytes, b.toNat < 0x80) :
    piecesFrom done bytes = (bytes.map fun b => some (Char.ofNat b.toNat)).reverse ++ done := by
  induction bytes generalizing done with
  | nil => simp [piecesFrom]
  | cons b rest ih =>
    rw [piecesFrom, if_pos (h b List.mem_cons_self),
      ih _ fun c hc => h c (List.mem_cons_of_mem b hc)]
    simp

/-- The pieces of a byte sequence in order: a character for each well-formed encoding and `none`
for each maximal ill-formed subpart. -/
def pieces (bytes : List UInt8) : List (Option Char) := (piecesFrom [] bytes).reverse

/-- The text with a replacement character for each ill-formed piece. -/
def decodeLossy (bytes : List UInt8) : List Char :=
  (pieces bytes).map (·.getD (Char.ofNat 0xFFFD))

/-- The text, if every piece is well formed. -/
def decode? (bytes : List UInt8) : Option (List Char) :=
  let found := pieces bytes
  if found.all Option.isSome then some (found.filterMap id) else none

theorem decodeLossy_of_ascii {bytes : List UInt8} (h : ∀ b ∈ bytes, b.toNat < 0x80) :
    decodeLossy bytes = bytes.map fun b => Char.ofNat b.toNat := by
  simp [decodeLossy, pieces, piecesFrom_of_ascii [] h]

/-- Bytes below 128 stand for one character each. -/
theorem decode?_of_ascii {bytes : List UInt8} (h : ∀ b ∈ bytes, b.toNat < 0x80) :
    decode? bytes = some (bytes.map fun b => Char.ofNat b.toNat) := by
  simp [decode?, pieces, piecesFrom_of_ascii [] h, List.filterMap_map]

end Folio.Text.Utf8
