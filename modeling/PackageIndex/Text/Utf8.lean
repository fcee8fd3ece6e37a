/-!
# Reading UTF-8

A file holds a text if its bytes are well-formed UTF-8.  Otherwise the first fault is described by
the bytes that it takes: a byte that begins no character, a character whose next byte does not
continue it, or a character that the end of the file cuts off.
-/

namespace PackageIndex.Text

/-- The ways in which bytes fail to be a character. -/
inductive DecodeFaultKind where
  | invalidStart
  | invalidContinuation
  | unexpectedEnd
deriving DecidableEq, Repr

/-- The first bytes that are no character: the position and the value of the first of them, and
their number. -/
structure DecodeFault where
  kind : DecodeFaultKind
  position : Nat
  byte : UInt8
  count : Nat
deriving DecidableEq, Repr

/-- The inclusive range of the second byte of a character with the given first byte, and the number
of bytes of the character; `none` if no character of several bytes begins so. -/
def leadByte? (b : UInt8) : Option (UInt8 × UInt8 × Nat) :=
  if 0xc2 ≤ b ∧ b ≤ 0xdf then some (0x80, 0xbf, 2)
  else if b = 0xe0 then some (0xa0, 0xbf, 3)
  else if b = 0xed then some (0x80, 0x9f, 3)
  else if 0xe1 ≤ b ∧ b ≤ 0xef then some (0x80, 0xbf, 3)
  else if b = 0xf0 then some (0x90, 0xbf, 4)
  else if b = 0xf4 then some (0x80, 0x8f, 4)
  else if 0xf1 ≤ b ∧ b ≤ 0xf3 then some (0x80, 0xbf, 4)
  else none

/-- The byte continues a character. -/
def isContinuation (b : UInt8) : Bool := 0x80 ≤ b && b ≤ 0xbf

/-- The kind and the number of bytes of the fault that the character at the start of a text has, or
`none` if it is well formed. -/
def characterFault? (b : UInt8) (rest : List UInt8) : Option (DecodeFaultKind × Nat) :=
  if b < 0x80 then none
  else match leadByte? b, rest with
    | none, _ => some (.invalidStart, 1)
    | some _, [] => some (.unexpectedEnd, 1)
    | some (low, high, size), second :: rest =>
      if second < low ∨ high < second then some (.invalidContinuation, 1)
      else
        let more := rest.take (size - 2)
        let good := more.takeWhile isContinuation
        if good.length < more.length then some (.invalidContinuation, 2 + good.length)
        else if more.length < size - 2 then some (.unexpectedEnd, 2 + more.length)
        else none

/-- The number of bytes of a well-formed character with the given first byte. -/
def characterSize (b : UInt8) : Nat :=
  match leadByte? b with
  | some (_, _, size) => size
  | none => 1

/-- The first fault of a list of bytes whose first byte stands at `position`; the next `skipped`
bytes belong to a character that was looked at. -/
def firstFault? (position skipped : Nat) : List UInt8 → Option DecodeFault
  | [] => none
  | b :: rest =>
    if 0 < skipped then firstFault? (position + 1) (skipped - 1) rest
    else match characterFault? b rest with
      | some (kind, count) => some ⟨kind, position, b, count⟩
      | none => firstFault? (position + 1) (characterSize b - 1) rest

/-- The text that the bytes hold, or the first fault. -/
def decode (bytes : ByteArray) : Except DecodeFault String :=
  match String.fromUTF8? bytes with
  | some text => .ok text
  | none => .error ((firstFault? 0 0 bytes.data.toList).getD ⟨.unexpectedEnd, bytes.size, 0, 0⟩)

/-- A byte as two digits to base sixteen. -/
def hexByte (b : UInt8) : String :=
  String.ofList [Nat.digitChar (b.toNat / 16), Nat.digitChar (b.toNat % 16)]

/-- What is said of a kind of fault. -/
def DecodeFaultKind.message : DecodeFaultKind → String
  | .invalidStart => "invalid start byte"
  | .invalidContinuation => "invalid continuation byte"
  | .unexpectedEnd => "unexpected end of data"

/-- What is said of a fault: the byte if it is one, else the range of them, and the reason. -/
def DecodeFault.message (f : DecodeFault) : String :=
  let first := toString f.position
  let last := toString (f.position + f.count - 1)
  let place :=
    if f.count = 1 then "byte 0x" ++ hexByte f.byte ++ " in position " ++ first
    else "bytes in position " ++ first ++ "-" ++ last
  "'utf-8' codec can't decode " ++ place ++ ": " ++ f.kind.message

end PackageIndex.Text
