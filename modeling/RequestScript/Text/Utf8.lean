import RequestScript.Text.Numeral
import RequestScript.Text.Quoted

/-!
# Bytes that are not UTF-8

Where bytes are not UTF-8, the first character that they fail to spell tells why. Its bytes up to
the one that does not belong to it are at fault.
-/

namespace RequestScript.Text

/-- Why bytes do not spell a character. -/
inductive Misspelling where
  /-- No character starts with this byte. -/
  | start
  /-- Another byte cannot follow. -/
  | continuation
  /-- There are no more bytes. -/
  | ending
  deriving DecidableEq

/-- The words for a misspelling. -/
def Misspelling.text : Misspelling → String
  | .start => "invalid start byte"
  | .continuation => "invalid continuation byte"
  | .ending => "unexpected end of data"

/-- The number of bytes of the characters that start with a byte, if any do. -/
def byteCount? (first : UInt8) : Option Nat :=
  if first < 0x80 then some 1
  else if first < 0xc2 then none
  else if first < 0xe0 then some 2
  else if first < 0xf0 then some 3
  else if first < 0xf5 then some 4
  else none

/-- Whether a byte may be the second one after a first one. What would spell a character in more
bytes than it takes, half a character, or a number beyond the last character is left out. -/
def maySecond (first second : UInt8) : Bool :=
  let low := if first = 0xe0 then 0xa0 else if first = 0xf0 then 0x90 else 0x80
  let high := if first = 0xed then 0x9f else if first = 0xf4 then 0x8f else 0xbf
  low ≤ second && second ≤ high

/-- Whether a byte may be a later one. -/
def mayFollow (byte : UInt8) : Bool :=
  0x80 ≤ byte && byte ≤ 0xbf

/-- The number of bytes of the character that bytes start with, or else of those that are at
fault. -/
def spelled : List UInt8 → Except (Misspelling × Nat) Nat
  | [] => .error (.ending, 0)
  | first :: rest =>
    match byteCount? first with
    | none => .error (.start, 1)
    | some count =>
      let following := rest.take (count - 1)
      let isFitting (index : Nat) (byte : UInt8) : Bool :=
        if index = 0 then maySecond first byte else mayFollow byte
      match following.zipIdx.find? fun (byte, index) => !isFitting index byte with
      | some (_, index) => .error (.continuation, index + 1)
      | none =>
        if following.length + 1 < count then .error (.ending, following.length + 1) else .ok count

/-- A part of some bytes that spells no character. -/
structure Misspelled where
  reason : Misspelling
  /-- The number of bytes before it. -/
  index : Nat
  /-- Its bytes. -/
  bytes : List UInt8

/-- The first part of bytes after an index that spells no character, if they are not UTF-8. So many
bytes belong to the character before. -/
def misspelled? (index : Nat) : Nat → List UInt8 → Option Misspelled
  | _, [] => none
  | skipped + 1, _ :: rest => misspelled? (index + 1) skipped rest
  | 0, byte :: rest =>
    match spelled (byte :: rest) with
    | .ok count => misspelled? (index + 1) (count - 1) rest
    | .error (reason, count) => some ⟨reason, index, (byte :: rest).take count⟩

/-- What is said about a part that spells no character. -/
def Misspelled.message (part : Misspelled) : String :=
  let place := match part.bytes with
    | [byte] => "byte 0x" ++ String.ofList (hexadecimal 2 byte.toNat) ++ " in position " ++
      String.ofList (decimal part.index)
    | bytes => "bytes in position " ++ String.ofList (decimal part.index) ++ "-" ++
      String.ofList (decimal (part.index + bytes.length - 1))
  "\x27utf-8\x27 codec can\x27t decode " ++ place ++ ": " ++ part.reason.text

end RequestScript.Text
