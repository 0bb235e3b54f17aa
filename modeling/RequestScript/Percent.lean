import RequestScript.Text.Numeral

/-!
# Percent encoding

A component of a URL keeps ASCII letters and digits and the marks `-_.!~*'()`; every other
character is written as the bytes of its UTF-8 form, each as a percent sign and two capital
hexadecimal digits.
-/

namespace RequestScript.Percent

/-- Whether a character stands for itself. -/
def isSafe (c : Char) : Bool :=
  c.isAlphanum || "-_.!~*\x27()".toList.contains c

/-- A capital hexadecimal digit. -/
def hexDigit (n : Nat) : Char :=
  if n < 10 then Char.ofNat (0x30 + n) else Char.ofNat (0x37 + n)

/-- The escape of a byte. -/
def encodeByte (byte : UInt8) : List Char :=
  ['%', hexDigit (byte.toNat / 16), hexDigit (byte.toNat % 16)]

/-- One character of an encoded component. -/
def encodeChar (c : Char) : List Char :=
  if isSafe c then [c] else (String.utf8EncodeChar c).flatMap encodeByte

/-- A text as a component of a URL. -/
def encode (s : String) : String :=
  String.ofList (s.toList.flatMap encodeChar)

end RequestScript.Percent
