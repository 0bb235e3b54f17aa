import RequestScript.Text.Printable

/-!
# Quoted texts

A text is shown in single quotes, or in double quotes if it holds a single and no double quote.
The quote, the backslash and every character that cannot be printed are escaped.
-/

namespace RequestScript.Text

/-- The lower-case hexadecimal numeral of a number, with zeros in front up to the width. -/
def hexadecimal (width n : Nat) : List Char :=
  let digits := Nat.toDigits 16 n
  List.replicate (width - digits.length) '0' ++ digits

/-- The quote that surrounds a text. -/
def quoteFor (cs : List Char) : Char :=
  if cs.contains '\x27' && !cs.contains '\x22' then '\x22' else '\x27'

/-- The escape of the line feed, carriage return, tab, backslash and surrounding quote. -/
def shortEscape? (quote c : Char) : Option (List Char) :=
  if c = quote || c = '\\' then some ['\\', c]
  else if c = '\n' then some ['\\', 'n']
  else if c = '\r' then some ['\\', 'r']
  else if c = '\t' then some ['\\', 't']
  else none

/-- One character of a quoted text. -/
def quoteChar (quote c : Char) : List Char :=
  match shortEscape? quote c with
  | some escape => escape
  | none =>
    if isPrintable c then [c]
    else if c.toNat < 0x100 then '\\' :: 'x' :: hexadecimal 2 c.toNat
    else if c.toNat < 0x10000 then '\\' :: 'u' :: hexadecimal 4 c.toNat
    else '\\' :: 'U' :: hexadecimal 8 c.toNat

/-- The quoted form of a text. -/
def quoted (cs : List Char) : List Char :=
  let quote := quoteFor cs
  quote :: cs.flatMap (quoteChar quote) ++ [quote]

/-- One byte of a quoted byte string: only printable ASCII is shown as itself. -/
def quoteByte (quote : Char) (byte : UInt8) : List Char :=
  let c := Char.ofNat byte.toNat
  match shortEscape? quote c with
  | some escape => escape
  | none =>
    if 0x20 ≤ byte.toNat && byte.toNat < 0x7f then [c]
    else '\\' :: 'x' :: hexadecimal 2 byte.toNat

/-- The quoted form of a byte string, marked by a `b` in front. -/
def quotedBytes (bytes : List UInt8) : List Char :=
  let quote := quoteFor (bytes.map fun byte => Char.ofNat byte.toNat)
  'b' :: quote :: bytes.flatMap (quoteByte quote) ++ [quote]

end RequestScript.Text
