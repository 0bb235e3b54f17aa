import RequestScript.Fault
import RequestScript.Text.Lines

/-!
# Sources of configuration texts

A configuration file is read in blocks, and each block only when the characters before it have been
used up. So a fault in how a file is written hides what is wrong with the blocks after it: bytes
that are not UTF-8, and characters that may not stand in a configuration text.
-/

namespace RequestScript.Yaml

/-- What can be read of a text, and what comes after that. -/
structure Source where
  /-- The characters that can be read. -/
  known : List Char
  /-- The fault that is met after them, unless the text ends there. -/
  after : Option Fault := none

namespace Source

/-- Whether a character may stand in a configuration text. -/
def isAllowed (c : Char) : Bool :=
  let code := c.toNat
  code == 0x9 || code == 0xa || code == 0xd || (0x20 ≤ code && code ≤ 0x7e) || code == 0x85 ||
    (0xa0 ≤ code && code ≤ 0xd7ff) || (0xe000 ≤ code && code ≤ 0xfffd) || 0x10000 ≤ code

/-- The number of characters in a block. -/
def blockLength : Nat := 4096

/-- The number of blocks that are read before anything else. -/
def firstBlocks : Nat := 2

/-- The source that has a fault in the block of a character. In one of the first blocks nothing can
be read. -/
def upTo (cs : List Char) (index : Nat) (fault : Fault) : Except Fault Source :=
  let blocks := index / blockLength
  if blocks < firstBlocks then .error fault
  else .ok ⟨cs.take (blocks * blockLength), some fault⟩

/-- The source with so many of its blocks as have allowed characters only. -/
def checked (source : Source) : Except Fault Source :=
  match source.known.findIdx? (!isAllowed ·) with
  | some index => upTo source.known index .malformedConfiguration
  | none => .ok source

/-- The number of bytes that are turned into characters at a time. -/
def chunkLength : Nat := 8192

/-- Whether bytes are the start of a character that is not complete. Which bytes may follow depends
on the first one, but the lowest or the highest of them always may. -/
def isIncomplete (bytes : ByteArray) : Bool :=
  [1, 2, 3].any fun missing => [0x80, 0xbf].any fun byte =>
    (String.fromUTF8? (bytes ++ ⟨Array.replicate missing byte⟩)).isSome

/-- The text of the first so many bytes. A character at the end that is not complete is left out. -/
def textOf? (bytes : ByteArray) (length : Nat) : Option String :=
  [0, 1, 2, 3].findSome? fun missing =>
    let whole := length - missing
    if missing = 0 || isIncomplete (bytes.extract whole length) then
      String.fromUTF8? (bytes.extract 0 whole)
    else none

/-- The text of the chunks before the first one that is not UTF-8, of no more than so many. -/
def textBefore (bytes : ByteArray) : Nat → String
  | 0 => ""
  | chunks + 1 =>
    match textOf? bytes (min ((chunks + 1) * chunkLength) bytes.size) with
    | some text => text
    | none => textBefore bytes chunks

/-- The characters of a part of a text, with every line ending as a line feed. A carriage return at
its end may belong to a line ending that is not complete. -/
def characters (text : String) : List Char :=
  let cs := text.toList
  Text.universalNewlines (if cs.getLast? = some '\r' then cs.dropLast else cs)

/-- The source that bytes spell. -/
def ofBytes (bytes : ByteArray) : Except Fault Source :=
  match String.fromUTF8? bytes with
  | some text => checked ⟨Text.universalNewlines text.toList, none⟩
  | none => do
    let cs := characters (textBefore bytes (bytes.size / chunkLength + 1))
    checked (← upTo cs cs.length .notUtf8)

end Source

end RequestScript.Yaml
