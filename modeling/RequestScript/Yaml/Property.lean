import RequestScript.Fault
import RequestScript.Text.Numeral
import RequestScript.Yaml.Cursor
import RequestScript.Yaml.Token

/-!
# Anchors, tags and directives

What stands before a node or before a document: the name of an anchor, a tag with its handle, and
the directives on the version and on the handles of tags.
-/

namespace RequestScript.Yaml.Cursor

open Text

/-- A character of a name: an ASCII letter or digit, a hyphen or an underscore. -/
def isNameChar (c : Char) : Bool :=
  c.isAlphanum || c == '-' || c == '_'

/-- The name that starts here, and the place after it. It has characters, and a class tells what
may follow it. -/
def takeName (cursor : Cursor) (follows : Char → Bool) : Except Fault (String × Cursor) :=
  let (name, after) := cursor.takeWhile isNameChar
  if name.isEmpty || !endsAt follows after.peek? then .error .malformedConfiguration
  else .ok (String.ofList name, after)

/-- Whether a character may follow the name of an anchor. -/
def followsAnchor (c : Char) : Bool :=
  isSeparator c || ['?', ':', ',', ']', '\x7d', '%', '@', '\x60'].contains c

/-- The name of the anchor or alias that starts here with its mark. -/
def takeAnchor (cursor : Cursor) : Except Fault (String × Cursor) :=
  cursor.advance.takeName followsAnchor

/-- The handle of a tag: an exclamation mark alone, or two of them around a name that may be
empty. -/
def takeHandle (cursor : Cursor) : Except Fault (String × Cursor) :=
  if cursor.peek? != some '!' then .error .malformedConfiguration
  else
    let (name, after) := cursor.advance.takeWhile isNameChar
    if after.peek? == some '!' then .ok ("!" ++ String.ofList name ++ "!", after.advance)
    else if cursor.advance.peek? == some ' ' then .ok ("!", cursor.advance)
    else .error .malformedConfiguration

/-- Whether a character may stand in a tag as itself. -/
def isTagChar (c : Char) : Bool :=
  c.isAlphanum || "-;/?:@&=+$,_.!~*\x27()[]".toList.contains c

/-- The bytes of the percent escapes from here on. -/
def takeEscapedBytes (cursor : Cursor) : Nat → Except Fault (List UInt8 × Cursor)
  | 0 => .ok ([], cursor)
  | fuel + 1 =>
    match cursor.rest with
    | '%' :: a :: b :: _ =>
      match hexDigitValue? a, hexDigitValue? b with
      | some a, some b => do
        let (bytes, after) ← takeEscapedBytes (cursor.skip 3) fuel
        return (UInt8.ofNat (16 * a + b) :: bytes, after)
      | _, _ => .error .malformedConfiguration
    | '%' :: _ => .error .malformedConfiguration
    | _ => .ok ([], cursor)

/-- The characters of a tag from here on, and the place after them. -/
def tagChars (cursor : Cursor) : Nat → Except Fault (List Char × Cursor)
  | 0 => .ok ([], cursor)
  | fuel + 1 =>
    match cursor.peek? with
    | none => .ok ([], cursor)
    | some c =>
      if c == '%' then do
        let (bytes, after) ← cursor.takeEscapedBytes (cursor.rest.length + 1)
        match String.fromUTF8? ⟨bytes.toArray⟩ with
        | some text =>
          let (more, after) ← tagChars after fuel
          return (text.toList ++ more, after)
        | none => throw .malformedConfiguration
      else if isTagChar c then do
        let (more, after) ← tagChars cursor.advance fuel
        return (c :: more, after)
      else .ok ([], cursor)

/-- The text of a tag from here on; it has characters, written as themselves or as escapes. -/
def takeTagText (cursor : Cursor) : Except Fault (String × Cursor) := do
  let (text, after) ← cursor.tagChars (cursor.rest.length + 1)
  if after.index = cursor.index then throw .malformedConfiguration
  return (String.ofList text, after)

/-- Whether the tag that starts here has a handle of its own: another exclamation mark before the
next space. -/
def hasHandle (cursor : Cursor) : Bool :=
  (cursor.advance.rest.takeWhile (!isSpaceOrBreak ·)).contains '!'

/-- The tag that starts here. -/
def takeTagName (cursor : Cursor) : Except Fault (TagName × Cursor) := do
  let after := cursor.advance
  if after.peek? == some '<' then
    let (suffix, after) ← after.advance.takeTagText
    if after.peek? != some '>' then throw .malformedConfiguration
    return (⟨none, suffix⟩, after.advance)
  else if endsAt isSeparator after.peek? then return (⟨none, "!"⟩, after)
  else
    let (handle, after) ← if cursor.hasHandle then cursor.takeHandle else pure ("!", after)
    let (suffix, after) ← after.takeTagText
    return (⟨some handle, suffix⟩, after)

/-- The tag that starts here, and the place after it; a space or a line end follows. -/
def takeTag (cursor : Cursor) : Except Fault (TagName × Cursor) := do
  let (tag, after) ← cursor.takeTagName
  if endsAt isSpaceOrBreak after.peek? then return (tag, after)
  else throw .malformedConfiguration

/-- The number in the version of a directive. -/
def takeVersionNumber (cursor : Cursor) : Except Fault (Nat × Cursor) :=
  let (digits, after) := cursor.takeWhile Char.isDigit
  if digits.isEmpty then .error .malformedConfiguration
  else match readNat? digits with
    | some n => .ok (n, after)
    | none => .error .numeralTooLong

/-- The version that a directive gives. -/
def takeVersion (cursor : Cursor) : Except Fault (Directive × Cursor) := do
  let (major, cursor) ← cursor.skipSpaces.takeVersionNumber
  if cursor.peek? != some '.' then throw .malformedConfiguration
  let (minor, cursor) ← cursor.advance.takeVersionNumber
  return (.version major minor, cursor)

/-- The handle that a directive declares. -/
def takeHandleDirective (cursor : Cursor) : Except Fault (Directive × Cursor) := do
  let (handle, cursor) ← cursor.skipSpaces.takeHandle
  if cursor.peek? != some ' ' then throw .malformedConfiguration
  let (start, cursor) ← cursor.skipSpaces.takeTagText
  return (.handle handle start, cursor)

/-- The directive that starts here, and the place after its line. -/
def takeDirective (cursor : Cursor) : Except Fault (Directive × Cursor) := do
  let (name, cursor) ← cursor.advance.takeName isSpaceOrBreak
  let (directive, cursor) ←
    if name = "YAML" then cursor.takeVersion
    else if name = "TAG" then cursor.takeHandleDirective
    else pure (Directive.reserved, cursor.skipWhile (!isBreak ·))
  if !endsAt isSpaceOrBreak cursor.peek? then throw .malformedConfiguration
  match cursor.takeLineEnd? with
  | some cursor => return (directive, cursor)
  | none => throw .malformedConfiguration

end RequestScript.Yaml.Cursor
