import RequestScript.Text.Split

/-!
# Places in a YAML text

A cursor is a place in a text: what is left of the text, and the line and column that the place is
in. A line ends at a line feed, at the next-line character or at one of the two separators of
Unicode. A byte order mark takes no column.
-/

namespace RequestScript.Yaml

open Text

/-- Whether a character ends a line. -/
def isBreak (c : Char) : Bool :=
  c == '\n' || c == '\u0085' || c == '\u2028' || c == '\u2029'

/-- Whether a character is a space or a tab. -/
def isInlineBlank (c : Char) : Bool :=
  c == ' ' || c == '\t'

/-- Whether a character separates words. -/
def isSeparator (c : Char) : Bool :=
  isInlineBlank c || isBreak c

/-- Whether a character is a space or ends a line. -/
def isSpaceOrBreak (c : Char) : Bool :=
  c == ' ' || isBreak c

/-- Whether the next character, if there is one, is in a class. The end of the text is in every
class. -/
def endsAt (has : Char → Bool) (next : Option Char) : Bool :=
  (next.map has).getD true

/-- A place in a text. -/
structure Cursor where
  /-- The text from the place on. -/
  rest : List Char
  /-- The number of characters before the place. -/
  index : Nat := 0
  /-- The number of line ends before the place. -/
  line : Nat := 0
  /-- The number of columns before the place on its line. -/
  column : Nat := 0

namespace Cursor

/-- The next character. -/
def peek? (cursor : Cursor) : Option Char :=
  cursor.rest.head?

/-- The place after the next character. -/
def advance (cursor : Cursor) : Cursor :=
  match cursor.rest with
  | [] => cursor
  | c :: rest =>
    if isBreak c then ⟨rest, cursor.index + 1, cursor.line + 1, 0⟩
    else if c == '\ufeff' then { cursor with rest, index := cursor.index + 1 }
    else { cursor with rest, index := cursor.index + 1, column := cursor.column + 1 }

/-- The place after so many characters. -/
def skip (cursor : Cursor) : Nat → Cursor
  | 0 => cursor
  | n + 1 => cursor.advance.skip n

/-- The next characters as long as they are in a class, and the place after them. -/
def takeWhile (cursor : Cursor) (has : Char → Bool) : List Char × Cursor :=
  let taken := cursor.rest.takeWhile has
  (taken, cursor.skip taken.length)

/-- The place after the next characters that are in a class. -/
def skipWhile (cursor : Cursor) (has : Char → Bool) : Cursor :=
  (cursor.takeWhile has).2

/-- The place after spaces. -/
def skipSpaces (cursor : Cursor) : Cursor :=
  cursor.skipWhile (· == ' ')

/-- The place after a comment, if one starts here. -/
def skipComment (cursor : Cursor) : Cursor :=
  if cursor.peek? == some '#' then cursor.skipWhile (!isBreak ·) else cursor

/-- The place after a line end, if one is next, with the character that stands for it in a value: a
line feed, or the separator itself. -/
def takeBreak? (cursor : Cursor) : Option (Char × Cursor) :=
  match cursor.rest with
  | [] => none
  | c :: _ =>
    if isBreak c then some (if c == '\u0085' then '\n' else c, cursor.advance) else none

/-- The place after the end of the line, if nothing but a comment is left on it. -/
def takeLineEnd? (cursor : Cursor) : Option Cursor :=
  let cursor := cursor.skipSpaces.skipComment
  match cursor.takeBreak? with
  | some (_, cursor) => some cursor
  | none => if cursor.rest.isEmpty then some cursor else none

/-- Whether a mark of three characters stands here as a word. -/
def isAtMark (cursor : Cursor) (mark : List Char) : Bool :=
  match dropStart? mark cursor.rest with
  | some after => endsAt isSeparator after.head?
  | none => false

/-- The mark that starts a document. -/
def documentStart : List Char := ['-', '-', '-']

/-- The mark that ends a document. -/
def documentEnd : List Char := ['.', '.', '.']

/-- Whether a mark that starts or ends a document stands here. -/
def isAtDocumentMark (cursor : Cursor) : Bool :=
  cursor.isAtMark documentStart || cursor.isAtMark documentEnd

/-- A line end as it is folded with the empty lines after it: alone it is a space, and empty lines
are kept in its place. A separator is kept. -/
def fold (first : Char) (breaks : List Char) : List Char :=
  if first != '\n' then first :: breaks else if breaks.isEmpty then [' '] else breaks

end Cursor

end RequestScript.Yaml
