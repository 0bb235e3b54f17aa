import RequestScript.Fault
import RequestScript.Text.Halves
import RequestScript.Text.Numeral
import RequestScript.Yaml.Cursor

/-!
# Quoted scalars

Between single quotes two quotes stand for one. Between double quotes a backslash starts an escape.
In both the line ends are folded together with the blanks around them, and the mark of a document
may not stand at the start of a line.
-/

namespace RequestScript.Yaml.Cursor

open Text

/-- The line ends from here on with blanks between them, and the place after them. -/
def quotedBreaks (cursor : Cursor) : Nat → Except Fault (List Char × Cursor)
  | 0 => .error .malformedConfiguration
  | fuel + 1 =>
    if cursor.isAtDocumentMark then .error .malformedConfiguration
    else
      let cursor := cursor.skipWhile isInlineBlank
      match cursor.takeBreak? with
      | some (c, cursor) => do
        let (breaks, cursor) ← quotedBreaks cursor fuel
        return (c :: breaks, cursor)
      | none => .ok ([], cursor)

/-- The line ends from here on with blanks between them, and the place after them. -/
def takeQuotedBreaks (cursor : Cursor) : Except Fault (List Char × Cursor) :=
  cursor.quotedBreaks (cursor.rest.length + 1)

/-- What the blanks from here on stand for: themselves, or a folded line end. -/
def quotedGap (cursor : Cursor) : Except Fault (List Char × Cursor) := do
  let (blanks, after) := cursor.takeWhile isInlineBlank
  match after.takeBreak? with
  | some (first, after) =>
    let (breaks, after) ← after.takeQuotedBreaks
    return (fold first breaks, after)
  | none => return (blanks, after)

/-- The characters that escapes of one letter stand for. -/
def letterEscapes : List (Char × Char) :=
  [('0', '\x00'), ('a', '\x07'), ('b', '\x08'), ('t', '\t'), ('\t', '\t'), ('n', '\n'),
    ('v', '\x0b'), ('f', '\x0c'), ('r', '\r'), ('e', '\x1b'), (' ', ' '), ('\x22', '\x22'),
    ('\\', '\\'), ('/', '/'), ('N', '\u0085'), ('_', '\u00a0'), ('L', '\u2028'), ('P', '\u2029')]

/-- The number of hexadecimal digits after an escape letter. -/
def escapeLength? (c : Char) : Option Nat :=
  if c = 'x' then some 2 else if c = 'u' then some 4 else if c = 'U' then some 8 else none

/-- The number that so many hexadecimal digits at the start of a text denote. -/
def codeOf? (length : Nat) (cs : List Char) : Option Nat := do
  let values ← (cs.take length).mapM hexDigitValue?
  if values.length = length then some (values.foldl (fun n value => 16 * n + value) 0) else none

/-- The character with a code, which may lie beyond all characters. -/
def charOfCode (code : Nat) : Except Fault Char :=
  if code < 0x110000 then .ok (charAlone code)
  else if code < 0x80000000 then .error .notACharacter
  else .error .numberTooLarge

/-- The second half of the character whose first half is a code, if an escape for it comes next. -/
def lowHalf? (code : Nat) (cursor : Cursor) : Option Nat :=
  match cursor.rest with
  | '\\' :: 'u' :: digits =>
    (codeOf? 4 digits).filter fun low => isHighHalf code && isLowHalf low
  | _ => none

/-- The character of an escape with so many digits, from its letter on. Two halves make one
character. -/
def takeCode (length : Nat) (cursor : Cursor) : Except Fault (Char × Cursor) := do
  let after := cursor.skip (length + 1)
  match codeOf? length (cursor.rest.drop 1) with
  | some code =>
    match lowHalf? code after with
    | some low => return (joinHalves code low, after.skip 6)
    | none => return (← charOfCode code, after)
  | none => throw .malformedConfiguration

/-- What an escape stands for, from the character after its backslash on. A backslash at the end
of a line joins the line to the next. -/
def takeEscape (cursor : Cursor) : Except Fault (List Char × Cursor) :=
  match cursor.peek? with
  | none => .error .malformedConfiguration
  | some c =>
    match letterEscapes.lookup c, escapeLength? c, cursor.takeBreak? with
    | some escaped, _, _ => .ok ([escaped], cursor.advance)
    | none, some length, _ => do
      let (c, cursor) ← cursor.takeCode length
      return ([c], cursor)
    | none, none, some (_, after) => after.takeQuotedBreaks
    | none, none, none => .error .malformedConfiguration

/-- The text up to the closing quote, and the place after it. -/
def untilQuote (double : Bool) (cursor : Cursor) : Nat → Except Fault (List Char × Cursor)
  | 0 => .error .malformedConfiguration
  | fuel + 1 =>
    let goOn (text : List Char) (cursor : Cursor) : Except Fault (List Char × Cursor) := do
      let (more, cursor) ← untilQuote double cursor fuel
      return (text ++ more, cursor)
    match double, cursor.rest with
    | _, [] => .error .malformedConfiguration
    | false, '\x27' :: '\x27' :: _ => goOn ['\x27'] (cursor.skip 2)
    | false, '\x27' :: _ | true, '\x22' :: _ => .ok ([], cursor.advance)
    | true, '\\' :: _ => do
      let (text, cursor) ← cursor.advance.takeEscape
      goOn text cursor
    | _, c :: _ =>
      if isSeparator c then do
        let (text, cursor) ← cursor.quotedGap
        goOn text cursor
      else goOn [c] cursor.advance

/-- The text of the quoted scalar that starts here, and the place after it. -/
def takeQuoted (double : Bool) (cursor : Cursor) : Except Fault (List Char × Cursor) :=
  untilQuote double cursor.advance (cursor.rest.length + 1)

end RequestScript.Yaml.Cursor
