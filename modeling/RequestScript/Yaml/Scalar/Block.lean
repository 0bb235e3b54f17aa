import RequestScript.Fault
import RequestScript.Yaml.Cursor

/-!
# Block scalars

A block scalar holds the indented lines after its header, either as they are or folded. The header
may say how deep the lines are indented, and whether the line ends at the end are kept, dropped or
clipped to one.
-/

namespace RequestScript.Yaml.Cursor

/-- What becomes of the line ends at the end of a block scalar. -/
inductive Chomping where
  | clip
  | drop
  | keep
  deriving DecidableEq

/-- The header of a block scalar. -/
structure BlockHeader where
  chomping : Chomping := .clip
  /-- How much deeper the lines are indented than the block around them, if it says so. -/
  increment : Option Nat := none

/-- The sign in a header, if one is next. -/
def takeChomping? (cursor : Cursor) : Option (Chomping × Cursor) :=
  match cursor.peek? with
  | some '+' => some (.keep, cursor.advance)
  | some '-' => some (.drop, cursor.advance)
  | _ => none

/-- The digit in a header, if one is next; it is not zero. -/
def takeIncrement (cursor : Cursor) : Except Fault (Option Nat × Cursor) :=
  match cursor.peek? with
  | some c =>
    if c == '0' then .error .malformedConfiguration
    else if c.isDigit then .ok (some (c.toNat - 0x30), cursor.advance)
    else .ok (none, cursor)
  | none => .ok (none, cursor)

/-- The sign and the digit of a header, in either order. -/
def takeIndicators (cursor : Cursor) : Except Fault (BlockHeader × Cursor) := do
  match cursor.takeChomping? with
  | some (chomping, cursor) =>
    let (increment, cursor) ← cursor.takeIncrement
    return (⟨chomping, increment⟩, cursor)
  | none =>
    let (increment, cursor) ← cursor.takeIncrement
    if increment.isNone then return (⟨.clip, none⟩, cursor)
    match cursor.takeChomping? with
    | some (chomping, cursor) => return (⟨chomping, increment⟩, cursor)
    | none => return (⟨.clip, increment⟩, cursor)

/-- The header that starts here with its mark, and the place after its line. -/
def takeBlockHeader (cursor : Cursor) : Except Fault (BlockHeader × Cursor) := do
  let (header, cursor) ← cursor.advance.takeIndicators
  if !endsAt isSpaceOrBreak cursor.peek? then throw .malformedConfiguration
  match cursor.takeLineEnd? with
  | some cursor => return (header, cursor)
  | none => throw .malformedConfiguration

/-- The line ends from here on with spaces between them, the deepest indentation before one of them
or before the first line with content, and the place there. -/
def leadingBreaks (cursor : Cursor) (deepest : Nat) : Nat → List Char × Nat × Cursor
  | 0 => ([], deepest, cursor)
  | fuel + 1 =>
    let cursor := cursor.skipSpaces
    let deepest := max deepest cursor.column
    match cursor.takeBreak? with
    | some (c, cursor) =>
      let (breaks, deepest, cursor) := leadingBreaks cursor deepest fuel
      (c :: breaks, deepest, cursor)
    | none => ([], deepest, cursor)

/-- The place after the spaces here, up to a column. -/
def skipIndent (cursor : Cursor) (indent : Nat) : Cursor :=
  let spaces := cursor.rest.takeWhile (· == ' ')
  cursor.skip (min spaces.length (indent - cursor.column))

/-- The line ends from here on with an indentation between them, and the place after the
indentation of the next line. -/
def innerBreaks (cursor : Cursor) (indent : Nat) : Nat → List Char × Cursor
  | 0 => ([], cursor)
  | fuel + 1 =>
    let cursor := cursor.skipIndent indent
    match cursor.takeBreak? with
    | some (c, cursor) =>
      let (breaks, cursor) := innerBreaks cursor indent fuel
      (c :: breaks, cursor)
    | none => ([], cursor)

/-- Whether a line of the block starts here. -/
def isInBlock (cursor : Cursor) (indent : Nat) : Bool :=
  cursor.column == indent && !cursor.rest.isEmpty

/-- Whether a blank is next. -/
def isAtBlank (cursor : Cursor) : Bool :=
  (cursor.peek?.map isInlineBlank).getD false

/-- The text of the lines from here on, the end of the last one with the line ends after it, and
the place after them. -/
def blockLines (folded : Bool) (indent : Nat) (breaks : List Char) (cursor : Cursor) :
    Nat → List Char × List Char × List Char × Cursor
  | 0 => ([], [], breaks, cursor)
  | fuel + 1 =>
    if !cursor.isInBlock indent then ([], [], breaks, cursor)
    else
      let startsBlank := cursor.isAtBlank
      let (line, after) := cursor.takeWhile (!isBreak ·)
      let (lineEnd, after) := match after.takeBreak? with
        | some (c, after) => ([c], after)
        | none => ([], after)
      let (more, after) := after.innerBreaks indent (after.rest.length + 1)
      if !after.isInBlock indent then (breaks ++ line, lineEnd, more, after)
      else
        let joint :=
          if folded && lineEnd == ['\n'] && !startsBlank && !after.isAtBlank then
            if more.isEmpty then [' '] else []
          else lineEnd
        let (text, lastEnd, final, cursor) := blockLines folded indent more after fuel
        (breaks ++ line ++ joint ++ text, lastEnd, final, cursor)

/-- The text of the block scalar that starts here inside a block with an indentation, and the place
after it. -/
def takeBlock (folded : Bool) (parent : Int) (cursor : Cursor) :
    Except Fault (List Char × Cursor) := do
  let (header, cursor) ← cursor.takeBlockHeader
  let least := (max (parent + 1) 1).toNat
  let fuel := cursor.rest.length + 1
  let (breaks, indent, cursor) := match header.increment with
    | none =>
      let (breaks, deepest, cursor) := cursor.leadingBreaks 0 fuel
      (breaks, max least deepest, cursor)
    | some increment =>
      let indent := least + increment - 1
      let (breaks, cursor) := cursor.innerBreaks indent fuel
      (breaks, indent, cursor)
  let (text, lastEnd, final, cursor) := blockLines folded indent breaks cursor fuel
  match header.chomping with
  | .clip => return (text ++ lastEnd, cursor)
  | .drop => return (text, cursor)
  | .keep => return (text ++ lastEnd ++ final, cursor)

end RequestScript.Yaml.Cursor
