import RequestScript.Yaml.Cursor

/-!
# Plain scalars

A plain scalar has no quotes. It ends before a comment, before a colon that ends a word, and in a
flow collection before the marks of such collections. It may go on over lines that are indented
deeper than the block around it; their ends are folded.
-/

namespace RequestScript.Yaml.Cursor

/-- Whether a character separates or brackets the items of a flow collection. -/
def isFlowMark (c : Char) : Bool :=
  [',', '[', ']', '\x7b', '\x7d'].contains c

/-- The characters of a plain scalar up to the next separator. -/
def plainWord (flow : Bool) : List Char → List Char
  | [] => []
  | c :: rest =>
    if isSeparator c then []
    else if c == ':' && endsAt (fun d => isSeparator d || (flow && isFlowMark d)) rest.head? then []
    else if flow && (isFlowMark c || c == '?') then []
    else c :: plainWord flow rest

/-- The line ends from here on with spaces between them, up to the mark of a document. With a mark
there is nothing to fold. -/
def plainBreaks (cursor : Cursor) : Nat → Option (List Char) × Cursor
  | 0 => (none, cursor)
  | fuel + 1 =>
    if cursor.isAtDocumentMark then (none, cursor)
    else
      let cursor := cursor.skipSpaces
      match cursor.takeBreak? with
      | some (c, cursor) =>
        let (breaks, cursor) := plainBreaks cursor fuel
        (breaks.map (c :: ·), cursor)
      | none => (some [], cursor)

/-- What stands between two words of a plain scalar. -/
structure Gap where
  /-- The text between the words, empty where the scalar ends. -/
  text : List Char
  /-- The place after the gap. -/
  cursor : Cursor
  /-- Whether a line ended in the gap. -/
  broken : Bool

/-- The gap from here on. -/
def plainGap (cursor : Cursor) : Gap :=
  let (spaces, cursor) := cursor.takeWhile (· == ' ')
  match cursor.takeBreak? with
  | none => ⟨spaces, cursor, false⟩
  | some (first, cursor) =>
    let (breaks, cursor) := plainBreaks cursor (cursor.rest.length + 1)
    ⟨(breaks.map (fold first)).getD [], cursor, true⟩

/-- The words of a plain scalar and the gaps between them, from a word after a gap on. -/
def plainFrom (flow : Bool) (indent : Int) (before : Gap) : Nat → List Char × Cursor × Bool
  | 0 => ([], before.cursor, before.broken)
  | fuel + 1 =>
    let word := plainWord flow before.cursor.rest
    if before.cursor.peek? == some '#' || word.isEmpty then ([], before.cursor, before.broken)
    else
      let gap := (before.cursor.skip word.length).plainGap
      let isLast := gap.text.isEmpty || gap.cursor.peek? == some '#' ||
        (!flow && gap.cursor.column < indent)
      if isLast then (before.text ++ word, gap.cursor, gap.broken)
      else
        let (more, cursor, broken) := plainFrom flow indent gap fuel
        (before.text ++ word ++ more, cursor, broken)

/-- The plain scalar that starts here, the place after it and whether a line ended just before that
place. Outside flow collections it needs an indentation. -/
def takePlain (cursor : Cursor) (flow : Bool) (indent : Int) : List Char × Cursor × Bool :=
  plainFrom flow indent ⟨[], cursor, false⟩ (cursor.rest.length + 1)

end RequestScript.Yaml.Cursor
