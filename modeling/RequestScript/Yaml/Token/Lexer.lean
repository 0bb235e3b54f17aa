import RequestScript.Yaml.Property
import RequestScript.Yaml.Scalar.Block
import RequestScript.Yaml.Scalar.Plain
import RequestScript.Yaml.Scalar.Quoted
import RequestScript.Yaml.Source

/-!
# Cutting a YAML text into tokens

Whether a node is a name in a map is seen at the colon after it. So a lexer remembers for each
level of flow collections the last token that may start a name, and puts the token for a name in
front of it when the colon comes. A name without a question mark ends on its line and within 1024
characters.
-/

namespace RequestScript.Yaml

/-- A token that may start a name. -/
structure Candidate where
  /-- The number of tokens before it. -/
  number : Nat
  /-- Whether the block around it needs a name here. -/
  required : Bool
  /-- The place where it starts. -/
  start : Cursor

/-- How far a text has been cut. -/
structure Lexer where
  /-- The place that has been reached. -/
  cursor : Cursor
  /-- The tokens, the last one first. -/
  tokens : List Token := []
  /-- The number of flow collections that are open. -/
  flowLevel : Nat := 0
  /-- The indentation of the innermost block. -/
  indent : Int := -1
  /-- The indentations of the blocks around it. -/
  outer : List Int := []
  /-- Whether a name may start here. -/
  nameAllowed : Bool := true
  /-- The tokens that may start a name, by the level of flow collections. -/
  candidates : List (Nat × Candidate) := []

namespace Lexer

/-- How many characters a name may have. -/
def nameLimit : Nat := 1024

/-- The lexer with one more token. -/
def push (lexer : Lexer) (token : Token) : Lexer :=
  { lexer with tokens := token :: lexer.tokens }

/-- The lexer with a token put in after so many tokens. -/
def insert (lexer : Lexer) (number : Nat) (token : Token) : Lexer :=
  let (after, before) := lexer.tokens.splitAt (lexer.tokens.length - number)
  { lexer with tokens := after ++ token :: before }

/-- Whether the lexer is inside a flow collection. -/
def isInFlow (lexer : Lexer) : Bool :=
  lexer.flowLevel != 0

/-- Whether a candidate can no longer be a name. -/
def isStale (lexer : Lexer) (candidate : Candidate) : Bool :=
  candidate.start.line != lexer.cursor.line ||
    candidate.start.index + nameLimit < lexer.cursor.index

/-- The lexer without the candidates that can no longer be names. One that has to be a name is an
error. -/
def dropStale (lexer : Lexer) : Except Fault Lexer :=
  let (stale, fresh) := lexer.candidates.partition fun (_, candidate) => lexer.isStale candidate
  if stale.any (·.2.required) then .error .malformedConfiguration
  else .ok { lexer with candidates := fresh }

/-- The lexer without a candidate on the present level. -/
def dropCandidate (lexer : Lexer) : Except Fault Lexer :=
  match lexer.candidates.lookup lexer.flowLevel with
  | some candidate =>
    if candidate.required then .error .malformedConfiguration
    else .ok { lexer with candidates := lexer.candidates.filter (·.1 != lexer.flowLevel) }
  | none => .ok lexer

/-- Remembers that the next token may start a name, where names are allowed. -/
def saveCandidate (lexer : Lexer) : Except Fault Lexer := do
  if !lexer.nameAllowed then return lexer
  let lexer ← lexer.dropCandidate
  let candidate : Candidate := {
    number := lexer.tokens.length
    required := !lexer.isInFlow && lexer.indent == lexer.cursor.column
    start := lexer.cursor }
  return { lexer with candidates := (lexer.flowLevel, candidate) :: lexer.candidates }

/-- Ends the blocks that are indented deeper than a column. -/
def endBlocks (lexer : Lexer) (column : Int) : List Int → Lexer
  | [] => { lexer with outer := [] }
  | around :: outer =>
    if column < lexer.indent then
      ({ lexer with tokens := .blockEnd :: lexer.tokens, indent := around }).endBlocks column outer
    else { lexer with outer := around :: outer }

/-- Ends the blocks that are indented deeper than a column; inside a flow collection none ends. -/
def unindent (lexer : Lexer) (column : Int) : Lexer :=
  if lexer.isInFlow then lexer else lexer.endBlocks column lexer.outer

/-- Starts a block at a column after so many tokens, if the column is deeper than the innermost
block. -/
def indentTo (lexer : Lexer) (column : Nat) (number : Nat) (token : Token) : Lexer :=
  if lexer.indent < column then
    { lexer.insert number token with
      indent := column
      outer := lexer.indent :: lexer.outer }
  else lexer

/-- Starts a block at the present column, if it is deeper than the innermost block. -/
def indentHere (lexer : Lexer) (token : Token) : Lexer :=
  lexer.indentTo lexer.cursor.column lexer.tokens.length token

/-- Takes a token of so many characters. -/
def take (lexer : Lexer) (length : Nat) (token : Token) : Lexer :=
  { lexer.push token with cursor := lexer.cursor.skip length }

/-- Ends the text. -/
def endText (lexer : Lexer) : Except Fault Lexer := do
  let lexer ← (lexer.unindent (-1)).dropCandidate
  return { lexer.push .textEnd with candidates := [] }

/-- Takes the mark that starts or ends a document. -/
def takeMark (lexer : Lexer) (token : Token) : Except Fault Lexer := do
  let lexer ← (lexer.unindent (-1)).dropCandidate
  return { lexer.take 3 token with nameAllowed := false }

/-- Takes a directive. -/
def takeDirective (lexer : Lexer) : Except Fault Lexer := do
  let lexer ← (lexer.unindent (-1)).dropCandidate
  let (directive, cursor) ← lexer.cursor.takeDirective
  return { lexer.push (.directive directive) with cursor, nameAllowed := false }

/-- Takes the bracket that opens a flow collection. -/
def openFlow (lexer : Lexer) (token : Token) : Except Fault Lexer := do
  let lexer ← lexer.saveCandidate
  return { lexer.take 1 token with flowLevel := lexer.flowLevel + 1, nameAllowed := true }

/-- Takes the bracket that closes a flow collection. -/
def closeFlow (lexer : Lexer) (token : Token) : Except Fault Lexer := do
  let lexer ← lexer.dropCandidate
  if !lexer.isInFlow then throw .malformedConfiguration
  return { lexer.take 1 token with flowLevel := lexer.flowLevel - 1, nameAllowed := false }

/-- Takes the comma between the items of a flow collection. -/
def takeSeparator (lexer : Lexer) : Except Fault Lexer := do
  let lexer ← lexer.dropCandidate
  return { lexer.take 1 .flowSeparator with nameAllowed := true }

/-- Takes the dash before an item of a block list. -/
def takeItem (lexer : Lexer) : Except Fault Lexer := do
  if !lexer.isInFlow && !lexer.nameAllowed then throw .malformedConfiguration
  let lexer := if lexer.isInFlow then lexer else lexer.indentHere .blockListStart
  let lexer ← lexer.dropCandidate
  return { lexer.take 1 .blockItem with nameAllowed := true }

/-- Takes the question mark before a name. -/
def takeNameMark (lexer : Lexer) : Except Fault Lexer := do
  if !lexer.isInFlow && !lexer.nameAllowed then throw .malformedConfiguration
  let lexer := if lexer.isInFlow then lexer else lexer.indentHere .blockMapStart
  let lexer ← lexer.dropCandidate
  return { lexer.take 1 .name with nameAllowed := !lexer.isInFlow }

/-- Takes the colon before a value. What stands before it on the present level is a name, if it can
be one. -/
def takeValueMark (lexer : Lexer) : Except Fault Lexer := do
  match lexer.candidates.lookup lexer.flowLevel with
  | some candidate =>
    let lexer := {
      lexer.insert candidate.number .name with
      candidates := lexer.candidates.filter (·.1 != lexer.flowLevel) }
    let lexer :=
      if lexer.isInFlow then lexer
      else lexer.indentTo candidate.start.column candidate.number .blockMapStart
    return { lexer.take 1 .value with nameAllowed := false }
  | none =>
    if !lexer.isInFlow && !lexer.nameAllowed then throw .malformedConfiguration
    let lexer := if lexer.isInFlow then lexer else lexer.indentHere .blockMapStart
    return { lexer.take 1 .value with nameAllowed := !lexer.isInFlow }

/-- Takes a token that may start a name, as it is read at the cursor. -/
def takeNamed {α : Type} (lexer : Lexer) (read : Cursor → Except Fault (α × Cursor))
    (token : α → Token) : Except Fault Lexer := do
  let lexer ← lexer.saveCandidate
  let (part, cursor) ← read lexer.cursor
  return { lexer.push (token part) with cursor, nameAllowed := false }

/-- Takes a plain scalar. At the start of a line after it a name may start. -/
def takePlain (lexer : Lexer) : Except Fault Lexer := do
  let lexer ← lexer.saveCandidate
  let (text, cursor, broken) := lexer.cursor.takePlain lexer.isInFlow (lexer.indent + 1)
  return { lexer.push (.scalar (String.ofList text) true) with cursor, nameAllowed := broken }

/-- Takes a block scalar. -/
def takeBlock (lexer : Lexer) (folded : Bool) : Except Fault Lexer := do
  let lexer ← lexer.dropCandidate
  let (text, cursor) ← lexer.cursor.takeBlock folded lexer.indent
  return { lexer.push (.scalar (String.ofList text) false) with cursor, nameAllowed := true }

/-- Takes a scalar in quotes. -/
def takeQuoted (lexer : Lexer) (double : Bool) : Except Fault Lexer :=
  lexer.takeNamed (·.takeQuoted double) fun text => .scalar (String.ofList text) false

/-- The characters that no plain scalar starts with. -/
def reservedStarts : List Char :=
  [',', '[', ']', '\x7b', '\x7d', '#', '&', '*', '!', '|', '>', '\x27', '\x22', '%', '@', '\x60']

/-- Whether a plain scalar may start with a character before another one. -/
def startsPlain (lexer : Lexer) (c : Char) (next : Option Char) : Bool :=
  if ['-', '?', ':'].contains c then
    !endsAt isSeparator next && (c == '-' || !lexer.isInFlow)
  else
    !isSeparator c && !reservedStarts.contains c

/-- Takes the token that starts with a character. -/
def takeToken (lexer : Lexer) (c : Char) (next : Option Char) : Except Fault Lexer :=
  let endsWord := endsAt isSeparator next
  if c == '%' && lexer.cursor.column == 0 then lexer.takeDirective
  else if lexer.cursor.column == 0 && lexer.cursor.isAtMark Cursor.documentStart then
    lexer.takeMark .documentStart
  else if lexer.cursor.column == 0 && lexer.cursor.isAtMark Cursor.documentEnd then
    lexer.takeMark .documentEnd
  else if c == '[' then lexer.openFlow .flowListStart
  else if c == '\x7b' then lexer.openFlow .flowMapStart
  else if c == ']' then lexer.closeFlow .flowListEnd
  else if c == '\x7d' then lexer.closeFlow .flowMapEnd
  else if c == ',' then lexer.takeSeparator
  else if c == '-' && endsWord then lexer.takeItem
  else if c == '?' && (lexer.isInFlow || endsWord) then lexer.takeNameMark
  else if c == ':' && (lexer.isInFlow || endsWord) then lexer.takeValueMark
  else if c == '*' then lexer.takeNamed Cursor.takeAnchor .alias
  else if c == '&' then lexer.takeNamed Cursor.takeAnchor .anchor
  else if c == '!' then lexer.takeNamed Cursor.takeTag .tag
  else if c == '|' && !lexer.isInFlow then lexer.takeBlock false
  else if c == '>' && !lexer.isInFlow then lexer.takeBlock true
  else if c == '\x27' then lexer.takeQuoted false
  else if c == '\x22' then lexer.takeQuoted true
  else if lexer.startsPlain c next then lexer.takePlain
  else .error .malformedConfiguration

/-- Goes on to the next token. A name may start on a new line outside flow collections. -/
def skipToToken (lexer : Lexer) : Nat → Lexer
  | 0 => lexer
  | fuel + 1 =>
    let cursor := lexer.cursor.skipSpaces.skipComment
    match cursor.takeBreak? with
    | some (_, cursor) =>
      { lexer with cursor, nameAllowed := lexer.nameAllowed || !lexer.isInFlow }.skipToToken fuel
    | none => { lexer with cursor }

/-- The place after the byte order mark that may start a text. -/
def skipMark (lexer : Lexer) : Lexer :=
  if lexer.cursor.index == 0 && lexer.cursor.peek? == some '\ufeff' then
    { lexer with cursor := lexer.cursor.advance }
  else lexer

/-- Takes one more token. -/
def step (lexer : Lexer) : Except Fault Lexer := do
  let lexer ← (lexer.skipMark.skipToToken (lexer.cursor.rest.length + 1)).dropStale
  let lexer := lexer.unindent lexer.cursor.column
  match lexer.cursor.rest with
  | [] => lexer.endText
  | c :: rest => (← lexer.takeToken c rest.head?).dropStale

/-- The number of tokens that no colon further on can change. -/
def settled (lexer : Lexer) : Nat :=
  lexer.candidates.foldl (fun least (_, candidate) => min least candidate.number)
    lexer.tokens.length

/-- Whether no more text would make the next token right: not even the quotes that would close one
of either kind. -/
def isStuck (lexer : Lexer) : Bool :=
  let rest := lexer.cursor.rest ++ ['\x22', '\n', '\x27', '\n']
  match { lexer with cursor := { lexer.cursor with rest } }.step with
  | .ok _ => false
  | .error _ => true

end Lexer

/-- The tokens of a text, as far as they can be told, and why there are no more. -/
structure Tokens where
  tokens : List Token
  ending : Fault

/-- The tokens from a lexer on. Where the text goes on unknown, a token that reaches its end cannot
be told. -/
def Lexer.run (lexer : Lexer) (after : Option Fault) : Nat → Tokens
  | 0 => ⟨lexer.tokens.reverse, .malformedConfiguration⟩
  | fuel + 1 =>
    let stop (fault : Fault) : Tokens := ⟨lexer.tokens.reverse.take lexer.settled, fault⟩
    if lexer.tokens.head? == some .textEnd then
      ⟨lexer.tokens.reverse, .malformedConfiguration⟩
    else match lexer.step, after with
      | .ok next, none => next.run none fuel
      | .ok next, some unread =>
        if next.cursor.rest.isEmpty then stop unread else next.run (some unread) fuel
      | .error fault, none => stop fault
      | .error fault, some unread => stop (if lexer.isStuck then fault else unread)

/-- The tokens of a source. -/
def Tokens.ofSource (source : Source) : Tokens :=
  Lexer.run { cursor := ⟨source.known, 0, 0, 0⟩ } source.after (source.known.length + 2)

end RequestScript.Yaml
