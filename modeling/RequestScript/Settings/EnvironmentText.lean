import RequestScript.Table
import RequestScript.Text.Blank
import RequestScript.Text.Split
import RequestScript.Text.Substitute

/-!
# Environment texts

An environment text gives values to names, one binding a line: `NAME=value`, with an optional
`export` in front and an optional comment behind. In quotes a value may span lines and hold
escapes. A line that is no binding is left out. A value may refer to names bound before it and
to the variables around, as in `${NAME}` and `${NAME:-default}`.
-/

namespace RequestScript.EnvironmentText

open Text

/-- A blank inside a line. -/
def isInnerBlank (c : Char) : Bool :=
  isBlank c && c != '\n' && c != '\r'

/-- A text without the blanks of the line at its start. -/
def skipInner (cs : List Char) : List Char :=
  cs.dropWhile isInnerBlank

/-- The text up to the closing quote, and the text after that. The character after a backslash
belongs to the backslash, so that a quote there does not close. -/
def untilQuote? (quote : Char) : List Char → Option (List Char × List Char)
  | [] => none
  | ['\\'] => none
  | '\\' :: c :: rest =>
    (untilQuote? quote rest).map fun (text, after) => ('\\' :: c :: text, after)
  | c :: rest =>
    if c = quote then some ([], rest)
    else (untilQuote? quote rest).map fun (text, after) => (c :: text, after)

/-- A text with the escapes of a table replaced; other backslashes stay. -/
def unescape (escapes : List (Char × Char)) : List Char → List Char
  | [] => []
  | '\\' :: c :: rest =>
    match escapes.lookup c with
    | some escaped => escaped :: unescape escapes rest
    | none => '\\' :: unescape escapes (c :: rest)
  | c :: rest => c :: unescape escapes rest

/-- The escapes in single quotes. -/
def singleEscapes : List (Char × Char) :=
  [('\\', '\\'), ('\x27', '\x27')]

/-- The escapes in double quotes. -/
def doubleEscapes : List (Char × Char) :=
  [('\\', '\\'), ('\x27', '\x27'), ('\x22', '\x22'), ('a', '\x07'), ('b', '\x08'), ('f', '\x0c'),
    ('n', '\n'), ('r', '\r'), ('t', '\t'), ('v', '\x0b')]

/-- A text up to the blanks before a number sign. -/
def dropComment : List Char → List Char
  | [] => []
  | c :: rest =>
    if isBlank c && (trimStart rest).head? == some '#' then [] else c :: dropComment rest

/-- The value in a text after an equals sign, and the text after the value. A quote has to be
closed. Without quotes a comment may follow the equals sign itself, after blanks. -/
def value? (cs : List Char) : Option (List Char × List Char) :=
  match skipInner cs with
  | '\x27' :: rest =>
    (untilQuote? '\x27' rest).map fun (text, after) => (unescape singleEscapes text, after)
  | '\x22' :: rest =>
    (untilQuote? '\x22' rest).map fun (text, after) => (unescape doubleEscapes text, after)
  | _ =>
    let line := cs.takeWhile (· != '\n')
    some (trim (dropComment line), cs.drop line.length)

/-- The name at the start of a text, and the text after it. A name has characters. -/
def name? (cs : List Char) : Option (List Char × List Char) :=
  match cs with
  | '\x27' :: rest =>
    let name := rest.takeWhile (· != '\x27')
    match rest.drop name.length with
    | _ :: after => if name.isEmpty then none else some (name, after)
    | [] => none
  | cs =>
    let name := cs.takeWhile fun c => c != '=' && c != '#' && !isBlank c
    if name.isEmpty then none else some (name, cs.drop name.length)

/-- The text after the word that may stand before a name. -/
def skipExport (cs : List Char) : List Char :=
  match dropStart? "export".toList cs with
  | some rest => if (rest.head?.map isInnerBlank).getD false then skipInner rest else cs
  | none => cs

/-- The text after a line, of which no more than a comment is left. -/
def lineEnd? (cs : List Char) : Option (List Char) :=
  let rest := match skipInner cs with
    | '#' :: comment => comment.dropWhile (· != '\n')
    | _ => cs
  match skipInner rest with
  | [] => some []
  | '\n' :: after => some after
  | _ => none

/-- The text after the line that a text starts in. -/
def skipLine (cs : List Char) : List Char :=
  (cs.dropWhile (· != '\n')).drop 1

/-- A name and the value that is bound to it. A name alone has none. -/
abbrev Binding := List Char × Option (List Char)

/-- What a line is, or the lines that a value spans. -/
inductive Statement where
  | binding (binding : Binding)
  | comment
  /-- It is no binding and no comment. -/
  | unreadable

/-- The statement at the start of a text, and the text after it. -/
def statement (cs : List Char) : Statement × List Char :=
  let finish (found : Statement) (rest : List Char) : Statement × List Char :=
    match lineEnd? rest with
    | some after => (found, after)
    | none => (.unreadable, skipLine rest)
  let cs := skipExport cs
  if ['#'].isPrefixOf cs then finish .comment cs
  else match name? cs with
    | none => (.unreadable, skipLine cs)
    | some (name, rest) =>
      match skipInner rest with
      | '=' :: rest =>
        match value? rest with
        | some (value, after) => finish (.binding (name, some value)) after
        | none => (.unreadable, skipLine rest)
      | rest => finish (.binding (name, none)) rest

/-- The statements of a text with line feeds as line endings, each with the number of the line that
follows the statement before it. -/
def statements (line : Nat) (cs : List Char) : List (Nat × Statement) :=
  match trimStart cs with
  | [] => []
  | c :: more =>
    let (found, rest) := statement (c :: more)
    if rest.length < cs.length then
      let taken := cs.take (cs.length - rest.length)
      (line, found) :: statements (line + taken.count '\n') rest
    else [(line, found)]
termination_by cs.length

/-- A text without the byte order mark that may start it. -/
def skipMark : List Char → List Char
  | '\ufeff' :: rest => rest
  | cs => cs

/-- The statements of a whole text. -/
def statementsOf (text : String) : List (Nat × Statement) :=
  statements 1 (skipMark text.toList)

/-- The bindings of a text. -/
def bindings (text : String) : List Binding :=
  (statementsOf text).filterMap fun
    | (_, .binding binding) => some binding
    | _ => none

/-- The numbers of the lines that cannot be read. -/
def unreadable (text : String) : List Nat :=
  (statementsOf text).filterMap fun
    | (line, .unreadable) => some line
    | _ => none

/-- The reference at the start of a text as its name, its default and the text after it. -/
def reference? : List Char → Option (List Char × List Char × List Char)
  | '$' :: '\x7b' :: rest =>
    let name := rest.takeWhile fun c => c != '\x7d' && c != ':'
    match rest.drop name.length with
    | '\x7d' :: after => some (name, [], after)
    | ':' :: '-' :: more =>
      let fallback := more.takeWhile (· != '\x7d')
      match more.drop fallback.length with
      | _ :: after => some (name, fallback, after)
      | [] => none
    | _ => none
  | _ => none

/-- What names are bound to; a name alone is bound to nothing. -/
abbrev Bound := Table (Option String)

/-- What a name stands for where names are bound among variables around them. A name that is bound
to nothing stands for nothing. -/
def meaning? (around : Table String) (bound : Bound) (name : String) : Option String :=
  match Table.get? bound name with
  | some value => some (value.getD "")
  | none => Table.get? around name

/-- A value with each reference replaced, by what the name stands for or else by its default. -/
def resolve (around : Table String) (bound : Bound) (value : List Char) : List Char :=
  substitute (fun cs => (reference? cs).map fun (name, fallback, after) =>
    (((meaning? around bound (String.ofList name)).map (·.toList)).getD fallback, after)) value

/-- What the names of a text are bound to, among variables around it. -/
def read (around : Table String) (text : String) : Bound :=
  (bindings text).foldl (fun bound (name, value) =>
    Table.set bound (String.ofList name)
      (value.map fun value => String.ofList (resolve around bound value))) []

/-- Variables with those of a text set over them. -/
def extend (around : Table String) (text : String) : Table String :=
  Table.merge around ((read around text).filterMap fun (name, value) => value.map (name, ·))

end RequestScript.EnvironmentText
