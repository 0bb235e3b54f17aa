import RequestScript.Script.Line

/-!
# Lines of a configuration block

A configuration block starts with a marker line and lasts until a block separator, a line that
starts with `@`, or a method line. Indented lines after `headers:` and `assert:` belong to that
section; every other line is a scalar.
-/

namespace RequestScript

open Text

/-- What separates blocks. -/
def blockSeparator : List Char := ['#', '#', '#']

/-- Whether a line starts with the block separator. -/
def isSeparator (cs : List Char) : Bool :=
  blockSeparator.isPrefixOf cs

namespace ConfigBlock

/-- The section that indented lines belong to. -/
inductive Section where
  | headers
  | assertions
  deriving DecidableEq

/-- A configuration block whose lines are being read. -/
structure Reading where
  /-- What the lines so far say. -/
  block : ConfigBlock
  /-- The open section. -/
  openSection : Option Section := none
  deriving DecidableEq

/-- Whether a line is indented, by two spaces or a tab. -/
def isIndented (line : List Char) : Bool :=
  [' ', ' '].isPrefixOf line || ['\t'].isPrefixOf line

/-- Whether a line without blanks around it ends a configuration block. -/
def isEnd (cs : List Char) : Bool :=
  isSeparator cs || ['@'].isPrefixOf cs || (ScriptLine.methodLine? cs).isSome

/-- A text, unless it is empty. -/
def nonEmpty? (cs : List Char) : Option String :=
  if cs.isEmpty then none else some (String.ofList cs)

/-- The block with what a line of a section says. -/
def applySectionLine (block : ConfigBlock) (cs : List Char) : Section → ConfigBlock
  | .headers =>
    match cut? ':' cs with
    | some (key, value) =>
      let key := trim key
      if key.isEmpty then block
      else
        let value := String.ofList (trim value)
        { block with headers := Table.set block.headers (String.ofList key) value }
    | none => block
  | .assertions =>
    match Assertion.ofChars? cs with
    | some assertion => { block with assertions := block.assertions ++ [assertion] }
    | none => block

/-- The block with what a scalar line says, and the section that the line opens. An integer that
cannot be read leaves the scalar absent. -/
def applyScalarLine (block : ConfigBlock) (cs : List Char) : Reading :=
  let (key, value) := (cut? ':' cs).getD (cs, [])
  let value := trim value
  match String.ofList (trim key) with
  | "headers" => ⟨block, if value.isEmpty then some .headers else none⟩
  | "assert" => ⟨block, if value.isEmpty then some .assertions else none⟩
  | "baseUrl" => ⟨{ block with baseUrl := nonEmpty? value }, none⟩
  | "collection" => ⟨{ block with collection := nonEmpty? value }, none⟩
  | "timeout" => ⟨{ block with timeout := readInt? value }, none⟩
  | "retries" => ⟨{ block with retries := readInt? value }, none⟩
  | _ => ⟨block, none⟩

/-- The block after one more line, or nothing if the line does not belong to it. -/
def Reading.step? (reading : Reading) (index : Nat) (line : List Char) : Option Reading :=
  let cs := trim line
  if cs.isEmpty then some reading
  else
    let place (block : ConfigBlock) : ConfigBlock := { block with endLine := index }
    match if isIndented line && !isSeparator cs then reading.openSection else none with
    | some openSection =>
      some { reading with block := place (applySectionLine reading.block cs openSection) }
    | none =>
      if isEnd cs then none
      else
        let next := applyScalarLine reading.block cs
        some { next with block := place next.block }

end ConfigBlock

end RequestScript
