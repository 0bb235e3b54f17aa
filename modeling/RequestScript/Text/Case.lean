import RequestScript.Text.CaseTable

/-!
# Lower and upper case

Case mapping of whole texts. A mapping may change the length of a text, and a capital sigma
becomes the final form at the end of a word, so lower case depends on the neighbours of a
character.
-/

namespace RequestScript.Text

/-- Whether the first character that is not case-ignorable is a cased one. -/
def nextIsCased (cs : List Char) : Bool :=
  match cs.find? (!inRanges caseIgnorableRanges ·) with
  | some c => inRanges casedRanges c
  | none => false

/-- The lower case of a character that stands after `before`, nearest first, and before `after`. -/
def lowerChar (before : List Char) (c : Char) (after : List Char) : List Char :=
  if c.toNat < 0x80 then [c.toLower]
  else if c = 'İ' then ['i', '\u0307']
  else if c = 'Σ' then if nextIsCased before && !nextIsCased after then ['ς'] else ['σ']
  else [mapByRuns lowerRuns c]

/-- The lower case of a text that stands after `before`, nearest first. -/
def lowerFrom (before : List Char) : List Char → List Char
  | [] => []
  | c :: after => lowerChar before c after ++ lowerFrom (c :: before) after

/-- The lower case of a text. -/
def lower (cs : List Char) : List Char :=
  lowerFrom [] cs

/-- The upper case of a character. -/
def upperChar (c : Char) : List Char :=
  if c.toNat < 0x80 then [c.toUpper]
  else match upperExpansions.find? (·.1 == c.toNat) with
    | some (_, codes) => codes.map Char.ofNat
    | none => [mapByRuns upperRuns c]

/-- The upper case of a text. -/
def upper (cs : List Char) : List Char :=
  cs.flatMap upperChar

/-- The lower case of a string. -/
def lowercased (s : String) : String :=
  String.ofList (lower s.toList)

/-- The upper case of a string. -/
def uppercased (s : String) : String :=
  String.ofList (upper s.toList)

end RequestScript.Text
