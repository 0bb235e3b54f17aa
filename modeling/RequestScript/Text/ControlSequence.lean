import RequestScript.Text.Substitute

/-!
# Control sequences

A terminal takes an escape character and a bracket, then parameters, then intermediate characters
and one final character for a control sequence, for instance one that changes the colour. Each of
the three kinds is a range of ASCII. What is printed has no control sequences.
-/

namespace RequestScript.Text

/-- A parameter of a control sequence: a digit or one of `:;<=>?`. -/
def isControlParameter (c : Char) : Bool :=
  '0' ≤ c && c ≤ '?'

/-- An intermediate character of a control sequence: the space or one of the marks up to `/`. -/
def isControlIntermediate (c : Char) : Bool :=
  ' ' ≤ c && c ≤ '/'

/-- The final character of a control sequence. -/
def isControlFinal (c : Char) : Bool :=
  '@' ≤ c && c ≤ '~'

/-- The text after the control sequence at the start of a text, if there is one. -/
def afterControl? : List Char → Option (List Char)
  | '\x1b' :: '[' :: rest =>
    match (rest.dropWhile isControlParameter).dropWhile isControlIntermediate with
    | c :: after => if isControlFinal c then some after else none
    | [] => none
  | _ => none

/-- A text without its control sequences. -/
def withoutControls (s : String) : String :=
  String.ofList (substitute (fun cs => (afterControl? cs).map ([], ·)) s.toList)

end RequestScript.Text
