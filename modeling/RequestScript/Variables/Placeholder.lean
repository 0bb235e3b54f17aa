import RequestScript.Generator.Generate
import RequestScript.Text.Word
import RequestScript.Variables.Layer

/-!
# Placeholders

A placeholder is a text without braces between two pairs of braces. Every placeholder of a text
is replaced in one pass from left to right: by the name of the active environment, by a generated
value, or by the value of a variable. One that stands for nothing stays, and what replaces a
placeholder is not looked through again.
-/

namespace RequestScript

open Text

/-- A piece of a text with placeholders. -/
inductive Segment where
  /-- A character outside placeholders. -/
  | char (c : Char)
  /-- A placeholder with the text between its braces. -/
  | placeholder (inner : List Char)
  deriving DecidableEq

namespace Segment

/-- Whether a character is a brace. -/
def isBrace (c : Char) : Bool :=
  c == '\x7b' || c == '\x7d'

/-- The text of a segment. -/
def text : Segment → List Char
  | .char c => [c]
  | .placeholder inner => '\x7b' :: '\x7b' :: inner ++ ['\x7d', '\x7d']

/-- The placeholder at the start of a text, and the text after it. -/
def placeholder? : List Char → Option (List Char × List Char)
  | '\x7b' :: '\x7b' :: rest =>
    let inner := rest.takeWhile (!isBrace ·)
    match rest.drop inner.length with
    | '\x7d' :: '\x7d' :: after => if inner.isEmpty then none else some (inner, after)
    | _ => none
  | _ => none

theorem length_lt_of_placeholder? {cs inner after : List Char}
    (h : placeholder? cs = some (inner, after)) : after.length < cs.length := by
  unfold placeholder? at h
  split at h
  · next rest =>
    dsimp only at h
    split at h
    · next after' hdrop =>
      have hlength := congrArg List.length hdrop
      simp only [List.length_drop, List.length_cons] at hlength
      split at h
      · simp at h
      · simp only [Option.some.injEq, Prod.mk.injEq] at h
        obtain ⟨-, rfl⟩ := h
        simp only [List.length_cons]
        omega
    · simp at h
  · simp at h

/-- The segments of a text. -/
def split (cs : List Char) : List Segment :=
  match cs with
  | [] => []
  | c :: rest =>
    match _found : placeholder? (c :: rest) with
    | some (inner, after) => .placeholder inner :: split after
    | none => .char c :: split rest
termination_by cs.length
decreasing_by
  · exact length_lt_of_placeholder? _found
  · simp

end Segment

namespace Store

/-- The text of a variable, if a layer has it. -/
def lookup (store : Store) (name : String) : Option String :=
  (store.value? name).map Value.text

/-- The text of a variable, or a placeholder for it. -/
def get (store : Store) (name : String) : String :=
  (store.lookup name).getD ("\x7b\x7b" ++ name ++ "\x7d\x7d")

/-- Whether a text may be the name of a variable in a placeholder. -/
def isName (cs : List Char) : Bool :=
  isAll (fun c => isWord c || c == '.' || c == '-') cs

/-- The name of the active environment, as a text shows it. A file may name it by a value that is
no text, which no text shows. -/
def activeName? (store : Store) : Option (List Char) :=
  match store.active.filter Value.isGiven with
  | none => some "default".toList
  | some (.string name) => some name.toList
  | some _ => none

/-- What a placeholder with a name between its braces stands for, if it stands for something. -/
def valueOf (store : Store) (clock : Int) (name : List Char) : Chance (Option (List Char)) :=
  if ['$'].isPrefixOf name then Generator.generate? clock name
  else if isName name then
    return (store.lookup (String.ofList name)).map String.toList
  else return none

/-- The text that replaces a segment, if a text can. -/
def expand? (store : Store) (clock : Int) : Segment → Chance (Option (List Char))
  | .char c => return some [c]
  | .placeholder inner => do
    if trim inner = "$env".toList then return store.activeName?
    return some ((← store.valueOf clock (trim inner)).getD (Segment.placeholder inner).text)

/-- How deeply the value is nested that a segment shows. -/
def depthOf (store : Store) : Segment → Nat
  | .char _ => 0
  | .placeholder inner =>
    if isName (trim inner) then (store.value? (String.ofList (trim inner))).elim 0 Value.depth
    else 0

/-- A text with every placeholder replaced. That a placeholder has no text is found out when all
of them have been looked at. -/
def interpolate (store : Store) (clock : Int) (text : String) : Chance String := do
  let pieces ← (Segment.split text.toList).mapM (store.expand? clock)
  match pieces.mapM id with
  | some pieces => return String.ofList pieces.flatten
  | none => throw .wrongKind

/-- A text with every placeholder replaced, where there is room for so many levels. The placeholders
are replaced from the left, as far as there is room for the values that they show. -/
def interpolateWithin (store : Store) (room : Nat) (clock : Int) (text : String) :
    Chance String := do
  let segments := Segment.split text.toList
  if segments.all (store.depthOf · ≤ room) then store.interpolate clock text
  else
    discard <| (segments.takeWhile (store.depthOf · ≤ room)).mapM (store.expand? clock)
    throw .tooDeep

end Store

end RequestScript
