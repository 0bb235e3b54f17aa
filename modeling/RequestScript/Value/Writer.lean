import RequestScript.Value
import RequestScript.Text.Quoted

/-!
# Writing JSON texts

A value is written either compactly, without any space and with all characters but controls as
themselves, or for reading, with one item a line, two spaces of indentation a level and all
characters outside ASCII escaped.
-/

namespace RequestScript.Value

open Text

/-- How a JSON text is laid out. -/
structure Style where
  /-- One item a line, indented, and a space after a name. -/
  indented : Bool
  /-- Characters outside printable ASCII are escaped. -/
  asciiOnly : Bool

namespace Style

/-- No spaces, and characters as themselves. -/
def compact : Style := ⟨false, false⟩

/-- Lines indented by two spaces a level, in ASCII. -/
def pretty : Style := ⟨true, true⟩

end Style

/-- The escape of one UTF-16 unit. -/
def unitEscape (unit : Nat) : List Char :=
  '\\' :: 'u' :: hexadecimal 4 unit

/-- The escape of a character by its UTF-16 units. -/
def unicodeEscape (c : Char) : List Char :=
  if c.toNat < 0x10000 then unitEscape c.toNat
  else
    let offset := c.toNat - 0x10000
    unitEscape (0xd800 + offset / 0x400) ++ unitEscape (0xdc00 + offset % 0x400)

/-- One character of a string in a JSON text. -/
def writeChar (style : Style) (c : Char) : List Char :=
  if c = '\x22' || c = '\\' then ['\\', c]
  else if c = '\n' then ['\\', 'n']
  else if c = '\r' then ['\\', 'r']
  else if c = '\t' then ['\\', 't']
  else if c = '\x08' then ['\\', 'b']
  else if c = '\x0c' then ['\\', 'f']
  else if c.toNat < 0x20 || (style.asciiOnly && 0x7f ≤ c.toNat) then unicodeEscape c
  else [c]

/-- A string in a JSON text. -/
def writeString (style : Style) (s : String) : List Char :=
  '\x22' :: s.toList.flatMap (writeChar style) ++ ['\x22']

/-- A double in a JSON text; those that JSON has no numeral for are written as words. -/
def writeDouble : Double → List Char
  | .nan => ['N', 'a', 'N']
  | .infinite negative => Double.signed negative "Infinity".toList
  | x => x.text.toList

/-- The break between two items at a level of nesting. -/
def lineBreak (style : Style) (level : Nat) : List Char :=
  if style.indented then '\n' :: List.replicate (2 * level) ' ' else []

/-- The mark between a name and its value. -/
def colon (style : Style) : List Char :=
  if style.indented then [':', ' '] else [':']

mutual

/-- The JSON text of a value at a level of nesting. -/
def write (style : Style) (level : Nat) : Value → List Char
  | .null => "null".toList
  | .bool true => "true".toList
  | .bool false => "false".toList
  | .int n => decimalInt n
  | .double x => writeDouble x
  | .string s => writeString style s
  | .array [] => ['[', ']']
  | .array (item :: items) =>
    '[' :: lineBreak style (level + 1) ++ write style (level + 1) item
      ++ writeItems style (level + 1) items ++ lineBreak style level ++ [']']
  | .object [] => ['\x7b', '\x7d']
  | .object (field :: fields) =>
    '\x7b' :: lineBreak style (level + 1) ++ writeField style (level + 1) field
      ++ writeFields style (level + 1) fields ++ lineBreak style level ++ ['\x7d']
termination_by structural value => value

/-- The items after the first of an array. -/
def writeItems (style : Style) (level : Nat) : List Value → List Char
  | [] => []
  | item :: items =>
    ',' :: lineBreak style level ++ write style level item ++ writeItems style level items
termination_by structural items => items

/-- One field of an object. -/
def writeField (style : Style) (level : Nat) : String × Value → List Char
  | (name, value) => writeString style name ++ colon style ++ write style level value
termination_by structural field => field

/-- The fields after the first of an object. -/
def writeFields (style : Style) (level : Nat) : List (String × Value) → List Char
  | [] => []
  | field :: fields =>
    ',' :: lineBreak style level ++ writeField style level field ++ writeFields style level fields
termination_by structural fields => fields

end

section

variable (style : Style) (level : Nat)

theorem write_int (n : Int) : (int n).write style level = decimalInt n := rfl

theorem write_double (x : Double) : (double x).write style level = writeDouble x := rfl

theorem write_string (s : String) : (string s).write style level = writeString style s := rfl

theorem write_array_nil : (array []).write style level = ['[', ']'] := rfl

theorem write_array_cons (item : Value) (items : List Value) :
    (array (item :: items)).write style level =
      '[' :: lineBreak style (level + 1) ++ item.write style (level + 1)
        ++ writeItems style (level + 1) items ++ lineBreak style level ++ [']'] := rfl

theorem write_object_nil : (object []).write style level = ['\x7b', '\x7d'] := rfl

theorem write_object_cons (field : String × Value) (fields : Table Value) :
    (object (field :: fields)).write style level =
      '\x7b' :: lineBreak style (level + 1) ++ writeField style (level + 1) field
        ++ writeFields style (level + 1) fields ++ lineBreak style level ++ ['\x7d'] := rfl

theorem writeItems_nil : writeItems style level [] = [] := rfl

theorem writeItems_cons (item : Value) (items : List Value) :
    writeItems style level (item :: items) =
      ',' :: lineBreak style level ++ item.write style level ++ writeItems style level items := rfl

theorem writeField_mk (name : String) (value : Value) :
    writeField style level (name, value) =
      writeString style name ++ colon style ++ value.write style level := rfl

theorem writeFields_nil : writeFields style level [] = [] := rfl

theorem writeFields_cons (field : String × Value) (fields : Table Value) :
    writeFields style level (field :: fields) =
      ',' :: lineBreak style level ++ writeField style level field
        ++ writeFields style level fields := rfl

end

/-- The compact JSON text of a value. -/
def compact (value : Value) : String :=
  String.ofList (value.write .compact 0)

/-- The indented JSON text of a value. -/
def pretty (value : Value) : String :=
  String.ofList (value.write .pretty 0)

end RequestScript.Value
