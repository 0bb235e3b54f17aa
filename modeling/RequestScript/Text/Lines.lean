/-!
# Lines

A request script is cut at line feeds, each with an optional carriage return before it; other
separators belong to the line. A text file read as text has each of the three line endings
replaced by a line feed.
-/

namespace RequestScript.Text

/-- The lines of a text; a line feed at the end opens one more, empty, line. -/
def lines : List Char → List (List Char)
  | [] => [[]]
  | '\r' :: '\n' :: rest => [] :: lines rest
  | c :: rest =>
    if c = '\n' then [] :: lines rest
    else match lines rest with
      | [] => [[c]]
      | line :: more => (c :: line) :: more

/-- A text with a line feed for each `\r\n` and each lone `\r`. -/
def universalNewlines : List Char → List Char
  | [] => []
  | '\r' :: '\n' :: rest => '\n' :: universalNewlines rest
  | c :: rest => (if c = '\r' then '\n' else c) :: universalNewlines rest

end RequestScript.Text
