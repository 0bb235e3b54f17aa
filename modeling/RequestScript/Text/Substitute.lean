/-!
# Substitution

Parts of a text are replaced in one pass from left to right. Where a part starts and what stands
for it is told by a function on the rest of the text; what replaces a part is not looked through
again.
-/

namespace RequestScript.Text

/-- A text with each part replaced that `replace?` finds at its start, as a replacement and the
text after the part. A part has at least one character. -/
def substitute (replace? : List Char → Option (List Char × List Char)) (cs : List Char) :
    List Char :=
  match cs with
  | [] => []
  | c :: rest =>
    match replace? (c :: rest) with
    | some (replacement, after) =>
      if _h : after.length < (c :: rest).length then replacement ++ substitute replace? after
      else c :: substitute replace? rest
    | none => c :: substitute replace? rest
termination_by cs.length
decreasing_by
  · exact _h
  · exact Nat.lt_succ_self rest.length
  · exact Nat.lt_succ_self rest.length

end RequestScript.Text
