/-!
# Binary data in sixty-four characters

Four characters stand for three bytes. Characters that stand for nothing are passed over, and
equal signs fill up the last group.
-/

namespace RequestScript.Yaml

/-- The six bits that a character stands for. -/
def sixBits? (c : Char) : Option Nat :=
  if 'A' ≤ c && c ≤ 'Z' then some (c.toNat - 0x41)
  else if 'a' ≤ c && c ≤ 'z' then some (c.toNat - 0x61 + 26)
  else if '0' ≤ c && c ≤ '9' then some (c.toNat - 0x30 + 52)
  else if c = '+' then some 62
  else if c = '/' then some 63
  else none

/-- The bytes that a text stands for from a place in a group on, after so many equal signs in it.
The bits of the group that have not made up a byte are left over. A group that is neither whole nor
filled up is an error. -/
def binaryFrom? (place filled left : Nat) : List Char → Option (List UInt8)
  | [] => if place = 0 then some [] else none
  | c :: rest =>
    if c == '=' then
      if place < 2 then binaryFrom? place filled left rest
      else if 4 ≤ place + filled + 1 then some []
      else binaryFrom? place (filled + 1) left rest
    else match sixBits? c with
      | none => binaryFrom? place filled left rest
      | some six =>
        let bits := left * 64 + six
        let rest? := binaryFrom? ((place + 1) % 4) 0 (bits % 4 ^ (3 - place)) rest
        if place = 0 then rest?
        else rest?.map (UInt8.ofNat (bits / 4 ^ (3 - place)) :: ·)

/-- The bytes that a text of ASCII characters stands for. -/
def readBinary? (cs : List Char) : Option (List UInt8) :=
  if cs.all (·.toNat < 0x80) then binaryFrom? 0 0 0 cs else none

end RequestScript.Yaml
