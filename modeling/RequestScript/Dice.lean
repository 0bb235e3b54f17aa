import RequestScript.Fault
import RequestScript.Text.Quoted

/-!
# Random draws

All randomness comes from a sequence of integers, drawn from one after another. A draw is reduced
to the range that is asked for, and what has been drawn stays drawn when a fault follows.
-/

namespace RequestScript

/-- A source of random integers. -/
structure Dice where
  /-- The integer of each draw. -/
  source : Nat → Int
  /-- The number of draws made. -/
  used : Nat := 0

/-- A computation that draws, and that a fault may stop. -/
abbrev Chance (α : Type) := ExceptT Fault (StateM Dice) α

namespace Chance

/-- The next integer of the source. -/
def draw : Chance Int := do
  let dice ← getThe Dice
  set { dice with used := dice.used + 1 }
  return dice.source dice.used

/-- A natural number below a bound. -/
def below (bound : Nat) : Chance Nat := do
  return ((← draw).emod bound).toNat

/-- A member of a list that is not empty. -/
def pick {α : Type} (default : α) (members : List α) : Chance α := do
  return members.getD (← below members.length) default

/-- An integer between two bounds. -/
def between (low high : Int) : Chance Int := do
  return low + (← draw).emod (high - low + 1)

/-- A text of characters of an alphabet, drawn from left to right. -/
def characters (alphabet : List Char) : Nat → Chance (List Char)
  | 0 => return []
  | length + 1 => do
    let c ← pick ' ' alphabet
    return c :: (← characters alphabet length)

/-- The lower-case hexadecimal digits. -/
def hexDigits : List Char := "0123456789abcdef".toList

/-- The capital letters, the small letters and the digits of ASCII. -/
def alphanumerics : List Char :=
  "ABCDEFGHIJKLMNOPQRSTUVWXYZabcdefghijklmnopqrstuvwxyz0123456789".toList

/-- The text of a 128-bit identifier in groups of 8, 4, 4, 4 and 12 hexadecimal digits. -/
def groupedIdentifier (bits : Nat) : List Char :=
  let digits := Text.hexadecimal 32 bits
  digits.take 8 ++ '-' :: (digits.drop 8).take 4 ++ '-' :: (digits.drop 12).take 4 ++
    '-' :: (digits.drop 16).take 4 ++ '-' :: digits.drop 20

/-- A random identifier of version 4: one nibble holds the version, and two bits the variant. -/
def randomIdentifier : Chance (List Char) := do
  let bits ← below (Nat.pow 2 128)
  let low := Nat.pow 2 63 + bits % Nat.pow 2 62
  let middle := bits / Nat.pow 2 64 % Nat.pow 2 12 + 4 * Nat.pow 2 12
  let high := bits / Nat.pow 2 80
  return groupedIdentifier (high * Nat.pow 2 80 + middle * Nat.pow 2 64 + low)

end Chance

end RequestScript
