import SchemaAtlas.Fault
import SchemaAtlas.Text.Blank
import SchemaAtlas.Text.Digits

/-!
# Integers in settings

An integer is written with the decimal digits of any script, with a sign before them if need be and
blanks around the whole. A single `_` may stand between two digits.
-/

namespace SchemaAtlas.Settings

open SchemaAtlas.Text

/-- A blank or digit beyond ASCII as the space or digit that it counts as. Other characters beyond
ASCII have no place in an integer. -/
def asciiForm (c : Char) : Char :=
  if c.toNat < 127 then c
  else if isBlank c then ' '
  else (digit? c).elim '?' Nat.digitChar

def isMargin (c : Char) : Bool := c == ' ' || (9 ≤ c.toNat && c.toNat ≤ 13)

def readSign : List Char → Bool × List Char
  | '-' :: s => (true, s)
  | '+' :: s => (false, s)
  | s => (false, s)

/-- Whether every `_` stands between two digits and there is a digit at all. The first argument says
whether a digit stands right before the text. -/
def wellGrouped : Bool → List Char → Bool
  | afterDigit, [] => afterDigit
  | afterDigit, c :: s => if c == '_' then afterDigit && wellGrouped false s else wellGrouped true s

def decimalValue (digits : List Char) : Nat :=
  digits.foldl (fun n c => 10 * n + (c.toNat - '0'.toNat)) 0

def isDigitOrGroup (c : Char) : Bool := c.isDigit || c == '_'

def readInteger (text : String) : Except Fault Int :=
  let (negative, s) := readSign ((text.toList.map asciiForm).dropWhile isMargin)
  let written := s.takeWhile isDigitOrGroup
  let digits := written.filter Char.isDigit
  if !wellGrouped false written then .error (.malformedInteger text)
  else if integerDigitLimit < digits.length then .error (.integerTooLong digits.length)
  else if !(s.dropWhile isDigitOrGroup).all isMargin then .error (.malformedInteger text)
  else
    let n : Int := decimalValue digits
    .ok (if negative then -n else n)

end SchemaAtlas.Settings
