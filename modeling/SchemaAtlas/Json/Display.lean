import SchemaAtlas.Decimal.Layout
import SchemaAtlas.Json.Value
import SchemaAtlas.Text.Escape
import SchemaAtlas.Text.Lines

/-!
# Values as text

How a value appears in the text of a document, and which values count as empty.
-/

namespace SchemaAtlas.Json

open SchemaAtlas.Text

def displayLayout : Decimal.Layout where
  leastPositional := -4
  greatestPositional := 15
  wholeMark := ".0"
  exponentWidth := 2
  infinity := "inf"
  notANumber := "nan"

namespace Number

def display : Number → String
  | integer n => toString n
  | decimal negative digits exponent => displayLayout.render negative ⟨digits, exponent⟩
  | notANumber => displayLayout.notANumber
  | infinity negative => (if negative then "-" else "") ++ displayLayout.infinity

def isZero : Number → Bool
  | integer n => n == 0
  | decimal _ digits exponent => Decimal.nearestBits ⟨digits, exponent⟩ == 0
  | _ => false

end Number

def enclosedIn (opening closing : String) (parts : List String) : String :=
  opening ++ commas parts ++ closing

namespace Value

mutual

def displayInside : Value → String
  | null => "None"
  | bool b => if b then "True" else "False"
  | number n => n.display
  | string s => quotedPoints s
  | array items => enclosedIn "[" "]" (displayItems items)
  | object members => enclosedIn "\x7b" "\x7d" (displayMembers members)

def displayItems : List Value → List String
  | [] => []
  | v :: vs => displayInside v :: displayItems vs

def displayMembers : List (List Point × Value) → List String
  | [] => []
  | (name, v) :: ms => (quotedPoints name ++ ": " ++ displayInside v) :: displayMembers ms

end

def display : Value → List Point
  | string s => s
  | v => points (displayInside v)

def isEmpty : Value → Bool
  | null => true
  | bool b => !b
  | number n => n.isZero
  | string s => s.isEmpty
  | array items => items.isEmpty
  | object members => members.isEmpty

end Value

end SchemaAtlas.Json
