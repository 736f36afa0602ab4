import SchemaAtlas.Json.Display
import SchemaAtlas.Text.Units

/-!
# Writing JSON

A value as a text of ASCII characters. Everything else stands in strings as the units it is made of, so
a lone surrogate can be written too.
-/

namespace SchemaAtlas.Json

open SchemaAtlas.Text

def escapedUnit (n : Nat) : List Char := '\\' :: 'u' :: hexDigits 4 n

def writtenPoint : Point → List Char
  | .char '"' => ['\\', '"']
  | .char '\\' => ['\\', '\\']
  | p =>
    match p with
    | .char c => if ' ' ≤ c ∧ c ≤ '~' then [c] else (unitsOf p).flatMap escapedUnit
    | .surrogate _ => escapedUnit p.code

def writtenString (s : List Point) : String :=
  String.ofList ('"' :: s.flatMap writtenPoint ++ ['"'])

def writtenNumber : Number → String
  | .notANumber => "NaN"
  | .infinity negative => if negative then "-Infinity" else "Infinity"
  | n => n.display

namespace Value

mutual

def written : Value → String
  | null => "null"
  | bool b => if b then "true" else "false"
  | number n => writtenNumber n
  | string s => writtenString s
  | array items => "[" ++ joinWith "," (writtenItems items) ++ "]"
  | object members => "\x7b" ++ joinWith "," (writtenMembers members) ++ "\x7d"

def writtenItems : List Value → List String
  | [] => []
  | v :: vs => written v :: writtenItems vs

def writtenMembers : List (List Point × Value) → List String
  | [] => []
  | (name, v) :: ms => (writtenString name ++ ":" ++ written v) :: writtenMembers ms

end

end Value

end SchemaAtlas.Json
