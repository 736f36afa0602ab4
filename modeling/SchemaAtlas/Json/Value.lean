import SchemaAtlas.Text.Point

/-!
# JSON values

Numbers keep what was written: an integer its value, any other number its decimal digits and exponent.
Strings may hold lone surrogates. An object keeps its members in the order of their first mention.
-/

namespace SchemaAtlas.Json

open SchemaAtlas.Text

inductive Number where
  | integer (n : Int)
  -- the digits times a power of ten
  | decimal (negative : Bool) (digits : Nat) (exponent : Int)
  | notANumber
  | infinity (negative : Bool)
deriving DecidableEq, Repr

inductive Value where
  | null
  | bool (b : Bool)
  | number (n : Number)
  | string (s : List Point)
  | array (items : List Value)
  | object (members : List (List Point × Value))
deriving Repr

inductive Container where
  | array | object
deriving DecidableEq, Repr

def Container.name : Container → String
  | array => "array"
  | object => "object"

namespace Value

def ofNat (n : Nat) : Value := number (.integer n)

def text (s : String) : Value := string (points s)

def texts (ss : List String) : Value := array (ss.map text)

def ofMembers (members : List (String × Value)) : Value :=
  object (members.map fun m => (points m.1, m.2))

def setMember (members : List (List Point × Value)) (name : List Point) (v : Value) :
    List (List Point × Value) :=
  if members.any (·.1 == name) then members.map fun m => if m.1 == name then (name, v) else m
  else members ++ [(name, v)]

def mergeMembers (members : List (List Point × Value)) : List (List Point × Value) :=
  members.foldl (fun ms m => setMember ms m.1 m.2) []

def member? (v : Value) (name : String) : Option Value :=
  match v with
  | object members => members.lookup (points name)
  | _ => none

end Value

end SchemaAtlas.Json
