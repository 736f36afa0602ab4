import SchemaAtlas.Text.Point

/-!
# Text in 16-bit units

A character beyond the first 65536 is written as a pair of surrogates. Only units pair up: a code point
that is given as itself stays what it is, whatever stands next to it.
-/

namespace SchemaAtlas.Text

inductive Piece where
  | point (p : Point)
  | unit (n : Nat)
deriving DecidableEq, Repr

def isHighSurrogate (n : Nat) : Bool := 0xD800 ≤ n && n < 0xDC00

def isLowSurrogate (n : Nat) : Bool := 0xDC00 ≤ n && n < 0xE000

def pairValue (high low : Nat) : Nat := 0x10000 + (high - 0xD800) * 0x400 + (low - 0xDC00)

def pointOf (n : Nat) : Point := (Point.ofCode? n).getD (.char '\ufffd')

def joinUnits : List Piece → List Point
  | .unit high :: .unit low :: s =>
    if isHighSurrogate high && isLowSurrogate low then pointOf (pairValue high low) :: joinUnits s
    else pointOf high :: joinUnits (.unit low :: s)
  | .unit n :: s => pointOf n :: joinUnits s
  | .point p :: s => p :: joinUnits s
  | [] => []

def ofUnits (units : List Nat) : List Point := joinUnits (units.map .unit)

def unitsOf (p : Point) : List Nat :=
  let n := p.code
  if n < 0x10000 then [n]
  else [0xD800 + (n - 0x10000) / 0x400, 0xDC00 + (n - 0x10000) % 0x400]

end SchemaAtlas.Text
