import SchemaAtlas.Decimal.Shortest

/-!
# Layout of decimals

How a number with a fraction is written: positionally as long as it is neither very large nor very
small, and else with one digit before the point and an exponent.
-/

namespace SchemaAtlas.Decimal

structure Layout where
  -- the exponents of the first digit that are written positionally
  leastPositional : Int
  greatestPositional : Int
  -- what stands behind a number without a fraction
  wholeMark : String
  -- the least number of digits of a written exponent
  exponentWidth : Nat
  infinity : String
  notANumber : String
deriving DecidableEq, Repr

def zeros (n : Nat) : String := String.ofList (List.replicate n '0')

def Layout.positional (f : Layout) (digits : List Char) (point : Int) : String :=
  if point ≤ 0 then "0." ++ zeros (-point).toNat ++ String.ofList digits
  else if digits.length ≤ point.toNat then
    String.ofList digits ++ zeros (point.toNat - digits.length) ++ f.wholeMark
  else
    String.ofList (digits.take point.toNat) ++ "." ++ String.ofList (digits.drop point.toNat)

def Layout.scientific (f : Layout) (digits : List Char) (exponent : Int) : String :=
  let written := toString exponent.natAbs
  String.ofList (digits.take 1) ++
    (if digits.length ≤ 1 then "" else "." ++ String.ofList (digits.drop 1)) ++
    (if exponent < 0 then "e-" else "e+") ++ zeros (f.exponentWidth - written.length) ++ written

def Layout.write (f : Layout) (d : Digits) : String :=
  let digits := Nat.toDigits 10 d.value
  let point := digits.length + d.exponent
  if f.leastPositional ≤ point - 1 ∧ point - 1 ≤ f.greatestPositional then f.positional digits point
  else f.scientific digits (point - 1)

def nearestBits (d : Digits) : UInt64 :=
  let scale := (digitCount d.value : Int) + d.exponent
  if d.value = 0 ∨ scale < -400 then 0
  else if 400 < scale then 0x7FF0000000000000
  else (Float.ofScientific d.value (d.exponent < 0) d.exponent.natAbs).toBits

def Layout.render (f : Layout) (negative : Bool) (d : Digits) : String :=
  (if negative then "-" else "") ++
    match Binary.ofBits (nearestBits d) with
    | none => f.infinity
    | some x => if x.m = 0 then "0" ++ f.wholeMark else f.write (shortest x)

end SchemaAtlas.Decimal
