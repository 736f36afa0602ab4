/-!
# Shortest decimals

A double is a natural number times a power of two. It is written with the fewest decimal digits that
round to it and to no other double; of several such decimals the nearest one is taken. All is done in
exact arithmetic.
-/

namespace SchemaAtlas.Decimal

structure Binary where
  m : Nat
  q : Int
  -- whether the next double below is only half as far away as the next one above
  narrowBelow : Bool
deriving DecidableEq, Repr

structure Digits where
  value : Nat
  exponent : Int
deriving DecidableEq, Repr

def twoTo (n : Nat) : Nat := Nat.pow 2 n

def tenTo (n : Nat) : Nat := Nat.pow 10 n

def Binary.ofBits (bits : UInt64) : Option Binary :=
  let exponent := (bits >>> 52).toNat % 2048
  let fraction := bits.toNat % twoTo 52
  if exponent = 2047 then none
  else if exponent = 0 then some ⟨fraction, -1074, false⟩
  else some ⟨twoTo 52 + fraction, (exponent : Int) - 1075, fraction = 0 ∧ 1 < exponent⟩

def compareScaled (a : Nat) (i : Int) (n : Nat) (j : Int) : Ordering :=
  compare (a * tenTo i.toNat * twoTo (-j).toNat) (n * twoTo j.toNat * tenTo (-i).toNat)

/-- Whether a decimal rounds to a double: it lies between the middles to the neighbours, which
themselves round to the even one. -/
def Binary.roundsTo (x : Binary) (d : Digits) : Bool :=
  let low := if x.narrowBelow then 4 * x.m - 1 else 4 * x.m - 2
  let high := 4 * x.m + 2
  let even := x.m % 2 == 0
  let atLow := compareScaled d.value d.exponent low (x.q - 2)
  let atHigh := compareScaled d.value d.exponent high (x.q - 2)
  (atLow == .gt || (even && atLow == .eq)) && (atHigh == .lt || (even && atHigh == .eq))

def Binary.quotient (x : Binary) (grid : Int) : Nat :=
  (x.m * twoTo x.q.toNat * tenTo (-grid).toNat) / (twoTo (-x.q).toNat * tenTo grid.toNat)

/-- The neighbour on the grid of `10 ^ grid` that rounds to a double, the nearer one of two; halfway
between them the even one. -/
def Binary.onGrid (x : Binary) (grid : Int) : Option Digits :=
  let below : Digits := ⟨x.quotient grid, grid⟩
  let above : Digits := ⟨x.quotient grid + 1, grid⟩
  match x.roundsTo below, x.roundsTo above with
  | false, false => none
  | true, false => some below
  | false, true => some above
  | true, true =>
    match compareScaled (2 * below.value + 1) grid (2 * x.m) x.q with
    | .lt => some above
    | .gt => some below
    | .eq => some (if below.value % 2 = 0 then below else above)

def digitCount (n : Nat) : Nat := (Nat.toDigits 10 n).length

/-- The place of the first digit of a double, counted from the point: the least `k` with the double
below `10 ^ k`. -/
def Binary.scale (x : Binary) : Int :=
  if x.q < 0 then
    let fives : Int := digitCount (x.m * Nat.pow 5 (-x.q).toNat)
    fives + x.q
  else digitCount (x.m * twoTo x.q.toNat)

def stripZeros : Nat → Digits → Digits
  | 0, d => d
  | fuel + 1, d =>
    if d.value ≠ 0 ∧ d.value % 10 = 0 then stripZeros fuel ⟨d.value / 10, d.exponent + 1⟩ else d

def shortest (x : Binary) : Digits :=
  let scale := x.scale
  let found := (List.range 17).findSome? fun n => x.onGrid (scale - (n + 1 : Nat))
  stripZeros 17 (found.getD ⟨x.quotient (scale - 17), scale - 17⟩)

end SchemaAtlas.Decimal
