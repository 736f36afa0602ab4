import SchemaAtlas.Text.Point

/-!
# Bytes as text

Text in UTF-8. Bytes that belong to no character are read as one gap for each longest piece that a
character could have begun with. Surrogates are read like characters where a text may hold them.
-/

namespace SchemaAtlas.Text

structure Pending where
  value : Nat
  owed : Nat
  low : Nat := 0x80
  high : Nat := 0xBF
deriving DecidableEq, Repr

/-- What a first byte of several announces. Surrogates are the codes behind the byte `0xED` whose second
byte lies in the upper half of the range. -/
def lead? (surrogates : Bool) (b : Nat) : Option Pending :=
  if 0xC2 ≤ b ∧ b ≤ 0xDF then some { value := b - 0xC0, owed := 1 }
  else if b = 0xE0 then some { value := 0, owed := 2, low := 0xA0 }
  else if b = 0xED ∧ !surrogates then some { value := 13, owed := 2, high := 0x9F }
  else if 0xE1 ≤ b ∧ b ≤ 0xEF then some { value := b - 0xE0, owed := 2 }
  else if b = 0xF0 then some { value := 0, owed := 3, low := 0x90 }
  else if b = 0xF4 then some { value := 4, owed := 3, high := 0x8F }
  else if 0xF1 ≤ b ∧ b ≤ 0xF3 then some { value := b - 0xF0, owed := 3 }
  else none

def start (surrogates : Bool) (b : Nat) : List (Option Nat) × Option Pending :=
  if b < 0x80 then ([some b], none)
  else match lead? surrogates b with
    | some p => ([], some p)
    | none => ([none], none)

def Pending.next (surrogates : Bool) (p : Pending) (b : Nat) : List (Option Nat) × Option Pending :=
  -- a byte out of range leaves a gap and begins anew
  if p.low ≤ b ∧ b ≤ p.high then
    let value := p.value * 64 + (b - 0x80)
    if p.owed ≤ 1 then ([some value], none) else ([], some ⟨value, p.owed - 1, 0x80, 0xBF⟩)
  else (none :: (start surrogates b).1, (start surrogates b).2)

def decodeFrom (surrogates : Bool) : Option Pending → List UInt8 → List (Option Nat)
  | none, [] => []
  | some _, [] => [none]
  | pending, b :: bs =>
    let (out, pending) := (pending.elim (start surrogates) (Pending.next surrogates)) b.toNat
    out ++ decodeFrom surrogates pending bs

def decodeLeniently (bytes : List UInt8) : List Char :=
  (decodeFrom false none bytes).map (·.elim '\ufffd' Char.ofNat)

def decodePoints? (bytes : List UInt8) : Option (List Point) :=
  (decodeFrom true none bytes).mapM (·.bind Point.ofCode?)

def unifyLineEnds : List Char → List Char
  | '\r' :: '\n' :: s => '\n' :: unifyLineEnds s
  | '\r' :: s => '\n' :: unifyLineEnds s
  | c :: s => c :: unifyLineEnds s
  | [] => []

end SchemaAtlas.Text
