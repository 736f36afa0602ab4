import SchemaAtlas.Json.Read
import SchemaAtlas.Text.Utf8

/-!
# JSON in bytes

A JSON text may be written in units of one, two or four bytes. A byte order mark tells which; without
one, the places of the zero bytes do, since the first characters of such a text are ASCII.
-/

namespace SchemaAtlas.Json

inductive Encoding where
  | bytes
  | pairs (highFirst : Bool)
  | fours (highFirst : Bool)
deriving DecidableEq, Repr

def detect : List UInt8 → Encoding × List UInt8
  | 0x00 :: 0x00 :: 0xFE :: 0xFF :: bs => (.fours true, bs)
  | 0xFF :: 0xFE :: 0x00 :: 0x00 :: bs => (.fours false, bs)
  | 0xFE :: 0xFF :: bs => (.pairs true, bs)
  | 0xFF :: 0xFE :: bs => (.pairs false, bs)
  | 0xEF :: 0xBB :: 0xBF :: bs => (.bytes, bs)
  | a :: b :: c :: d :: bs =>
    let whole := a :: b :: c :: d :: bs
    if a = 0 then (if b = 0 then .fours true else .pairs true, whole)
    else if b = 0 then (if c = 0 ∧ d = 0 then .fours false else .pairs false, whole)
    else (.bytes, whole)
  | [a, b] =>
    (if a = 0 then .pairs true else if b = 0 then .pairs false else .bytes, [a, b])
  | bs => (.bytes, bs)

def unitOfPair (highFirst : Bool) (a b : UInt8) : Nat :=
  if highFirst then a.toNat * 0x100 + b.toNat else b.toNat * 0x100 + a.toNat

def pairUnits (highFirst : Bool) : List UInt8 → Option (List Nat)
  | [] => some []
  | a :: b :: bs => (pairUnits highFirst bs).map (unitOfPair highFirst a b :: ·)
  | [_] => none

def fourUnits (highFirst : Bool) : List UInt8 → Option (List Nat)
  | [] => some []
  | a :: b :: c :: d :: bs =>
    let upper := unitOfPair highFirst a b
    let lower := unitOfPair highFirst c d
    let code := if highFirst then upper * 0x10000 + lower else lower * 0x10000 + upper
    (fourUnits highFirst bs).map (code :: ·)
  | _ => none

def textOf : Encoding × List UInt8 → Option (List Text.Point)
  | (.bytes, bs) => Text.decodePoints? bs
  | (.pairs highFirst, bs) => (pairUnits highFirst bs).map Text.ofUnits
  | (.fours highFirst, bs) => (fourUnits highFirst bs).bind (·.mapM Text.Point.ofCode?)

def ofBytes (bs : List UInt8) : Except Failure Value :=
  match textOf (detect bs) with
  | some s => read s
  | none => .error .malformed

end SchemaAtlas.Json
