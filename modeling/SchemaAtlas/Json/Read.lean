import SchemaAtlas.Fault
import SchemaAtlas.Json.Value
import SchemaAtlas.Text.Digits
import SchemaAtlas.Text.Units

/-!
# Reading JSON

A text is read as one value with blanks around it. Every reader takes its piece from the front of the
text and leaves a shorter rest. The words `NaN`, `Infinity` and `-Infinity` are numbers too. Arrays and
objects may stand inside each other up to a fixed depth.
-/

namespace SchemaAtlas.Json

open SchemaAtlas.Text

inductive Failure where
  | malformed
  -- the container that would have been one too many inside each other
  | tooDeep (container : Container)
deriving DecidableEq, Repr

def depthLimit : Nat := 977

structure Taken (α : Type) (s : List Point) where
  value : α
  rest : List Point
  length_lt : rest.length < s.length

def isSpace : Point → Bool
  | .char c => c == ' ' || c == '\t' || c == '\n' || c == '\r'
  | .surrogate _ => false

def skipSpaces (s : List Point) : List Point := s.dropWhile isSpace

theorem length_skipSpaces_le (s : List Point) : (skipSpaces s).length ≤ s.length :=
  (List.dropWhile_suffix isSpace).length_le

theorem length_lt_of_skipSpaces_eq_cons {p : Point} {s t : List Point} (h : skipSpaces s = p :: t) :
    t.length < s.length := by
  have := length_skipSpaces_le s
  simp only [h, List.length_cons] at this
  omega

def unit? (a b c d : Point) : Option Nat := do
  let digit (p : Point) : Option Nat := p.char?.bind hexValue?
  return (((← digit a) * 16 + (← digit b)) * 16 + (← digit c)) * 16 + (← digit d)

def escaped? : Point → Option Char
  | .char '"' => some '"'
  | .char '\\' => some '\\'
  | .char '/' => some '/'
  | .char 'b' => some '\x08'
  | .char 'f' => some '\x0c'
  | .char 'n' => some '\n'
  | .char 'r' => some '\r'
  | .char 't' => some '\t'
  | _ => none

def withPiece (piece : Piece) (taken : List Piece × List Point) : List Piece × List Point :=
  (piece :: taken.1, taken.2)

def stringPieces : List Point → Option (List Piece × List Point)
  -- control characters must be escaped
  | [] => none
  | .char '"' :: s => some ([], s)
  | .char '\\' :: .char 'u' :: a :: b :: c :: d :: s =>
    (unit? a b c d).bind fun n => (stringPieces s).map (withPiece (.unit n))
  | .char '\\' :: p :: s =>
    (escaped? p).bind fun c => (stringPieces s).map (withPiece (.point (.char c)))
  | p :: s => if p.code < 32 then none else (stringPieces s).map (withPiece (.point p))

theorem length_of_stringPieces {s r : List Point} {ps : List Piece}
    (h : stringPieces s = some (ps, r)) : r.length < s.length := by
  fun_induction stringPieces s generalizing ps with
  | case1 => simp at h
  | case2 s =>
    cases h
    simp
  | case3 a b c d s ih =>
    obtain ⟨n, _, h⟩ := Option.bind_eq_some_iff.mp h
    obtain ⟨⟨qs, r'⟩, hqs, heq⟩ := Option.map_eq_some_iff.mp h
    cases heq
    have hlt : r'.length < _ := ih hqs
    simp only [List.length_cons]
    omega
  | case4 p s _ ih =>
    obtain ⟨e, _, h⟩ := Option.bind_eq_some_iff.mp h
    obtain ⟨⟨qs, r'⟩, hqs, heq⟩ := Option.map_eq_some_iff.mp h
    cases heq
    have hlt : r'.length < _ := ih hqs
    simp only [List.length_cons]
    omega
  | case5 => simp at h
  | case6 p s _ _ _ _ ih =>
    obtain ⟨⟨qs, r'⟩, hqs, heq⟩ := Option.map_eq_some_iff.mp h
    cases heq
    have hlt : r'.length < _ := ih hqs
    simp only [List.length_cons]
    omega

def takeString (s : List Point) : Except Failure (Taken (List Point) s) :=
  match h : stringPieces s with
  | some (pieces, rest) => .ok ⟨joinUnits pieces, rest, length_of_stringPieces h⟩
  | none => .error .malformed

def spanDigits : List Point → List Nat × List Point
  | .char c :: s =>
    if c.isDigit then
      let (digits, rest) := spanDigits s
      ((c.toNat - '0'.toNat) :: digits, rest)
    else ([], .char c :: s)
  | s => ([], s)

def digitsValue (digits : List Nat) : Nat := digits.foldl (fun n d => 10 * n + d) 0

def wholeDigits : List Point → Option (List Nat × List Point)
  | .char '0' :: s => some ([0], s)
  | s =>
    match spanDigits s with
    | ([], _) => none
    | taken => some taken

def fractionDigits : List Point → List Nat × List Point
  | .char '.' :: s =>
    match spanDigits s with
    | ([], _) => ([], .char '.' :: s)
    | taken => taken
  | s => ([], s)

def exponentSign : List Point → Bool × List Point
  | .char '-' :: s => (true, s)
  | .char '+' :: s => (false, s)
  | s => (false, s)

def exponentPart (s : List Point) : Option Int × List Point :=
  match s with
  | .char c :: t =>
    let (negative, t) := exponentSign t
    match spanDigits t with
    | ([], _) => (none, s)
    | (digits, rest) =>
      if c == 'e' || c == 'E' then
        let n : Int := digitsValue digits
        (some (if negative then -n else n), rest)
      else (none, s)
  | _ => (none, s)

def readInteger (negative : Bool) (digits : List Nat) : Option Number :=
  if integerDigitLimit < digits.length then none
  else
    let n : Int := digitsValue digits
    some (.integer (if negative then -n else n))

def readNumber (negative : Bool) (s : List Point) : Option (Number × List Point) := do
  let (whole, s) ← wholeDigits s
  let (fraction, s) := fractionDigits s
  let (exponent, s) := exponentPart s
  if fraction.isEmpty && exponent.isNone then return (← readInteger negative whole, s)
  else
    return (.decimal negative (digitsValue (whole ++ fraction)) (exponent.getD 0 - fraction.length), s)

def words : List (List Point × Value) :=
  [(points "null", .null), (points "true", .bool true), (points "false", .bool false),
    (points "NaN", .number .notANumber), (points "Infinity", .number (.infinity false)),
    (points "-Infinity", .number (.infinity true))]

def readScalar (s : List Point) : Option (Value × List Point) :=
  match words.find? fun w => w.1.isPrefixOf s with
  | some (word, v) => some (v, s.drop word.length)
  | none => do
    let (n, rest) ← match s with
      | .char '-' :: t => readNumber true t
      | _ => readNumber false s
    return (.number n, rest)

def takeScalar (s : List Point) : Except Failure (Taken Value s) :=
  match readScalar s with
  | some (v, rest) => if h : rest.length < s.length then .ok ⟨v, rest, h⟩ else .error .malformed
  | none => .error .malformed

mutual

/-- A value at the very front of a text, with at most the given number of containers inside each
other. -/
def takeValue (depth : Nat) (s : List Point) : Except Failure (Taken Value s) :=
  match s with
  | .char '"' :: t =>
    (takeString t).map fun r =>
      ⟨.string r.value, r.rest, Nat.lt_succ_of_lt r.length_lt⟩
  | .char '[' :: t =>
    match depth with
    | 0 => .error (.tooDeep .array)
    | depth + 1 =>
      match h : skipSpaces t with
      | .char ']' :: rest =>
        .ok ⟨.array [], rest, Nat.lt_succ_of_lt (length_lt_of_skipSpaces_eq_cons h)⟩
      | u =>
        have hu : u.length ≤ t.length := h ▸ length_skipSpaces_le t
        (takeItems depth u).map fun r =>
          ⟨.array r.value, r.rest, Nat.lt_succ_of_lt (Nat.lt_of_lt_of_le r.length_lt hu)⟩
  | .char '\x7b' :: t =>
    match depth with
    | 0 => .error (.tooDeep .object)
    | depth + 1 =>
      match h : skipSpaces t with
      | .char '\x7d' :: rest =>
        .ok ⟨.object [], rest, Nat.lt_succ_of_lt (length_lt_of_skipSpaces_eq_cons h)⟩
      | u =>
        have hu : u.length ≤ t.length := h ▸ length_skipSpaces_le t
        (takeMembers depth u).map fun r =>
          ⟨.object (Value.mergeMembers r.value), r.rest,
            Nat.lt_succ_of_lt (Nat.lt_of_lt_of_le r.length_lt hu)⟩
  | s => takeScalar s
termination_by 2 * s.length

def takeItems (depth : Nat) (s : List Point) : Except Failure (Taken (List Value) s) :=
  (takeValue depth s).bind fun v =>
    match h : skipSpaces v.rest with
    | .char ']' :: rest =>
      .ok ⟨[v.value], rest, Nat.lt_trans (length_lt_of_skipSpaces_eq_cons h) v.length_lt⟩
    | .char ',' :: t =>
      have ht : (skipSpaces t).length < s.length :=
        Nat.lt_of_le_of_lt (length_skipSpaces_le t)
          (Nat.lt_trans (length_lt_of_skipSpaces_eq_cons h) v.length_lt)
      (takeItems depth (skipSpaces t)).map fun r =>
        ⟨v.value :: r.value, r.rest, Nat.lt_trans r.length_lt ht⟩
    | _ => .error .malformed
termination_by 2 * s.length + 1

def takeMembers (depth : Nat) (s : List Point) :
    Except Failure (Taken (List (List Point × Value)) s) :=
  match s with
  | .char '"' :: t =>
    (takeString t).bind fun name =>
      match hcolon : skipSpaces name.rest with
      | .char ':' :: u =>
        have hu : (skipSpaces u).length < t.length :=
          Nat.lt_of_le_of_lt (length_skipSpaces_le u)
            (Nat.lt_trans (length_lt_of_skipSpaces_eq_cons hcolon) name.length_lt)
        (takeValue depth (skipSpaces u)).bind fun v =>
          have hv : v.rest.length < t.length := Nat.lt_trans v.length_lt hu
          match h : skipSpaces v.rest with
          | .char '\x7d' :: rest =>
            .ok ⟨[(name.value, v.value)], rest,
              Nat.lt_succ_of_lt (Nat.lt_trans (length_lt_of_skipSpaces_eq_cons h) hv)⟩
          | .char ',' :: w =>
            have hw : (skipSpaces w).length < t.length :=
              Nat.lt_of_le_of_lt (length_skipSpaces_le w)
                (Nat.lt_trans (length_lt_of_skipSpaces_eq_cons h) hv)
            (takeMembers depth (skipSpaces w)).map fun r =>
              ⟨(name.value, v.value) :: r.value, r.rest,
                Nat.lt_succ_of_lt (Nat.lt_trans r.length_lt hw)⟩
          | _ => .error .malformed
      | _ => .error .malformed
  | _ => .error .malformed
termination_by 2 * s.length

end

def read (s : List Point) : Except Failure Value := do
  let v ← takeValue depthLimit (skipSpaces s)
  if (skipSpaces v.rest).isEmpty then return v.value else throw .malformed

end SchemaAtlas.Json
