/-!
# Code points

A code point is a character or a surrogate without its partner. No character stands for such a
surrogate, but a text in a request may hold one, and so it is kept until the text is shown.
-/

namespace SchemaAtlas.Text

inductive Point where
  | char (c : Char)
  -- a surrogate by its place among them
  | surrogate (place : Fin 0x800)
deriving DecidableEq, Repr

namespace Point

def firstSurrogate : Nat := 0xD800

def code : Point → Nat
  | char c => c.toNat
  | surrogate place => firstSurrogate + place

def ofCode? (n : Nat) : Option Point :=
  if n.isValidChar then some (char (Char.ofNat n))
  else if h : firstSurrogate ≤ n ∧ n - firstSurrogate < 0x800 then
    some (surrogate ⟨n - firstSurrogate, h.2⟩)
  else none

def char? : Point → Option Char
  | char c => some c
  | surrogate _ => none

def shown (p : Point) : Char := p.char?.getD '\ufffd'

theorem ofCode?_code_surrogate (place : Fin 0x800) :
    ofCode? (surrogate place).code = some (surrogate place) := by
  have hplace := place.isLt
  have hvalid : ¬ (firstSurrogate + place).isValidChar := by
    simp only [Nat.isValidChar, firstSurrogate]
    omega
  simp [ofCode?, code, hvalid]

end Point

def points (s : String) : List Point := s.toList.map .char

end SchemaAtlas.Text
