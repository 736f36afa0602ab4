import SchemaAtlas.Text.Point

/-!
# Lone surrogates in marked form

Documents are texts of characters. So that a lone surrogate in a name comes through them, it is written
as a mark and a character of its own behind it, and the mark itself is written twice. The main
statement says that nothing is lost.
-/

namespace SchemaAtlas.Text

def mark : Char := Char.ofNat 0x10FFFF

def firstPlaceholder : Nat := 0x100000

def markedPoint : Point → List Char
  | .char c => if c = mark then [mark, mark] else [c]
  | .surrogate place => [mark, Char.ofNat (firstPlaceholder + place)]

def marked (s : List Point) : List Char := s.flatMap markedPoint

def behindMark (c : Char) : Point :=
  if h : c.toNat - firstPlaceholder < 0x800 then .surrogate ⟨c.toNat - firstPlaceholder, h⟩
  else .char c

def unmarked : List Char → List Point
  | c :: d :: s => if c = mark then behindMark d :: unmarked s else .char c :: unmarked (d :: s)
  | [c] => [.char c]
  | [] => []

theorem unmarked_cons_of_ne {c : Char} (s : List Char) (h : c ≠ mark) :
    unmarked (c :: s) = .char c :: unmarked s := by
  cases s <;> simp [unmarked, h]

theorem behindMark_mark : behindMark mark = .char mark := by
  decide +kernel

theorem toNat_placeholder (place : Fin 0x800) :
    (Char.ofNat (firstPlaceholder + place)).toNat = firstPlaceholder + place := by
  have hplace := place.isLt
  have hvalid : (firstPlaceholder + place.val).isValidChar := by
    simp only [Nat.isValidChar, firstPlaceholder]
    omega
  rw [Char.ofNat, dif_pos hvalid]
  rfl

theorem unmarked_marked (s : List Point) : unmarked (marked s) = s := by
  induction s with
  | nil => rfl
  | cons p s ih =>
    have hcons : marked (p :: s) = markedPoint p ++ marked s := rfl
    rw [hcons]
    cases p with
    | char c =>
      by_cases h : c = mark
      · subst h
        simp [markedPoint, unmarked, behindMark_mark, ih]
      · simp [markedPoint, h, unmarked_cons_of_ne, ih]
    | surrogate place =>
      simp [markedPoint, unmarked, behindMark, toNat_placeholder, ih]

end SchemaAtlas.Text
