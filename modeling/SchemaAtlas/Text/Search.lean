import SchemaAtlas.Text.Word

/-!
# Searching a text

The leftmost place where something can be read, all places one after the other, and containment.
-/

namespace SchemaAtlas.Text

variable {α : Type}

structure Pattern (α : Type) where
  read : List Char → Option (α × List Char)
  length_lt : ∀ {s : List Char} {a : α} {r : List Char}, read s = some (a, r) → r.length < s.length

def Pattern.first? (p : Pattern α) : List Char → Option (α × List Char)
  | [] => none
  | c :: s => p.read (c :: s) <|> p.first? s

def Pattern.all (p : Pattern α) : List Char → List α
  | [] => []
  | c :: s =>
    match h : p.read (c :: s) with
    | some (a, r) =>
      have := p.length_lt h
      a :: p.all r
    | none => p.all s
termination_by s => s.length
decreasing_by
  · exact this
  · exact Nat.lt_succ_self s.length

@[simp] theorem Pattern.all_nil (p : Pattern α) : p.all [] = [] := by
  simp [Pattern.all]

theorem Pattern.all_cons_of_read {p : Pattern α} {c : Char} {s r : List Char} {a : α}
    (h : p.read (c :: s) = some (a, r)) : p.all (c :: s) = a :: p.all r := by
  rw [Pattern.all]
  split
  · next h' =>
    rw [h] at h'
    cases h'
    rfl
  · next h' => simp [h] at h'

theorem Pattern.all_cons_of_none {p : Pattern α} {c : Char} {s : List Char}
    (h : p.read (c :: s) = none) : p.all (c :: s) = p.all s := by
  rw [Pattern.all]
  split
  · next h' => simp [h] at h'
  · rfl

/-- The leftmost reading at a place where a word may begin: at the start and after every character
that is no word character. -/
def firstAtWord (p : List Char → Option α) : Bool → List Char → Option α
  | _, [] => none
  | true, c :: s => p (c :: s) <|> firstAtWord p (!isWord c) s
  | false, c :: s => firstAtWord p (!isWord c) s

def atWordEnd : List Char → Bool
  | [] => true
  | c :: _ => !isWord c

def contains (t : List Char) : List Char → Bool
  | [] => t.isEmpty
  | c :: s => t.isPrefixOf (c :: s) || contains t s

theorem contains_iff {t s : List Char} : contains t s = true ↔ t <:+: s := by
  induction s with
  | nil => simp [contains]
  | cons c s ih => simp [contains, ih, List.infix_cons_iff]

end SchemaAtlas.Text
