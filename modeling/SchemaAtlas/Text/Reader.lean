import SchemaAtlas.Text.Blank
import SchemaAtlas.Text.Caseless

/-!
# Reading from the front of a text

Each reader takes what it looks for from the front of a text and returns the rest, or `none` where
the text does not start that way. Every reader takes the longest piece it can, and no shorter one
would let the readers after it go further.
-/

namespace SchemaAtlas.Text

def char (k : Char) : List Char → Option (List Char)
  | c :: s => if c = k then some s else none
  | [] => none

def blanks1 : List Char → Option (List Char)
  | c :: s => if isBlank c then some (skipBlanks s) else none
  | [] => none

def run1 (stop : Char → Bool) (s : List Char) : Option (List Char × List Char) :=
  match s.takeWhile (!stop ·) with
  | [] => none
  | t => some (t, s.dropWhile (!stop ·))

def enclosed (s : List Char) : Option (List Char × List Char) := do
  let s ← char '(' s
  let (t, s) ← run1 (· == ')') s
  let s ← char ')' s
  return (t, s)

def keywordBlanks (w s : List Char) : Option (List Char) := keyword w s >>= blanks1

theorem char_eq_some {k : Char} {s r : List Char} : char k s = some r ↔ s = k :: r := by
  cases s with
  | nil => simp [char]
  | cons c s => by_cases h : c = k <;> simp [char, h]

theorem length_of_char {k : Char} {s r : List Char} (h : char k s = some r) :
    r.length < s.length := by
  simp [char_eq_some.mp h]

theorem length_of_blanks1 {s r : List Char} (h : blanks1 s = some r) : r.length < s.length := by
  cases s with
  | nil => simp [blanks1] at h
  | cons c s =>
    by_cases hc : isBlank c = true
    · simp only [blanks1, hc, if_true, Option.some.injEq] at h
      subst h
      have := length_skipBlanks_le s
      simp only [List.length_cons]
      omega
    · simp [blanks1, hc] at h

theorem append_of_run1 {stop : Char → Bool} {s t r : List Char} (h : run1 stop s = some (t, r)) :
    t ++ r = s := by
  unfold run1 at h
  split at h
  · simp at h
  · simp only [Option.some.injEq, Prod.mk.injEq] at h
    obtain ⟨rfl, rfl⟩ := h
    exact List.takeWhile_append_dropWhile

theorem ne_nil_of_run1 {stop : Char → Bool} {s t r : List Char} (h : run1 stop s = some (t, r)) :
    t ≠ [] := by
  unfold run1 at h
  split at h
  · simp at h
  · next hne =>
    simp only [Option.some.injEq, Prod.mk.injEq] at h
    exact fun ht => hne (h.1.trans ht)

theorem length_of_run1 {stop : Char → Bool} {s t r : List Char} (h : run1 stop s = some (t, r)) :
    r.length < s.length := by
  have hs := congrArg List.length (append_of_run1 h)
  have ht := List.length_pos_iff.mpr (ne_nil_of_run1 h)
  simp only [List.length_append] at hs
  omega

theorem length_of_enclosed {s t r : List Char} (h : enclosed s = some (t, r)) :
    r.length < s.length := by
  simp only [enclosed, Option.bind_eq_bind, Option.bind_eq_some_iff] at h
  obtain ⟨s₁, h₁, ⟨t', s₂⟩, h₂, s₃, h₃, h₄⟩ := h
  cases h₄
  have := length_of_char h₁
  have := length_of_run1 h₂
  have := length_of_char h₃
  simp only at *
  omega

theorem length_of_keywordBlanks {w s r : List Char} (h : keywordBlanks w s = some r) :
    r.length < s.length := by
  simp only [keywordBlanks, Option.bind_eq_bind, Option.bind_eq_some_iff] at h
  obtain ⟨s₁, h₁, h₂⟩ := h
  have := length_of_keyword h₁
  have := length_of_blanks1 h₂
  omega

end SchemaAtlas.Text
