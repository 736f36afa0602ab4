import SchemaAtlas.Text.Reader

/-!
# Table statements

A dump is searched for `CREATE TABLE name (…) …;`. The statement ends at the first `;` after its
opening parenthesis. Its body ends at the matching parenthesis, or at the last closing parenthesis of
the statement where none matches; a statement without any is passed over. Where no `;` follows, the
dump is cut short and nothing more is read from it.
-/

namespace SchemaAtlas

open SchemaAtlas.Text

structure Statement where
  token : List Char
  body : List Char
deriving DecidableEq, Repr

namespace Statement

def ifNotExists (s : List Char) : Option (List Char) :=
  keywordBlanks "IF".toList s >>= keywordBlanks "NOT".toList >>= keywordBlanks "EXISTS".toList

def token1 (s : List Char) : Option (List Char × List Char) :=
  run1 (fun c => isBlank c || c == '(') s

def head (s : List Char) : Option (List Char × List Char) := do
  let s ← keywordBlanks "CREATE".toList s
  let s ← keywordBlanks "TABLE".toList s
  let (token, s) ← token1 ((ifNotExists s).getD s)
  let s ← char '(' (skipBlanks s)
  return (token, s)

def untilDelimiter : List Char → Option (List Char × List Char)
  | [] => none
  | c :: s => if c = ';' then some ([], s) else (untilDelimiter s).map fun p => (c :: p.1, p.2)

/-- The text before the parenthesis that closes one opened earlier, where `depth` more are open. -/
def beforeMatching : Nat → List Char → Option (List Char)
  | _, [] => none
  | depth, c :: s =>
    if c = '(' then (beforeMatching (depth + 1) s).map (c :: ·)
    else if c = ')' then
      match depth with
      | 0 => some []
      | depth + 1 => (beforeMatching depth s).map (c :: ·)
    else (beforeMatching depth s).map (c :: ·)

def beforeLast : List Char → Option (List Char)
  | [] => none
  | c :: s =>
    match beforeLast s with
    | some t => some (c :: t)
    | none => if c = ')' then some [] else none

def bodyOf (inside : List Char) : Option (List Char) := beforeMatching 0 inside <|> beforeLast inside

theorem length_of_untilDelimiter {s t r : List Char} (h : untilDelimiter s = some (t, r)) :
    r.length < s.length := by
  induction s generalizing t with
  | nil => simp [untilDelimiter] at h
  | cons c s ih =>
    unfold untilDelimiter at h
    split at h
    · cases h
      simp
    · obtain ⟨p, hp, hpr⟩ := Option.map_eq_some_iff.mp h
      cases hpr
      have := ih hp
      simp only [List.length_cons]
      omega

theorem length_of_head {s token r : List Char} (h : head s = some (token, r)) :
    r.length < s.length := by
  simp only [head, Option.bind_eq_bind, Option.bind_eq_some_iff] at h
  obtain ⟨s₁, h₁, s₂, h₂, ⟨tok, s₃⟩, h₃, s₄, h₄, h₅⟩ := h
  cases h₅
  have h₁ := length_of_keywordBlanks h₁
  have h₂ := length_of_keywordBlanks h₂
  have h₃ := length_of_run1 h₃
  have h₄ := length_of_char h₄
  have h₆ := length_skipBlanks_le s₃
  have h₇ : ((ifNotExists s₂).getD s₂).length ≤ s₂.length := by
    cases h : ifNotExists s₂ with
    | none => simp
    | some r =>
      simp only [ifNotExists, Option.bind_eq_bind, Option.bind_eq_some_iff] at h
      obtain ⟨t₂, ⟨t₁, e₁, e₂⟩, e₃⟩ := h
      have := length_of_keywordBlanks e₁
      have := length_of_keywordBlanks e₂
      have := length_of_keywordBlanks e₃
      simp only [Option.getD_some]
      omega
  simp only at *
  omega

def scan : List Char → List Statement
  | [] => []
  | c :: s =>
    match h : head (c :: s) with
    | none => scan s
    | some (token, inside) =>
      match h' : untilDelimiter inside with
      | none => []
      | some (text, rest) =>
        have : rest.length < (c :: s).length :=
          Nat.lt_trans (length_of_untilDelimiter h') (length_of_head h)
        match bodyOf text with
        | some body => ⟨token, body⟩ :: scan rest
        | none => scan rest
termination_by s => s.length
decreasing_by
  · exact Nat.lt_succ_self s.length
  · exact this
  · exact this

end Statement

end SchemaAtlas
