import Mathlib.Data.List.Infix
import SchemaAtlas.Ddl.Member
import SchemaAtlas.Proofs.Text.Reading

/-! A column is read from the first two words of its definition, its name and its type, or not at all. -/

namespace SchemaAtlas.Ddl

open SchemaAtlas.Text

def firstWord (d : List Char) : List Char := (skipBlanks d).takeWhile (!isBlank ·)

def behindFirst (d : List Char) : List Char := (skipBlanks d).dropWhile (!isBlank ·)

def endsType (c : Char) : Bool := isBlank c || c == ',' || c == '('

def typeWord (d : List Char) : List Char := (skipBlanks (behindFirst d)).takeWhile (!endsType ·)

structure HasForm (d : List Char) : Prop where
  word : firstWord d ≠ []
  gap : (behindFirst d).takeWhile isBlank ≠ []
  type : typeWord d ≠ []

structure Usable (x : List Char) : Prop where
  named : Name.cleanChars x ≠ []
  close_not_mem : ')' ∉ x
  not_key : ∀ w ∈ notColumnNames, upper x ≠ w.toList

def columnOf (d name type : List Char) : Column where
  name := Name.clean name
  type := (TypeCategory.ofDeclared type).label
  isPrimaryKey := decide ("PRIMARY KEY".toList <:+: upper d)
  isNotNull := decide ("NOT NULL".toList <:+: upper d ∧ ¬"PRIMARY KEY".toList <:+: upper d)

instance (d : List Char) : Decidable (HasForm d) :=
  decidable_of_iff (firstWord d ≠ [] ∧ (behindFirst d).takeWhile isBlank ≠ [] ∧ typeWord d ≠ [])
    ⟨fun ⟨hw, hg, ht⟩ => ⟨hw, hg, ht⟩, fun ⟨hw, hg, ht⟩ => ⟨hw, hg, ht⟩⟩

lemma usable_iff {x : List Char} : ((Name.cleanChars x).isEmpty || x.contains ')' ||
    notColumnNames.any (fun w => upper x == w.toList)) = false ↔ Usable x := by
  rw [Bool.or_eq_false_iff, Bool.or_eq_false_iff, List.isEmpty_eq_false_iff, List.any_eq_false]
  constructor
  · rintro ⟨⟨hn, hc⟩, hk⟩
    exact ⟨hn, by simpa using hc, fun w hw => by simpa using hk w hw⟩
  · rintro ⟨hn, hc, hk⟩
    exact ⟨⟨hn, by simpa using hc⟩, fun w hw => by simpa using hk w hw⟩

instance (x : List Char) : Decidable (Usable x) := decidable_of_iff _ usable_iff

lemma run1_eq (stop : Char → Bool) (s : List Char) : run1 stop s =
    if s.takeWhile (!stop ·) = [] then none else some (s.takeWhile (!stop ·), s.dropWhile (!stop ·)) := by
  unfold run1
  split
  · next h => rw [if_pos h]
  · next h => rw [if_neg h]

lemma blanks1_eq (s : List Char) : blanks1 s = if s.takeWhile isBlank = [] then none else some (skipBlanks s) := by
  cases s with
  | nil => rfl
  | cons c s =>
    by_cases hc : isBlank c = true
    · rw [blanks1, if_pos hc, if_neg (by simp [hc]), skipBlanks_cons_of_blank s hc]
    · rw [blanks1, if_neg hc, if_pos (List.takeWhile_cons_of_neg hc)]

lemma mentions_eq (w : String) (d : List Char) : mentions w d = decide (w.toList <:+: upper d) := by
  rw [Bool.eq_iff_iff, mentions, contains_iff, decide_eq_true_iff]

lemma readColumn_eq (d : List Char) : readColumn d =
    if HasForm d ∧ Usable (firstWord d) then some (columnOf d (firstWord d) (typeWord d)) else none := by
  have hword : run1 isBlank (skipBlanks d) =
      if firstWord d = [] then none else some (firstWord d, behindFirst d) := run1_eq isBlank (skipBlanks d)
  have htype : run1 endsType (skipBlanks (behindFirst d)) =
      if typeWord d = [] then none else some (typeWord d, (skipBlanks (behindFirst d)).dropWhile (!endsType ·)) :=
    run1_eq endsType (skipBlanks (behindFirst d))
  unfold endsType at htype
  rw [readColumn, hword]
  by_cases hw : firstWord d = []
  · rw [if_pos hw, if_neg fun h => h.1.word hw]
    rfl
  rw [if_neg hw]
  simp only [Option.bind_eq_bind, Option.bind_some, blanks1_eq]
  by_cases hg : (behindFirst d).takeWhile isBlank = []
  · rw [if_pos hg, if_neg fun h => h.1.gap hg]
    rfl
  rw [if_neg hg, Option.bind_some, htype]
  by_cases ht : typeWord d = []
  · rw [if_pos ht, if_neg fun h => h.1.type ht]
    rfl
  rw [if_neg ht, Option.bind_some]
  dsimp only
  by_cases hname : Usable (firstWord d)
  · rw [if_neg (ne_true_of_eq_false (usable_iff.mpr hname)), if_pos ⟨⟨hw, hg, ht⟩, hname⟩, columnOf, mentions_eq,
      mentions_eq, Bool.decide_and, decide_not]
    rfl
  · rw [if_pos (eq_true_of_ne_false (mt usable_iff.mp hname)), if_neg fun h => hname h.2]

lemma readColumn_eq_some {d : List Char} {c : Column} : readColumn d = some c ↔
    HasForm d ∧ Usable (firstWord d) ∧ c = columnOf d (firstWord d) (typeWord d) := by
  rw [readColumn_eq, Option.ite_none_right_eq_some, Option.some.injEq, and_assoc, eq_comm (a := c)]

lemma name_of_readColumn {d : List Char} {c : Column} (h : readColumn d = some c) :
    c.name = Name.clean (firstWord d) := by
  obtain ⟨-, -, rfl⟩ := readColumn_eq_some.mp h
  rfl

lemma flags_of_readColumn {d : List Char} {c : Column} (h : readColumn d = some c) :
    c.isPrimaryKey = mentions "PRIMARY KEY" d ∧
      c.isNotNull = (mentions "NOT NULL" d && !mentions "PRIMARY KEY" d) := by
  obtain ⟨-, -, rfl⟩ := readColumn_eq_some.mp h
  rw [mentions_eq, mentions_eq, columnOf, Bool.decide_and, decide_not]
  exact ⟨rfl, rfl⟩

end SchemaAtlas.Ddl
