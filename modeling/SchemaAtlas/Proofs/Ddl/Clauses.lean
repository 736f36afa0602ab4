import SchemaAtlas.Ddl.Member
import SchemaAtlas.Proofs.Text.Searching

/-! How a member of a table is told to be a constraint, and where no clause can begin. -/

namespace SchemaAtlas.Ddl

open SchemaAtlas.Text

def constraintWord (s : List Char) : Option (List Char) :=
  (keyword "CONSTRAINT".toList s).filter atWordEnd

lemma isConstraint_eq (d : List Char) : isConstraint d =
    ((firstAtWord constraintWord true d).isSome ||
      ((phrase "PRIMARY".toList "KEY".toList d).filter atWordEnd).isSome ||
        ((phrase "FOREIGN".toList "KEY".toList d).filter atWordEnd).isSome) := rfl

lemma passes_constraintWord {x y : List Char} (h : Passes (keyword "CONSTRAINT".toList) x y) :
    Passes constraintWord x y := by
  refine h.mono fun s hs => ?_
  rw [constraintWord, hs]
  rfl

lemma isConstraint_of_word {s : List Char} (h : atWordEnd s = true) :
    isConstraint ("CONSTRAINT".toList ++ s) = true := by
  have hread : constraintWord ("CONSTRAINT".toList ++ s) = some s := by
    rw [constraintWord, keyword_append (by decide)]
    simp [h]
  rw [isConstraint_eq, firstAtWord_of_read (by simp) hread]
  rfl

lemma isConstraint_of_key {w d s : List Char} (hw : w = "PRIMARY".toList ∨ w = "FOREIGN".toList)
    (h : phrase w "KEY".toList d = some s) (hs : atWordEnd s = true) : isConstraint d = true := by
  have hsome : ((phrase w "KEY".toList d).filter atWordEnd).isSome = true := by
    rw [h, Option.filter_some, if_pos hs]
    rfl
  rw [isConstraint_eq]
  rcases hw with rfl | rfl
  · rw [hsome, Bool.or_true, Bool.true_or]
  · rw [hsome, Bool.or_true]

lemma isConstraint_eq_false {d : List Char} (hc : firstAtWord constraintWord true d = none)
    (hp : phrase "PRIMARY".toList "KEY".toList d = none)
    (hf : phrase "FOREIGN".toList "KEY".toList d = none) : isConstraint d = false := by
  rw [isConstraint_eq, hc, hp, hf]
  rfl

lemma constraintWord_of_ne {x s : List Char} {c : Char} (hx : ∀ c ∈ x, isWord c = true)
    (hne : x.map caseless ≠ "CONSTRAINT".toList) (hc : caseless c ∉ "CONSTRAINT".toList) :
    constraintWord (x ++ c :: s) = none := by
  by_contra hsome
  obtain ⟨r, hr⟩ := Option.ne_none_iff_exists'.mp hsome
  obtain ⟨hkey, hend⟩ := Option.filter_eq_some_iff.mp hr
  obtain ⟨k, hk, he⟩ := keyword_eq_some.mp hkey
  rcases List.append_eq_append_iff.mp he with ⟨a, rfl, ha⟩ | ⟨a, rfl, rfl⟩
  · cases a with
    | nil => exact hne (by simpa using hk)
    | cons e a =>
      obtain ⟨rfl, -⟩ := List.cons.inj ha
      exact hc (hk ▸ List.mem_map_of_mem (by simp))
  · cases a with
    | nil => exact hne (by simpa using hk)
    | cons e a =>
      have hword := hx e (by simp)
      simp [atWordEnd, hword] at hend

lemma passes_readPrimaryKey {x y : List Char}
    (h : Passes (phrase "PRIMARY".toList "KEY".toList) x y) : Passes Clause.readPrimaryKey x y := by
  refine h.mono fun s hs => ?_
  rw [phrase] at hs
  rw [Clause.readPrimaryKey]
  cases hr : keywordBlanks "PRIMARY".toList s with
  | none => rfl
  | some r =>
    rw [hr] at hs
    change keyword "KEY".toList r = none at hs
    simp only [Option.bind_eq_bind, Option.bind_some, hs, Option.bind_none]

lemma Reference.passes_read {x y : List Char}
    (h : Passes (phrase "FOREIGN".toList "KEY".toList) x y) : Passes Reference.read x y := by
  refine h.mono fun s hs => ?_
  rw [phrase] at hs
  rw [Reference.read]
  cases hr : keywordBlanks "FOREIGN".toList s with
  | none => rfl
  | some r =>
    rw [hr] at hs
    change keyword "KEY".toList r = none at hs
    simp only [Option.bind_eq_bind, Option.bind_some, hs, Option.bind_none]

lemma passes_readUnique {x y : List Char} (h : Passes (opened "UNIQUE".toList) x y) :
    Passes Clause.readUnique x y := by
  refine h.mono fun s hs => ?_
  rw [opened] at hs
  rw [Clause.readUnique]
  cases hr : keyword "UNIQUE".toList s with
  | none => rfl
  | some r =>
    rw [hr] at hs
    change char '(' (skipBlanks r) = none at hs
    simp [enclosed, hs]

end SchemaAtlas.Ddl
