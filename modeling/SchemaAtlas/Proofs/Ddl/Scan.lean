import SchemaAtlas.Proofs.Ddl.Heading

/-! The scan for table statements, one statement at a time, and what stands between the parentheses
of a statement. -/

namespace SchemaAtlas.Statement

open SchemaAtlas.Text

def Nested (d : Nat) (t : List Char) : Prop := ∀ p, p <+: t → p.count ')' ≤ d + p.count '('

def Closes (d : Nat) (t : List Char) : Prop := t.count ')' = d + t.count '(' ∧ Nested d t

lemma scan_of_none {c : Char} {s : List Char} (h : head (c :: s) = none) :
    scan (c :: s) = scan s := by
  rw [scan]
  split
  · rfl
  · next h' => simp [h] at h'

lemma scan_of_delimited {s token inside text rest : List Char} (h : head s = some (token, inside))
    (hu : untilDelimiter inside = some (text, rest)) :
    scan s = ((bodyOf text).map (Statement.mk token)).toList ++ scan rest := by
  cases s with
  | nil => simp [head, keywordBlanks, keyword] at h
  | cons c s =>
    rw [scan]
    split
    · next h' => simp [h] at h'
    · next h' =>
      rw [h] at h'
      cases h'
      split
      · next hu' => simp [hu] at hu'
      · next hu' =>
        rw [hu] at hu'
        cases hu'
        cases hb : bodyOf text <;> rfl

lemma scan_of_passes {x y : List Char} (h : Passes head x y) : scan (x ++ y) = scan y := by
  induction x with
  | nil => rfl
  | cons c x ih =>
    obtain ⟨hc, h⟩ := passes_cons.mp h
    rw [List.cons_append, scan_of_none hc, ih h]

lemma untilDelimiter_eq_some {s t r : List Char} :
    untilDelimiter s = some (t, r) ↔ ';' ∉ t ∧ s = t ++ ';' :: r := by
  induction s generalizing t with
  | nil => simp [untilDelimiter]
  | cons c s ih =>
    by_cases hc : c = ';'
    · subst hc
      cases t with
      | nil => simp [untilDelimiter]
      | cons d t => simp +contextual [untilDelimiter, eq_comm]
    · simp only [untilDelimiter, hc, if_false, Option.map_eq_some_iff, Prod.mk.injEq, Prod.exists]
      constructor
      · rintro ⟨t', r', h, rfl, rfl⟩
        obtain ⟨ht, rfl⟩ := ih.mp h
        exact ⟨by simp [ht, Ne.symm hc], rfl⟩
      · rintro ⟨ht, h⟩
        cases t with
        | nil => exact absurd (List.cons.inj h).1 hc
        | cons d t =>
          obtain ⟨rfl, rfl⟩ := List.cons.inj h
          exact ⟨t, r, ih.mpr ⟨fun hm => ht (List.mem_cons_of_mem _ hm), rfl⟩, rfl, rfl⟩

lemma untilDelimiter_append {t : List Char} (ht : ';' ∉ t) (r : List Char) :
    untilDelimiter (t ++ ';' :: r) = some (t, r) :=
  untilDelimiter_eq_some.mpr ⟨ht, rfl⟩

lemma forall_prefix_cons {P : List Char → Prop} {c : Char} {s : List Char} :
    (∀ p, p <+: c :: s → P p) ↔ P [] ∧ ∀ p, p <+: s → P (c :: p) := by
  constructor
  · intro h
    exact ⟨h [] List.nil_prefix, fun p hp => h _ (List.cons_prefix_cons.mpr ⟨rfl, hp⟩)⟩
  · rintro ⟨h₀, h⟩ p hp
    rcases List.prefix_cons_iff.mp hp with rfl | ⟨t, rfl, ht⟩
    · exact h₀
    · exact h t ht

@[simp] lemma nested_nil (d : Nat) : Nested d [] := by simp [Nested]

@[simp] lemma nested_open {d : Nat} {s : List Char} : Nested d ('(' :: s) ↔ Nested (d + 1) s := by
  simp only [Nested, forall_prefix_cons, List.count_nil, Nat.zero_le, true_and]
  refine forall_congr' fun p => imp_congr_right fun _ => ?_
  simp
  omega

@[simp] lemma nested_close {d : Nat} {s : List Char} : Nested (d + 1) (')' :: s) ↔ Nested d s := by
  simp only [Nested, forall_prefix_cons, List.count_nil, Nat.zero_le, true_and]
  refine forall_congr' fun p => imp_congr_right fun _ => ?_
  simp
  omega

@[simp] lemma not_nested_close {s : List Char} : ¬Nested 0 (')' :: s) := by
  intro h
  simpa using h [')'] (List.cons_prefix_cons.mpr ⟨rfl, List.nil_prefix⟩)

lemma nested_cons {d : Nat} {c : Char} {s : List Char} (ho : c ≠ '(') (hc : c ≠ ')') :
    Nested d (c :: s) ↔ Nested d s := by
  simp only [Nested, forall_prefix_cons, List.count_nil, Nat.zero_le, true_and]
  refine forall_congr' fun p => imp_congr_right fun _ => ?_
  simp [ho, hc]

@[simp] lemma closes_nil {d : Nat} : Closes d [] ↔ d = 0 := by simp [Closes, eq_comm]

@[simp] lemma closes_open {d : Nat} {s : List Char} : Closes d ('(' :: s) ↔ Closes (d + 1) s := by
  simp [Closes]
  omega

@[simp] lemma closes_close {d : Nat} {s : List Char} : Closes (d + 1) (')' :: s) ↔ Closes d s := by
  simp [Closes]
  omega

@[simp] lemma not_closes_close {s : List Char} : ¬Closes 0 (')' :: s) := fun h => not_nested_close h.2

lemma closes_cons {d : Nat} {c : Char} {s : List Char} (ho : c ≠ '(') (hc : c ≠ ')') :
    Closes d (c :: s) ↔ Closes d s := by
  simp [Closes, nested_cons ho hc, ho, hc]

lemma beforeMatching_open (d : Nat) (s : List Char) :
    beforeMatching d ('(' :: s) = (beforeMatching (d + 1) s).map ('(' :: ·) := by
  simp [beforeMatching]

lemma beforeMatching_close (d : Nat) (s : List Char) :
    beforeMatching (d + 1) (')' :: s) = (beforeMatching d s).map (')' :: ·) := by
  simp [beforeMatching]

lemma beforeMatching_close_zero (s : List Char) : beforeMatching 0 (')' :: s) = some [] := by
  simp [beforeMatching]

lemma beforeMatching_cons {d : Nat} {c : Char} {s : List Char} (ho : c ≠ '(') (hc : c ≠ ')') :
    beforeMatching d (c :: s) = (beforeMatching d s).map (c :: ·) := by
  cases d <;> simp [beforeMatching, ho, hc]

lemma closes_append_cons {d : Nat} {c : Char} {s t : List Char} (h : c = ')' → d ≠ 0) :
    (∃ r, c :: s = t ++ ')' :: r) ∧ Closes d t ↔
      ∃ u, ((∃ r, s = u ++ ')' :: r) ∧ Closes d (c :: u)) ∧ c :: u = t := by
  constructor
  · rintro ⟨⟨r, hr⟩, ht⟩
    cases t with
    | nil => exact absurd (closes_nil.mp ht) (h (List.cons.inj hr).1)
    | cons e t =>
      obtain ⟨rfl, rfl⟩ := List.cons.inj hr
      exact ⟨t, ⟨⟨r, rfl⟩, ht⟩, rfl⟩
  · rintro ⟨u, ⟨⟨r, rfl⟩, hu⟩, rfl⟩
    exact ⟨⟨r, rfl⟩, hu⟩

lemma beforeMatching_eq_some {d : Nat} {s t : List Char} :
    beforeMatching d s = some t ↔ (∃ r, s = t ++ ')' :: r) ∧ Closes d t := by
  induction s generalizing d t with
  | nil => simp [beforeMatching]
  | cons c s ih =>
    by_cases ho : c = '('
    · subst ho
      simp [beforeMatching_open, closes_append_cons, ih]
    by_cases hc : c = ')'
    · subst hc
      cases d with
      | zero =>
        rw [beforeMatching_close_zero]
        cases t with
        | nil => simp
        | cons e t => simp +contextual [eq_comm]
      | succ d => simp [beforeMatching_close, closes_append_cons, ih]
    · simp [beforeMatching_cons ho hc, closes_append_cons, hc, closes_cons ho hc, ih]

lemma nested_of_beforeMatching {d : Nat} {s : List Char} (h : beforeMatching d s = none) :
    Nested d s := by
  induction s generalizing d with
  | nil => simp
  | cons c s ih =>
    by_cases ho : c = '('
    · subst ho
      rw [beforeMatching_open] at h
      exact nested_open.mpr (ih (Option.map_eq_none_iff.mp h))
    by_cases hc : c = ')'
    · subst hc
      cases d with
      | zero => simp [beforeMatching_close_zero] at h
      | succ d =>
        rw [beforeMatching_close] at h
        exact nested_close.mpr (ih (Option.map_eq_none_iff.mp h))
    · rw [beforeMatching_cons ho hc] at h
      exact (nested_cons ho hc).mpr (ih (Option.map_eq_none_iff.mp h))

lemma beforeLast_eq_none {s : List Char} (h : beforeLast s = none) : ')' ∉ s := by
  induction s with
  | nil => simp
  | cons c s ih =>
    rw [beforeLast] at h
    split at h
    · simp at h
    · next hs =>
      split at h
      · simp at h
      · next hc => simp [ih hs, Ne.symm hc]

lemma beforeLast_eq_some {s t : List Char} (h : beforeLast s = some t) :
    ∃ r, ')' ∉ r ∧ s = t ++ ')' :: r := by
  induction s generalizing t with
  | nil => simp [beforeLast] at h
  | cons c s ih =>
    rw [beforeLast] at h
    split at h
    · next u hs =>
      cases h
      obtain ⟨r, hr, rfl⟩ := ih hs
      exact ⟨r, hr, rfl⟩
    · next hs =>
      split at h
      · next hc =>
        cases h
        exact ⟨s, beforeLast_eq_none hs, by rw [hc]; rfl⟩
      · simp at h

theorem scan_heading (g : Heading) {body tail : List Char} (hbody : Closes 0 body)
    (hd : ';' ∉ body ∧ ';' ∉ tail) (s : List Char) :
    scan (g.text ++ (body ++ ')' :: (tail ++ ';' :: s))) = ⟨g.token, body⟩ :: scan s := by
  have hdelimiter : ';' ∉ body ++ ')' :: tail := by simpa using hd
  have hbodyOf : bodyOf (body ++ ')' :: tail) = some body := by
    rw [bodyOf, beforeMatching_eq_some.mpr ⟨⟨tail, rfl⟩, hbody⟩]
    rfl
  have huntil : untilDelimiter (body ++ ')' :: (tail ++ ';' :: s)) = some (body ++ ')' :: tail, s) := by
    simpa using untilDelimiter_append hdelimiter s
  rw [scan_of_delimited (head_text g _) huntil, hbodyOf]
  rfl

end SchemaAtlas.Statement
