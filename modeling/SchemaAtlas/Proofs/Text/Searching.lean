import Mathlib.Data.List.Induction
import SchemaAtlas.Proofs.Text.Passing

/-! Whatever a search finds was read at some place of the text. A search for words passes over whole
words, and over everything that it cannot read at any place. -/

namespace SchemaAtlas.Text

variable {α : Type}

lemma orElse_eq_some {a : α} {o o' : Option α} :
    (o <|> o') = some a ↔ o = some a ∨ o = none ∧ o' = some a := by
  rw [Option.orElse_eq_orElse, Option.orElse_eq_or, Option.or_eq_some_iff]

lemma Pattern.exists_of_first? {p : Pattern α} {s r : List Char} {a : α}
    (h : p.first? s = some (a, r)) : ∃ x d, s = x ++ d ∧ p.read d = some (a, r) := by
  induction s with
  | nil => cases h
  | cons c s ih =>
    rcases orElse_eq_some.mp h with hr | ⟨_, hr⟩
    · exact ⟨[], c :: s, rfl, hr⟩
    · obtain ⟨x, d, rfl, hd⟩ := ih hr
      exact ⟨c :: x, d, rfl, hd⟩

lemma Pattern.first?_of_read {p : Pattern α} {s r : List Char} {a : α} (hne : s ≠ [])
    (h : p.read s = some (a, r)) : p.first? s = some (a, r) := by
  cases s with
  | nil => exact absurd rfl hne
  | cons c s => rw [first?, h]; rfl

lemma Pattern.all_of_read {p : Pattern α} {s r : List Char} {a : α} (h : p.read s = some (a, r)) :
    p.all s = a :: p.all r := by
  cases s with
  | nil => exact absurd (p.length_lt h) (Nat.not_lt_zero _)
  | cons c s => exact all_cons_of_read h

lemma Pattern.exists_of_mem_all {p : Pattern α} {s : List Char} {a : α} (h : a ∈ p.all s) :
    ∃ d r, p.read d = some (a, r) := by
  fun_induction p.all s with
  | case1 => simp at h
  | case2 c s b r hr _ ih =>
    rcases List.mem_cons.mp h with rfl | h
    · exact ⟨c :: s, r, hr⟩
    · exact ih h
  | case3 c s _ ih => exact ih h

section Words

variable {p : List Char → Option α} {x y : List Char}

lemma firstAtWord_eq_none (h : Passes p x []) (b : Bool) : firstAtWord p b x = none := by
  induction x generalizing b with
  | nil => rfl
  | cons c x ih =>
    obtain ⟨hc, hx⟩ := passes_cons.mp h
    rw [List.append_nil] at hc
    cases b with
    | true => rw [firstAtWord, hc, ih hx]; rfl
    | false => rw [firstAtWord, ih hx]

lemma firstAtWord_of_passes {c : Char} (h : Passes p (x ++ [c]) y) (hc : isWord c = false) (b : Bool) :
    firstAtWord p b (x ++ c :: y) = firstAtWord p true y := by
  induction x generalizing b with
  | nil =>
    obtain ⟨hnone, _⟩ := passes_cons.mp h
    rw [List.nil_append] at hnone
    cases b with
    | true => rw [List.nil_append, firstAtWord, hnone, hc]; rfl
    | false => rw [List.nil_append, firstAtWord, hc]; rfl
  | cons d x ih =>
    rw [List.cons_append] at h
    obtain ⟨hnone, hx⟩ := passes_cons.mp h
    rw [List.append_assoc, List.singleton_append] at hnone
    cases b with
    | true => rw [List.cons_append, firstAtWord, hnone, ih hx]; rfl
    | false => rw [List.cons_append, firstAtWord, ih hx]

lemma firstAtWord_inside (h : ∀ c ∈ x, isWord c = true) :
    firstAtWord p false (x ++ y) = firstAtWord p false y := by
  induction x with
  | nil => rfl
  | cons c x ih =>
    obtain ⟨hc, hx⟩ := List.forall_mem_cons.mp h
    rw [List.cons_append, firstAtWord, hc]
    exact ih hx

lemma firstAtWord_word (hne : x ≠ []) (h : ∀ c ∈ x, isWord c = true) (hp : p (x ++ y) = none) :
    firstAtWord p true (x ++ y) = firstAtWord p false y := by
  cases x with
  | nil => exact absurd rfl hne
  | cons c x =>
    obtain ⟨hc, hx⟩ := List.forall_mem_cons.mp h
    rw [List.cons_append] at hp ⊢
    rw [firstAtWord, hp, hc]
    exact firstAtWord_inside hx

lemma firstAtWord_of_read {a : α} (hne : x ≠ []) (hp : p x = some a) : firstAtWord p true x = some a := by
  cases x with
  | nil => exact absurd rfl hne
  | cons c x => rw [firstAtWord, hp]; rfl

lemma atWordEnd_iff {r : List Char} : atWordEnd r = true ↔ Bars isWord r := by
  cases r with
  | nil => simp [atWordEnd]
  | cons c r => simp [atWordEnd]

lemma bars_reverse_cons {c : Char} {x : List Char} :
    Bars isWord (c :: x).reverse ↔ (x = [] → isWord c = false) ∧ Bars isWord x.reverse := by
  cases x using List.reverseRecOn with
  | nil => simp
  | append_singleton x d => simp

lemma isSome_firstAtWord_iff {b : Bool} {s : List Char} : (firstAtWord p b s).isSome = true ↔
    ∃ x d, s = x ++ d ∧ d ≠ [] ∧ (x = [] → b = true) ∧ Bars isWord x.reverse ∧ (p d).isSome = true := by
  induction s generalizing b with
  | nil =>
    constructor
    · intro h
      cases h
    · rintro ⟨x, d, hs, hd, -⟩
      exact absurd (List.append_eq_nil_iff.mp hs.symm).2 hd
  | cons c s ih =>
    have hstep : (firstAtWord p b (c :: s)).isSome = true ↔
        b = true ∧ (p (c :: s)).isSome = true ∨ (firstAtWord p (!isWord c) s).isSome = true := by
      cases b with
      | true => cases hp : p (c :: s) <;> simp [firstAtWord, hp]
      | false => simp [firstAtWord]
    rw [hstep, ih]
    constructor
    · rintro (⟨hb, hp⟩ | ⟨x, d, rfl, hd, hx, hbars, hp⟩)
      · exact ⟨[], c :: s, rfl, List.cons_ne_nil c s, fun _ => hb, bars_nil isWord, hp⟩
      · exact ⟨c :: x, d, rfl, hd, by simp, bars_reverse_cons.mpr ⟨by simpa using hx, hbars⟩, hp⟩
    · rintro ⟨x, d, hs, hd, hx, hbars, hp⟩
      cases x with
      | nil =>
        obtain rfl : c :: s = d := hs
        exact .inl ⟨hx rfl, hp⟩
      | cons e x =>
        obtain ⟨rfl, rfl⟩ := List.cons.inj hs
        obtain ⟨he, hbars⟩ := bars_reverse_cons.mp hbars
        exact .inr ⟨x, d, rfl, hd, by simpa using he, hbars, hp⟩

end Words

end SchemaAtlas.Text
