import SchemaAtlas.Proofs.Text.Reading

/-! Searches that give characters back. All readings of a run are listed in the order in which a search
tries them, the longest first. Where what follows cannot begin with a character of the run, only the longest
one leads on. -/

namespace SchemaAtlas.Text

variable {α : Type}

def runs (p : Char → Bool) : List Char → List (List Char × List Char)
  | [] => [([], [])]
  | c :: s => (if p c then (runs p s).map fun (t, r) => (c :: t, r) else []) ++ [([], c :: s)]

def runs1 (p : Char → Bool) (s : List Char) : List (List Char × List Char) := (runs p s).filter (!·.1.isEmpty)

variable {p : Char → Bool}

lemma flatMap_runs {k : List Char × List Char → List α} (hk : ∀ t c r, p c = true → k (t, c :: r) = [])
    (s : List Char) : (runs p s).flatMap k = k (s.takeWhile p, s.dropWhile p) := by
  induction s generalizing k with
  | nil => simp [runs]
  | cons c s ih =>
    rw [runs, List.flatMap_append, List.flatMap_singleton]
    by_cases hc : p c = true
    · have hrest := ih (k := fun x => k (c :: x.1, x.2)) fun t d r hd => hk (c :: t) d r hd
      rw [if_pos hc, List.flatMap_map, hk [] c s hc, List.append_nil, List.takeWhile_cons_of_pos hc,
        List.dropWhile_cons_of_pos hc]
      exact hrest
    · rw [if_neg hc, List.flatMap_nil, List.nil_append, List.takeWhile_cons_of_neg hc,
        List.dropWhile_cons_of_neg hc]

lemma flatMap_runs1 {k : List Char × List Char → List α} (hk : ∀ t c r, p c = true → k (t, c :: r) = [])
    (s : List Char) : (runs1 p s).flatMap k =
      if s.takeWhile p = [] then [] else k (s.takeWhile p, s.dropWhile p) := by
  have hfilter (xs : List (List Char × List Char)) : (xs.filter (!·.1.isEmpty)).flatMap k =
      xs.flatMap fun x => if x.1 = [] then [] else k x := by
    induction xs with
    | nil => rfl
    | cons x xs ih => by_cases hx : x.1 = [] <;> simp [hx, ih]
  rw [runs1, hfilter, flatMap_runs]
  intro t c r hc
  split
  · rfl
  · exact hk t c r hc

lemma head?_runs (s : List Char) : (runs p s).head? = some (s.takeWhile p, s.dropWhile p) := by
  induction s with
  | nil => rfl
  | cons c s ih =>
    by_cases hc : p c = true
    · rw [runs, if_pos hc, List.head?_append, List.head?_map, ih, List.takeWhile_cons_of_pos hc,
        List.dropWhile_cons_of_pos hc]
      rfl
    · rw [runs, if_neg hc, List.takeWhile_cons_of_neg hc, List.dropWhile_cons_of_neg hc]
      rfl

lemma head?_runs1 (s : List Char) :
    (runs1 p s).head? = if s.takeWhile p = [] then none else some (s.takeWhile p, s.dropWhile p) := by
  by_cases ht : s.takeWhile p = []
  · -- where the longest reading is empty, it is the only one
    have hruns : runs p s = [([], s)] := by
      cases s with
      | nil => rfl
      | cons c s =>
        by_cases hc : p c = true
        · rw [List.takeWhile_cons_of_pos hc] at ht
          cases ht
        · rw [runs, if_neg hc, List.nil_append]
    rw [if_pos ht, runs1, hruns]
    rfl
  · obtain ⟨rest, hruns⟩ := List.head?_eq_some_iff.mp (head?_runs (p := p) s)
    rw [if_neg ht, runs1, hruns, List.filter_cons_of_pos (by simpa using ht), List.head?_cons]

lemma runs1_of_not {c : Char} (hc : p c = false) (s : List Char) : runs1 p (c :: s) = [] := by
  rw [← List.head?_eq_none_iff, head?_runs1, if_pos (List.takeWhile_cons_of_neg (by simp [hc]))]

lemma head?_flatMap_runs1 {k : List Char × List Char → List α} (hk : ∀ x, k x ≠ []) (s : List Char) :
    ((runs1 p s).flatMap k).head? =
      if s.takeWhile p = [] then none else (k (s.takeWhile p, s.dropWhile p)).head? := by
  -- something always follows, so nothing is given back
  have hfirst (xs : List (List Char × List Char)) : (xs.flatMap k).head? = xs.head?.bind fun x => (k x).head? := by
    cases xs with
    | nil => rfl
    | cons x xs =>
      obtain ⟨y, ys, hy⟩ := List.exists_cons_of_ne_nil (hk x)
      rw [List.flatMap_cons, List.head?_cons, Option.bind_some, hy]
      rfl
  rw [hfirst, head?_runs1]
  split <;> rfl

end SchemaAtlas.Text
