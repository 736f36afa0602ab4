/-!
# Pieces and lines

A text is cut into the pieces between the places where one character stands, and put together from its
pieces or its lines. Each line is followed by a line feed.
-/

namespace SchemaAtlas.Text

def prepend (c : Char) : List (List Char) → List (List Char)
  | [] => [[c]]
  | w :: ws => (c :: w) :: ws

/-- The pieces between the occurrences of `k`, the empty ones among them. -/
def cutAt (k : Char) : List Char → List (List Char)
  | [] => [[]]
  | c :: s => if c = k then [] :: cutAt k s else prepend c (cutAt k s)

def cutOnce (k : Char) (s : List Char) : List Char × Option (List Char) :=
  match s.dropWhile (· != k) with
  | [] => (s, none)
  | _ :: rest => (s.takeWhile (· != k), some rest)

@[simp] theorem cutAt_self (k : Char) (s : List Char) : cutAt k (k :: s) = [] :: cutAt k s := by
  simp [cutAt]

theorem cutAt_ne_nil (k : Char) (s : List Char) : cutAt k s ≠ [] := by
  cases s with
  | nil => simp [cutAt]
  | cons c s =>
    by_cases h : c = k
    · simp [cutAt, h]
    · cases hs : cutAt k s <;> simp [cutAt, h, prepend, hs]

theorem not_mem_of_mem_cutAt {k : Char} {s w : List Char} (h : w ∈ cutAt k s) : k ∉ w := by
  induction s generalizing w with
  | nil =>
    simp only [cutAt, List.mem_singleton] at h
    simp [h]
  | cons c s ih =>
    by_cases hc : c = k
    · simp only [cutAt, hc, if_true, List.mem_cons] at h
      rcases h with rfl | h
      · simp
      · exact ih h
    · cases hs : cutAt k s with
      | nil => exact absurd hs (cutAt_ne_nil k s)
      | cons v vs =>
        simp only [cutAt, hc, if_false, hs, prepend, List.mem_cons] at h
        rcases h with rfl | h
        · have hv : k ∉ v := ih (by simp [hs])
          simp [hv, Ne.symm hc]
        · exact ih (by simp [hs, h])

theorem cutAt_of_not_mem {k : Char} {w : List Char} (h : k ∉ w) : cutAt k w = [w] := by
  induction w with
  | nil => rfl
  | cons c w ih =>
    rw [List.mem_cons, not_or] at h
    rw [cutAt, if_neg (Ne.symm h.1), ih h.2, prepend]

theorem cutAt_append {k : Char} {w : List Char} (h : k ∉ w) (s : List Char) :
    cutAt k (w ++ k :: s) = w :: cutAt k s := by
  induction w with
  | nil => simp
  | cons c w ih =>
    rw [List.mem_cons, not_or] at h
    rw [List.cons_append, cutAt, if_neg (Ne.symm h.1), ih h.2, prepend]

def unlines (lines : List String) : String := String.join (lines.map (· ++ "\n"))

def joinWith (separator : String) (parts : List String) : String := separator.intercalate parts

def commas (parts : List String) : String := joinWith ", " parts

@[simp] theorem unlines_nil : unlines [] = "" := rfl

@[simp] theorem unlines_cons (line : String) (lines : List String) :
    unlines (line :: lines) = line ++ "\n" ++ unlines lines := by
  simp [unlines]

theorem unlines_append (lines others : List String) :
    unlines (lines ++ others) = unlines lines ++ unlines others := by
  simp [unlines, String.join_append]

end SchemaAtlas.Text
