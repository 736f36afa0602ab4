import SchemaAtlas.Proofs.Ddl.ColumnWords
import SchemaAtlas.Proofs.Text.Backtracking
import SchemaAtlas.Text.Digits

/-! The form of a column, a name and a type, is what a search finds that gives characters back where it
cannot go on. Giving back never helps: a column is read from the first two words of its definition, or not
at all. -/

namespace SchemaAtlas.Ddl

open SchemaAtlas.Text

def behindType (s : List Char) : List (List Char) :=
  ((char '(' s).toList.flatMap fun s => (runs (· != ')') s).flatMap fun (_, s) => (char ')' s).toList) ++ [s]

def columnForms (d : List Char) : List (List Char × List Char) :=
  (runs isBlank d).flatMap fun (_, s) =>
    (runs1 (!isBlank ·) s).flatMap fun (name, s) =>
      (runs1 isBlank s).flatMap fun (_, s) =>
        (runs1 (!endsType ·) s).flatMap fun (type, s) => (behindType s).map fun _ => (name, type)

def isClosedDigits (x : List Char) : Bool :=
  match x.reverse with
  | ')' :: t => !t.isEmpty && t.all fun c => (digit? c).isSome
  | _ => false

lemma head?_map_behindType (x : List Char) (p : List Char × List Char) :
    ((behindType p.2).map fun _ => (x, p.1)).head? = some (x, p.1) := by
  obtain ⟨s, rest, h⟩ := List.exists_cons_of_ne_nil (by simp [behindType] : behindType p.2 ≠ [])
  rw [h]
  rfl

lemma columnForms_eq (d : List Char) : columnForms d = if firstWord d = [] then [] else
    if (behindFirst d).takeWhile isBlank = [] then [] else
      (runs1 (!endsType ·) (skipBlanks (behindFirst d))).flatMap fun p =>
        (behindType p.2).map fun _ => (firstWord d, p.1) := by
  -- no part can begin with a character that the part in front of it gives back
  have hname {c : Char} (hc : isBlank c = true) (s : List Char) : runs1 (!isBlank ·) (c :: s) = [] :=
    runs1_of_not (by simp [hc]) s
  have hgap {c : Char} (hc : (!isBlank c) = true) (s : List Char) : runs1 isBlank (c :: s) = [] :=
    runs1_of_not (by simpa using hc) s
  have htype {c : Char} (hc : isBlank c = true) (s : List Char) : runs1 (!endsType ·) (c :: s) = [] :=
    runs1_of_not (by simp [endsType, hc]) s
  rw [columnForms, flatMap_runs (fun t c r hc => by simp only [hname hc, List.flatMap_nil])]
  dsimp only
  rw [flatMap_runs1 (fun t c r hc => by simp only [hgap hc, List.flatMap_nil])]
  dsimp only
  rw [flatMap_runs1 (fun t c r hc => by simp only [htype hc, List.flatMap_nil])]
  rfl

theorem head?_columnForms (d : List Char) :
    (columnForms d).head? = if HasForm d then some (firstWord d, typeWord d) else none := by
  have htypes : ((runs1 (!endsType ·) (skipBlanks (behindFirst d))).flatMap fun p =>
      (behindType p.2).map fun _ => (firstWord d, p.1)).head? =
        if typeWord d = [] then none else some (firstWord d, typeWord d) := by
    rw [head?_flatMap_runs1, head?_map_behindType]
    · rfl
    · exact fun p hnil => by simpa [hnil] using head?_map_behindType (firstWord d) p
  rw [columnForms_eq]
  by_cases hform : HasForm d
  · rw [if_neg hform.word, if_neg hform.gap, htypes, if_neg hform.type, if_pos hform]
  · rw [if_neg hform]
    split
    · rfl
    split
    · rfl
    · next hw hg =>
      have ht : typeWord d = [] := by
        by_contra ht
        exact hform ⟨hw, hg, ht⟩
      rw [htypes, if_pos ht]

def readForm (d : List Char) : Option Column := do
  let (name, type) ← (columnForms d).head?
  if Usable name ∧ isClosedDigits name = false then some (columnOf d name type) else none

lemma not_isClosedDigits {x : List Char} (h : ')' ∉ x) : isClosedDigits x = false := by
  unfold isClosedDigits
  split
  · next t ht => exact absurd (List.mem_reverse.mp (ht ▸ List.mem_cons_self)) h
  · rfl

lemma readForm_eq (d : List Char) : readForm d =
    if HasForm d ∧ Usable (firstWord d) then some (columnOf d (firstWord d) (typeWord d)) else none := by
  rw [readForm, head?_columnForms]
  by_cases hform : HasForm d
  · by_cases hname : Usable (firstWord d)
    · have hdigits := not_isClosedDigits hname.close_not_mem
      simp [hform, hname, hdigits]
    · simp [hform, hname]
  · simp [hform]

/-- A search that gives characters back, and that refuses digits in front of a closing parenthesis besides,
finds the column that the first two words of a definition give. -/
theorem readColumn_two_words (d : List Char) : readColumn d = readForm d ∧ readColumn d =
    if HasForm d ∧ Usable (firstWord d) then some (columnOf d (firstWord d) (typeWord d)) else none :=
  ⟨(readColumn_eq d).trans (readForm_eq d).symm, readColumn_eq d⟩

end SchemaAtlas.Ddl
