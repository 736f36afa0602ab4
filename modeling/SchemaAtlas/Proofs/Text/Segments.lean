import Mathlib.Data.List.Infix
import SchemaAtlas.Text.Lines

/-! The segments of a text are what stands in front of its delimiters. What follows the last delimiter
belongs to none of them. -/

namespace SchemaAtlas.Text

def segments (s : List Char) : List (List Char) := (cutAt ';' s).dropLast

def leftmost (P : List Char → Prop) [DecidablePred P] (w : List Char) : Option (List Char) :=
  w.tails.find? (P ·)

variable {w s : List Char}

@[simp] lemma segments_of_not_mem (h : ';' ∉ s) : segments s = [] := by
  rw [segments, cutAt_of_not_mem h]
  rfl

lemma segments_append (h : ';' ∉ w) (s : List Char) :
    segments (w ++ ';' :: s) = w :: segments s := by
  rw [segments, cutAt_append h, List.dropLast_cons_of_ne_nil (cutAt_ne_nil ';' s), segments]

lemma not_mem_of_mem_segments (h : w ∈ segments s) : ';' ∉ w :=
  not_mem_of_mem_cutAt (List.dropLast_subset _ h)

@[elab_as_elim]
theorem segments_induction {motive : List Char → Prop} (tail : ∀ s, ';' ∉ s → motive s)
    (segment : ∀ w s, ';' ∉ w → motive s → motive (w ++ ';' :: s)) (s : List Char) : motive s := by
  by_cases h : ';' ∈ s
  · obtain ⟨w, r, hs, hw⟩ := List.eq_append_cons_of_mem h
    have hlength : r.length < s.length := by
      rw [hs, List.length_append, List.length_cons]
      omega
    rw [hs]
    exact segment w r hw (segments_induction tail segment r)
  · exact tail s h
termination_by s.length

lemma segments_delimited_append (a b : List Char) :
    segments ((a ++ [';']) ++ b) = segments (a ++ [';']) ++ segments b := by
  induction a using segments_induction with
  | tail a ha =>
    have hempty : segments [] = [] := segments_of_not_mem (by simp)
    rw [List.append_assoc, List.singleton_append, segments_append ha, segments_append ha, hempty]
    rfl
  | segment w s hw ih =>
    have hsplit (y : List Char) : (w ++ ';' :: s) ++ y = w ++ ';' :: (s ++ y) := by simp
    rw [hsplit, segments_append hw, List.append_assoc w, List.cons_append, segments_append hw, ih]
    rfl

section Leftmost

variable {P : List Char → Prop} [DecidablePred P] {c : Char}

lemma leftmost_nil (h : ¬P []) : leftmost P [] = none := by
  simp [leftmost, h]

lemma leftmost_of_pos (h : P w) : leftmost P w = some w := by
  cases w with
  | nil => simp [leftmost, h]
  | cons c w => simp [leftmost, h]

lemma leftmost_cons_of_neg (h : ¬P (c :: w)) : leftmost P (c :: w) = leftmost P w := by
  simp [leftmost, h]

lemma leftmost_eq_some {d : List Char} (h : leftmost P w = some d) : P d ∧ d <:+ w := by
  have hd : P d := by simpa using List.find?_some h
  exact ⟨hd, (List.mem_tails d w).mp (List.mem_of_find?_eq_some h)⟩

end Leftmost

end SchemaAtlas.Text
