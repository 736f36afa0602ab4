import SchemaAtlas.Proofs.Text.Reading

/-! Numbers are read back from a text in which other characters stand between them. -/

namespace SchemaAtlas.Text

def numbersIn (s : List Char) : List Nat :=
  ((s.splitOnP (!·.isDigit)).filter (!·.isEmpty)).map (Nat.ofDigitChars 10 · 0)

lemma not_mem_toDigits {c : Char} (hc : c.isDigit = false) (n : Nat) : c ∉ Nat.toDigits 10 n := by
  intro hm
  rw [Nat.isDigit_of_mem_toDigits (by omega) (by omega) hm] at hc
  exact Bool.false_ne_true hc.symm

variable {s : List Char}

lemma numbersIn_cons {c : Char} (hc : c.isDigit = false) : numbersIn (c :: s) = numbersIn s := by
  have hsplit : (c :: s).splitOnP (!·.isDigit) = [] :: s.splitOnP (!·.isDigit) := by
    rw [List.splitOnP_cons_eq_if_modifyHead, if_pos (by simp [hc])]
  rw [numbersIn, hsplit]
  rfl

lemma numbersIn_append {x : List Char} (hx : Avoids Char.isDigit x) (s : List Char) :
    numbersIn (x ++ s) = numbersIn s := by
  induction x with
  | nil => rfl
  | cons c x ih =>
    obtain ⟨hc, hx⟩ := (avoids_cons _ _ _).mp hx
    exact (numbersIn_cons hc).trans (ih hx)

lemma numbersIn_repr (hs : Bars Char.isDigit s) (n : Nat) :
    numbersIn ((Nat.repr n).toList ++ s) = n :: numbersIn s := by
  have hdigits : ∀ c ∈ Nat.toDigits 10 n, (!c.isDigit) = false := by
    intro c hc
    simpa using Nat.isDigit_of_mem_toDigits (by omega) (by omega) hc
  have hread : Nat.ofDigitChars 10 (Nat.toDigits 10 n) 0 = n := Nat.ofDigitChars_ten_toDigits
  rw [Nat.toList_repr]
  cases s with
  | nil =>
    rw [List.append_nil, numbersIn, List.splitOnP_eq_singleton hdigits]
    simp [numbersIn, hread]
  | cons c s =>
    have hc : c.isDigit = false := (bars_cons _ _ _).mp hs
    rw [numbersIn_cons hc, numbersIn, List.splitOnP_append_cons_of_forall_mem hdigits c (by simp [hc])]
    simp [numbersIn, hread]

end SchemaAtlas.Text
