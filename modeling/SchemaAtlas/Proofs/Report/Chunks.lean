import Mathlib.Data.Rat.Floor
import Mathlib.Tactic.Common
import Mathlib.Tactic.Linarith
import SchemaAtlas.Report.Partition

/-! A list of tables is cut into partitions of one size, and the last of them takes what is left. -/

namespace SchemaAtlas.Report

lemma flatMap_take_drop {α : Type} (l : List α) (k n : ℕ) :
    (List.range n).flatMap (fun i => (l.drop (i * k)).take k) = l.take (n * k) := by
  induction n with
  | zero => simp
  | succ n ih =>
    rw [List.range_succ, List.flatMap_append, ih, Nat.succ_mul, List.take_add]
    simp

lemma partitionCount_eq_ceil {total : ℕ} {size : ℤ} (h₀ : 0 < size)
    (h : size < (total * Nat.pow 2 1075 : ℕ)) : partitionCount total size = ⌈(total : ℚ) / size⌉ := by
  obtain ⟨k, rfl⟩ := Int.eq_ofNat_of_zero_le h₀.le
  rw [partitionCount, if_neg (not_le.mpr h), Int.fdiv_eq_ediv_of_nonneg _ h₀.le]
  exact (Rat.ceil_natCast_div_natCast total k).symm

variable {total : ℕ} {size : ℤ}

lemma partitionCount_bounds (h₀ : 0 < size) (h : partitionCount total size = ⌈(total : ℚ) / size⌉) :
    (partitionCount total size - 1) * size < total ∧ total ≤ partitionCount total size * size := by
  have hsize : (0 : ℚ) < size := by exact_mod_cast h₀
  obtain ⟨hlower, hupper⟩ := Int.ceil_eq_iff.mp h.symm
  rw [lt_div_iff₀ hsize] at hlower
  rw [div_le_iff₀ hsize] at hupper
  constructor
  · exact_mod_cast hlower
  · exact_mod_cast hupper

lemma partitionCount_nonneg (h₀ : 0 < size)
    (h : partitionCount total size = ⌈(total : ℚ) / size⌉) : 0 ≤ partitionCount total size :=
  nonneg_of_mul_nonneg_left ((Int.natCast_nonneg total).trans (partitionCount_bounds h₀ h).2) h₀

lemma total_le_toNat (h₀ : 0 < size) (h : partitionCount total size = ⌈(total : ℚ) / size⌉) :
    total ≤ (partitionCount total size).toNat * size.toNat := by
  zify
  rw [Int.toNat_of_nonneg (partitionCount_nonneg h₀ h), Int.toNat_of_nonneg h₀.le]
  exact (partitionCount_bounds h₀ h).2

lemma mul_lt_total (h₀ : 0 < size) (h : partitionCount total size = ⌈(total : ℚ) / size⌉) {i : ℕ}
    (hi : i < (partitionCount total size).toNat) : i * size.toNat < total := by
  have hle : (i : ℤ) ≤ partitionCount total size - 1 := by omega
  zify
  rw [Int.toNat_of_nonneg h₀.le]
  exact (mul_le_mul_of_nonneg_right hle h₀.le).trans_lt (partitionCount_bounds h₀ h).1

lemma getElem_partitions {tables : List Table} {k : ℕ} (hk : k < (partitions tables size).length) :
    (partitions tables size)[k] =
      ⟨k + 1, k * size.toNat, (tables.drop (k * size.toNat)).take size.toNat⟩ := by
  simp [partitions]

lemma tables_subset {tables : List Table} {p : Partition} (hp : p ∈ partitions tables size) :
    p.tables ⊆ tables := by
  obtain ⟨i, -, rfl⟩ := List.mem_map.mp hp
  exact List.Subset.trans (List.take_subset _ _) (List.drop_subset _ _)

section Partitions

variable {tables : List Table} {p : Partition} (h₀ : 0 < size)
  (h : partitionCount tables.length size = ⌈(tables.length : ℚ) / size⌉)

include h₀ h

lemma length_partitions : ((partitions tables size).length : ℤ) = partitionCount tables.length size := by
  rw [partitions, List.length_map, List.length_range, Int.toNat_of_nonneg (partitionCount_nonneg h₀ h)]

lemma tables_partitions : (partitions tables size).flatMap (·.tables) = tables := by
  rw [partitions, List.flatMap_map]
  exact (flatMap_take_drop tables _ _).trans (List.take_of_length_le (total_le_toNat h₀ h))

lemma tables_ne_nil (hp : p ∈ partitions tables size) : p.tables ≠ [] := by
  obtain ⟨i, hi, rfl⟩ := List.mem_map.mp hp
  have hlt := mul_lt_total h₀ h (List.mem_range.mp hi)
  apply List.ne_nil_of_length_pos
  rw [List.length_take, List.length_drop]
  omega

lemma length_tables (hp : p ∈ (partitions tables size).dropLast) : (p.tables.length : ℤ) = size := by
  rw [partitions, ← List.map_dropLast] at hp
  obtain ⟨i, hi, rfl⟩ := List.mem_map.mp hp
  have hnext : i + 1 < (partitionCount tables.length size).toNat := by
    rw [List.dropLast_eq_take, List.take_range] at hi
    simp at hi
    omega
  -- there are tables behind this partition
  have hlt := mul_lt_total h₀ h hnext
  rw [Nat.succ_mul] at hlt
  rw [List.length_take, List.length_drop]
  omega

lemma last_partitions {k : ℕ} (hk : k < (partitions tables size).length) :
    (partitions tables size)[k].last = min ((k + 1) * size.toNat) tables.length := by
  have hlt : k * size.toNat < tables.length := mul_lt_total h₀ h (by simpa [partitions] using hk)
  simp only [getElem_partitions, Partition.last, List.length_take, List.length_drop, Nat.succ_mul]
  omega

lemma isChain_partitions : (partitions tables size).IsChain fun p q => q.before = p.last := by
  apply List.isChain_iff_getElem.mpr
  intro k hk
  -- the next partition begins before the end of the tables
  have hlt : (k + 1) * size.toNat < tables.length := mul_lt_total h₀ h (by simpa [partitions] using hk)
  rw [last_partitions h₀ h, getElem_partitions]
  exact (min_eq_left hlt.le).symm

lemma last_getLast (hp : p ∈ (partitions tables size).getLast?) : p.last = tables.length := by
  rw [Option.mem_def, List.getLast?_eq_getElem?] at hp
  obtain ⟨hk, rfl⟩ := List.getElem?_eq_some_iff.mp hp
  have hcount : (partitions tables size).length - 1 + 1 = (partitionCount tables.length size).toNat := by
    rw [Nat.sub_add_cancel (by omega), partitions, List.length_map, List.length_range]
  rw [last_partitions h₀ h, hcount]
  exact min_eq_right (total_le_toNat h₀ h)

end Partitions

end SchemaAtlas.Report
