import Mathlib.Tactic.Common
import SchemaAtlas.Diagram.Mermaid

/-! The parts of a diagram: the blocks of its tables, and the arrows by their two ends. -/

namespace SchemaAtlas.Mermaid

def Line.ends? : Line → Option (String × String)
  | arrow source target => some (source, target)
  | _ => none

def blocks (d : Diagram) : Diagram := d.filter (·.ends?.isNone)

def arrows (d : Diagram) : List (String × String) := d.filterMap Line.ends?

lemma ends?_of_mem_tableLines {t : Table} {l : Line} (h : l ∈ tableLines t) : l.ends? = none := by
  simp only [tableLines, List.cons_append, List.mem_cons, List.mem_append, List.mem_map,
    List.not_mem_nil, or_false] at h
  rcases h with rfl | ⟨c, -, rfl⟩ | rfl | rfl <;> rfl

variable (ts : List Table) (ks : List ForeignKey)

lemma lines_drawing : addRelationships (addTables [] ts) ks =
    ts.flatMap tableLines ++ ks.map arrowLine := rfl

lemma blocks_drawing : blocks (addRelationships (addTables [] ts) ks) = ts.flatMap tableLines := by
  have htables : (ts.flatMap tableLines).filter (·.ends?.isNone) = ts.flatMap tableLines := by
    apply List.filter_eq_self.mpr
    intro l hl
    obtain ⟨t, -, ht⟩ := List.mem_flatMap.mp hl
    rw [ends?_of_mem_tableLines ht]
    rfl
  have harrows : (ks.map arrowLine).filter (·.ends?.isNone) = [] := by
    apply List.filter_eq_nil_iff.mpr
    intro l hl
    obtain ⟨k, -, rfl⟩ := List.mem_map.mp hl
    simp [arrowLine, Line.ends?]
  rw [blocks, lines_drawing, List.filter_append, htables, harrows, List.append_nil]

lemma arrows_drawing : arrows (addRelationships (addTables [] ts) ks) =
    ks.map fun k => (k.source, k.target) := by
  have htables : (ts.flatMap tableLines).filterMap Line.ends? = [] := by
    apply List.filterMap_eq_nil_iff.mpr
    intro l hl
    obtain ⟨t, -, ht⟩ := List.mem_flatMap.mp hl
    exact ends?_of_mem_tableLines ht
  rw [arrows, lines_drawing, List.filterMap_append, htables, List.nil_append, List.filterMap_map,
    ← List.filterMap_eq_map]
  rfl

end SchemaAtlas.Mermaid
