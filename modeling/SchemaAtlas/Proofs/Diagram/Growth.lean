import Mathlib.Data.List.Basic
import Mathlib.Data.List.TakeWhile
import Mathlib.Tactic.Common
import SchemaAtlas.Diagram.Mermaid

/-! A diagram to which step after step is added only grows, whichever schemas the steps are about and also
where one of them fails: an unknown name ends a step behind the blocks of the names before it. -/

namespace SchemaAtlas

namespace Text

lemma unlines_cons_eq_join (line : String) (lines : List String) :
    unlines (line :: lines) = line ++ String.join (lines.map ("\n" ++ ·)) ++ "\n" := by
  induction lines generalizing line with
  | nil => simp
  | cons next lines ih =>
    rw [unlines_cons, ih next, List.map_cons, String.join_cons]
    simp only [String.append_assoc]

end Text

namespace Schema

lemma isSome_table? (s : Schema) (name : String) : (s.table? name).isSome = s.hasTable name := by
  rw [Bool.eq_iff_iff, hasTable_iff]
  simp [table?, names]

end Schema

namespace Mermaid

open SchemaAtlas.Text

def block (s : Schema) (name : String) : List Line := (s.table? name).toList.flatMap tableLines

def unknown? (s : Schema) (names : List String) : Option String := names.find? (!s.hasTable ·)

/-- What a step adds: the blocks of the names before the first unknown one, or the arrows among some names. -/
def contribution (s : Schema) : Step → List Line
  | .tables names => (names.takeWhile s.hasTable).flatMap (block s)
  | .relationships names => (names.elim s.drawable s.drawableWithin).map arrowLine

lemma tablesUpToUnknown_eq (s : Schema) (names : List String) : tablesUpToUnknown s names =
    ((names.takeWhile s.hasTable).filterMap s.table?, unknown? s names) := by
  induction names with
  | nil => rfl
  | cons name names ih =>
    have hsome := s.isSome_table? name
    cases ht : s.table? name with
    | none =>
      have hunknown : s.hasTable name = false := by rw [← hsome, ht]; rfl
      simp [tablesUpToUnknown, unknown?, ht, hunknown]
    | some t =>
      have hknown : s.hasTable name = true := by rw [← hsome, ht]; rfl
      simp [tablesUpToUnknown, unknown?, ht, hknown, ih]

lemma lines_step (s : Schema) (step : Step) : step.lines s = contribution s step := by
  cases step with
  | tables names =>
    rw [Step.lines, tablesUpToUnknown_eq, contribution, List.filterMap_eq_flatMap_toList, List.flatMap_assoc]
    rfl
  | relationships names => cases names <;> rfl

lemma fault?_tables (s : Schema) (names : List String) :
    Step.fault? s (.tables names) = (unknown? s names).map .unknownTable := by
  rw [Step.fault?, tablesUpToUnknown_eq]

lemma contribution_tables_append {s : Schema} {a : List String} (h : ∀ name ∈ a, s.hasTable name)
    (b : List String) :
    contribution s (.tables (a ++ b)) = contribution s (.tables a) ++ contribution s (.tables b) := by
  have ha : a.takeWhile s.hasTable = a := List.takeWhile_eq_self_iff.mpr h
  rw [contribution, contribution, contribution, List.takeWhile_append_of_pos h, List.flatMap_append, ha]

lemma unknown?_append {s : Schema} {a : List String} (h : ∀ name ∈ a, s.hasTable name) (b : List String) :
    unknown? s (a ++ b) = unknown? s b := by
  have ha : a.find? (!s.hasTable ·) = none := List.find?_eq_none.mpr fun name hname => by simp [h name hname]
  rw [unknown?, List.find?_append, ha, Option.none_or, unknown?]

def Diagram.run (d : Diagram) (steps : List (Schema × Step)) : Diagram :=
  steps.foldl (fun d x => d.step x.1 x.2) d

lemma run_eq (d : Diagram) (steps : List (Schema × Step)) :
    d.run steps = d ++ steps.flatMap fun x => contribution x.1 x.2 := by
  induction steps generalizing d with
  | nil => exact (List.append_nil d).symm
  | cons x steps ih =>
    have hrun : d.run (x :: steps) = (d.step x.1 x.2).run steps := rfl
    rw [hrun, ih, Diagram.step, lines_step, List.append_assoc, List.flatMap_cons]

lemma source_eq_join (d : Diagram) :
    source d = "erDiagram" ++ String.join (d.map fun l => "\n" ++ l.text) ++ "\n" := by
  rw [source, lines, List.map_cons, unlines_cons_eq_join, List.map_map]
  rfl

lemma source_append (d added : Diagram) : ∃ text more, source d = text ++ "\n" ∧
    source (d ++ added) = text ++ more ++ "\n" := by
  refine ⟨_, String.join (added.map fun l => "\n" ++ l.text), source_eq_join d, ?_⟩
  rw [source_eq_join, List.map_append, String.join_append, ← String.append_assoc]

/-- A diagram only grows. A step that asks for an unknown table fails with the blocks of the names before
it, and all other steps succeed; what is drawn in the end is the header and what each step adds in turn. So
known tables may be drawn in one step or in two. -/
theorem diagram_only_grows :
    (∀ before after : List (Schema × Step), ∃ text more, source (Diagram.run [] before) = text ++ "\n" ∧
      source (Diagram.run [] (before ++ after)) = text ++ more ++ "\n") ∧
    (∀ (d : Diagram) (s : Schema) (known : List String) (name : String) (rest : List String),
      (∀ n ∈ known, s.hasTable n) → s.hasTable name = false →
        Step.fault? s (.tables (known ++ name :: rest)) = some (.unknownTable name) ∧
          d.step s (.tables (known ++ name :: rest)) = d ++ known.flatMap (block s)) ∧
    (∀ (s : Schema) (step : Step), step.fault? s = none ↔
      ∀ names, step = .tables names → ∀ name ∈ names, s.hasTable name) ∧
    (∀ steps : List (Schema × Step), source (Diagram.run [] steps) =
      unlines ("erDiagram" :: (steps.flatMap fun x => contribution x.1 x.2).map Line.text)) ∧
    ∀ (d : Diagram) (s : Schema) (a b : List String), (∀ name ∈ a, s.hasTable name) →
      (d.step s (.tables a)).step s (.tables b) = d.step s (.tables (a ++ b)) ∧
        Step.fault? s (.tables (a ++ b)) = Step.fault? s (.tables b) := by
  refine ⟨fun before after => ?_, fun d s known name rest hknown hname => ⟨?_, ?_⟩, fun s step => ?_,
    fun steps => ?_, fun d s a b ha => ⟨?_, ?_⟩⟩
  · rw [run_eq, run_eq, List.flatMap_append, ← List.append_assoc]
    exact source_append ..
  · rw [fault?_tables, unknown?_append hknown, unknown?, List.find?_cons_of_pos (by simp [hname])]
    rfl
  · have hstop : contribution s (.tables (name :: rest)) = [] := by simp [contribution, hname]
    rw [Diagram.step, lines_step, contribution_tables_append hknown, hstop, List.append_nil, contribution,
      List.takeWhile_eq_self_iff.mpr hknown]
  · cases step with
    | tables names => simp [fault?_tables, unknown?]
    | relationships names => simp [Step.fault?]
  · rw [run_eq]
    rfl
  · rw [Diagram.step, Diagram.step, Diagram.step, lines_step, lines_step, lines_step,
      contribution_tables_append ha, List.append_assoc]
  · rw [fault?_tables, unknown?_append ha, ← fault?_tables]

theorem diagram_only_grows_unknown :
    let s : Schema := ⟨[⟨"A", [], []⟩, ⟨"B", [⟨"ID", "NUMBER", true, false⟩], []⟩], []⟩
    let d : Diagram := Diagram.run [] [(s, .tables ["A"])]
    ((∀ n ∈ ["B"], s.hasTable n) ∧ s.hasTable "X" = false) ∧
      Step.fault? s (.tables ["B", "X", "A"]) = some (.unknownTable "X") ∧
      d.step s (.tables ["B", "X", "A"]) = d ++ ["B"].flatMap (block s) ∧
      (d.step s (.tables ["B"])).step s (.tables ["X", "A"]) = d.step s (.tables ["B", "X", "A"]) := by
  intro s d
  have hknown : ∀ n ∈ ["B"], s.hasTable n := by decide
  have hunknown : s.hasTable "X" = false := by decide
  obtain ⟨hfault, hstep⟩ := diagram_only_grows.2.1 d s ["B"] "X" ["A"] hknown hunknown
  exact ⟨⟨hknown, hunknown⟩, hfault, hstep, (diagram_only_grows.2.2.2.2 d s ["B"] ["X", "A"] hknown).1⟩

end Mermaid

end SchemaAtlas
