import SchemaAtlas.Files.Plan
import SchemaAtlas.Proofs.Files.Paths
import SchemaAtlas.Proofs.Files.Trees

/-! How a plan ends. Either every step is carried out, or the writing steps up to the first one that fails
are: that one and those behind it write nothing. -/

namespace SchemaAtlas.Files

namespace Tree

variable {t : Tree} {e : Effect} {path : String} {c : Content}

lemma wrote_andThen_writeEffect (he : KeepsFiles t e.tree) :
    ((e.andThen (·.writeEffect path c)).fault? = none →
      Wrote [(path, c)] t (e.andThen (·.writeEffect path c)).tree) ∧
    ((e.andThen (·.writeEffect path c)).fault? ≠ none → KeepsFiles t (e.andThen (·.writeEffect path c)).tree) := by
  obtain ⟨u, fault?⟩ := e
  cases fault? with
  | some f => exact ⟨nofun, fun _ => he⟩
  | none =>
    rw [Effect.andThen_none, writeEffect]
    cases hwrite : u.write path c with
    | ok t' => exact ⟨fun _ => he.wrote.append (wrote_write hwrite), fun h => absurd rfl h⟩
    | error f => exact ⟨nofun, fun _ => he⟩

end Tree

open SchemaAtlas.Files.Tree

namespace Step

def written? : Step → Option (String × Content)
  | writeText path text => some (path.text, .ofText text)
  | saveWord path document => some (path, .word document)
  | saveDrawing path source => some (path, .ofText source)
  | say _ | record _ | fail _ => none

def path? : Step → Option Path
  | writeText path _ => some path
  | saveWord path _ | saveDrawing path _ => some (.ofText path)
  | say _ | record _ | fail _ => none

def line? : Step → Option String
  | say line => some line
  | _ => none

def record? : Step → Option Log.Record
  | record r => some r
  | _ => none

variable {t : Tree} {step : Step}

lemma wrote_run : ((step.run t).fault? = none → Wrote step.written?.toList t (step.run t).tree) ∧
    ((step.run t).fault? ≠ none → KeepsFiles t (step.run t).tree) := by
  cases step with
  | say line => exact ⟨fun _ => (KeepsFiles.refl t).wrote, fun _ => .refl t⟩
  | record r => exact ⟨fun _ => (KeepsFiles.refl t).wrote, fun _ => .refl t⟩
  | writeText path text => exact wrote_andThen_writeEffect (keepsFiles_ensure t path.parent)
  | saveWord path document => exact wrote_andThen_writeEffect (e := ⟨t, none⟩) (.refl t)
  | saveDrawing path source =>
    refine wrote_andThen_writeEffect ?_
    split
    · exact .refl t
    · exact keepsFiles_makeAll t _
  | fail f => exact ⟨nofun, fun _ => .refl t⟩

lemma said_run (h : (step.run t).fault? = none) :
    (step.run t).said = step.line?.toList ∧ (step.run t).log = step.record?.toList := by
  cases step with
  | writeText path text =>
    have hfault : (t.writeText path text).fault? = none := h
    exact ⟨rfl, by rw [run, hfault]; rfl⟩
  | fail f => cases h
  | _ => exact ⟨rfl, rfl⟩

lemma paths_run : (step.run t).paths = if (step.run t).fault?.isNone then step.path?.toList else [] := by
  cases step <;> rfl

lemma path?_eq_map_written? (h : ∀ path text, step = writeText path text → path.Proper) :
    step.path? = step.written?.map fun write => .ofText write.1 := by
  cases step with
  | writeText path text => exact congrArg some (Path.ofText_text (h path text rfl)).symm
  | _ => rfl

lemma eq_fail_of_fault {f : Fault} (h : (step.run t).fault? = some f) (hw : step.written? = none) :
    step = fail f := by
  cases step with
  | fail g => exact congrArg fail (Option.some.inj h)
  | say line => cases h
  | record r => cases h
  | _ => cases hw

end Step

namespace Plan

def written (plan : Plan) : List (String × Content) := plan.filterMap Step.written?

def paths (plan : Plan) : List Path := plan.filterMap Step.path?

def lines (plan : Plan) : List String := plan.filterMap Step.line?

def records (plan : Plan) : List Log.Record := plan.filterMap Step.record?

/-- All of a plan was carried out, or a step failed, at a place in the plan or because the plan says so:
what the steps before it write was written, and nothing else. -/
inductive Ends (plan : Plan) (t : Tree) (o : Outcome) : Prop where
  | complete : o.fault? = none → o.said = plan.lines → o.log = plan.records → o.paths = plan.paths →
      Wrote plan.written t o.tree → Ends plan t o
  | failed {before after : Plan} {step : Step} {f : Fault} : plan = before ++ step :: after →
      (run before t).fault? = none → (step.run (run before t).tree).fault? = some f →
      (step.written? = none → step = .fail f) → o.fault? = some f → o.paths = before.paths →
      Wrote before.written t o.tree → Ends plan t o

lemma written_cons (step : Step) (plan : Plan) :
    written (step :: plan) = step.written?.toList ++ written plan := by
  cases h : step.written? <;> simp [written, h]

lemma paths_cons (step : Step) (plan : Plan) : paths (step :: plan) = step.path?.toList ++ paths plan := by
  cases h : step.path? <;> simp [paths, h]

lemma lines_cons (step : Step) (plan : Plan) : lines (step :: plan) = step.line?.toList ++ lines plan := by
  cases h : step.line? <;> simp [lines, h]

lemma records_cons (step : Step) (plan : Plan) : records (step :: plan) = step.record?.toList ++ records plan := by
  cases h : step.record? <;> simp [records, h]

lemma paths_eq_map_written {plan : Plan} (h : ∀ path text, Step.writeText path text ∈ plan → path.Proper) :
    plan.paths = plan.written.map fun write => .ofText write.1 := by
  rw [paths, written, List.map_filterMap]
  apply List.filterMap_congr
  rintro step hstep
  exact Step.path?_eq_map_written? fun path text heq => h path text (heq ▸ hstep)

lemma written_append (p q : Plan) : written (p ++ q) = written p ++ written q := List.filterMap_append

lemma lines_append (p q : Plan) : lines (p ++ q) = lines p ++ lines q := List.filterMap_append

@[simp] lemma written_nil : written [] = [] := rfl

lemma written_say {α : Type} (f : α → String) (xs : List α) : written (xs.map fun x => .say (f x)) = [] := by
  simp [written, List.filterMap_map, Function.comp_def, Step.written?]

lemma lines_say {α : Type} (f : α → String) (xs : List α) : lines (xs.map fun x => .say (f x)) = xs.map f := by
  simp [lines, List.filterMap_map, Function.comp_def, Step.line?]

lemma written_record {α : Type} (f : α → Log.Record) (xs : List α) :
    written (xs.map fun x => .record (f x)) = [] := by
  simp [written, List.filterMap_map, Function.comp_def, Step.written?]

lemma run_cons_of_none {step : Step} {t : Tree} (h : (step.run t).fault? = none) (plan : Plan) :
    run (step :: plan) t = { run plan (step.run t).tree with
      said := (step.run t).said ++ (run plan (step.run t).tree).said
      log := (step.run t).log ++ (run plan (step.run t).tree).log
      paths := (step.run t).paths ++ (run plan (step.run t).tree).paths } := by
  rw [run_cons, Outcome.andThen, h]

lemma run_cons_of_some {step : Step} {t : Tree} {f : Fault} (h : (step.run t).fault? = some f) (plan : Plan) :
    run (step :: plan) t = step.run t := by
  rw [run_cons, Outcome.andThen, h]

theorem ends_run (plan : Plan) (t : Tree) : Ends plan t (run plan t) := by
  induction plan generalizing t with
  | nil => exact .complete rfl rfl rfl rfl (KeepsFiles.refl t).wrote
  | cons step plan ih =>
    cases hfault : (step.run t).fault? with
    | some f =>
      have hkeeps : KeepsFiles t (step.run t).tree := Step.wrote_run.2 (by simp [hfault])
      rw [run_cons_of_some hfault]
      have hpaths : (step.run t).paths = [] := by rw [Step.paths_run, hfault]; rfl
      exact .failed (show step :: plan = [] ++ step :: plan from rfl) rfl hfault (Step.eq_fail_of_fault hfault)
        hfault hpaths hkeeps.wrote
    | none =>
      obtain ⟨hsaid, hlog⟩ := Step.said_run hfault
      have hpath : (step.run t).paths = step.path?.toList := by rw [Step.paths_run, hfault]; rfl
      have hwrote := Step.wrote_run.1 hfault
      cases ih (step.run t).tree with
      | complete hnone hlines hrecords hpaths hrest =>
        rw [run_cons_of_none hfault]
        refine .complete hnone ?_ ?_ ?_ ?_
        · rw [lines_cons, hsaid, hlines]
        · rw [records_cons, hlog, hrecords]
        · rw [paths_cons, hpath, hpaths]
        · rw [written_cons]
          exact hwrote.append hrest
      | @failed before after failing f hsplit hbefore hf hfail hend hpaths hrest =>
        have hrun := run_cons_of_none hfault before
        have hsplit : step :: plan = (step :: before) ++ failing :: after := by rw [hsplit, List.cons_append]
        rw [run_cons_of_none hfault]
        refine .failed hsplit ?_ ?_ hfail hend ?_ ?_
        · rw [hrun, hbefore]
        · rw [hrun, hf]
        · rw [paths_cons, hpath, hpaths]
        · rw [written_cons]
          exact hwrote.append hrest

section Complete

variable {plan : Plan} {t : Tree}

lemma said_run_of_none (h : (run plan t).fault? = none) : (run plan t).said = plan.lines := by
  cases ends_run plan t with
  | complete _ hsaid => exact hsaid
  | failed _ _ _ _ hend => exact absurd (h.symm.trans hend) (Option.some_ne_none _).symm

lemma paths_run_of_none (h : (run plan t).fault? = none) : (run plan t).paths = plan.paths := by
  cases ends_run plan t with
  | complete _ _ _ hpaths => exact hpaths
  | failed _ _ _ _ hend => exact absurd (h.symm.trans hend) (Option.some_ne_none _).symm

lemma fail_notMem_of_none (h : (run plan t).fault? = none) (f : Fault) : Step.fail f ∉ plan := by
  induction plan generalizing t with
  | nil => exact List.not_mem_nil
  | cons step plan ih =>
    cases hfault : (step.run t).fault? with
    | some g =>
      rw [run_cons_of_some hfault, hfault] at h
      cases h
    | none =>
      rw [run_cons_of_none hfault] at h
      rw [List.mem_cons, not_or]
      refine ⟨?_, ih h⟩
      rintro rfl
      cases hfault

end Complete

def documentWrite (directory : Path) (d : Report.Document) : String × Content :=
  ((documentPath directory d).text, .ofText d.content)

/-- All documents were written and recorded in order, and their paths are given back, or the directory or
the file of one could not be made: the documents before it were written, and nothing else. -/
inductive DocumentsEnd (directory : Path) (documents : List Report.Document) (t : Tree) (o : Outcome) : Prop where
  | complete : o.fault? = none → o.paths = documents.map (documentPath directory) →
      o.log = documents.map (fun d => writtenRecord (documentPath directory d)) →
      Wrote (documents.map (documentWrite directory)) t o.tree → DocumentsEnd directory documents t o
  | failed {before after : List Report.Document} {d : Report.Document} {f : Fault} :
      documents = before ++ d :: after → (run (ofDocuments directory before) t).fault? = none →
      ((run (ofDocuments directory before) t).tree.writeText (documentPath directory d) d.content).fault? =
        some f →
      o.fault? = some f → o.paths = before.map (documentPath directory) →
      Wrote (before.map (documentWrite directory)) t o.tree → DocumentsEnd directory documents t o

section Documents

variable (directory : Path)

lemma ofDocuments_cons (d : Report.Document) (documents : List Report.Document) :
    ofDocuments directory (d :: documents) = .writeText (documentPath directory d) d.content ::
      .record (writtenRecord (documentPath directory d)) :: ofDocuments directory documents := rfl

lemma written_ofDocuments (documents : List Report.Document) :
    written (ofDocuments directory documents) = documents.map (documentWrite directory) := by
  induction documents with
  | nil => rfl
  | cons d documents ih =>
    rw [ofDocuments_cons, written_cons, written_cons, ih]
    rfl

lemma paths_ofDocuments (documents : List Report.Document) :
    paths (ofDocuments directory documents) = documents.map (documentPath directory) := by
  induction documents with
  | nil => rfl
  | cons d documents ih =>
    rw [ofDocuments_cons, paths_cons, paths_cons, ih]
    rfl

lemma records_ofDocuments (documents : List Report.Document) : records (ofDocuments directory documents) =
    documents.map fun d => writtenRecord (documentPath directory d) := by
  induction documents with
  | nil => rfl
  | cons d documents ih =>
    rw [ofDocuments_cons, records_cons, records_cons, ih]
    rfl

lemma exists_document_of_split {documents : List Report.Document} {before after : Plan} {step : Step} {t : Tree}
    {f : Fault} (hsplit : ofDocuments directory documents = before ++ step :: after)
    (hf : (step.run t).fault? = some f) :
    ∃ xs d ys, documents = xs ++ d :: ys ∧ before = ofDocuments directory xs ∧
      step = .writeText (documentPath directory d) d.content := by
  induction documents generalizing before with
  | nil => exact absurd hsplit.symm (by simp [ofDocuments])
  | cons d documents ih =>
    rw [ofDocuments_cons] at hsplit
    rcases before with _ | ⟨s, _ | ⟨s', before⟩⟩ <;>
      simp only [List.nil_append, List.cons_append, List.cons.injEq] at hsplit
    · obtain ⟨rfl, -⟩ := hsplit
      exact ⟨[], d, documents, rfl, rfl, rfl⟩
    · obtain ⟨-, rfl, -⟩ := hsplit
      cases hf
    · obtain ⟨rfl, rfl, hsplit⟩ := hsplit
      obtain ⟨xs, e, ys, rfl, rfl, rfl⟩ := ih hsplit
      exact ⟨d :: xs, e, ys, rfl, rfl, rfl⟩

theorem documentsEnd_run (documents : List Report.Document) (t : Tree) :
    DocumentsEnd directory documents t (run (ofDocuments directory documents) t) := by
  cases ends_run (ofDocuments directory documents) t with
  | complete hnone _ hlog hpaths hwrote =>
    rw [records_ofDocuments] at hlog
    rw [paths_ofDocuments] at hpaths
    rw [written_ofDocuments] at hwrote
    exact .complete hnone hpaths hlog hwrote
  | failed hsplit hbefore hf _ hend hpaths hwrote =>
    obtain ⟨xs, d, ys, rfl, rfl, rfl⟩ := exists_document_of_split directory hsplit hf
    rw [paths_ofDocuments] at hpaths
    rw [written_ofDocuments] at hwrote
    exact .failed rfl hbefore hf hend hpaths hwrote

end Documents

end Plan

end SchemaAtlas.Files
