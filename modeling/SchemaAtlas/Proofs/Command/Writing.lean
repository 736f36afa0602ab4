import SchemaAtlas.Command.Run
import SchemaAtlas.Proofs.Files.Plans
import SchemaAtlas.Proofs.Report.Relationships
import SchemaAtlas.Proofs.Report.Word

/-! What the command writes, in what order, and how it exits. -/

namespace SchemaAtlas.Command

open SchemaAtlas.Files

variable (r : Request) (settings : Settings) (now : Timestamp) (sql : List Char)

def extractWrites : List (String × Content) :=
  (given r.extract).toList.map fun file => ((Path.ofText file).text, .ofText (Extract.text (Extract.sections sql)))

def furtherWrites (s : Schema) : List (String × Content) :=
  ((given r.word).toList.map fun file => (file, .word (Report.wordContent s now))) ++
    (given r.drawing).toList.map fun name =>
      (drawingPath r (r.directory settings) name, .ofText (Dot.source name (Dot.graph s)))

def writes : List (String × Content) :=
  extractWrites r sql ++
    if (Schema.ofDump sql).tables = [] then []
    else match Report.documents (Schema.ofDump sql) (r.imprint now) settings.limits with
      | .error _ => []
      | .ok documents => documents.map (Plan.documentWrite (.ofText (r.directory settings))) ++
          furtherWrites r settings now (Schema.ofDump sql)

variable {r settings now sql}

lemma written_wordPlan {s : Schema} (h : s.WellFormed) (file : String) :
    (wordPlan file s now).written = [(file, .word (Report.wordContent s now))] := by
  rw [wordPlan, Report.wordDocument_eq_ok h]
  rfl

lemma written_drawingPlan (himage : r.renderImage = false) (directory name : String) (s : Schema) :
    (drawingPlan r directory name s).written =
      [(drawingPath r directory name, .ofText (Dot.source name (Dot.graph s)))] := by
  rw [drawingPlan, himage]
  rfl

lemma exists_say_of_mem_indexNotice {documents : List Report.Document} {step : Step}
    (h : step ∈ indexNotice documents) : ∃ line, step = .say line := by
  rw [indexNotice] at h
  split at h
  · split at h
    · exact absurd h List.not_mem_nil
    · exact ⟨_, List.mem_singleton.mp h⟩
  · exact absurd h List.not_mem_nil

lemma written_indexNotice (documents : List Report.Document) : (indexNotice documents).written = [] := by
  apply List.filterMap_eq_nil_iff.mpr
  intro step hstep
  obtain ⟨line, rfl⟩ := exists_say_of_mem_indexNotice hstep
  rfl

lemma written_documentsPlan (himage : r.renderImage = false) {s : Schema} (h : s.WellFormed)
    {documents : List Report.Document}
    (hdocuments : Report.documents s (r.imprint now) settings.limits = .ok documents) :
    (documentsPlan r settings now s).written =
      documents.map (Plan.documentWrite (.ofText (r.directory settings))) ++ furtherWrites r settings now s := by
  have hrecords : Plan.written ((Report.records s (r.imprint now) settings.limits).map .record) = [] :=
    Plan.written_record id _
  rw [documentsPlan, hdocuments, furtherWrites]
  cases given r.word <;> cases given r.drawing <;>
    simp [Plan.written_append, hrecords, Plan.written_ofDocuments, written_indexNotice, written_wordPlan h,
      written_drawingPlan himage, Plan.written_cons, Plan.written_say, Step.written?]

lemma written_documentsPlan_error {s : Schema} {f : Fault}
    (hdocuments : Report.documents s (r.imprint now) settings.limits = .error f) :
    (documentsPlan r settings now s).written = [] := by
  rw [documentsPlan, hdocuments, Plan.written_append]
  exact congrArg (· ++ []) (Plan.written_record id _)

lemma written_notices (sql : List Char) :
    Plan.written ((Schema.notices {} (Dump.findings sql)).map fun n => .record n.record) = [] :=
  Plan.written_record _ _

theorem written_plan (himage : r.renderImage = false) :
    (plan r settings now sql).written = writes r settings now sql := by
  have hdocuments : (documentsPlan r settings now (Schema.ofDump sql)).written =
      match Report.documents (Schema.ofDump sql) (r.imprint now) settings.limits with
      | .error _ => []
      | .ok documents => documents.map (Plan.documentWrite (.ofText (r.directory settings))) ++
          furtherWrites r settings now (Schema.ofDump sql) := by
    split
    · next h => exact written_documentsPlan_error h
    · next h =>
      exact written_documentsPlan himage (Schema.wellFormed_ofDeclarations (Dump.sound_declarations sql)) h
  rw [plan, writes, extractWrites, ← hdocuments]
  by_cases htables : (Schema.ofDump sql).tables = [] <;> cases given r.extract <;>
    simp [htables, Plan.written_append, Plan.written_cons, written_notices, extractionPlan, Plan.ofText,
      Step.written?]

section Members

variable {step : Step}

lemma mem_documentsPlan {s : Schema} (h : step ∈ documentsPlan r settings now s) :
    (∃ line, step = .say line) ∨ (∃ record, step = .record record) ∨
      (∃ f, Report.documents s (r.imprint now) settings.limits = .error f ∧ step = .fail f) ∨
      (∃ documents, step ∈ Plan.ofDocuments (.ofText (r.directory settings)) documents) ∨
      (∃ file, step ∈ wordPlan file s now) ∨ ∃ name, step ∈ drawingPlan r (r.directory settings) name s := by
  rw [documentsPlan] at h
  obtain h | h := List.mem_append.mp h
  · obtain ⟨record, -, rfl⟩ := List.mem_map.mp h
    exact .inr (.inl ⟨record, rfl⟩)
  · split at h
    · next f hdocuments => exact .inr (.inr (.inl ⟨f, hdocuments, List.mem_singleton.mp h⟩))
    · next documents hdocuments =>
      simp only [List.mem_append, List.mem_cons, List.mem_map] at h
      obtain (((h | h) | h) | h) | rfl | ⟨p, -, rfl⟩ := h
      · exact .inr (.inr (.inr (.inl ⟨documents, h⟩)))
      · exact .inl (exists_say_of_mem_indexNotice h)
      · split at h
        · next file _ => exact .inr (.inr (.inr (.inr (.inl ⟨file, h⟩))))
        · exact absurd h List.not_mem_nil
      · split at h
        · next name _ => exact .inr (.inr (.inr (.inr (.inr ⟨name, h⟩))))
        · exact absurd h List.not_mem_nil
      · exact .inl ⟨_, rfl⟩
      · exact .inl ⟨_, rfl⟩

lemma mem_plan (h : step ∈ plan r settings now sql) :
    (∃ line, step = .say line) ∨ (∃ record, step = .record record) ∨ (∃ file, step ∈ extractionPlan file sql) ∨
      (Schema.ofDump sql).tables ≠ [] ∧ step ∈ documentsPlan r settings now (Schema.ofDump sql) := by
  simp only [plan, List.mem_append, List.mem_cons, List.mem_map] at h
  obtain (h | rfl | ⟨notice, -, rfl⟩) | h := h
  · split at h
    · next file _ => exact .inr (.inr (.inl ⟨file, h⟩))
    · exact absurd h List.not_mem_nil
  · exact .inl ⟨_, rfl⟩
  · exact .inr (.inl ⟨_, rfl⟩)
  · split at h
    · exact .inl ⟨_, List.mem_singleton.mp h⟩
    · next htables =>
      simp only [List.mem_cons] at h
      obtain rfl | rfl | h := h
      · exact .inl ⟨_, rfl⟩
      · exact .inl ⟨_, rfl⟩
      · exact .inr (.inr (.inr ⟨by simpa using htables, h⟩))

end Members

lemma fail_notMem_extractionPlan (file : String) (f : Fault) : Step.fail f ∉ extractionPlan file sql := by
  simp [extractionPlan, Plan.ofText]

lemma documents_of_fail_mem (himage : r.renderImage = false) {s : Schema} (h : s.WellFormed) {f : Fault}
    (hf : Step.fail f ∈ documentsPlan r settings now s) :
    Report.documents s (r.imprint now) settings.limits = .error f := by
  obtain ⟨_, ⟨⟩⟩ | ⟨_, ⟨⟩⟩ | ⟨g, hdocuments, hfault⟩ | ⟨documents, hmem⟩ | ⟨file, hmem⟩ | ⟨name, hmem⟩ :=
    mem_documentsPlan hf
  · rw [hdocuments, Step.fail.inj hfault]
  · simp [Plan.ofDocuments, Plan.ofText] at hmem
  · simp [wordPlan, Report.wordDocument_eq_ok h] at hmem
  · simp [drawingPlan, himage] at hmem

lemma not_fail_mem_plan (htables : (Schema.ofDump sql).tables = []) (f : Fault) :
    Step.fail f ∉ plan r settings now sql := by
  intro hf
  obtain ⟨_, ⟨⟩⟩ | ⟨_, ⟨⟩⟩ | ⟨file, hf⟩ | ⟨hne, -⟩ := mem_plan hf
  · exact fail_notMem_extractionPlan file f hf
  · exact hne htables

theorem eq_zeroPartitionSize_of_fail_mem (himage : r.renderImage = false) {f : Fault}
    (hf : Step.fail f ∈ plan r settings now sql) : f = .zeroPartitionSize := by
  obtain ⟨_, ⟨⟩⟩ | ⟨_, ⟨⟩⟩ | ⟨file, hf⟩ | ⟨-, hf⟩ := mem_plan hf
  · exact absurd hf (fail_notMem_extractionPlan file f)
  · have hsound : (Schema.ofDump sql).WellFormed := Schema.wellFormed_ofDeclarations (Dump.sound_declarations sql)
    have herror := documents_of_fail_mem himage hsound hf
    rw [Report.documents] at herror
    split at herror
    · cases herror
    · split at herror
      · exact (Except.error.inj herror).symm
      · cases herror

lemma proper_documentPath (directory : String) (d : Report.Document) :
    (Plan.documentPath (.ofText directory) d).Proper :=
  (Path.proper_ofText directory).within (Path.proper_ofText d.filename)

section Proper

variable {path : Path} {text : String}

lemma proper_of_mem_extractionPlan {file : String} (h : Step.writeText path text ∈ extractionPlan file sql) :
    path.Proper := by
  obtain ⟨rfl, -⟩ : path = .ofText file ∧ text = Extract.text (Extract.sections sql) := by
    simpa [extractionPlan, Plan.ofText] using h
  exact Path.proper_ofText file

lemma proper_of_mem_ofDocuments {directory : String} {documents : List Report.Document}
    (h : Step.writeText path text ∈ Plan.ofDocuments (.ofText directory) documents) : path.Proper := by
  obtain ⟨d, -, rfl, -⟩ : ∃ d ∈ documents, path = Plan.documentPath (.ofText directory) d ∧ text = d.content := by
    simpa [Plan.ofDocuments, Plan.ofText] using h
  exact proper_documentPath directory d

lemma proper_of_mem_documentsPlan {s : Schema} (h : Step.writeText path text ∈ documentsPlan r settings now s) :
    path.Proper := by
  obtain ⟨_, ⟨⟩⟩ | ⟨_, ⟨⟩⟩ | ⟨f, -, ⟨⟩⟩ | ⟨documents, hmem⟩ | ⟨file, hmem⟩ | ⟨name, hmem⟩ := mem_documentsPlan h
  · exact proper_of_mem_ofDocuments hmem
  · rw [wordPlan] at hmem
    split at hmem <;> simp at hmem
  · rw [drawingPlan] at hmem
    split at hmem <;> simp at hmem

lemma proper_of_mem_plan (h : Step.writeText path text ∈ plan r settings now sql) : path.Proper := by
  obtain ⟨_, ⟨⟩⟩ | ⟨_, ⟨⟩⟩ | ⟨file, h⟩ | ⟨-, h⟩ := mem_plan h
  · exact proper_of_mem_extractionPlan h
  · exact proper_of_mem_documentsPlan h

end Proper

lemma paths_plan (himage : r.renderImage = false) :
    (plan r settings now sql).paths = (writes r settings now sql).map fun write => .ofText write.1 := by
  rw [Plan.paths_eq_map_written fun _ _ => proper_of_mem_plan, written_plan himage]

lemma writtenPaths_eq (htables : (Schema.ofDump sql).tables ≠ []) {documents : List Report.Document}
    (hdocuments : Report.documents (Schema.ofDump sql) (r.imprint now) settings.limits = .ok documents) :
    writtenPaths r (r.directory settings) documents =
      (writes r settings now sql).map fun write => .ofText write.1 := by
  have hpaths : documents.map (Plan.documentPath (.ofText (r.directory settings))) =
      (documents.map (Plan.documentWrite (.ofText (r.directory settings)))).map fun write => .ofText write.1 := by
    rw [List.map_map]
    exact List.map_congr_left fun d _ => (Path.ofText_text (proper_documentPath _ d)).symm
  rw [writes, if_neg htables, hdocuments, writtenPaths, extractWrites, furtherWrites]
  cases given r.extract <;> cases given r.word <;> cases given r.drawing <;>
    simp [hpaths, Path.ofText_text (Path.proper_ofText _)]

lemma paths_suffix_lines_plan (htables : (Schema.ofDump sql).tables ≠ []) {documents : List Report.Document}
    (hdocuments : Report.documents (Schema.ofDump sql) (r.imprint now) settings.limits = .ok documents) :
    (writtenPaths r (r.directory settings) documents).map (fun p => s!"   - {p.text}") <:+
      (plan r settings now sql).lines := by
  have hplan (p q : Plan) : p.lines <:+ Plan.lines (q ++ p) := by
    rw [Plan.lines_append]
    exact List.suffix_append _ _
  have hcons (step : Step) (p : Plan) : p.lines <:+ Plan.lines (step :: p) := hplan p [step]
  rw [← Plan.lines_say, plan, if_neg (by simpa using htables), documentsPlan, hdocuments]
  refine List.IsSuffix.trans ?_ (hplan _ _)
  refine List.IsSuffix.trans ?_ ((hcons _ _).trans (hcons _ _))
  exact ((hcons _ _).trans (hplan _ _)).trans (hplan _ _)

section Conclude

variable {threshold : Log.Threshold} {o : Outcome}

lemma tree_conclude : (conclude threshold o).tree = o.tree := by
  rw [conclude]
  split <;> rfl

lemma conclusion_of_none (h : o.fault? = none) : (conclude threshold o).conclusion = .exit 0 := by
  simp only [conclude, h]

lemma conclusion_of_file {problem : Problem} {path : String} (h : o.fault? = some (.file problem path)) :
    (conclude threshold o).conclusion = .exit 1 := by
  simp only [conclude, h]

end Conclude

lemma run_eq_conclude {arguments : List String} {standardInput : List UInt8} {t : Tree}
    {threshold : Log.Threshold} {said : String} (hread : read arguments = .request r)
    (hthreshold : r.threshold settings = .ok threshold) (hfetch : fetch r.input standardInput t = .text said sql) :
    run arguments settings now standardInput t =
      conclude threshold (Plan.run (.say said :: plan r settings now sql) t) := by
  rw [run, hread]
  simp only [hthreshold, execute, hfetch]

lemma exists_plan_eq (htables : (Schema.ofDump sql).tables = []) : ∃ rest : Plan, rest.written = [] ∧
    plan r settings now sql = ((given r.extract).toList.map fun file =>
      Step.writeText (.ofText file) (Extract.text (Extract.sections sql))) ++ rest := by
  rw [plan, htables]
  cases given r.extract with
  | none => exact ⟨_, by simp [Plan.written_append, Plan.written_cons, written_notices, Step.written?], rfl⟩
  | some file => exact ⟨_, by simp [Plan.written_append, Plan.written_cons, written_notices, Step.written?], rfl⟩

lemma extract_fault_of_no_tables (htables : (Schema.ofDump sql).tables = []) {t : Tree} {f : Fault}
    (h : ((plan r settings now sql).run t).fault? = some f) : ∃ file, given r.extract = some file ∧
      (t.writeText (.ofText file) (Extract.text (Extract.sections sql))).fault? = some f := by
  cases Plan.ends_run (plan r settings now sql) t with
  | complete hnone => rw [hnone] at h; cases h
  | @failed before after step g hsplit hbefore hg hfail hend _ =>
    obtain rfl : g = f := Option.some.inj (hend.symm.trans h)
    have hwritten : step.written? ≠ none := by
      intro hnone
      apply not_fail_mem_plan htables g
      rw [hsplit, hfail hnone]
      simp
    obtain ⟨rest, hrest, hplan⟩ : ∃ rest : Plan, rest.written = [] ∧ plan r settings now sql =
        ((given r.extract).toList.map fun file =>
          Step.writeText (.ofText file) (Extract.text (Extract.sections sql))) ++ rest := exists_plan_eq htables
    rw [hsplit] at hplan
    have hnot (xs ys : Plan) : xs ++ step :: ys ≠ rest := by
      rintro rfl
      exact hwritten (List.filterMap_eq_nil_iff.mp hrest step (by simp))
    cases hextract : given r.extract with
    | none =>
      rw [hextract] at hplan
      exact absurd hplan (hnot before after)
    | some file =>
      rw [hextract] at hplan
      refine ⟨file, rfl, ?_⟩
      cases before with
      | nil =>
        obtain ⟨rfl, -⟩ := List.cons.inj hplan
        exact hg
      | cons s before =>
        obtain ⟨-, hplan⟩ := List.cons.inj hplan
        exact absurd hplan (hnot before after)

/-- The plan for a dump is carried out up to its end or to a step that fails. Its writes are the given ones,
and a failure that is no problem with a file stands only for tables that cannot be spread. At its end the
paths of all writes are given back in order, and listed if there are tables. -/
structure CarriedOut (r : Request) (settings : Settings) (now : Timestamp) (sql : List Char)
    (t : Tree) : Prop where
  ends : Plan.Ends (plan r settings now sql) t ((plan r settings now sql).run t)
  written : (plan r settings now sql).written = writes r settings now sql
  unspread : ∀ f, Step.fail f ∈ plan r settings now sql → f = .zeroPartitionSize
  returned : ((plan r settings now sql).run t).fault? = none →
    ((plan r settings now sql).run t).paths = (writes r settings now sql).map fun write => .ofText write.1
  listed : (Schema.ofDump sql).tables ≠ [] → ((plan r settings now sql).run t).fault? = none →
    (((plan r settings now sql).run t).paths.map fun p => s!"   - {p.text}") <:+
      ((plan r settings now sql).run t).said

/-- The command leaves the tree that its plan leads to. It exits with 0 where the plan comes to its end, and
with 1 where there is a problem with a file. Without tables it writes the extracted statements alone, and
exits with 0 unless this fails. -/
structure Exits (r : Request) (settings : Settings) (now : Timestamp) (sql : List Char) (t : Tree)
    (result : Result) : Prop where
  tree : result.tree = ((plan r settings now sql).run t).tree
  complete : ((plan r settings now sql).run t).fault? = none → result.conclusion = .exit 0
  failed : ∀ problem path, ((plan r settings now sql).run t).fault? = some (.file problem path) →
    result.conclusion = .exit 1
  no_tables : (Schema.ofDump sql).tables = [] → writes r settings now sql = extractWrites r sql ∧
    (result.conclusion = .exit 0 ∨ ∃ file f, given r.extract = some file ∧
      (t.writeText (.ofText file) (Extract.text (Extract.sections sql))).fault? = some f)

lemma paths_run_plan (himage : r.renderImage = false) {t : Tree}
    (h : ((plan r settings now sql).run t).fault? = none) :
    ((plan r settings now sql).run t).paths = (writes r settings now sql).map fun write => .ofText write.1 := by
  rw [Plan.paths_run_of_none h, paths_plan himage]

lemma exists_documents_of_none (htables : (Schema.ofDump sql).tables ≠ []) {t : Tree}
    (h : ((plan r settings now sql).run t).fault? = none) :
    ∃ documents, Report.documents (Schema.ofDump sql) (r.imprint now) settings.limits = .ok documents := by
  cases hdocuments : Report.documents (Schema.ofDump sql) (r.imprint now) settings.limits with
  | ok documents => exact ⟨documents, rfl⟩
  | error f =>
    have hmem : Step.fail f ∈ plan r settings now sql := by simp [plan, htables, documentsPlan, hdocuments]
    exact absurd hmem (Plan.fail_notMem_of_none h f)

lemma carriedOut (himage : r.renderImage = false) (t : Tree) : CarriedOut r settings now sql t where
  ends := Plan.ends_run _ t
  written := written_plan himage
  unspread _ hf := eq_zeroPartitionSize_of_fail_mem himage hf
  returned h := paths_run_plan himage h
  listed htables h := by
    obtain ⟨documents, hdocuments⟩ := exists_documents_of_none htables h
    rw [paths_run_plan himage h, Plan.said_run_of_none h, ← writtenPaths_eq htables hdocuments]
    exact paths_suffix_lines_plan htables hdocuments

lemma exits_conclude (threshold : Log.Threshold) (said : String) (t : Tree) :
    Exits r settings now sql t (conclude threshold (Plan.run (.say said :: plan r settings now sql) t)) := by
  have hfault : (Plan.run (.say said :: plan r settings now sql) t).fault? =
      ((plan r settings now sql).run t).fault? := by
    rw [Plan.run_cons_of_none rfl]
    rfl
  have htree : (Plan.run (.say said :: plan r settings now sql) t).tree =
      ((plan r settings now sql).run t).tree := by
    rw [Plan.run_cons_of_none rfl]
    rfl
  refine ⟨tree_conclude.trans htree, fun h => conclusion_of_none (hfault.trans h),
    fun problem path h => conclusion_of_file (hfault.trans h), fun htables => ⟨?_, ?_⟩⟩
  · rw [writes, if_pos htables, List.append_nil]
  · cases h : ((plan r settings now sql).run t).fault? with
    | none => exact .inl (conclusion_of_none (hfault.trans h))
    | some f =>
      obtain ⟨file, hfile, hf⟩ := extract_fault_of_no_tables htables h
      exact .inr ⟨file, f, hfile, hf⟩

/-- Everything is written up to the first failure, and nothing behind it. -/
theorem written_up_to_failure :
    (∀ directory documents t, Plan.DocumentsEnd directory documents t
      ((Plan.ofDocuments directory documents).run t)) ∧
    (∀ (r : Request) settings now sql t, r.renderImage = false → CarriedOut r settings now sql t) ∧
    (∀ arguments settings now standardInput t r threshold said sql, read arguments = .request r →
      r.threshold settings = .ok threshold → fetch r.input standardInput t = .text said sql →
        Exits r settings now sql t (run arguments settings now standardInput t)) := by
  refine ⟨fun directory documents t => Plan.documentsEnd_run directory documents t,
    fun _ _ _ _ t himage => carriedOut himage t, ?_⟩
  intro arguments settings now standardInput t r threshold said sql hread hthreshold hfetch
  rw [run_eq_conclude hread hthreshold hfetch]
  exact exits_conclude threshold said t

theorem written_up_to_failure_in_the_way :
    (Plan.DocumentsEnd {} [⟨"a.md", "x"⟩, ⟨"a.md/b.md", "y"⟩, ⟨"c.md", "z"⟩] {}
        ((Plan.ofDocuments {} [⟨"a.md", "x"⟩, ⟨"a.md/b.md", "y"⟩, ⟨"c.md", "z"⟩]).run {}) ∧
      ((Plan.ofDocuments {} [⟨"a.md", "x"⟩, ⟨"a.md/b.md", "y"⟩, ⟨"c.md", "z"⟩]).run {}).fault? =
        some (.file .alreadyExists "a.md")) ∧
    (CarriedOut { input := "-", word := some "w.docx" } ⟨.development, "", 0, ⟨100, 50⟩, ".", "INFO"⟩
        ⟨2024, 5, 6, 7, 8, 9⟩ "CREATE TABLE T (A DATE);".toList {} ∧
      ((plan { input := "-", word := some "w.docx" } ⟨.development, "", 0, ⟨100, 50⟩, ".", "INFO"⟩
        ⟨2024, 5, 6, 7, 8, 9⟩ "CREATE TABLE T (A DATE);".toList).run {}).paths =
          [⟨.here, ["database_der.md"]⟩, ⟨.here, ["w.docx"]⟩]) ∧
    (run ["-", "--extract", "s"] ⟨.development, "", 0, ⟨100, 50⟩, ".", "INFO"⟩ ⟨2024, 5, 6, 7, 8, 9⟩ []
      ⟨[(⟨.above 0, ["s"]⟩, .directory)], none⟩).conclusion = .exit 1 := by
  have hcarried : CarriedOut { input := "-", word := some "w.docx" } ⟨.development, "", 0, ⟨100, 50⟩, ".", "INFO"⟩
      ⟨2024, 5, 6, 7, 8, 9⟩ "CREATE TABLE T (A DATE);".toList {} := written_up_to_failure.2.1 _ _ _ _ _ rfl
  refine ⟨⟨written_up_to_failure.1 _ _ _, by decide +kernel⟩, ⟨hcarried, ?_⟩, ?_⟩
  · rw [hcarried.returned (by decide +kernel)]
    decide +kernel
  · have h := written_up_to_failure.2.2 ["-", "--extract", "s"] ⟨.development, "", 0, ⟨100, 50⟩, ".", "INFO"⟩
      ⟨2024, 5, 6, 7, 8, 9⟩ [] ⟨[(⟨.above 0, ["s"]⟩, .directory)], none⟩
      { input := "-", extract := some "s" } 20 _ [] (by decide +kernel) (by decide +kernel) rfl
    exact h.failed .isDirectory "s" (by decide +kernel)

end SchemaAtlas.Command
