import SchemaAtlas.Proofs.Report.Relationships
import SchemaAtlas.Proofs.Report.Word
import SchemaAtlas.Web.Service

/-! An endpoint refuses a request for one of three reasons and answers every other one. A failure is left
only for bodies that cannot be read. -/

namespace SchemaAtlas.Web

open SchemaAtlas.Text

def Request.json? (r : Request) : Option Json.Value :=
  if isJson (mediaType r.contentType) then (Json.ofBytes r.body).toOption else none

structure Request.Brings (r : Request) (v : Json.Value) (sql : List Point) : Prop where
  value : r.json? = some v
  dump : v.member? "sql" = some (.string sql)
  not_blank : ∃ p ∈ sql, ∀ c, p = .char c → isBlank c = false

def schemaOf (sql : List Point) : Schema := Schema.ofDump (sql.map Point.shown)

inductive Refused (e : Endpoint) (r : Request) : Refusal → Prop where
  | noSql (h : ∀ v sql, ¬ r.Brings v sql) : Refused e r .noSql
  | noTables {v : Json.Value} {sql : List Point} (h : r.Brings v sql) (he : e ≠ .extraction)
    (hempty : (schemaOf sql).tables = []) : Refused e r .noTables
  | unknownFormat {v f : Json.Value} {sql : List Point} (h : r.Brings v sql) (he : e = .documentation)
    (hformat : v.member? "format" = some f) (hpage : f ≠ .string (points "html"))
    (hword : f ≠ .string (points "docx")) : Refused e r .unknownFormat

variable {e : Endpoint} {settings : Settings} {now : Timestamp} {r : Request}

lemma all_blank_eq_false {sql : List Point} : (sql.all fun p => p.char?.any isBlank) = false ↔
    ∃ p ∈ sql, ∀ c, p = .char c → isBlank c = false := by
  rw [List.all_eq_false]
  refine exists_congr fun p => and_congr_right fun _ => ?_
  cases p with
  | char c => simp [Point.char?]
  | surrogate place => simp [Point.char?]

lemma sql?_eq_some {v : Json.Value} {sql : List Point} : sql? v = some sql ↔
    v.member? "sql" = some (.string sql) ∧ ∃ p ∈ sql, ∀ c, p = .char c → isBlank c = false := by
  rw [← all_blank_eq_false, sql?]
  split
  · next s hs =>
    rw [hs]
    cases hblank : s.all fun p => p.char?.any isBlank with
    | true =>
      rw [if_pos rfl]
      refine iff_of_false (by simp) ?_
      rintro ⟨heq, hall⟩
      cases heq
      exact absurd hblank (by simp [hall])
    | false =>
      rw [if_neg (by simp)]
      constructor
      · rintro h
        cases h
        exact ⟨rfl, hblank⟩
      · rintro ⟨heq, -⟩
        cases heq
        rfl
  · next hnone =>
    refine iff_of_false (by simp) ?_
    rintro ⟨hs, -⟩
    exact hnone sql hs

lemma Request.brings_iff {v : Json.Value} {sql : List Point} :
    r.Brings v sql ↔ r.json? = some v ∧ sql? v = some sql := by
  rw [sql?_eq_some]
  exact ⟨fun h => ⟨h.value, h.dump, h.not_blank⟩, fun ⟨hv, hd, hb⟩ => ⟨hv, hd, hb⟩⟩

lemma value?_eq_ok {maxContentLength : ℤ} (hlength : r.body.length ≤ maxContentLength)
    (hread : ∀ c, Json.ofBytes r.body ≠ .error (.tooDeep c)) : r.value? maxContentLength = .ok r.json? := by
  have hshort : ¬ (!r.body.isEmpty && decide (maxContentLength < r.body.length)) = true := by
    simp [Int.not_lt.mpr hlength]
  rw [Request.value?, Request.json?, if_neg hshort]
  cases hjson : isJson (mediaType r.contentType) with
  | false => rfl
  | true =>
    cases hbytes : Json.ofBytes r.body with
    | ok v => rfl
    | error f =>
      cases f with
      | malformed => rfl
      | tooDeep c => exact absurd hbytes (hread c)

lemma format?_eq_none {v : Json.Value} : format? v = none ↔
    ∃ f, v.member? "format" = some f ∧ f ≠ .string (points "html") ∧ f ≠ .string (points "docx") := by
  have hother : points "docx" ≠ points "html" := by decide
  rw [format?]
  split
  · next hnone => simp [hnone]
  · next s hs =>
    simp only [hs, Option.some.injEq, exists_eq_left', ne_eq, Json.Value.string.injEq]
    by_cases hpage : s = points "html"
    · simp [hpage]
    · by_cases hword : s = points "docx" <;> simp [hpage, hword, hother]
  · next f hne hf =>
    refine iff_of_true rfl ⟨f, hf, ?_, ?_⟩
    · rintro rfl
      exact hne _ rfl
    · rintro rfl
      exact hne _ rfl

lemma handle_endpoint (hroute : r.route = .to (.endpoint e)) (hverb : r.verb = "POST") :
    handle settings now r = e.handle settings now r := by
  have hother : r.verb ≠ "OPTIONS" := hverb ▸ by decide
  unfold handle
  rw [hroute]
  exact if_neg hother

lemma handle_of_respond {response : Response} (h : e.respond settings now r = .ok response) :
    e.handle settings now r = response := by
  rw [Endpoint.handle, h]

section Read

variable (hlength : r.body.length ≤ settings.maxContentLength)
  (hread : ∀ c, Json.ofBytes r.body ≠ .error (.tooDeep c))

include hlength hread

lemma respond_of_brings {v : Json.Value} {sql : List Point} (h : r.Brings v sql) :
    e.respond settings now r = e.answer settings now v sql := by
  obtain ⟨hv, hsql⟩ := Request.brings_iff.mp h
  rw [Endpoint.respond, value?_eq_ok hlength hread, hv]
  simp only [bind, Except.bind, hsql]

lemma respond_of_not_brings (h : ∀ v sql, ¬ r.Brings v sql) :
    e.respond settings now r = .ok (.refused .noSql) := by
  simp only [Request.brings_iff, not_and] at h
  rw [Endpoint.respond, value?_eq_ok hlength hread]
  cases hv : r.json? with
  | none => rfl
  | some v =>
    have hnone : sql? v = none := Option.eq_none_iff_forall_ne_some.mpr (h v · hv)
    simp only [bind, Except.bind, hnone]
    rfl

end Read

lemma Request.Brings.unique {v w : Json.Value} {sql sql' : List Point} (h : r.Brings v sql)
    (h' : r.Brings w sql') : v = w ∧ sql = sql' := by
  obtain rfl : v = w := Option.some.inj (h.value.symm.trans h'.value)
  have hdump := h.dump.symm.trans h'.dump
  cases hdump
  exact ⟨rfl, rfl⟩

section Brings

variable {v : Json.Value} {sql : List Point} (h : r.Brings v sql)

include h

lemma not_refused_noSql : ¬ Refused e r .noSql := by
  rintro ⟨hnone⟩
  exact hnone v sql h

lemma refused_noTables_iff : Refused e r .noTables ↔ e ≠ .extraction ∧ (schemaOf sql).tables = [] := by
  constructor
  · intro hrefused
    cases hrefused with
    | noTables h' he hempty =>
      obtain ⟨rfl, rfl⟩ := h.unique h'
      exact ⟨he, hempty⟩
  · rintro ⟨he, hempty⟩
    exact .noTables h he hempty

lemma refused_unknownFormat_iff : Refused e r .unknownFormat ↔ e = .documentation ∧ format? v = none := by
  rw [format?_eq_none]
  constructor
  · intro hrefused
    cases hrefused with
    | unknownFormat h' he hformat hpage hword =>
      obtain ⟨rfl, rfl⟩ := h.unique h'
      exact ⟨he, _, hformat, hpage, hword⟩
  · rintro ⟨he, f, hformat, hpage, hword⟩
    exact .unknownFormat h he hformat hpage hword

end Brings

lemma withSchema_of_empty {sql : List Point} {work : Schema → Except Fault Response}
    (hempty : (schemaOf sql).tables = []) : withSchema sql work = .ok (.refused .noTables) :=
  if_pos (List.isEmpty_iff.mpr hempty)

lemma withSchema_of_tables {sql : List Point} {work : Schema → Except Fault Response}
    (htables : (schemaOf sql).tables ≠ []) : withSchema sql work = work (schemaOf sql) :=
  if_neg (mt List.isEmpty_iff.mp htables)

lemma exists_withSchema {sql : List Point} {work : Schema → Except Fault Response} {status : ℕ}
    (hwork : ∃ response, work (schemaOf sql) = .ok response ∧ response.status = status) :
    ∃ response, withSchema sql work = .ok response ∧
      response.status = if (schemaOf sql).tables = [] then 400 else status := by
  by_cases hempty : (schemaOf sql).tables = []
  · exact ⟨.refused .noTables, withSchema_of_empty hempty, (if_pos hempty).symm⟩
  · obtain ⟨response, hresponse, hstatus⟩ := hwork
    exact ⟨response, (withSchema_of_tables hempty).trans hresponse, hstatus.trans (if_neg hempty).symm⟩

lemma exists_documentationResponse (v : Json.Value) (sql : List Char) (now : Timestamp) :
    ∃ response, documentationResponse v (Schema.ofDump sql) now = .ok response ∧
      response.status = if format? v = none then 400 else 200 := by
  -- names hold no character that Word documents refuse
  unfold documentationResponse
  cases hformat : format? v with
  | none => exact ⟨_, rfl, rfl⟩
  | some format =>
    cases format with
    | page => exact ⟨_, rfl, rfl⟩
    | word =>
      have hsound : (Schema.ofDump sql).WellFormed :=
        Schema.wellFormed_ofDeclarations (Dump.sound_declarations sql)
      rw [Report.wordDocument_eq_ok hsound]
      exact ⟨_, rfl, rfl⟩

lemma exists_answer (hsize : 1 ≤ settings.limits.size) (v : Json.Value) (sql : List Point) :
    ∃ response, e.answer settings now v sql = .ok response ∧
      response.status = if e ≠ .extraction ∧ (schemaOf sql).tables = [] ∨ e = .documentation ∧ format? v = none
        then 400 else 200 := by
  cases e with
  | extraction => exact ⟨statementsResponse sql, rfl, by simp [statementsResponse, Response.ok]⟩
  | parse =>
    simp only [ne_eq, reduceCtorEq, not_false_eq_true, true_and, false_and, or_false, Endpoint.answer]
    exact exists_withSchema ⟨_, rfl, rfl⟩
  | diagrams =>
    obtain ⟨ds, hds⟩ := Report.exists_documents (schemaOf sql) (imprintOf v now) hsize
    simp only [ne_eq, reduceCtorEq, not_false_eq_true, true_and, false_and, or_false, Endpoint.answer]
    exact exists_withSchema ⟨documentsResponse ds, congrArg (Except.map documentsResponse) hds, rfl⟩
  | documentation =>
    simp only [ne_eq, reduceCtorEq, not_false_eq_true, true_and, Endpoint.answer, ite_or]
    exact exists_withSchema (exists_documentationResponse v (sql.map Point.shown) now)

/-- An endpoint refuses a request for a reason, and answers it where there is none. It never fails. -/
theorem status_of_readable (hcheck : settings.check = .ok ()) (hroute : r.route = .to (.endpoint e))
    (hverb : r.verb = "POST") (hlength : r.body.length ≤ settings.maxContentLength)
    (hread : ∀ c, Json.ofBytes r.body ≠ .error (.tooDeep c)) :
    ((handle settings now r).status = 400 ↔ ∃ why, Refused e r why) ∧
      ((handle settings now r).status = 200 ↔ ∀ why, ¬ Refused e r why) ∧
      (handle settings now r).status ≠ 500 := by
  rw [handle_endpoint hroute hverb]
  by_cases hbrings : ∃ v sql, r.Brings v sql
  · obtain ⟨v, sql, h⟩ := hbrings
    obtain ⟨response, hanswer, hstatus⟩ : ∃ response, e.answer settings now v sql = .ok response ∧ _ :=
      exists_answer (Settings.one_le_size_of_check hcheck) v sql
    have hrefused : (∃ why, Refused e r why) ↔
        e ≠ .extraction ∧ (schemaOf sql).tables = [] ∨ e = .documentation ∧ format? v = none := by
      rw [← refused_noTables_iff h, ← refused_unknownFormat_iff h]
      constructor
      · rintro ⟨why, hwhy⟩
        cases why with
        | noSql => exact absurd hwhy (not_refused_noSql h)
        | noTables => exact .inl hwhy
        | unknownFormat => exact .inr hwhy
      · exact fun hwhy => hwhy.elim (⟨_, ·⟩) (⟨_, ·⟩)
    rw [handle_of_respond ((respond_of_brings hlength hread h).trans hanswer), hstatus, ← not_exists, hrefused]
    split <;> simp_all
  · have hnone : ∀ v sql, ¬ r.Brings v sql := fun v sql h => hbrings ⟨v, sql, h⟩
    have hrefused : ∃ why, Refused e r why := ⟨.noSql, .noSql hnone⟩
    rw [handle_of_respond (respond_of_not_brings hlength hread hnone), ← not_exists]
    simp [hrefused, Response.refused]

def lenient : Settings where
  secretKey := "key"
  maxContentLength := 1024
  limits := { threshold := 0, size := 1 }
  outputDirectory := "."
  logLevel := "INFO"

def formatless : Request where
  method := "post"
  target := "/api/generate_doc"
  contentType := "application/json"
  body := "\x7b\"sql\": \"CREATE TABLE A (X INT);\", \"format\": null\x7d".toUTF8.toList

theorem status_of_readable_formatless : lenient.check = .ok () ∧
    formatless.route = .to (.endpoint .documentation) ∧ formatless.verb = "POST" ∧
    formatless.body.length ≤ lenient.maxContentLength ∧
    (∀ c, Json.ofBytes formatless.body ≠ .error (.tooDeep c)) ∧
    ((handle lenient ⟨2024, 2, 29, 23, 59, 59⟩ formatless).status = 400 ↔
      ∃ why, Refused .documentation formatless why) ∧
    ((handle lenient ⟨2024, 2, 29, 23, 59, 59⟩ formatless).status = 200 ↔
      ∀ why, ¬ Refused .documentation formatless why) ∧
    (handle lenient ⟨2024, 2, 29, 23, 59, 59⟩ formatless).status ≠ 500 := by
  have hcheck : lenient.check = .ok () := rfl
  have hroute : formatless.route = .to (.endpoint .documentation) := by decide +kernel
  have hverb : formatless.verb = "POST" := by decide +kernel
  have hlength : (formatless.body.length : ℤ) ≤ lenient.maxContentLength := by decide +kernel
  have hsome : (Json.ofBytes formatless.body).toOption.isSome = true := by decide +kernel
  have hread : ∀ c, Json.ofBytes formatless.body ≠ .error (.tooDeep c) := by
    intro c h
    rw [h] at hsome
    cases hsome
  exact ⟨hcheck, hroute, hverb, hlength, hread, status_of_readable hcheck hroute hverb hlength hread⟩

end SchemaAtlas.Web
