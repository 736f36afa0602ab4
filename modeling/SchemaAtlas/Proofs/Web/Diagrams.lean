import SchemaAtlas.Proofs.Report.Drawings
import SchemaAtlas.Proofs.Web.Status

/-! The service works with the limits as they are set, and checks them nowhere. Its diagrams draw every table
exactly if these limits suit the dump. -/

namespace SchemaAtlas.Web

open SchemaAtlas.Report

variable {e : Endpoint} {settings : Settings} {now : Timestamp} {r : Request}

lemma json?_of_value? {maxContentLength : ℤ} {v : Json.Value} (h : r.value? maxContentLength = .ok (some v)) :
    r.json? = some v := by
  unfold Request.value? at h
  unfold Request.json?
  cases hjson : isJson (mediaType r.contentType) with
  | false => simp [hjson] at h
  | true =>
    rw [hjson] at h
    simp only [Bool.not_true, Bool.false_eq_true, if_false] at h
    split at h
    · cases h
    · split at h
      · next w hw =>
        cases h
        rw [if_pos rfl, hw]
        rfl
      · cases h
      · cases h

lemma respond_eq_ok {response : Response} (h : e.respond settings now r = .ok response) :
    response = .refused .noSql ∨ ∃ v sql, r.Brings v sql ∧ e.answer settings now v sql = .ok response := by
  unfold Endpoint.respond at h
  cases hvalue : r.value? settings.maxContentLength with
  | error f => simp [hvalue, bind, Except.bind] at h
  | ok value =>
    simp only [hvalue, bind, Except.bind] at h
    split at h
    · cases h
      exact .inl rfl
    · next v =>
      split at h
      · cases h
        exact .inl rfl
      · next sql hsql => exact .inr ⟨v, sql, Request.brings_iff.mpr ⟨json?_of_value? hvalue, hsql⟩, h⟩

lemma exists_documentsResponse (hroute : r.route = .to (.endpoint .diagrams)) (hverb : r.verb = "POST")
    (hok : (handle settings now r).status = 200) : ∃ v sql, r.Brings v sql ∧ (schemaOf sql).tables ≠ [] ∧
    handle settings now r =
      documentsResponse ((pages (schemaOf sql) (imprintOf v now) settings.limits).map Page.document) := by
  rw [handle_endpoint hroute hverb] at hok ⊢
  unfold Endpoint.handle at hok ⊢
  cases hrespond : Endpoint.diagrams.respond settings now r with
  | error f => simp [hrespond, Endpoint.failure] at hok
  | ok response =>
    rw [hrespond] at hok
    obtain rfl | ⟨v, sql, hbrings, hanswer⟩ := respond_eq_ok hrespond
    · simp [Response.refused] at hok
    · rw [Endpoint.answer] at hanswer
      by_cases hempty : (schemaOf sql).tables = []
      · rw [withSchema_of_empty hempty] at hanswer
        cases hanswer
        simp [Response.refused] at hok
      · rw [withSchema_of_tables hempty] at hanswer
        cases hds : documents (schemaOf sql) (imprintOf v now) settings.limits with
        | error f => simp [hds, Except.map] at hanswer
        | ok ds =>
          rw [hds] at hanswer
          cases hanswer
          exact ⟨v, sql, hbrings, hempty, congrArg documentsResponse (eq_pages_of_documents _ hds)⟩

/-- The tables of an answer are drawn once each exactly if the limits suit their number. -/
theorem tables_drawn_iff (hroute : r.route = .to (.endpoint .diagrams)) (hverb : r.verb = "POST")
    (hok : (handle settings now r).status = 200) : ∃ v sql, r.Brings v sql ∧ (schemaOf sql).tables ≠ [] ∧
    let answered := pages (schemaOf sql) (imprintOf v now) settings.limits
    handle settings now r = documentsResponse (answered.map Page.document) ∧
      ((∀ t ∈ (schemaOf sql).tables, answered.countP (fun p => (t.name, t.columns) ∈ p.drawn) = 1) ↔
        settings.limits.Suits (schemaOf sql).size) := by
  obtain ⟨v, sql, hbrings, hne, hhandle⟩ := exists_documentsResponse hroute hverb hok
  have hsound : (schemaOf sql).WellFormed := Schema.wellFormed_ofDeclarations (Dump.sound_declarations _)
  exact ⟨v, sql, hbrings, hne, hhandle, countP_drawn_iff _ hsound hne⟩

def twoTables : Request where
  method := "POST"
  target := "/api/generate_der?"
  contentType := "application/json; charset=utf-8"
  body := "\x7b\"sql\": \"CREATE TABLE A (X INT); CREATE TABLE B (Y INT);\"\x7d".toUTF8.toList

theorem tables_drawn_iff_twoTables : twoTables.route = .to (.endpoint .diagrams) ∧ twoTables.verb = "POST" ∧
    (handle lenient ⟨2024, 2, 29, 23, 59, 59⟩ twoTables).status = 200 ∧
    ∃ v sql, twoTables.Brings v sql ∧ (schemaOf sql).tables ≠ [] ∧
      let answered := pages (schemaOf sql) (imprintOf v ⟨2024, 2, 29, 23, 59, 59⟩) lenient.limits
      handle lenient ⟨2024, 2, 29, 23, 59, 59⟩ twoTables = documentsResponse (answered.map Page.document) ∧
        ((∀ t ∈ (schemaOf sql).tables, answered.countP (fun p => (t.name, t.columns) ∈ p.drawn) = 1) ↔
          lenient.limits.Suits (schemaOf sql).size) := by
  have hroute : twoTables.route = .to (.endpoint .diagrams) := by decide +kernel
  have hverb : twoTables.verb = "POST" := by decide +kernel
  have hok : (handle lenient ⟨2024, 2, 29, 23, 59, 59⟩ twoTables).status = 200 := by decide +kernel
  exact ⟨hroute, hverb, hok, tables_drawn_iff hroute hverb hok⟩

def backwards : Settings where
  secretKey := Settings.defaultSecretKey
  maxContentLength := Settings.defaultMaxContentLength
  limits := { threshold := 0, size := -1 }
  outputDirectory := "."
  logLevel := "INFO"

theorem tables_undrawn :
    Settings.read [("DER_PARTITION_THRESHOLD", "0"), ("DER_PARTITION_SIZE", "-1")] = .ok backwards ∧
    twoTables.route = .to (.endpoint .diagrams) ∧ twoTables.verb = "POST" ∧
    (handle backwards ⟨2024, 2, 29, 23, 59, 59⟩ twoTables).status = 200 ∧
    ∃ v sql, twoTables.Brings v sql ∧ (schemaOf sql).tables ≠ [] ∧
      let answered := pages (schemaOf sql) (imprintOf v ⟨2024, 2, 29, 23, 59, 59⟩) backwards.limits
      handle backwards ⟨2024, 2, 29, 23, 59, 59⟩ twoTables = documentsResponse (answered.map Page.document) ∧
        ∀ t ∈ (schemaOf sql).tables, answered.countP (fun p => (t.name, t.columns) ∈ p.drawn) = 0 := by
  have hread : Settings.read [("DER_PARTITION_THRESHOLD", "0"), ("DER_PARTITION_SIZE", "-1")] =
      .ok backwards := by decide +kernel
  have hroute : twoTables.route = .to (.endpoint .diagrams) := by decide +kernel
  have hverb : twoTables.verb = "POST" := by decide +kernel
  have hok : (handle backwards ⟨2024, 2, 29, 23, 59, 59⟩ twoTables).status = 200 := by decide +kernel
  obtain ⟨v, sql, hbrings, hne, hhandle⟩ := exists_documentsResponse hroute hverb hok
  have hpos : 0 < (schemaOf sql).size := List.length_pos_of_ne_nil hne
  have hunsuited : ¬ backwards.limits.Suits (schemaOf sql).size := by
    rintro (hfew | ⟨hsize, -⟩)
    · exact absurd hfew (not_le.mpr (Int.natCast_pos.mpr hpos))
    · exact absurd hsize (by decide)
  exact ⟨hread, hroute, hverb, hok, v, sql, hbrings, hne, hhandle, fun t _ => countP_drawn_eq_zero _ hunsuited t⟩

end SchemaAtlas.Web
