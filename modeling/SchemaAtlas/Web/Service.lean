import SchemaAtlas.Json.Display
import SchemaAtlas.Json.Schema
import SchemaAtlas.Report.Html
import SchemaAtlas.Report.Partition
import SchemaAtlas.Report.WordDocument
import SchemaAtlas.Schema.Fold
import SchemaAtlas.Web.Request

/-!
# The web service

The answer to a request: documents or statements of the dump that it brings, the reason why it is
refused, or the failure that stopped the work.
-/

namespace SchemaAtlas.Web

inductive Body where
  | nothing
  | json (value : Json.Value)
  | word (document : Word.Document)
deriving Repr

structure Response where
  status : Nat
  body : Body := .nothing
  log : List Log.Record := []
deriving Repr

inductive Refusal where
  | noSql | noTables | unknownFormat
deriving DecidableEq, Repr

def Refusal.text : Refusal → String
  | noSql => "Please provide the SQL to parse"
  | noTables =>
    "No valid CREATE TABLE statement found. Make sure the SQL contains table definitions."
  | unknownFormat => "Invalid format, use \"html\" or \"docx\""

def Refusal.json (r : Refusal) : Json.Value :=
  .ofMembers (("error", .text r.text) ::
    if r = noTables then [("details", .text Schema.emptyMessage)] else [])

def Response.ok (v : Json.Value) : Response := { status := 200, body := .json v }

def Response.refused (r : Refusal) : Response := { status := 400, body := .json r.json }

namespace Endpoint

def failureTitle : Endpoint → String
  | parse => "Parsing failed"
  | diagrams => "DER generation failed"
  | documentation => "Documentation generation failed"
  | extraction => "Extraction failed"

def failureNotice : Endpoint → String
  | parse => "Error while parsing SQL"
  | diagrams => "Error while generating DER"
  | documentation => "Error while generating documentation"
  | extraction => "Error while extracting statements"

def failure (e : Endpoint) (f : Fault) : Response where
  status := 500
  body := .json (.ofMembers [("error", .text (e.failureTitle ++ ": " ++ f.message))])
  log := [⟨.error, .service, e.failureNotice ++ ": " ++ f.message⟩]

end Endpoint

def textMember (v : Json.Value) (name default : String) : String :=
  match v.member? name with
  | some w => if w.isEmpty then default else String.ofList (Text.marked w.display)
  | none => default

def imprintOf (v : Json.Value) (now : Timestamp) : Report.Imprint where
  baseName := textMember v "name" "database_der"
  sourceName := textMember v "source" "web"
  generatedAt := now

def documentsResponse (documents : List Report.Document) : Response :=
  .ok (.ofMembers [("documents", .array (documents.map (·.json)))])

inductive Format where
  | page | word
deriving DecidableEq, Repr

def format? (v : Json.Value) : Option Format :=
  match v.member? "format" with
  | none => some .page
  | some (.string s) =>
    if s = Text.points "html" then some .page
    else if s = Text.points "docx" then some .word
    else none
  | some _ => none

def documentationResponse (v : Json.Value) (s : Schema) (now : Timestamp) : Except Fault Response :=
  match format? v with
  | some .page => .ok (.ok (.ofMembers [("html", .text (Report.Html.page s now))]))
  | some .word => (Report.wordDocument s now).map fun d => { status := 200, body := .word d }
  | none => .ok (.refused .unknownFormat)

def withSchema (sql : List Text.Point) (work : Schema → Except Fault Response) :
    Except Fault Response :=
  -- lone surrogates are in no name, and so they are read as gaps
  let s := Schema.ofDump (sql.map Text.Point.shown)
  if s.tables.isEmpty then .ok (.refused .noTables) else work s

def statementsResponse (sql : List Text.Point) : Response :=
  .ok (.ofMembers [("statements", Extract.json (Extract.sections (Text.marked sql)))])

def Endpoint.answer (e : Endpoint) (settings : Settings) (now : Timestamp) (v : Json.Value)
    (sql : List Text.Point) : Except Fault Response :=
  match e with
  | parse => withSchema sql fun s => .ok (.ok s.json)
  | diagrams => withSchema sql fun s =>
    (Report.documents s (imprintOf v now) settings.limits).map documentsResponse
  | documentation => withSchema sql fun s => documentationResponse v s now
  | extraction => .ok (statementsResponse sql)

def Endpoint.respond (e : Endpoint) (settings : Settings) (now : Timestamp) (r : Request) :
    Except Fault Response := do
  match ← r.value? settings.maxContentLength with
  | none => return .refused .noSql
  | some v =>
    match sql? v with
    | none => return .refused .noSql
    | some sql => e.answer settings now v sql

def Endpoint.handle (e : Endpoint) (settings : Settings) (now : Timestamp) (r : Request) : Response :=
  match e.respond settings now r with
  | .ok response => response
  | .error f => e.failure f

def handle (settings : Settings) (now : Timestamp) (r : Request) : Response :=
  match r.route with
  | .to resource =>
    if r.verb = "OPTIONS" then { status := 200 }
    else match resource with
      | .endpoint e => e.handle settings now r
      | .file => { status := 404 }
  | .detour => { status := 308 }
  | .refused => { status := 405 }
  | .nowhere => { status := 404 }

def answer (settings : Settings) (now : Timestamp) (r : Request) : Except Fault Response :=
  match r.fault? with
  | some f => .error f
  | none => .ok (handle settings now r)

end SchemaAtlas.Web
