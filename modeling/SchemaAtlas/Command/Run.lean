import SchemaAtlas.Command.Arguments
import SchemaAtlas.Ddl.Extract
import SchemaAtlas.Diagram.Dot
import SchemaAtlas.Files.Plan
import SchemaAtlas.Report.Partition
import SchemaAtlas.Report.WordDocument
import SchemaAtlas.Schema.Notice
import SchemaAtlas.Settings.Basic
import SchemaAtlas.Text.Utf8

/-!
# Running the command

What the command does with a dump is a plan, made from the arguments, the settings and the dump alone.
Around it stand the reading of the dump and the exit code.
-/

namespace SchemaAtlas.Command

open SchemaAtlas.Files SchemaAtlas.Text

def withoutEnding (name : String) : String :=
  let s := name.toList
  if ".md".toList.isSuffixOf s then String.ofList (s.take (s.length - 3)) else name

def Request.directory (r : Request) (settings : Settings) : String :=
  match r.outputDirectory with
  | some directory => directory
  | none =>
    let parent := (Path.ofText r.output).parent
    if parent = {} then settings.outputDirectory else parent.text

def Request.imprint (r : Request) (now : Timestamp) : Report.Imprint where
  baseName := withoutEnding (Path.ofText r.output).name
  sourceName := r.input
  generatedAt := now

def given : Option String → Option String
  | some "" => none
  | value => value

def countText (s : Extract.Section) : String := s!"{s.statements.length} {s.label}"

def extractionPlan (file : String) (sql : List Char) : Plan :=
  let sections := Extract.sections sql
  Plan.ofText (.ofText file) (Extract.text sections) ++
    [.say s!"📄 Extracted statements ({commas (sections.map countText)}) to: {file}"]

def wordPlan (file : String) (s : Schema) (now : Timestamp) : Plan :=
  match Report.wordDocument s now with
  | .ok document => [.saveWord file document]
  | .error f => [.fail f]

def behind (directory path : String) : String :=
  if path.toList.head? = some '/' then path
  else if directory = "" ∨ directory.toList.getLast? = some '/' then directory ++ path
  else directory ++ "/" ++ path

def drawingPath (r : Request) (directory name : String) : String :=
  behind directory (if r.renderImage then name else name ++ ".gv")

def drawingPlan (r : Request) (directory name : String) (s : Schema) : Plan :=
  let path := drawingPath r directory name
  .saveDrawing path (Dot.source name (Dot.graph s)) ::
    if r.renderImage then [.fail .noDrawingProgram]
    else [.record ⟨.info, .graphs, s!"Graphviz diagram written to {path}"⟩]

def writtenPaths (r : Request) (directory : String) (documents : List Report.Document) : List Path :=
  ((given r.extract).map Path.ofText).toList ++
    documents.map (Plan.documentPath (.ofText directory)) ++
    ((given r.word).map Path.ofText).toList ++
    ((given r.drawing).map fun name => Path.ofText (drawingPath r directory name)).toList

def indexNotice (documents : List Report.Document) : Plan :=
  match documents.getLast? with
  | some index =>
    if documents.length ≤ 1 then []
    else [.say s!"   - {documents.length - 1} partitions, index: {index.filename}"]
  | none => []

def documentsPlan (r : Request) (settings : Settings) (now : Timestamp) (s : Schema) : Plan :=
  let directory := r.directory settings
  let imprint := r.imprint now
  (Report.records s imprint settings.limits).map .record ++
  match Report.documents s imprint settings.limits with
  | .error f => [.fail f]
  | .ok documents =>
    Plan.ofDocuments (.ofText directory) documents ++
    indexNotice documents ++
    (match given r.word with
      | some file => wordPlan file s now
      | none => []) ++
    (match given r.drawing with
      | some name => drawingPlan r directory name s
      | none => []) ++
    .say "\n✅ Files written:" ::
    (writtenPaths r directory documents).map fun p => .say s!"   - {p.text}"

def plan (r : Request) (settings : Settings) (now : Timestamp) (sql : List Char) : Plan :=
  let findings := Dump.findings sql
  let s := Schema.ofDump sql
  (match given r.extract with
    | some file => extractionPlan file sql
    | none => []) ++
  .say "🔍 Parsing SQL statements..." ::
  (Schema.notices {} findings).map (fun n => .record n.record) ++
  if s.tables.isEmpty then [.say s!"ℹ️  {Schema.emptyMessage}"]
  else
    .say s!"✅ Found {s.tables.length} table(s) and {s.relationships.length} relationship(s)" ::
    .say "\n🎨 Rendering DER..." ::
    documentsPlan r settings now s

inductive Conclusion where
  | exit (code : Nat)
  | failure (f : Fault)
deriving DecidableEq, Repr

structure Result where
  conclusion : Conclusion
  said : List String := []
  log : List Log.Record := []
  tree : Tree
deriving DecidableEq

def conclude (threshold : Log.Threshold) (o : Outcome) : Result :=
  let log := o.log.filter (·.shownAt threshold)
  match o.fault? with
  | none => ⟨.exit 0, o.said, log, o.tree⟩
  | some (.file problem path) =>
    let message := (Fault.file problem path).message
    ⟨.exit 1, o.said ++ ["\n❌ Error: " ++ message], log, o.tree⟩
  | some f => ⟨.failure f, o.said, log, o.tree⟩

def dumpText (bytes : List UInt8) : List Char := unifyLineEnds (decodeLeniently bytes)

inductive Fetched where
  | text (said : String) (sql : List Char)
  -- there is no such dump
  | absent (said : String)
  | unreadable (said : List String) (fault : Fault)
deriving DecidableEq

def bytesOf : Content → List UInt8
  | .bytes bytes => bytes
  | .word _ => []

def isAbsence : Fault → Bool
  | .file .missing _ | .file .notDirectory _ | .zeroInPath => true
  | _ => false

def fetch (input : String) (standardInput : List UInt8) (t : Tree) : Fetched :=
  if input = "-" then
    .text "📝 Reading SQL from stdin (press Ctrl+D when done)..." (dumpText standardInput)
  else
    let path := (Path.ofText input).text
    let announcement := s!"📝 Reading SQL from: {input}"
    match t.look path with
    | .ok (.file content) => .text announcement (dumpText (bytesOf content))
    | .ok .directory => .unreadable [announcement] (.file .isDirectory path)
    | .error f =>
      if isAbsence f then .absent s!"❌ Error: File not found: {input}" else .unreadable [] f

def execute (r : Request) (settings : Settings) (now : Timestamp) (threshold : Log.Threshold)
    (standardInput : List UInt8) (t : Tree) : Result :=
  match fetch r.input standardInput t with
  | .text said sql => conclude threshold (Plan.run (.say said :: plan r settings now sql) t)
  | .absent said => ⟨.exit 1, [said], [], t⟩
  | .unreadable said f => ⟨.failure f, said, [], t⟩

def Request.threshold (r : Request) (settings : Settings) : Except Fault Log.Threshold := do
  let threshold ← if r.verbose then .ok Log.Level.debug.weight else settings.logThreshold
  settings.check
  return threshold

def run (arguments : List String) (settings : Settings) (now : Timestamp)
    (standardInput : List UInt8) (t : Tree) : Result :=
  match read arguments with
  | .help => ⟨.exit 0, [], [], t⟩
  | .refused => ⟨.exit 2, [], [], t⟩
  | .request r =>
    match r.threshold settings with
    | .ok threshold => execute r settings now threshold standardInput t
    | .error f => ⟨.failure f, [], [], t⟩

end SchemaAtlas.Command
