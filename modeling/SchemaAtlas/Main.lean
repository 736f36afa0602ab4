import SchemaAtlas.Command.Run
import SchemaAtlas.Word.Package
import Std.Time

/-!
# The command

Carries out the plan of a command on the real file system. Lines go to the standard output, records to
the standard error.
-/

namespace SchemaAtlas.Main

open SchemaAtlas.Files

def settingNames : List String :=
  ["SECRET_KEY", "MAX_CONTENT_LENGTH", "DER_PARTITION_THRESHOLD", "DER_PARTITION_SIZE",
    "DER_OUTPUT_DIR", "LOG_LEVEL", "FLASK_ENV"]

def environment : IO Environment :=
  settingNames.filterMapM fun name => do return (← IO.getEnv name).map (name, ·)

def now : IO Timestamp := do
  let t ← Std.Time.PlainDateTime.now
  return {
    year := t.year.toInt.toNat
    month := t.month.val.toNat
    day := t.day.val.toNat
    hour := t.hour.val.toNat
    minute := t.minute.val.toNat
    second := t.second.val.toNat }

def contentBytes : Content → ByteArray
  | .bytes bytes => ⟨bytes.toArray⟩
  | .word document => ⟨document.bytes.toArray⟩

def usage : String :=
  "usage: [-h] [-o OUTPUT] [--output-dir OUTPUT_DIR] [--extract FILE] [--docx FILE] " ++
    "[--graphviz NAME] [--render-image] [-v] input"

def componentName : Log.Component → String
  | .reading => "reading"
  | .folding => "folding"
  | .reports => "reports"
  | .writing => "writing"
  | .graphs => "graphs"
  | .service => "service"

def showRecord (r : Log.Record) : IO Unit :=
  IO.eprintln s!"{r.level.name} {componentName r.component}: {r.message}"

def problem? : IO.Error → Option Problem
  | .noFileOrDirectory .. => some .missing
  | .alreadyExists .. => some .alreadyExists
  | .inappropriateType _ code _ => some (if code = 20 then .notDirectory else .isDirectory)
  | _ => none

def attempt (path : String) (action : IO Unit) : IO (Option String) := do
  try
    action
    return none
  catch e =>
    return some (match problem? e with
      | some problem => (Fault.file problem path).message
      | none => toString e)

def createDirectory (path : String) : IO Unit :=
  if path.isEmpty then return else IO.FS.createDirAll path

def writeBytes (path : String) (content : Content) : IO Unit :=
  IO.FS.writeBinFile path (contentBytes content)

def perform (threshold : Log.Threshold) : Step → IO (Option String)
  | .say line => do
    IO.println line
    return none
  | .record r => do
    if r.shownAt threshold then showRecord r
    return none
  | .writeText path text => do
    let failure ← attempt path.text do
      createDirectory path.parent.text
      writeBytes path.text (.ofText text)
    if let some message := failure then
      showRecord ⟨.error, .writing, s!"Failed to write {path.text}: {message}"⟩
    return failure
  | .saveWord path document => attempt path (writeBytes path (.word document))
  | .saveDrawing path source => attempt path do
    createDirectory (String.ofList (Tree.splitLast path.toList).1)
    writeBytes path (.ofText source)
  | .fail f => return some f.message

def performAll (threshold : Log.Threshold) : Plan → IO UInt32
  | [] => return 0
  | step :: steps => do
    match ← perform threshold step with
    | none => performAll threshold steps
    | some message =>
      IO.println ("\n❌ Error: " ++ message)
      return 1

def fetch (input : String) : IO (Option ByteArray) := do
  if input = "-" then
    IO.println "📝 Reading SQL from stdin (press Ctrl+D when done)..."
    return some (← (← IO.getStdin).readBinToEnd)
  else
    try
      let bytes ← IO.FS.readBinFile input
      IO.println s!"📝 Reading SQL from: {input}"
      return some bytes
    catch _ =>
      IO.println s!"❌ Error: File not found: {input}"
      return none

def execute (r : Command.Request) (settings : Settings) (threshold : Log.Threshold) : IO UInt32 := do
  match ← fetch r.input with
  | none => return 1
  | some bytes =>
    performAll threshold (Command.plan r settings (← now) (Command.dumpText bytes.toList))

def refuse (message : String) (code : UInt32) : IO UInt32 := do
  IO.eprintln message
  return code

end SchemaAtlas.Main

open SchemaAtlas in
def main (arguments : List String) : IO UInt32 := do
  match Settings.read (← Main.environment) with
  | .error f => Main.refuse f.message 1
  | .ok settings =>
    match Command.read arguments with
    | .help =>
      IO.println Main.usage
      return 0
    | .refused => Main.refuse Main.usage 2
    | .request r =>
      match r.threshold settings with
      | .error f => Main.refuse f.message 1
      | .ok threshold => Main.execute r settings threshold
