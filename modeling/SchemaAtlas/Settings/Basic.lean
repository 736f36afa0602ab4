import SchemaAtlas.Log
import SchemaAtlas.Report.Partition
import SchemaAtlas.Settings.Integer
import SchemaAtlas.Text.Uppercase

/-!
# Settings

What the environment decides: the limits of partitioned documents, the directory for documents, the
log level, and what the web service needs. Settings are read as they are; whether they are usable is
checked apart.
-/

namespace SchemaAtlas

abbrev Environment := List (String × String)

inductive Mode where
  | development | production | testing
deriving DecidableEq, Repr

structure Settings where
  mode : Mode := .development
  secretKey : String
  -- the length of the longest request body that is taken, in bytes
  maxContentLength : Int
  limits : Report.Limits
  outputDirectory : String
  logLevel : String
deriving DecidableEq, Repr

def Mode.ofName : Option String → Mode
  | some "production" => production
  | some "testing" => testing
  | _ => development

def Mode.debug : Mode → Bool
  | development | testing => true
  | production => false

namespace Settings

def defaultSecretKey : String := "dev-secret-key-change-in-production"

def defaultMaxContentLength : Int := 16777216

def integerOr (env : Environment) (name : String) (default : Int) : Except Fault Int :=
  match env.lookup name with
  | some text => readInteger text
  | none => .ok default

def textOr (env : Environment) (name default : String) : String := (env.lookup name).getD default

def read (env : Environment) : Except Fault Settings := do
  let maxContentLength ← integerOr env "MAX_CONTENT_LENGTH" defaultMaxContentLength
  let threshold ← integerOr env "DER_PARTITION_THRESHOLD" 100
  let size ← integerOr env "DER_PARTITION_SIZE" 50
  return {
    mode := Mode.ofName (env.lookup "FLASK_ENV")
    secretKey := textOr env "SECRET_KEY" defaultSecretKey
    maxContentLength
    limits := { threshold, size }
    outputDirectory := textOr env "DER_OUTPUT_DIR" "."
    logLevel := String.ofList (Text.upper (textOr env "LOG_LEVEL" "INFO").toList) }

def check (s : Settings) : Except Fault Unit :=
  if s.limits.size < 1 then .error (.partitionSizeTooSmall s.limits.size)
  else if s.limits.threshold < 0 then .error (.thresholdTooSmall s.limits.threshold)
  else if s.mode = .production ∧ (s.secretKey = "" ∨ s.secretKey = defaultSecretKey) then
    .error .secretMissing
  else .ok ()

theorem one_le_size_of_check {s : Settings} (h : s.check = .ok ()) : 1 ≤ s.limits.size := by
  unfold check at h
  split at h
  · simp at h
  · omega

def logThreshold (s : Settings) : Except Fault Log.Threshold :=
  match Log.Threshold.ofName? s.logLevel with
  | some threshold => .ok threshold
  | none => .error (.unknownLogLevel s.logLevel)

end Settings

end SchemaAtlas
