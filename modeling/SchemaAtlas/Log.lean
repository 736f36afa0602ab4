/-!
# Log records

What the parts of the program report about their work. A record is shown where its level reaches the
level in force.
-/

namespace SchemaAtlas.Log

inductive Level where
  | debug | info | warning | error | critical
deriving DecidableEq, Repr

def Level.weight : Level → Nat
  | debug => 10
  | info => 20
  | warning => 30
  | error => 40
  | critical => 50

def Level.name : Level → String
  | debug => "DEBUG"
  | info => "INFO"
  | warning => "WARNING"
  | error => "ERROR"
  | critical => "CRITICAL"

inductive Component where
  | reading | folding | reports | writing | graphs | service
deriving DecidableEq, Repr

structure Record where
  level : Level
  component : Component
  message : String
deriving DecidableEq, Repr

abbrev Threshold := Nat

def Threshold.ofName? : String → Option Threshold
  | "CRITICAL" | "FATAL" => some Level.critical.weight
  | "ERROR" => some Level.error.weight
  | "WARNING" | "WARN" => some Level.warning.weight
  | "INFO" => some Level.info.weight
  | "DEBUG" => some Level.debug.weight
  | "NOTSET" => some 0
  | _ => none

def Record.shownAt (threshold : Threshold) (r : Record) : Bool := threshold ≤ r.level.weight

end SchemaAtlas.Log
