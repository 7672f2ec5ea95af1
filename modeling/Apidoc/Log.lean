/-!
Log records: what is said about a run beside its result.
-/
namespace Apidoc.Log

/-- How much a record matters: the greater the number, the more. Five numbers have names, and any
other may be given as well. -/
structure Level where
  number : Int
  deriving DecidableEq, Repr

namespace Level

def debug : Level := ⟨10⟩
def info : Level := ⟨20⟩
def warning : Level := ⟨30⟩
def error : Level := ⟨40⟩
def critical : Level := ⟨50⟩

def names : List (Int × String) :=
  [(0, "NOTSET"), (10, "DEBUG"), (20, "INFO"), (30, "WARNING"), (40, "ERROR"), (50, "CRITICAL")]

def label (level : Level) : String :=
  (names.lookup level.number).getD s!"Level {level.number}"

end Level

structure Record where
  level : Level
  logger : String
  message : String
  deriving DecidableEq, Repr

def rootLogger : String := "docweave"

def passing (threshold : Level) (records : List Record) : List Record :=
  records.filter fun r => threshold.number ≤ r.level.number

end Apidoc.Log
