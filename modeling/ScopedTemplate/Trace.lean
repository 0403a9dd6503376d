/-!
# Trace

What a run reports beside its answer.
-/

namespace ScopedTemplate

/-- How important a record is. -/
inductive Level where
  | debug
  | info
  | warning
  | error
  | critical
  deriving DecidableEq, Repr

namespace Level

def all : List Level := [.debug, .info, .warning, .error, .critical]

def word : Level → String
  | .debug => "DEBUG"
  | .info => "INFO"
  | .warning => "WARNING"
  | .error => "ERROR"
  | .critical => "CRITICAL"

/-- The number of a level; more important levels have greater numbers. -/
def number : Level → Nat
  | .debug => 10
  | .info => 20
  | .warning => 30
  | .error => 40
  | .critical => 50

end Level

structure TraceRecord where
  level : Level
  message : String
  deriving DecidableEq, Repr

def TraceRecord.line (record : TraceRecord) : String := record.level.word ++ " " ++ record.message

end ScopedTemplate
