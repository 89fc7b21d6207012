/-!
# Severities

The five levels at which an error is reported, from the least to the most severe. Unless said
otherwise an error is reported at the most severe one.
-/

namespace Fault

/-- How severe an error is. -/
inductive Severity where
  | trace
  | debug
  | info
  | warn
  | error
  deriving DecidableEq, Repr

namespace Severity

/-- The severity of errors that state none. -/
def standard : Severity :=
  .error

/-- All severities, the least severe first. -/
def all : List Severity :=
  [.trace, .debug, .info, .warn, .error]

/-- The word of a severity in data and output. -/
def word : Severity → String
  | .trace => "trace"
  | .debug => "debug"
  | .info => "info"
  | .warn => "warn"
  | .error => "error"

/-- The name of a severity in a dump. -/
def name : Severity → String
  | .trace => "Trace"
  | .debug => "Debug"
  | .info => "Info"
  | .warn => "Warn"
  | .error => "Error"

/-- The name of the log level that a severity stands for. -/
def levelName : Severity → String
  | .trace => "TRACE"
  | .debug => "DEBUG"
  | .info => "INFO"
  | .warn => "WARN"
  | .error => "ERROR"

/-- The place of a severity among all. -/
def rank : Severity → Nat
  | .trace => 0
  | .debug => 1
  | .info => 2
  | .warn => 3
  | .error => 4

/-- The severity of a word. -/
def ofWord? (word : String) : Option Severity :=
  all.find? fun severity => severity.word = word

end Severity

end Fault
