/-! Levels of log output. -/
namespace CallAudio

inductive LogLevel
  | off
  | error
  | warn
  | info
  | debug
  | trace
deriving DecidableEq, Repr

namespace LogLevel

def all : List LogLevel := [off, error, warn, info, debug, trace]

def name : LogLevel → String
  | off => "OFF"
  | error => "ERROR"
  | warn => "WARN"
  | info => "INFO"
  | debug => "DEBUG"
  | trace => "TRACE"

/-- A level is named in any mixture of upper and lower case. -/
def ofName? (text : String) : Option LogLevel :=
  all.find? fun level => level.name.toList = text.toList.map Char.toUpper

end LogLevel

/-- Where log output stands: the most verbose level let through. -/
structure LogGate where
  maximum : LogLevel := .off
deriving DecidableEq, Repr

/-- Setting up logging a second time only moves the maximum. -/
def LogGate.set (_ : LogGate) (level : LogLevel) : LogGate := ⟨level⟩

end CallAudio
