/-
Log lines: a level and a text.
-/

namespace FlashGate

/-- How much a log line matters, the most urgent first. -/
inductive Level where
  | error
  | warn
  | info
  | debug
  | trace
  deriving DecidableEq, Repr

namespace Level

/-- The level's name in front of a line. -/
def name : Level → String
  | .error => "ERROR"
  | .warn => "WARN"
  | .info => "INFO"
  | .debug => "DEBUG"
  | .trace => "TRACE"

/-- Position from most to least urgent. -/
def rank : Level → Nat
  | .error => 0
  | .warn => 1
  | .info => 2
  | .debug => 3
  | .trace => 4

end Level

/-- A log line. -/
structure Line where
  level : Level
  text : String
  deriving DecidableEq, Repr

namespace Line

def error (text : String) : Line := ⟨.error, text⟩
def warn (text : String) : Line := ⟨.warn, text⟩
def info (text : String) : Line := ⟨.info, text⟩
def debug (text : String) : Line := ⟨.debug, text⟩
def trace (text : String) : Line := ⟨.trace, text⟩

/-- The line as it is written: level, colon, text. -/
def render (l : Line) : String := l.level.name ++ ": " ++ l.text

end Line

end FlashGate
