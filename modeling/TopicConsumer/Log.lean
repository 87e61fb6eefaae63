/-!
# Log lines

What a part of the consumer reports while it works: a line of text with a level. Reporting changes
nothing.
-/

namespace TopicConsumer

/-- How much a log line matters. -/
inductive Level where
  | trace
  | debug
  | info
  | warn
  | error
  deriving DecidableEq

/-- The name of a level. -/
def Level.name : Level → String
  | .trace => "TRACE"
  | .debug => "DEBUG"
  | .info => "INFO"
  | .warn => "WARN"
  | .error => "ERROR"

/-- A line of the log. -/
structure LogLine where
  level : Level
  message : String
  deriving DecidableEq

namespace LogLine

def trace (message : String) : LogLine := ⟨.trace, message⟩
def debug (message : String) : LogLine := ⟨.debug, message⟩
def info (message : String) : LogLine := ⟨.info, message⟩
def warn (message : String) : LogLine := ⟨.warn, message⟩
def error (message : String) : LogLine := ⟨.error, message⟩

/-- The level, then the message. -/
def text (l : LogLine) : String := l.level.name ++ " " ++ l.message

end LogLine

end TopicConsumer
