/-
What a library reports about its work while it runs.

Main definitions:
* `Level` — how much a report matters;
* `Event` — a report.
-/

namespace ProfiledSocket

/-- How much a report matters, least first. -/
inductive Level
  | trace
  | debug
  | info
  | warn
deriving DecidableEq

/-- The word for a level. -/
def Level.name : Level → String
  | trace => "TRACE"
  | debug => "DEBUG"
  | info => "INFO"
  | warn => "WARN"

/-- A report. -/
structure Event where
  level : Level
  message : String
deriving DecidableEq

/-- The level and the message on one line. -/
def Event.line (e : Event) : String := e.level.name ++ " " ++ e.message

end ProfiledSocket
