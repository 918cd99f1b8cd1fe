/-!
# Log events

* `Level` — how grave an event is;
* `Event` — what is reported: a text and named fields;
* `Event.line` — the text of an event, with the field called `message` behind it.
-/

namespace DialogStub

/-- How grave an event is. -/
inductive Level where
  | debug
  | info
  | warn
  | error
  deriving DecidableEq, Repr

/-- The name of a level. -/
def Level.name : Level → String
  | .debug => "DEBUG"
  | .info => "INFO"
  | .warn => "WARN"
  | .error => "ERROR"

/-- Something reported to the log. -/
structure Event where
  level : Level
  text : String
  fields : List (String × String)
  deriving DecidableEq, Repr

/-- The text of an event, followed by the field called `message` if there is one. -/
def Event.line (e : Event) : String :=
  match e.fields.lookup "message" with
  | some message => e.text ++ " | " ++ message
  | none => e.text

/-- The fields of an event that do not belong to its line. -/
def Event.details (e : Event) : List (String × String) :=
  e.fields.filter (·.1 ≠ "message")

end DialogStub
