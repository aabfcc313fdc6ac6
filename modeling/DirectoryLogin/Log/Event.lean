/-!
# Log events

An event is a message with its level and the part of the program that it comes from.
-/

namespace DirectoryLogin.Log

/-- How much an event matters, the weightiest first. -/
inductive Level where
  | error
  | warn
  | info
  | debug
  | trace
  deriving DecidableEq, Repr

namespace Level

/-- The place in the order, from 1 for an error to 5 for a trace. -/
def rank : Level → Nat
  | error => 1
  | warn => 2
  | info => 3
  | debug => 4
  | trace => 5

/-- The level as it stands in a line of the log. -/
def name : Level → String
  | error => "ERROR"
  | warn => "WARN"
  | info => "INFO"
  | debug => "DEBUG"
  | trace => "TRACE"

def all : List Level := [error, warn, info, debug, trace]

end Level

structure Event where
  level : Level
  /-- The part of the program, its names joined by two colons each. -/
  source : String
  message : String
  deriving DecidableEq, Repr

end DirectoryLogin.Log
