import Reactor.Text.Quoted

/-!
Log events: a severity, the part of the runtime that speaks, a message and named fields. One
line of text holds the message and then each field as `name=value`; text that was recorded as
text is quoted there, text that was recorded for display is not.
-/

namespace Reactor

inductive Level where
  | error
  | warn
  | info
  | debug
  | trace
deriving DecidableEq

namespace Level

def name : Level → String
  | .error => "ERROR"
  | .warn => "WARN"
  | .info => "INFO"
  | .debug => "DEBUG"
  | .trace => "TRACE"

def rank : Level → Nat
  | .error => 0
  | .warn => 1
  | .info => 2
  | .debug => 3
  | .trace => 4

def within (level limit : Level) : Bool := level.rank ≤ limit.rank

end Level

inductive Target where
  | program
  | transport
  | provider
  | bootstrap
  | runtime
  | thread
  | watchdog
  | executor
  | fileResolver
deriving DecidableEq

def Target.path : Target → String
  | .program => "strand"
  | .transport => "strand_core::transport"
  | .provider => "strand_core::provider"
  | .bootstrap => "strand_core::bootstrap"
  | .runtime => "strand_core::runtime"
  | .thread => "strand_core::thread"
  | .watchdog => "strand_core::thread::watchdog"
  | .executor => "strand_core::executor"
  | .fileResolver => "strand_core::file_resolver"

inductive LogValue where
  -- Text recorded as text.
  | text (value : String)
  -- Text recorded for display.
  | shown (value : String)
  | count (value : Nat)
  | flag (value : Bool)
deriving DecidableEq

structure LogEvent where
  level : Level
  target : Target
  message : String
  fields : List (String × LogValue)
deriving DecidableEq

namespace LogEvent

private def valueText : LogValue → String
  | .text value => Text.quoted value
  | .shown value => value
  | .count value => toString value
  | .flag value => if value then "true" else "false"

/-- The line without its time: level, target, message and fields. -/
def line (event : LogEvent) : String :=
  event.fields.foldl (fun line (name, value) => line ++ " " ++ name ++ "=" ++ valueText value)
    (event.level.name ++ " " ++ event.target.path ++ ": " ++ event.message)

end LogEvent

end Reactor
