import Reactor.Thread.Basic

/-!
Monitors of threads. A monitor marks when the current unit of work began; one mark serves all
units, so the end of any unit clears it. An activity is what a task does with its monitor: a
tree of units, some of which panic. `Activity.steps` lists what happens in order, and
`Monitor.apply` follows one step.
-/

namespace Reactor

/-- The monitor of a thread; the mark is the instant, in nanoseconds, at which a unit began. -/
structure Monitor where
  descriptor : Descriptor
  mark : Option Nat
deriving DecidableEq, Inhabited

namespace Monitor

def idle (descriptor : Descriptor) : Monitor := ⟨descriptor, none⟩

def begin (monitor : Monitor) (now : Nat) : Monitor := { monitor with mark := some now }

def finish (monitor : Monitor) : Monitor := { monitor with mark := none }

/-- How long the marked unit has been running; an instant before its start counts as none. -/
def executingFor (monitor : Monitor) (now : Nat) : Option Span :=
  monitor.mark.map fun started => ⟨now - started⟩

end Monitor

inductive Activity where
  | look
  | panic
  | unit (inner : List Activity)
  -- Runs the inner activities and goes on, even if one of them gives up.
  | attempt (inner : List Activity)
deriving Inhabited

inductive Step where
  | begin
  | finish
  | look
deriving DecidableEq

namespace Activity

mutual

/-- The steps of an activity in order, and whether it panicked. A unit ends also when it panics. -/
def steps : Activity → List Step × Bool
  | .look => ([.look], false)
  | .panic => ([], true)
  | .unit inner =>
    let (inside, panicked) := stepsOfAll inner
    (.begin :: inside ++ [.finish], panicked)
  | .attempt inner => ((stepsOfAll inner).1, false)

def stepsOfAll : List Activity → List Step × Bool
  | [] => ([], false)
  | activity :: rest =>
    let (first, panicked) := activity.steps
    if panicked then
      (first, true)
    else
      let (others, panicked) := stepsOfAll rest
      (first ++ others, panicked)

end

mutual

/-- What is left of an activity where no unit is monitored. -/
def unmonitored : Activity → List Activity
  | .unit _ => []
  | .attempt inner => [.attempt (unmonitoredAll inner)]
  | activity => [activity]

def unmonitoredAll : List Activity → List Activity
  | [] => []
  | activity :: rest => activity.unmonitored ++ unmonitoredAll rest

end

/-- A job as a thread runs it: one unit, out of which no panic comes. -/
def job (body : List Activity) : Activity := .unit [.attempt body]

end Activity

def jobSteps (jobs : List (List Activity)) : List Step :=
  (Activity.stepsOfAll (jobs.map Activity.job)).1

namespace Monitor

def apply (monitor : Monitor) (now : Nat) : Step → Monitor
  | .begin => monitor.begin now
  | .finish => monitor.finish
  | .look => monitor

def follow (monitor : Monitor) (steps : List (Nat × Step)) : Monitor :=
  steps.foldl (fun monitor (now, step) => monitor.apply now step) monitor

/-- For each look among steps at one instant, whether a unit was marked then. -/
def looks (monitor : Monitor) (now : Nat) : List Step → List Bool
  | [] => []
  | step :: rest =>
    let others := (monitor.apply now step).looks now rest
    if step = .look then monitor.mark.isSome :: others else others

end Monitor

def RuntimeThread.look (thread : RuntimeThread) (executing : Bool) : Look :=
  match thread.conduct with
  | .relays => ⟨"", none, false⟩
  | _ => ⟨thread.descriptor.name, some thread.descriptor.role, executing⟩

/-- What of `task` happens on a thread: one without a monitor leaves its units out. -/
def RuntimeThread.performed (thread : RuntimeThread) (task : List Activity) : List Activity :=
  match thread.conduct with
  | .runs | .panicsAtExit => task
  | .relays => Activity.unmonitoredAll task
  | .discards => []

def RuntimeThread.lastLook (thread : RuntimeThread) (now : Nat) (task : List Activity) :
    Option Look :=
  let steps := (Activity.stepsOfAll (thread.performed task)).1
  (((Monitor.idle thread.descriptor).looks now steps).getLast?).map thread.look

end Reactor
