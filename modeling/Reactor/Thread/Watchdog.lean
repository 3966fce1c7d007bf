import Reactor.Workshop

/-!
The watchdog: at every pass it reports each thread that is over its budget, first to the log, then
to the metrics of a runtime and to a handler, which may close what reported to it or give up.
Blocked for longer than the warning time, a thread is an error in the log. Closing stops the
watchdog's own passes; a pass can still be asked for.
-/

namespace Reactor

inductive Reaction where
  | returns
  | closes
  | givesUp (text : String)
deriving DecidableEq, Inhabited

abbrev BlockedHandler := BlockedThread → Reaction

def BlockedThread.event (report : BlockedThread) (warningTime : Span) : LogEvent :=
  let fields :=
    [("thread", .shown report.name), ("role", .shown report.role.text),
      ("blocked_ms", .count report.blockedFor.millisWord.toNat),
      ("budget_ms", .count report.budget.millisWord.toNat)]
  if warningTime < report.blockedFor then
    ⟨.error, .watchdog, "Thread blocked far beyond its execution budget", fields⟩
  else
    ⟨.warn, .watchdog, "Thread blocked past its execution budget", fields⟩

structure Audience where
  warningTime : Span
  metrics : Option MetricsSink
  handler : Option BlockedHandler

namespace Audience

variable {σ : Type} (close : σ → Told σ)

/-- Logs a report, then hands it over; `close` is what a handler does that closes. -/
def hear (audience : Audience) (actor : Actor) (state : σ) (report : BlockedThread) :
    Told (Option Panic × σ) := do
  Told.tell (.log actor (report.event audience.warningTime))
  Workshop.tellMetrics audience.metrics (.blockedThread report)
  match audience.handler with
  | none => return (none, state)
  | some handler =>
    Told.call (.handleBlocked report)
    match handler report with
    | .returns => return (none, state)
    | .closes => return (none, ← close state)
    | .givesUp text => return (some (.handler text), state)

/-- Hands over reports in their order; one at which the handler gives up is the last. -/
def hearAll (audience : Audience) (actor : Actor) (state : σ) :
    List BlockedThread → Told (Option Panic × σ)
  | [] => return (none, state)
  | report :: reports => do
    match ← audience.hear close actor state report with
    | (none, state) => audience.hearAll actor state reports
    | (some panic, state) => return (some panic, state)

end Audience

structure Watchdog where
  interval : Span
  warningTime : Span
  handler : Option BlockedHandler
  watch : Watch
  closed : Bool
  crashed : Bool

namespace Watchdog

def threadName : String := "strand-blocked-thread-checker"

def tellStart (interval : Span) : Told Unit := do
  Told.deed .watchdogStarted
  Told.log .caller .debug .watchdog "Blocked thread checker started"
    [("interval_ms", .count interval.millisWord.toNat)]

def start (interval warningTime : Span) (handler : Option BlockedHandler) : Told Watchdog := do
  tellStart interval
  return ⟨interval, warningTime, handler, .empty, false, false⟩

/-- Closes the watchdog and waits for its thread, unless that has been done or it is that thread. -/
def close (watchdog : Watchdog) (actor : Actor) : Told Watchdog := do
  if !watchdog.closed then
    Told.deed .watchdogStopped
    if watchdog.crashed && actor != .watchdog then
      Told.log actor .warn .watchdog "Blocked thread checker panicked" []
  return { watchdog with closed := true }

def audience (watchdog : Watchdog) : Audience := ⟨watchdog.warningTime, none, watchdog.handler⟩

def pass (watchdog : Watchdog) (now : Nat) (actor : Actor) :
    Told (List BlockedThread × Option Panic × Watchdog) := do
  let watchdog := { watchdog with watch := watchdog.watch.prune }
  let reports := watchdog.watch.violations now
  return (reports, ← watchdog.audience.hearAll (·.close actor) actor watchdog reports)

def check (watchdog : Watchdog) (now : Nat) (actor : Actor) :
    Told (List BlockedThread × Except Panic Watchdog) := do
  let (reports, panic, watchdog) ← watchdog.pass now actor
  return (reports, panic.elim (.ok watchdog) .error)

@[simp] theorem reports_pass (watchdog : Watchdog) (now : Nat) (actor : Actor) :
    (watchdog.pass now actor).value.1 = watchdog.watch.violations now :=
  watchdog.watch.violations_prune now

@[simp] theorem reports_check (watchdog : Watchdog) (now : Nat) (actor : Actor) :
    (watchdog.check now actor).value.1 = watchdog.watch.violations now :=
  watchdog.reports_pass now actor

private def handedOver : Entry → Option BlockedThread
  | .call (.handleBlocked report) => some report
  | _ => none

/-- One pass of the watchdog's own, unless it has ended, and the reports that it hands over. A
handler that closes the watchdog still gets the other reports of the pass; one that gives up ends
the watchdog's thread. -/
def sample (watchdog : Watchdog) (now : Nat) : Told (List BlockedThread × Watchdog) := do
  if watchdog.closed || watchdog.crashed then
    return ([], watchdog)
  else
    let pass := watchdog.pass now .watchdog
    let reports := pass.entries.filterMap handedOver
    let (_, panic, watchdog) ← pass
    return (reports, { watchdog with crashed := panic.isSome })

end Watchdog

end Reactor
