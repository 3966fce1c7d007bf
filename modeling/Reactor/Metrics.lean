import Reactor.Number.Shortest
import Reactor.Thread.Watch

/-!
Metrics: who receives the hooks of a runtime, and the built-in counters. Every counter is a
64-bit word and wraps; the time that starting took is kept in nanoseconds and shown in
milliseconds as binary floating point.
-/

namespace Reactor

inductive MetricsSink where
  | counters
  -- Another one of that name; it may leave every hook at its default, which does nothing.
  | named (name : String) (listens : Bool)
deriving DecidableEq, Inhabited

def MetricsSink.name : MetricsSink → String
  | .counters => "counters"
  | .named name _ => name

inductive MetricsHook where
  | threadCreated (descriptor : Descriptor)
  | blockedThread (report : BlockedThread)
  | runtimeStarted (took : Span)
  | close
deriving DecidableEq

structure Counters where
  eventLoopThreads : UInt64
  workerThreads : UInt64
  blockedEventLoopReports : UInt64
  blockedWorkerReports : UInt64
  bootstrapNanos : UInt64
  started : Bool
  closed : Bool
deriving DecidableEq, Inhabited

namespace Counters

def zero : Counters := ⟨0, 0, 0, 0, 0, false, false⟩

def absorb (counters : Counters) : MetricsHook → Counters
  | .threadCreated descriptor =>
    match descriptor.role with
    | .eventLoop => { counters with eventLoopThreads := counters.eventLoopThreads + 1 }
    | .worker => { counters with workerThreads := counters.workerThreads + 1 }
  | .blockedThread report =>
    match report.role with
    | .eventLoop => { counters with blockedEventLoopReports := counters.blockedEventLoopReports + 1 }
    | .worker => { counters with blockedWorkerReports := counters.blockedWorkerReports + 1 }
  | .runtimeStarted took =>
    { counters with bootstrapNanos := UInt64.ofNat took.nanos, started := true }
  | .close => { counters with closed := true }

/-- The time that starting took, in milliseconds. -/
def bootstrapMillis (counters : Counters) : Binary64 :=
  let quotient := do
    let nanos ← Binary64.ofNat counters.bootstrapNanos.toNat
    nanos.div (← Binary64.ofNat 1000000)
  quotient.getD (.zero false)

end Counters

end Reactor
