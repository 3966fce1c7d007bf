import Reactor.Error
import Reactor.Journal

/-!
The workshop in which all threads of a runtime are made: it asks the bound factory, and puts
every thread it gets under watch and tells the metrics of it, as the factory described it.
-/

namespace Reactor

structure Workshop where
  factory : ThreadFactory
  -- The number of requests to the factory so far; it is the key of the next thread.
  calls : Nat
  watch : Watch
  metrics : Option MetricsSink

namespace Workshop

def create (factory : ThreadFactory) (metrics : Option MetricsSink) : Workshop :=
  ⟨factory, 0, .empty, metrics⟩

def tellMetrics (metrics : Option MetricsSink) (hook : MetricsHook) : Told Unit :=
  match metrics with
  | some sink => Told.call (.metrics sink hook)
  | none => pure ()

def newThread (workshop : Workshop) (descriptor : Descriptor) :
    Told (Except (Halt String) RuntimeThread × Workshop) := do
  Told.call (.newThread workshop.factory descriptor)
  let asked := { workshop with calls := workshop.calls + 1 }
  match workshop.factory.answer workshop.calls descriptor with
  | .error reason => return (.error (.failed reason), asked)
  | .ok (given, conduct) =>
    if given.name.toList.contains '\x00' then
      return (.error (.panicked (.nulInThreadName given.name)), asked)
    else
      let thread : RuntimeThread := ⟨workshop.calls, given, conduct⟩
      Told.log .caller .debug .thread "Runtime thread started"
        [("thread", .text given.name), ("role", .shown given.role.text)]
      tellMetrics workshop.metrics (.threadCreated given)
      let watch := (workshop.watch.adopt thread.key (.idle given)).register thread.key
      return (.ok thread, { asked with watch })

def join (workshop : Workshop) (thread : RuntimeThread) : Told Workshop := do
  Told.deed (.joined thread.key)
  return { workshop with watch := workshop.watch.forget thread.key }

def joinAll (workshop : Workshop) : List RuntimeThread → Told Workshop
  | [] => return workshop
  | thread :: threads => do (← workshop.join thread).joinAll threads

end Workshop

end Reactor
