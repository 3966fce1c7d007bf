import Reactor.Span
import Reactor.Text.Quoted

/-!
Runtime threads: their roles, budgets and descriptors, and the factories that make them. An
event-loop thread runs short handlers and always has a finite budget; a worker may block. A
factory may answer with another descriptor than the one asked for, and may run the task of a
thread in another way than on the thread itself.
-/

namespace Reactor

inductive Role where
  | eventLoop
  | worker
deriving DecidableEq, Inhabited

namespace Role

def text : Role → String
  | .eventLoop => "event-loop"
  | .worker => "worker"

def listing : Role → String
  | .eventLoop => "EventLoop"
  | .worker => "Worker"

end Role

abbrev Budget := Option Span

def Budget.listing : Budget → String
  | none => "Unbounded"
  | some limit => "Bounded(" ++ limit.text ++ ")"

structure Descriptor where
  name : String
  role : Role
  budget : Budget
deriving DecidableEq, Inhabited

namespace Descriptor

def suitsEventLoop (budget : Budget) : Bool :=
  match budget with
  | none => false
  | some limit => !limit.isZero

/-- The descriptor, unless an event-loop thread would lack a finite, non-zero budget. -/
def create? (name : String) (role : Role) (budget : Budget) : Option Descriptor :=
  if role = .eventLoop ∧ suitsEventLoop budget = false then none else some ⟨name, role, budget⟩

def eventLoop? (name : String) (limit : Span) : Option Descriptor :=
  create? name .eventLoop (some limit)

def worker (name : String) (budget : Budget) : Descriptor := ⟨name, .worker, budget⟩

def listing (descriptor : Descriptor) : String :=
  "ThreadDescriptor \x7b name: " ++ Text.quoted descriptor.name
    ++ ", role: " ++ descriptor.role.listing
    ++ ", budget: " ++ descriptor.budget.listing ++ " \x7d"

end Descriptor

inductive Conduct where
  | runs
  -- The task is dropped at once; the thread exits without running anything.
  | discards
  | panicsAtExit
  -- The task runs on a plain thread without a monitor, for which this thread waits.
  | relays
deriving DecidableEq, Inhabited

/-- A thread that was made; the key tells it from every other thread of its workshop. -/
structure RuntimeThread where
  key : Nat
  descriptor : Descriptor
  conduct : Conduct
deriving DecidableEq, Inhabited

namespace RuntimeThread

def listing (thread : RuntimeThread) : String :=
  "RuntimeThread \x7b descriptor: " ++ thread.descriptor.listing ++ " \x7d"

def panicReport (thread : RuntimeThread) : String :=
  "runtime thread '" ++ thread.descriptor.name ++ "' panicked"

/-- What waiting for the thread reports once its task is over; `taskPanicked` says how it ended. -/
def exitReport (thread : RuntimeThread) (taskPanicked : Bool) : Option String :=
  match thread.conduct with
  | .runs => if taskPanicked then some thread.panicReport else none
  | .panicsAtExit => some thread.panicReport
  | .discards | .relays => none

/-- Whether anything ever runs the task. -/
def runsTask (thread : RuntimeThread) : Bool := thread.conduct != .discards

end RuntimeThread

/-- Makes threads. `answer` gets the number of earlier requests and the descriptor asked for. -/
structure ThreadFactory where
  name : Option String
  answer : Nat → Descriptor → Except String (Descriptor × Conduct)

def ThreadFactory.standard : ThreadFactory where
  name := none
  answer _ descriptor := .ok (descriptor, .runs)

structure Look where
  -- The name of the thread; a plain thread has none.
  thread : String
  role : Option Role
  executing : Bool
deriving DecidableEq, Inhabited

end Reactor
