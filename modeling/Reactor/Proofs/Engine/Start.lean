import Reactor.Engine.Lifecycle
import Reactor.Proofs.Pool

/-!
The start of a runtime step by step: its event loops, its workers, and what is done once all
threads are there or one of them cannot be made.
-/

namespace Reactor

open Told

namespace Engine

def loopWanted (budget : Span) (index : Nat) : Descriptor := ⟨loopName index, .eventLoop, some budget⟩

def freshLoop (index : Nat) (thread : RuntimeThread) : EventLoop :=
  ⟨loopName index, .create [thread]⟩

theorem startLoops_asks {budget : Span} (finite : budget.isZero = false) :
    AsksInTurn (startLoops budget) (loopWanted budget) freshLoop
      (fun started workshop => (.ok (), started, workshop))
      (fun started index halt workshop =>
        (.error (halt.mapError (.threadSpawn (loopName index))), started, workshop)) where
  zero _ _ _ := rfl
  succ workshop started index remaining := by
    have bounded : Descriptor.suitsEventLoop (some budget) = true := by
      change (!budget.isZero) = true
      rw [finite]
      rfl
    have suits : Descriptor.eventLoop? (loopName index) budget
        = some (loopWanted budget index) := by
      unfold Descriptor.eventLoop? Descriptor.create?
      rw [bounded]
      rfl
    rw [startLoops]
    dsimp only
    split
    · rename_i missing
      rw [suits] at missing
      cases missing
    · rename_i descriptor found
      rw [suits] at found
      cases found
      rfl

theorem stop_fresh (name : String) (thread : RuntimeThread) (watch : Watch) :
    ∃ stopped, (EventLoop.stop ⟨name, .create [thread]⟩ watch .caller).Yields Entry.doing?
      ([], stopped, watch.forget thread.key) [.deed (.joined thread.key)] := by
  obtain ⟨key, descriptor, conduct⟩ := thread
  cases conduct with
  | runs | discards | panicsAtExit | relays => exact ⟨_, rfl, rfl⟩

theorem stopLoops_fresh (watch : Watch) (index : Nat) (threads : List RuntimeThread) :
    ∃ stopped, (stopLoops watch .caller (itemsFrom freshLoop index threads)).Yields Entry.doing?
      ([], stopped, watch.forgetAll threads) (farewells threads) := by
  induction threads generalizing watch index with
  | nil => exact ⟨[], yields_pure _⟩
  | cons thread rest ih =>
      obtain ⟨first, stops⟩ := stop_fresh (loopName index) thread watch
      obtain ⟨others, follows⟩ := ih (watch.forget thread.key) (index + 1)
      exact ⟨first :: others, stops.bind (follows.andLast (yields_pure _))⟩

theorem tearDown_fresh (workshop : Workshop) (threads : List RuntimeThread) :
    (tearDown (itemsFrom freshLoop 0 threads) workshop).Yields Entry.doing? (workshop.forgetAll threads)
      (farewells threads ++ [.deed .watchdogStopped]) := by
  obtain ⟨stopped, stops⟩ := stopLoops_fresh workshop.watch 0 threads
  exact stops.bind ((yields_tell _).andLast (yields_pure _))

/-- The pool of a runtime's workers. -/
def workersShape (options : Options) : PoolShape :=
  ⟨workersName, options.workerPoolSize.toNat, .worker, options.maxWorkerExecuteTime⟩

/-- The lists of loops and of workers are small enough to be allocated. -/
def Allocable (options : Options) : Prop :=
  bytesPerLoop * options.eventLoopPoolSize.toNat ≤ allocationLimit
    ∧ Pool.bytesPerThread * options.workerPoolSize.toNat ≤ allocationLimit

section Threads

variable {options : Options}

theorem startThreads_loopFailed (valid : options.validate = .ok ()) (allocable : Allocable options)
    (executors : ExecutorFactory) (workshop : Workshop) {threads : List RuntimeThread}
    {index : Nat} {reason : String} (within : index < options.eventLoopPoolSize.toNat)
    (makes : workshop.factory.Makes workshop.calls
      (wantedFrom (loopWanted options.maxEventLoopExecuteTime) 0 index) threads)
    (refused : workshop.factory.answer (workshop.calls + index)
      (loopWanted options.maxEventLoopExecuteTime index) = .error reason) :
    (startThreads options executors workshop).Yields Entry.doing?
      (.error (.failed (.threadSpawn (loopName index) reason)), itemsFrom freshLoop 0 threads,
        { workshop.enlistAll threads with calls := workshop.calls + index + 1 })
      (creations workshop.factory workshop.metrics
          (wantedFrom (loopWanted options.maxEventLoopExecuteTime) 0 index) threads
        ++ [.call (.newThread workshop.factory
          (loopWanted options.maxEventLoopExecuteTime index))]) := by
  obtain ⟨_, _, finite, _⟩ := Options.validate_eq_ok_iff.mp valid
  unfold startThreads
  refine yields_ite_neg (Nat.not_lt.mpr allocable.1) ?_
  exact ((startLoops_asks finite).failed workshop within makes refused).andLast (yields_pure _)

theorem startThreads_loopsMade (valid : options.validate = .ok ()) (allocable : Allocable options)
    (workshop : Workshop) {loops : List RuntimeThread}
    {answer : Except (Halt PoolFault) Pool} {left : Workshop} {seen : List Entry}
    (makes : workshop.factory.Makes workshop.calls
      (wantedFrom (loopWanted options.maxEventLoopExecuteTime) 0 options.eventLoopPoolSize.toNat) loops)
    (pool : (Pool.start (workshop.enlistAll loops) (workersShape options)).Yields Entry.doing?
      (answer, left) seen) :
    (startThreads options .standard workshop).Yields Entry.doing?
      (answer.mapError fun halt => halt.mapError fun fault => .workerPool fault.failure,
        itemsFrom freshLoop 0 loops, left)
      (creations workshop.factory workshop.metrics
          (wantedFrom (loopWanted options.maxEventLoopExecuteTime) 0 options.eventLoopPoolSize.toNat) loops
        ++ .call (.newExecutor .standard (workersShape options)) :: seen) := by
  obtain ⟨_, _, finite, _⟩ := Options.validate_eq_ok_iff.mp valid
  have asked : (askForPool .standard 0 (workshop.enlistAll loops) (workersShape options)).Yields
      Entry.doing? (answer, left) (.call (.newExecutor .standard (workersShape options)) :: seen) :=
    (yields_tell _).bind pool
  unfold startThreads
  refine yields_ite_neg (Nat.not_lt.mpr allocable.1) ?_
  refine ((startLoops_asks finite).complete workshop makes).bind (asked.andLast ?_)
  cases answer with
  | error halt => exact yields_pure _
  | ok pool => exact yields_pure _

end Threads

/-- Handing the cluster manager to the selector, if there is a cluster. -/
def introductions (cluster : Option ClusterBinding) : List Entry :=
  cluster.toList.map fun binding => .call (.initSelector binding.selector binding.manager)

theorem initSelector_yields (cluster : Option ClusterBinding) :
    ∃ introduced, (initSelector cluster).Yields Entry.doing? introduced (introductions cluster) := by
  cases cluster with
  | none => exact ⟨none, yields_pure _⟩
  | some binding => exact ⟨_, (yields_tell _).andLast (yields_pure _)⟩

theorem tellStart_yields (interval : Span) :
    (Watchdog.tellStart interval).Yields Entry.doing? () [.deed .watchdogStarted] :=
  (yields_tell _).andLast (yields_tell _)

section Start

variable (host : Host) (files : FileTree) {options : Options} {bindings : Bindings}
  (cluster : Option ClusterBinding) (handler : Option BlockedHandler) (took : Span)

/-- A start whose threads cannot all be made stops the loops and the watchdog. -/
theorem start_undone {halt : Halt BootError} {threads : List RuntimeThread} {left : Workshop}
    {seen : List Entry}
    (failed : (startThreads options bindings.executorFactory
      (Workshop.create bindings.threadFactory bindings.metrics)).Yields Entry.doing?
        (.error halt, itemsFrom freshLoop 0 threads, left) seen) :
    (start host files options bindings cluster handler took).Yields Entry.doing?
      (.error ⟨halt, left.forgetAll threads⟩)
      (.deed .watchdogStarted :: (seen ++ (farewells threads ++ [.deed .watchdogStopped]))) := by
  refine (tellStart_yields _).bind (failed.bind ?_)
  exact (tearDown_fresh left threads).andLast (yields_pure _)

theorem start_done {workers : Pool} {loops : List EventLoop} {left : Workshop} {seen : List Entry}
    (made : (startThreads options bindings.executorFactory
      (Workshop.create bindings.threadFactory bindings.metrics)).Yields Entry.doing?
        (.ok workers, loops, left) seen) :
    ∃ engine, (start host files options bindings cluster handler took).Yields Entry.doing?
        (.ok engine)
        (.deed .watchdogStarted
          :: (seen ++ (introductions cluster ++ hooks bindings.metrics (.runtimeStarted took))))
      ∧ engine.closed = false ∧ engine.watchdogClosed = false ∧ engine.workshop = left
      ∧ engine.loops = loops ∧ engine.workers = workers := by
  obtain ⟨introduced, introduces⟩ := initSelector_yields cluster
  refine ⟨_, (tellStart_yields _).bind (made.bind (introduces.bind
    ((tellMetrics_yields _ _).andLast ((yields_tell _).andThen (yields_pure _))))), ?_⟩
  exact ⟨rfl, rfl, rfl, rfl, rfl⟩

end Start

end Engine

end Reactor
