import Reactor.Proofs.Engine.AllOrNothing

/-!
What a start that succeeds has done, under whatever options and bindings it was asked for: it has
made every thread in its turn, handed the cluster manager over, and then told the metrics. The
runtime that it gives is open, and nobody has used its lines.
-/

namespace Reactor

open Told

def Entry.IsMaking : Entry → Prop
  | .call (.newThread _ _) | .call (.newExecutor _ _) | .call (.metrics _ (.threadCreated _)) => True
  | _ => False

theorem Entry.IsMaking.unread {γ : Type} {read : Entry → Option γ} {entry : Entry}
    (making : entry.IsMaking)
    (thread : ∀ factory asked, read (.call (.newThread factory asked)) = none)
    (pool : ∀ factory shape, read (.call (.newExecutor factory shape)) = none)
    (created : ∀ sink given, read (.call (.metrics sink (.threadCreated given))) = none) :
    read entry = none := by
  cases entry with
  | log _ _ | deed _ => cases making
  | call request =>
      cases request with
      | newThread factory asked => exact thread factory asked
      | newExecutor factory shape => exact pool factory shape
      | metrics sink hook =>
          cases hook with
          | threadCreated given => exact created sink given
          | _ => cases making
      | _ => cases making

theorem creations_making (factory : ThreadFactory) (metrics : Option MetricsSink)
    (asked : List Descriptor) (threads : List RuntimeThread) :
    ∀ entry ∈ creations factory metrics asked threads, entry.IsMaking := by
  intro entry present
  obtain ⟨pair, _, told⟩ := List.mem_flatMap.mp present
  rcases List.mem_cons.mp told with rfl | heard
  · trivial
  · obtain ⟨sink, _, rfl⟩ := List.mem_map.mp heard
    trivial

namespace Engine

theorem startLoops_unbounded {budget : Span} (unbounded : budget.isZero = true)
    (workshop : Workshop) (count : Nat) :
    count = 0 ∨ ∃ halt loops left, (startLoops budget workshop [] 0 count).value
      = (.error halt, loops, left) := by
  cases count with
  | zero => exact Or.inl rfl
  | succ remaining =>
      have unsuited : Descriptor.suitsEventLoop (some budget) = false := by
        change (!budget.isZero) = false
        rw [unbounded]
        rfl
      have missing : Descriptor.eventLoop? (loopName 0) budget = none := by
        unfold Descriptor.eventLoop? Descriptor.create?
        rw [unsuited]
        rfl
      refine Or.inr ⟨.failed (.configuration (.eventLoopBudget (loopName 0))), [], workshop, ?_⟩
      rw [startLoops]
      dsimp only
      rw [missing]
      rfl

theorem made_of_startLoops {budget : Span} {workshop left : Workshop} {loops : List EventLoop}
    {count : Nat} (started : (startLoops budget workshop [] 0 count).value = (.ok (), loops, left)) :
    ∃ threads,
      workshop.factory.Makes workshop.calls (wantedFrom (loopWanted budget) 0 count) threads
        ∧ (startLoops budget workshop [] 0 count).Yields Entry.doing?
          (.ok (), itemsFrom freshLoop 0 threads, workshop.enlistAll threads)
          (creations workshop.factory workshop.metrics (wantedFrom (loopWanted budget) 0 count)
            threads) := by
  cases finite : budget.isZero with
  | true =>
      rcases startLoops_unbounded finite workshop count with rfl | ⟨halt, others, rest, stops⟩
      · exact ⟨[], trivial, yields_pure _⟩
      · rw [stops] at started
        cases started
  | false =>
      rcases (startLoops_asks finite).outcome workshop [] 0 count with
        ⟨threads, makes, yields⟩ | ⟨others, place, halt, rest, stops⟩
      · exact ⟨threads, makes, yields⟩
      · rw [stops] at started
        cases started

section Threads

variable {options : Options} {executors : ExecutorFactory} {workshop : Workshop}

/-- Everything that threads are made for, in order: the loops, then the workers of that shape. -/
def crewsCreated (options : Options) (executors : ExecutorFactory) (workshop : Workshop)
    (shape : PoolShape) (loops workers : List RuntimeThread) : List Entry :=
  creations workshop.factory workshop.metrics
      (wantedFrom (loopWanted options.maxEventLoopExecuteTime) 0 options.eventLoopPoolSize.toNat)
      loops
    ++ .call (.newExecutor executors (workersShape options))
      :: creations workshop.factory workshop.metrics (wantedFrom (Pool.wanted shape) 0 shape.size)
        workers

theorem crewsCreated_making (options : Options) (executors : ExecutorFactory) (workshop : Workshop)
    (shape : PoolShape) (loops workers : List RuntimeThread) :
    ∀ entry ∈ crewsCreated options executors workshop shape loops workers, entry.IsMaking := by
  intro entry present
  rcases List.mem_append.mp present with loop | later
  · exact creations_making _ _ _ _ entry loop
  · rcases List.mem_cons.mp later with rfl | worker
    · trivial
    · exact creations_making _ _ _ _ entry worker

structure CrewsMade (options : Options) (workshop : Workshop) (shape : PoolShape)
    (loops workers : List RuntimeThread) : Prop where
  loopsMade : workshop.factory.Makes workshop.calls
    (wantedFrom (loopWanted options.maxEventLoopExecuteTime) 0 options.eventLoopPoolSize.toNat)
    loops
  workersMade : workshop.factory.Makes (workshop.calls + loops.length)
    (wantedFrom (Pool.wanted shape) 0 shape.size) workers

theorem CrewsMade.length_loops {shape : PoolShape} {loops workers : List RuntimeThread}
    (made : CrewsMade options workshop shape loops workers) :
    loops.length = options.eventLoopPoolSize.toNat := made.loopsMade.length_wantedFrom

theorem CrewsMade.keys {shape : PoolShape} {loops workers : List RuntimeThread}
    (made : CrewsMade options workshop shape loops workers) :
    (loops ++ workers).map (·.key)
      = List.range' workshop.calls (loops.length + workers.length) := by
  rw [List.map_append, made.loopsMade.keys, made.workersMade.keys, ← made.loopsMade.length,
    ← made.workersMade.length, List.range'_append_1]

theorem CrewsMade.key {shape : PoolShape} {loops workers : List RuntimeThread}
    (made : CrewsMade options workshop shape loops workers) {number : Nat} {thread : RuntimeThread}
    (present : (loops ++ workers)[number]? = some thread) :
    thread.key = workshop.calls + number := by
  obtain ⟨within, _⟩ := List.getElem?_eq_some_iff.mp present
  have key := congrArg (·[number]?) made.keys
  simp only [List.getElem?_map, present, Option.map_some] at key
  rw [List.getElem?_range' (List.length_append ▸ within), Nat.one_mul] at key
  exact Option.some.inj key

theorem made_of_askForPool {calls : Nat} {asked : PoolShape} {pool : Pool} {left : Workshop}
    (answered : (askForPool executors calls workshop asked).value = (.ok pool, left)) :
    ∃ shape threads,
      workshop.factory.Makes workshop.calls (wantedFrom (Pool.wanted shape) 0 shape.size) threads
        ∧ (askForPool executors calls workshop asked).Yields Entry.doing?
          (.ok ⟨shape, .create threads⟩, workshop.enlistAll threads)
          (.call (.newExecutor executors asked)
            :: creations workshop.factory workshop.metrics
              (wantedFrom (Pool.wanted shape) 0 shape.size) threads) := by
  unfold askForPool at answered ⊢
  cases chosen : executors.answer calls asked with
  | error reason =>
      rw [Told.value_bind, chosen] at answered
      cases answered
  | ok shape =>
      rw [Told.value_bind, chosen] at answered
      obtain ⟨threads, makes, yields⟩ := Pool.made_of_start answered
      exact ⟨shape, threads, makes, (yields_tell _).bind yields⟩

theorem made_of_startThreads {pool : Pool} {loops : List EventLoop} {left : Workshop}
    (started : (startThreads options executors workshop).value = (.ok pool, loops, left)) :
    ∃ shape loopThreads workerThreads,
      CrewsMade options workshop shape loopThreads workerThreads
        ∧ (startThreads options executors workshop).Yields Entry.doing?
          (.ok ⟨shape, .create workerThreads⟩, itemsFrom freshLoop 0 loopThreads,
            (workshop.enlistAll loopThreads).enlistAll workerThreads)
          (crewsCreated options executors workshop shape loopThreads workerThreads) := by
  unfold startThreads at started ⊢
  dsimp only at started ⊢
  by_cases large : allocationLimit < bytesPerLoop * options.eventLoopPoolSize.toNat
  · rw [if_pos large] at started
    cases started
  · rw [if_neg large] at started ⊢
    rw [Told.value_bind] at started
    rcases loopsStarted : (startLoops options.maxEventLoopExecuteTime workshop [] 0
      options.eventLoopPoolSize.toNat).value with ⟨⟨halt⟩ | ⟨⟨⟩⟩, begun, between⟩
    · rw [loopsStarted] at started
      cases started
    · obtain ⟨loopThreads, loopsMade, loopsYield⟩ := made_of_startLoops loopsStarted
      rw [loopsYield.1] at started
      dsimp only at started
      rw [Told.value_bind] at started
      rcases poolStarted : (askForPool executors 0 (workshop.enlistAll loopThreads)
        (workersShape options)).value with ⟨⟨halt⟩ | ⟨given⟩, rest⟩
      · rw [workersShape] at poolStarted
        rw [poolStarted] at started
        cases started
      · obtain ⟨shape, workerThreads, workersMade, poolYields⟩ := made_of_askForPool poolStarted
        exact ⟨shape, loopThreads, workerThreads, ⟨loopsMade, workersMade⟩,
          loopsYield.bind (poolYields.andLast (yields_pure _))⟩

end Threads

/-! ### The start -/

def introduced (binding : ClusterBinding) : ClusterBinding :=
  { binding with cursors := binding.cursors.init binding.manager }

theorem initSelector_introduces (cluster : Option ClusterBinding) :
    (initSelector cluster).Yields Entry.doing? (cluster.map introduced) (introductions cluster) := by
  cases cluster with
  | none => exact yields_pure _
  | some binding => exact (yields_tell _).andLast (yields_pure _)

section Start

variable (host : Host) (files : FileTree) (options : Options) (bindings : Bindings)
  (cluster : Option ClusterBinding) (handler : Option BlockedHandler) (took : Span)
  (shape : PoolShape) (loops workers : List RuntimeThread)

/-- The runtime that a start gives over those threads. -/
def unused : Engine where
  host := host
  files := files
  options := options
  transport := bindings.transport
  metrics := bindings.metrics
  tracer := bindings.tracer
  resolver := bindings.fileResolver
  executorFactory := bindings.executorFactory
  executorCalls := 1
  cluster := cluster.map introduced
  handler := handler
  workshop :=
    ((Workshop.create bindings.threadFactory bindings.metrics).enlistAll loops).enlistAll workers
  loops := itemsFrom freshLoop 0 loops
  workers := ⟨shape, .create workers⟩
  watchdogClosed := false
  nextLoop := 0
  closed := false

def toldAtSuccess : List Entry :=
  .deed .watchdogStarted
    :: (crewsCreated options bindings.executorFactory
          (Workshop.create bindings.threadFactory bindings.metrics) shape loops workers
      ++ (introductions cluster ++ hooks bindings.metrics (.runtimeStarted took)))

end Start

theorem made_of_start {host : Host} {files : FileTree} {options : Options} {bindings : Bindings}
    {cluster : Option ClusterBinding} {handler : Option BlockedHandler} {took : Span}
    {engine : Engine}
    (started : (start host files options bindings cluster handler took).value = .ok engine) :
    ∃ shape loops workers,
      CrewsMade options (Workshop.create bindings.threadFactory bindings.metrics) shape loops
          workers
        ∧ engine = unused host files options bindings cluster handler shape loops workers
        ∧ (start host files options bindings cluster handler took).Yields Entry.doing? (.ok engine)
          (toldAtSuccess options bindings cluster took shape loops workers) := by
  have ended := started
  unfold start at ended
  rw [Told.value_bind] at ended
  dsimp only at ended
  rw [Told.value_bind] at ended
  rcases threadsStarted : (startThreads options bindings.executorFactory
    (Workshop.create bindings.threadFactory bindings.metrics)).value with
    ⟨⟨halt⟩ | ⟨pool⟩, begun, left⟩
  · rw [threadsStarted] at ended
    cases ended
  · obtain ⟨shape, loops, workers, made, yields⟩ := made_of_startThreads threadsStarted
    have whole : (start host files options bindings cluster handler took).Yields Entry.doing?
        (.ok (unused host files options bindings cluster handler shape loops workers))
        (toldAtSuccess options bindings cluster took shape loops workers) :=
      (tellStart_yields _).bind (yields.bind ((initSelector_introduces cluster).bind
        ((tellMetrics_yields _ _).andLast ((yields_tell _).andThen (yields_pure _)))))
    have same := Except.ok.inj (started.symm.trans whole.1)
    exact ⟨shape, loops, workers, made, same, started, whole.2⟩

end Engine

end Reactor
