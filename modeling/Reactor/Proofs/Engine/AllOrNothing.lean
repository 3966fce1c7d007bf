import Reactor.Proofs.Assembly.Asking
import Reactor.Proofs.Engine.Start

/-!
Starting a runtime is all or nothing. The factory is asked for the threads of the loops, then for
those of the workers, and the first request that fails is the last one: every thread made before
it is waited for once, none is watched any more, and the watchdog is stopped before the failure
is reported. If none fails the runtime is open and watches exactly its threads.
-/

namespace Reactor

open Told

namespace Engine

section Ways

variable (options : Options) (bindings : Bindings)

def loopsCreated (count : Nat) (threads : List RuntimeThread) : List Entry :=
  creations bindings.threadFactory bindings.metrics
    (wantedFrom (loopWanted options.maxEventLoopExecuteTime) 0 count) threads

def workersCreated (count : Nat) (threads : List RuntimeThread) : List Entry :=
  creations bindings.threadFactory bindings.metrics
    (wantedFrom (Pool.wanted (workersShape options)) 0 count) threads

/-- What is done when the thread of a loop cannot be made: after its request, the threads before
it are waited for. -/
def toldAtLoop (index : Nat) (threads : List RuntimeThread) : List Entry :=
  .deed .watchdogStarted
    :: (loopsCreated options bindings index threads
        ++ [.call (.newThread bindings.threadFactory
          (loopWanted options.maxEventLoopExecuteTime index))]
      ++ (farewells threads ++ [.deed .watchdogStopped]))

/-- What is done when a worker cannot be made: after its request, the workers before it are
waited for, then the loops. -/
def toldAtWorker (index : Nat) (loops workers : List RuntimeThread) : List Entry :=
  .deed .watchdogStarted
    :: (loopsCreated options bindings options.eventLoopPoolSize.toNat loops
        ++ .call (.newExecutor .standard (workersShape options))
          :: (workersCreated options bindings index workers
            ++ [.call (.newThread bindings.threadFactory
              (Pool.wanted (workersShape options) index))]
            ++ farewells workers)
      ++ (farewells loops ++ [.deed .watchdogStopped]))

def toldAtEnd (cluster : Option ClusterBinding) (took : Span)
    (loops workers : List RuntimeThread) : List Entry :=
  .deed .watchdogStarted
    :: (loopsCreated options bindings options.eventLoopPoolSize.toNat loops
        ++ .call (.newExecutor .standard (workersShape options))
          :: workersCreated options bindings options.workerPoolSize.toNat workers
      ++ (introductions cluster ++ hooks bindings.metrics (.runtimeStarted took)))

end Ways

section Start

variable (host : Host) (files : FileTree) {options : Options} {bindings : Bindings}
  (cluster : Option ClusterBinding) (handler : Option BlockedHandler) (took : Span)
  (valid : options.validate = .ok ()) (allocable : Allocable options)

include valid allocable

theorem start_loopFailed {index : Nat} {reason : String} {threads : List RuntimeThread}
    (within : index < options.eventLoopPoolSize.toNat)
    (makes : bindings.threadFactory.Makes 0 (wantedFrom (loopWanted options.maxEventLoopExecuteTime) 0 index)
      threads)
    (failed : bindings.threadFactory.answer index
      (loopWanted options.maxEventLoopExecuteTime index) = .error reason) :
    ∃ left, (start host files options bindings cluster handler took).Yields Entry.doing?
        (.error ⟨.failed (.threadSpawn (loopName index) reason), left⟩)
        (toldAtLoop options bindings index threads)
      ∧ ∀ key, left.watch.monitor? key = none := by
  let workshop := Workshop.create bindings.threadFactory bindings.metrics
  have refused : workshop.factory.answer (workshop.calls + index)
      (loopWanted options.maxEventLoopExecuteTime index) = .error reason :=
    (congrArg (bindings.threadFactory.answer · _) (Nat.zero_add index)).trans failed
  have stopped := startThreads_loopFailed valid allocable bindings.executorFactory workshop within
    makes refused
  refine ⟨_, start_undone host files cluster handler took stopped, ?_⟩
  exact Watch.monitor?_forgetAll_enlistAll fun _ => id

theorem start_workerFailed (standard : bindings.executorFactory = .standard) {index : Nat}
    {reason : String} {loops workers : List RuntimeThread}
    (within : index < options.workerPoolSize.toNat)
    (loopsMade : bindings.threadFactory.Makes 0
      (wantedFrom (loopWanted options.maxEventLoopExecuteTime) 0 options.eventLoopPoolSize.toNat) loops)
    (workersMade : bindings.threadFactory.Makes options.eventLoopPoolSize.toNat
      (wantedFrom (Pool.wanted (workersShape options)) 0 index) workers)
    (failed : bindings.threadFactory.answer (options.eventLoopPoolSize.toNat + index)
      (Pool.wanted (workersShape options) index) = .error reason) :
    ∃ left, (start host files options bindings cluster handler took).Yields Entry.doing?
        (.error ⟨.failed (.workerPool ⟨"Failed to start pool thread '"
          ++ Pool.threadName (workersShape options) index ++ "'", [reason]⟩), left⟩)
        (toldAtWorker options bindings index loops workers)
      ∧ ∀ key, left.watch.monitor? key = none := by
  let workshop := Workshop.create bindings.threadFactory bindings.metrics
  have made : (workshop.enlistAll loops).calls = options.eventLoopPoolSize.toNat :=
    (Nat.zero_add _).trans (loopsMade.length_wantedFrom)
  have refused : (workshop.enlistAll loops).factory.answer
      ((workshop.enlistAll loops).calls + index)
      (Pool.wanted (workersShape options) index) = .error reason := by
    rw [made]
    exact failed
  have regular : Pool.Regular (workersShape options) := Pool.regular_worker rfl
  have pool := Pool.start_failed (workshop.enlistAll loops) regular within allocable.2 (made ▸ workersMade) refused
  have stopped := startThreads_loopsMade valid allocable workshop loopsMade pool
  rw [← standard] at stopped
  refine ⟨_, (start_undone host files cluster handler took stopped).of_eq rfl ?_, ?_⟩
  · rw [standard]
    rfl
  · intro key
    have gone : ((Watch.empty.enlistAll (loops ++ workers)).forgetAll (workers ++ loops)).monitor?
        key = none := by
      refine Watch.monitor?_forgetAll_enlistAll ?_ key
      intro thread present
      exact List.mem_append.mpr (List.mem_append.mp present).symm
    rw [Watch.enlistAll_append, Watch.forgetAll_append] at gone
    exact gone

theorem start_complete (standard : bindings.executorFactory = .standard)
    {loops workers : List RuntimeThread}
    (loopsMade : bindings.threadFactory.Makes 0
      (wantedFrom (loopWanted options.maxEventLoopExecuteTime) 0 options.eventLoopPoolSize.toNat) loops)
    (workersMade : bindings.threadFactory.Makes options.eventLoopPoolSize.toNat
      (wantedFrom (Pool.wanted (workersShape options)) 0 options.workerPoolSize.toNat) workers) :
    ∃ engine, (start host files options bindings cluster handler took).Yields Entry.doing?
        (.ok engine) (toldAtEnd options bindings cluster took loops workers)
      ∧ engine.closed = false ∧ engine.watchdogClosed = false
      ∧ engine.workshop.watch = .covering (loops ++ workers)
      ∧ engine.watched = options.eventLoopPoolSize.toNat + options.workerPoolSize.toNat
      ∧ engine.loops = itemsFrom freshLoop 0 loops
      ∧ engine.workers = ⟨workersShape options, .create workers⟩ := by
  let workshop := Workshop.create bindings.threadFactory bindings.metrics
  have made : (workshop.enlistAll loops).calls = options.eventLoopPoolSize.toNat :=
    (Nat.zero_add _).trans (loopsMade.length_wantedFrom)
  have inhabited : (workersShape options).size ≠ 0 := by
    obtain ⟨_, workersWanted, _, _⟩ := Options.validate_eq_ok_iff.mp valid
    intro none
    exact workersWanted (UInt64.toNat_inj.mp none)
  have regular : Pool.Regular (workersShape options) := Pool.regular_worker rfl
  have pool := Pool.start_made (workshop.enlistAll loops) regular inhabited allocable.2 (made ▸ workersMade)
  have threads := startThreads_loopsMade valid allocable workshop loopsMade pool
  rw [← standard] at threads
  obtain ⟨engine, yields, opened, guarded, kept, loopsSame, workersSame⟩ :=
    start_done host files cluster handler took threads
  have watch : engine.workshop.watch = .covering (loops ++ workers) := by
    rw [kept, ← Watch.enlistAll_eq_covering, Watch.enlistAll_append]
    rfl
  refine ⟨engine, yields.of_eq rfl ?_, opened, guarded, watch, ?_, loopsSame, workersSame⟩
  · rw [standard]
    rfl
  · unfold watched
    rw [watch, Watch.watched_covering, List.length_append, loopsMade.length_wantedFrom,
      workersMade.length_wantedFrom]

end Start

end Engine

/-! ### Builds -/

namespace Assembly

/-- Either build, up to the point where a clustered runtime is to join its cluster. -/
def launch (assembly : Assembly) (clustered : Bool) (host : Host) (files : FileTree)
    (registry : Registry) (took : Span) : Told (Except (Halt BootError) Engine × Registry) :=
  if clustered then
    (fun (answer, registry) => (answer.map (·.engine), registry))
      <$> assembly.buildClustered host files registry took
  else
    assembly.build host files registry took

/-- The cluster that a build starts the runtime with; none if it lacks a manager. -/
def clusterOf (bindings : Bindings) : Bool → Option (Option ClusterBinding)
  | false => some none
  | true => bindings.clusterManager.map fun manager =>
      some ⟨manager, bindings.nodeSelector.getD .roundRobin, .fresh⟩

theorem chooseSelector_yields (bindings : Bindings) :
    (chooseSelector bindings).Yields Entry.doing? (bindings.nodeSelector.getD .roundRobin) [] := by
  unfold chooseSelector
  cases bindings.nodeSelector with
  | none => exact (yields_tell _).andThen (yields_pure _)
  | some selector => exact yields_pure _

def clusterWith (bindings : Bindings) (manager : ClusterManager) : ClusterBinding :=
  ⟨manager, bindings.nodeSelector.getD .roundRobin, .fresh⟩

theorem buildClustered_yields (assembly : Assembly) (host : Host) (files : FileTree)
    (registry : Registry) (took : Span) {bindings : Bindings} {prepared : Assembly}
    {after : Registry} {manager : ClusterManager}
    (prepares : (assembly.prepare host registry).value = (.ok bindings, prepared, after))
    (bound : bindings.clusterManager = some manager) :
    let told := Engine.start host files prepared.options bindings
      (some (clusterWith bindings manager)) prepared.blockedHandler took
    (assembly.buildClustered host files registry took).Yields Entry.doing?
      (told.value.mapError (·.halt) |>.map (⟨·, manager, .fresh⟩), after)
      ((assembly.prepare host registry).entries.filterMap Entry.doing?
        ++ told.entries.filterMap Entry.doing?) := by
  intro told
  have first : (assembly.prepare host registry).Yields Entry.doing? (.ok bindings, prepared, after)
      ((assembly.prepare host registry).entries.filterMap Entry.doing?) := ⟨prepares, rfl⟩
  have second : told.Yields Entry.doing? told.value (told.entries.filterMap Entry.doing?) :=
    ⟨rfl, rfl⟩
  refine first.bind ?_
  dsimp only
  split
  · rename_i missing
    rw [bound] at missing
    cases missing
  · rename_i found
    rw [bound] at found
    cases found
    refine (chooseSelector_yields bindings).andThen (second.andLast ?_)
    cases told.value with
    | error aborted => exact yields_pure _
    | ok engine => exact yields_pure _

theorem launch_yields (assembly : Assembly) (clustered : Bool) (host : Host) (files : FileTree)
    (registry : Registry) (took : Span) {bindings : Bindings} {prepared : Assembly}
    {after : Registry} {cluster : Option ClusterBinding}
    (prepares : (assembly.prepare host registry).value = (.ok bindings, prepared, after))
    (joins : clusterOf bindings clustered = some cluster) :
    let told := Engine.start host files prepared.options bindings cluster
      prepared.blockedHandler took
    (assembly.launch clustered host files registry took).Yields Entry.doing?
      (told.value.mapError (·.halt), after)
      ((assembly.prepare host registry).entries.filterMap Entry.doing?
        ++ told.entries.filterMap Entry.doing?) := by
  intro told
  have first : (assembly.prepare host registry).Yields Entry.doing? (.ok bindings, prepared, after)
      ((assembly.prepare host registry).entries.filterMap Entry.doing?) := ⟨prepares, rfl⟩
  have second : told.Yields Entry.doing? told.value (told.entries.filterMap Entry.doing?) :=
    ⟨rfl, rfl⟩
  cases clustered with
  | false =>
      cases joins
      exact first.bind (second.andLast (yields_pure _))
  | true =>
      unfold clusterOf at joins
      obtain ⟨manager, bound, rfl⟩ := Option.map_eq_some_iff.mp joins
      have build : (assembly.buildClustered host files registry took).Yields Entry.doing?
          (told.value.mapError (·.halt) |>.map (⟨·, manager, .fresh⟩), after)
          ((assembly.prepare host registry).entries.filterMap Entry.doing?
            ++ told.entries.filterMap Entry.doing?) :=
        assembly.buildClustered_yields host files registry took prepares bound
      refine (build.map _).of_eq ?_ rfl
      cases told.value with
      | error aborted => rfl
      | ok engine => rfl

end Assembly

namespace Engine

/-- What a start asks for and what it leaves, for every factory that fails at one request or at
none. A build that gets past the resolution, which only probes transports and activates providers,
does and answers what the start does and answers. -/
theorem start_all_or_nothing (host : Host) (files : FileTree) {options : Options}
    {bindings : Bindings} (cluster : Option ClusterBinding) (handler : Option BlockedHandler)
    (took : Span) (valid : options.validate = .ok ()) (allocable : Allocable options)
    (standard : bindings.executorFactory = .standard) :
    let loopCount := options.eventLoopPoolSize.toNat
    let workerCount := options.workerPoolSize.toNat
    let factory := bindings.threadFactory
    let loopsUpTo := wantedFrom (loopWanted options.maxEventLoopExecuteTime) 0
    let workersUpTo := wantedFrom (Pool.wanted (workersShape options)) 0
    let told := start host files options bindings cluster handler took
    (∀ index reason threads, index < loopCount → factory.Makes 0 (loopsUpTo index) threads →
      factory.answer index (loopWanted options.maxEventLoopExecuteTime index) = .error reason →
      ∃ left, told.Yields Entry.doing?
          (.error ⟨.failed (.threadSpawn (loopName index) reason), left⟩)
          (toldAtLoop options bindings index threads)
        ∧ ∀ key, left.watch.monitor? key = none)
    ∧ (∀ index reason loops workers, index < workerCount →
      factory.Makes 0 (loopsUpTo loopCount) loops →
      factory.Makes loopCount (workersUpTo index) workers →
      factory.answer (loopCount + index) (Pool.wanted (workersShape options) index)
        = .error reason →
      ∃ left, told.Yields Entry.doing?
          (.error ⟨.failed (.workerPool ⟨"Failed to start pool thread '"
            ++ Pool.threadName (workersShape options) index ++ "'", [reason]⟩), left⟩)
          (toldAtWorker options bindings index loops workers)
        ∧ ∀ key, left.watch.monitor? key = none)
    ∧ (∀ loops workers, factory.Makes 0 (loopsUpTo loopCount) loops →
      factory.Makes loopCount (workersUpTo workerCount) workers →
      ∃ engine, told.Yields Entry.doing? (.ok engine)
          (toldAtEnd options bindings cluster took loops workers)
        ∧ engine.closed = false ∧ engine.watchdogClosed = false
        ∧ engine.workshop.watch = .covering (loops ++ workers)
        ∧ engine.watched = loopCount + workerCount
        ∧ engine.loops = itemsFrom freshLoop 0 loops
        ∧ engine.workers = ⟨workersShape options, .create workers⟩)
    ∧ ∀ (assembly prepared : Assembly) (clustered : Bool) (registry after : Registry),
      (assembly.prepare host registry).value = (.ok bindings, prepared, after) →
      prepared.options = options → prepared.blockedHandler = handler →
      Assembly.clusterOf bindings clustered = some cluster →
      Only Entry.IsAsking (assembly.prepare host registry)
        ∧ (assembly.launch clustered host files registry took).Yields Entry.doing?
          (told.value.mapError (·.halt), after)
          ((assembly.prepare host registry).entries.filterMap Entry.doing?
            ++ told.entries.filterMap Entry.doing?) := by
  refine ⟨?_, ?_, ?_, ?_⟩
  · intro index reason threads within makes failed
    exact start_loopFailed host files cluster handler took valid allocable within makes failed
  · intro index reason loops workers within loopsMade workersMade failed
    exact start_workerFailed host files cluster handler took valid allocable standard within
      loopsMade workersMade failed
  · intro loops workers loopsMade workersMade
    exact start_complete host files cluster handler took valid allocable standard loopsMade
      workersMade
  · intro assembly prepared clustered registry after prepares sameOptions sameHandler joins
    subst sameOptions
    subst sameHandler
    exact ⟨assembly.prepare_asking host registry,
      assembly.launch_yields clustered host files registry took prepares joins⟩

/-- A factory that has made three threads and makes no more. -/
def weary : ThreadFactory where
  name := some "weary"
  answer calls asked := if calls = 3 then .error "no thread left" else .ok (asked, .runs)

def small : Options := { Options.standard 1 with workerPoolSize := 2 }

def smallBindings : Bindings :=
  ⟨.portable, some .counters, none, none, none, .named "files" true none, weary, .standard⟩

def madeLoops : List RuntimeThread :=
  [⟨0, loopWanted small.maxEventLoopExecuteTime 0, .runs⟩,
    ⟨1, loopWanted small.maxEventLoopExecuteTime 1, .runs⟩]

def madeWorkers : List RuntimeThread := [⟨2, Pool.wanted (workersShape small) 0, .runs⟩]

theorem start_all_or_nothing_weary :
    ∃ left, (start default default small smallBindings none none default).Yields Entry.doing?
        (.error ⟨.failed (.workerPool
          ⟨"Failed to start pool thread 'strand-worker-1'", ["no thread left"]⟩), left⟩)
        (toldAtWorker small smallBindings 1 madeLoops madeWorkers)
      ∧ left.watch.watched = 0 := by
  have valid : small.validate = .ok () := rfl
  have allocable : Allocable small := ⟨by decide, by decide⟩
  have standard : smallBindings.executorFactory = .standard := rfl
  have ways := start_all_or_nothing default default none none default valid allocable standard
  obtain ⟨left, yields, none⟩ := ways.2.1 1 "no thread left" madeLoops madeWorkers (by decide)
    ⟨by decide, by decide, trivial⟩ ⟨by decide, trivial⟩ rfl
  exact ⟨left, yields, Watch.watched_eq_zero none⟩

end Engine

end Reactor
