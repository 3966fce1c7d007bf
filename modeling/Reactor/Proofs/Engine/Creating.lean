import Reactor.Proofs.Engine.Made
import Reactor.Proofs.Engine.Quitting
import Reactor.Proofs.Thread.Covering

/-!
Threads that are made through a workshop. Whatever asks for them, and however that ends, each thread
that the factory answers with is put under watch once, as the factory described it, and the metrics
hear of it once, in the order of the requests. A request that fails leaves neither trace.
-/

namespace Reactor

open Told

def Entry.hookIn (wanted : MetricsHook → Bool) : Entry → Option Entry
  | .call (.metrics sink hook) => if wanted hook then some (.call (.metrics sink hook)) else none
  | _ => none

def MetricsHook.isMilestone : MetricsHook → Bool
  | .runtimeStarted _ | .close => true
  | .threadCreated _ | .blockedThread _ => false

def Entry.hook? : Entry → Option Entry := Entry.hookIn fun _ => true

def Entry.milestone? : Entry → Option Entry := Entry.hookIn (·.isMilestone)

def Entry.occasion? : Entry → Option Entry := Entry.hookIn (!·.isMilestone)

def MetricsHook.isBirth : MetricsHook → Bool
  | .threadCreated _ => true
  | .blockedThread _ | .runtimeStarted _ | .close => false

def Entry.birth? : Entry → Option Entry := Entry.hookIn (·.isBirth)

theorem filterMap_hook (wanted : MetricsHook → Bool) (entries : List Entry) :
    (entries.filterMap Entry.hook?).filterMap (Entry.hookIn wanted)
      = entries.filterMap (Entry.hookIn wanted) := by
  have through : (fun entry : Entry => entry.hook?.bind (Entry.hookIn wanted))
      = Entry.hookIn wanted := by
    funext entry
    cases entry with
    | log _ _ | deed _ => rfl
    | call request => cases request <;> rfl
  rw [List.filterMap_filterMap, through]

def Entry.request? : Entry → Option Descriptor
  | .call (.newThread _ asked) => some asked
  | _ => none

/-- The threads that a factory makes at requests in a row, of which any may fail. -/
def ThreadFactory.makings (factory : ThreadFactory) : Nat → List Descriptor → List RuntimeThread
  | _, [] => []
  | calls, asked :: others =>
      (factory.make? calls asked).toList ++ factory.makings (calls + 1) others

theorem ThreadFactory.makings_append (factory : ThreadFactory) (calls : Nat)
    (first second : List Descriptor) :
    factory.makings calls (first ++ second)
      = factory.makings calls first ++ factory.makings (calls + first.length) second := by
  induction first generalizing calls with
  | nil => rfl
  | cons asked others ih =>
      rw [List.cons_append, makings, makings, ih, List.append_assoc, List.length_cons,
        Nat.add_assoc, Nat.add_comm 1]

theorem ThreadFactory.keys_makings (factory : ThreadFactory) (calls : Nat)
    (asked : List Descriptor) :
    ((factory.makings calls asked).map (·.key)).Sublist (List.range' calls asked.length) := by
  induction asked generalizing calls with
  | nil => exact List.Sublist.refl []
  | cons first others ih =>
      rw [makings, List.map_append, List.length_cons, List.range'_succ]
      cases made : factory.make? calls first with
      | none => exact (ih (calls + 1)).cons calls
      | some thread =>
          have key : thread.key = calls := key_of_make? made
          simp only [Option.toList_some, List.map_cons, List.map_nil, key]
          exact (ih (calls + 1)).cons_cons calls

theorem ThreadFactory.makings_singleton (factory : ThreadFactory) (calls : Nat)
    (asked : Descriptor) : factory.makings calls [asked] = (factory.make? calls asked).toList := by
  rw [makings, makings, List.append_nil]

/-- What is told when threads are made, or given up again. -/
def Entry.IsRoutine (entry : Entry) : Prop := entry.IsMaking ∨ entry.IsStopping

namespace Workshop

/-- The watch is over the threads made at these requests, the only ones so far. -/
structure Records (workshop : Workshop) (asked : List Descriptor) : Prop where
  calls : workshop.calls = asked.length
  covers : workshop.watch.Covers (workshop.factory.makings 0 asked)

variable {workshop left : Workshop} {asked : List Descriptor}

theorem records_create (factory : ThreadFactory) (metrics : Option MetricsSink) :
    (create factory metrics).Records [] :=
  ⟨rfl, Watch.covers_empty⟩

theorem Records.thins (records : workshop.Records asked) (factory : left.factory = workshop.factory)
    (calls : left.calls = workshop.calls) (thins : workshop.watch.Thins left.watch) :
    left.Records asked := by
  constructor
  · exact calls.trans records.calls
  · rw [factory]
    exact records.covers.thins thins

theorem Records.makings (records : workshop.Records asked) (wanted : Descriptor) :
    workshop.factory.makings 0 (asked ++ [wanted])
      = workshop.factory.makings 0 asked ++ workshop.factory.makings workshop.calls [wanted] := by
  rw [ThreadFactory.makings_append, Nat.zero_add, ← records.calls]

theorem Records.skip (records : workshop.Records asked) {wanted : Descriptor}
    (unmade : workshop.factory.make? workshop.calls wanted = none) :
    Records { workshop with calls := workshop.calls + 1 } (asked ++ [wanted]) := by
  constructor
  · rw [List.length_append, ← records.calls]
    rfl
  · change workshop.watch.Covers (workshop.factory.makings 0 (asked ++ [wanted]))
    rw [records.makings, ThreadFactory.makings_singleton, unmade, Option.toList_none,
      List.append_nil]
    exact records.covers

theorem Records.enlist (records : workshop.Records asked) {wanted : Descriptor}
    {thread : RuntimeThread} (made : workshop.factory.make? workshop.calls wanted = some thread) :
    (workshop.enlistAll [thread]).Records (asked ++ [wanted]) := by
  constructor
  · rw [List.length_append, ← records.calls]
    rfl
  · change (workshop.watch.enlist thread).Covers (workshop.factory.makings 0 (asked ++ [wanted]))
    rw [records.makings, ThreadFactory.makings_singleton, made, Option.toList_some]
    apply records.covers.enlist
    intro listed
    have within := (workshop.factory.keys_makings 0 asked).subset listed
    rw [List.mem_range'_1, ThreadFactory.key_of_make? made, records.calls] at within
    omega

/-! ### What is told and kept of the threads made -/

/-- What the metrics hear of the threads that are made at these requests. -/
def births (workshop : Workshop) (asked : List Descriptor) : List Entry :=
  (workshop.factory.makings workshop.calls asked).flatMap fun thread =>
    hooks workshop.metrics (.threadCreated thread.descriptor)

theorem read_births {wanted : MetricsHook → Bool}
    (counts : ∀ given, wanted (.threadCreated given) = true) (workshop : Workshop)
    (asked : List Descriptor) :
    (workshop.births asked).filterMap (Entry.hookIn wanted) = workshop.births asked := by
  unfold births hooks
  rw [List.filterMap_flatMap]
  refine congrArg (fun told => List.flatMap told _) (funext fun thread => ?_)
  cases workshop.metrics with
  | none => rfl
  | some sink => simp [Entry.hookIn, counts]

theorem unread_births {γ : Type} {read : Entry → Option γ}
    (unread : ∀ sink given, read (.call (.metrics sink (.threadCreated given))) = none)
    (workshop : Workshop) (asked : List Descriptor) :
    (workshop.births asked).filterMap read = [] := by
  unfold births hooks
  rw [List.filterMap_flatMap, List.flatMap_eq_nil_iff]
  intro thread _
  cases workshop.metrics with
  | none => rfl
  | some sink => simp [unread]

/-- The metrics have heard of the threads made at the requests of this operation, and the workshop
left is as it was but for its watch and the number of requests. -/
structure Accounts {α : Type} (workshop : Workshop) (told : Told α) (left : Workshop) : Prop where
  heard : told.entries.filterMap Entry.hook?
    = workshop.births (told.entries.filterMap Entry.request?)
  calls : left.calls = workshop.calls + (told.entries.filterMap Entry.request?).length
  factory : left.factory = workshop.factory
  metrics : left.metrics = workshop.metrics

theorem Accounts.parts {α : Type} {told : Told α} (accounts : workshop.Accounts told left) :
    told.entries.filterMap Entry.milestone? = []
      ∧ told.entries.filterMap Entry.occasion?
        = workshop.births (told.entries.filterMap Entry.request?) := by
  have heard := accounts.heard
  constructor
  · apply (filterMap_hook _ _).symm.trans
    rw [heard]
    exact unread_births (fun _ _ => rfl) workshop _
  · apply (filterMap_hook _ _).symm.trans
    rw [heard]
    exact read_births (fun _ => rfl) workshop _

/-- Whatever else was done, the threads made at its requests were put under watch, each once, and
the metrics heard of each once. -/
structure Staffs {α : Type} (workshop : Workshop) (told : Told α) (left : Workshop) : Prop where
  born : told.entries.filterMap Entry.birth?
    = workshop.births (told.entries.filterMap Entry.request?)
  calls : left.calls = workshop.calls + (told.entries.filterMap Entry.request?).length
  factory : left.factory = workshop.factory
  metrics : left.metrics = workshop.metrics
  roster : left.watch.roster = workshop.watch.roster
    ++ (workshop.factory.makings workshop.calls (told.entries.filterMap Entry.request?)).map (·.key)
  records : ∀ asked, workshop.Records asked →
    left.Records (asked ++ told.entries.filterMap Entry.request?)

structure Enrols {α : Type} (workshop : Workshop) (told : Told α) (left : Workshop) : Prop where
  routine : told.Only Entry.IsRoutine
  staffs : workshop.Staffs told left

variable {α β : Type} {middle : Workshop}

theorem Staffs.bind {first : Told α} {next : α → Told β} (one : workshop.Staffs first middle)
    (other : middle.Staffs (next first.value) left) : workshop.Staffs (first >>= next) left where
  born := by
    rw [Told.entries_bind, List.filterMap_append, List.filterMap_append, one.born, other.born]
    unfold births
    rw [one.factory, one.calls, one.metrics, ThreadFactory.makings_append, List.flatMap_append]
  calls := by
    rw [other.calls, one.calls, Told.entries_bind, List.filterMap_append, List.length_append,
      Nat.add_assoc]
  factory := other.factory.trans one.factory
  metrics := other.metrics.trans one.metrics
  roster := by
    rw [other.roster, one.roster, one.factory, one.calls, Told.entries_bind, List.filterMap_append,
      ThreadFactory.makings_append, List.map_append, List.append_assoc]
  records asked recorded := by
    rw [Told.entries_bind, List.filterMap_append, ← List.append_assoc]
    exact other.records _ (one.records asked recorded)

theorem staffs_quiet {told : Told α}
    (quiet : told.Only fun entry => entry.birth? = none ∧ entry.request? = none) {watch : Watch}
    (sheds : workshop.watch.Sheds watch) : workshop.Staffs told { workshop with watch } := by
  have unborn : told.entries.filterMap Entry.birth? = [] :=
    List.filterMap_eq_nil_iff.mpr fun entry present => (quiet entry present).1
  have unasked : told.entries.filterMap Entry.request? = [] :=
    List.filterMap_eq_nil_iff.mpr fun entry present => (quiet entry present).2
  constructor
  · rw [unborn, unasked]
    rfl
  · rw [unasked]
    rfl
  · rfl
  · rfl
  · obtain ⟨lost, rfl⟩ := sheds
    rw [unasked]
    exact (workshop.watch.roster_foldl_forget lost).trans (List.append_nil _).symm
  · intro asked recorded
    rw [unasked, List.append_nil]
    exact recorded.thins rfl rfl sheds.thins

theorem Enrols.bind {first : Told α} {next : α → Told β} (one : workshop.Enrols first middle)
    (other : middle.Enrols (next first.value) left) : workshop.Enrols (first >>= next) left :=
  ⟨one.routine.bind other.routine, one.staffs.bind other.staffs⟩

theorem enrols_stopping {told : Told α} (stopping : told.Only Entry.IsStopping) {watch : Watch}
    (sheds : workshop.watch.Sheds watch) : workshop.Enrols told { workshop with watch } := by
  constructor
  · exact stopping.mono fun _ => Or.inr
  · refine staffs_quiet (stopping.mono ?_) sheds
    intro entry stops
    cases stops <;> exact ⟨rfl, rfl⟩

theorem enrols_pure (workshop : Workshop) (value : α) :
    workshop.Enrols (pure value : Told α) workshop :=
  enrols_stopping (only_pure value) (.refl workshop.watch)

theorem enrols_log (workshop : Workshop) {event : LogEvent} (target : event.target ≠ .watchdog) :
    workshop.Enrols (Told.tell (.log .caller event)) workshop :=
  enrols_stopping (only_tell (.log .caller target)) (.refl workshop.watch)

theorem Enrols.accounts {told : Told α} (enrols : workshop.Enrols told left) :
    workshop.Accounts told left := by
  have heard : told.entries.filterMap Entry.hook? = told.entries.filterMap Entry.birth? := by
    apply List.filterMap_congr
    intro entry present
    rcases enrols.routine entry present with making | stopping
    · cases entry with
      | log _ _ | deed _ => rfl
      | call request =>
          cases request with
          | metrics sink hook =>
              cases hook with
              | threadCreated _ => rfl
              | _ => cases making
          | _ => rfl
    · cases stopping <;> rfl
  exact ⟨heard.trans enrols.staffs.born, enrols.staffs.calls, enrols.staffs.factory,
    enrols.staffs.metrics⟩

theorem tellMetrics_only {allowed : Entry → Prop} {hook : MetricsHook}
    (heard : ∀ sink, allowed (.call (.metrics sink hook))) (metrics : Option MetricsSink) :
    (tellMetrics metrics hook).Only allowed := by
  cases metrics with
  | none => exact only_pure ()
  | some sink => exact only_tell (heard sink)

theorem newThread_routine (workshop : Workshop) (asked : Descriptor) :
    (workshop.newThread asked).Only Entry.IsRoutine := by
  have started (event : LogEvent) (target : event.target ≠ .watchdog) :
      (Told.tell (.log .caller event)).Only Entry.IsRoutine := only_tell (Or.inr (.log _ target))
  have metered (given : Descriptor) :
      (tellMetrics workshop.metrics (.threadCreated given)).Only Entry.IsRoutine :=
    tellMetrics_only (fun _ => Or.inl trivial) workshop.metrics
  unfold newThread
  refine Only.bind (only_tell (Or.inl trivial)) ?_
  dsimp only
  split
  · exact only_pure _
  · split
    · exact only_pure _
    · exact (started _ Target.noConfusion).bind ((metered _).bind (only_pure _))

theorem request_newThread (workshop : Workshop) (asked : Descriptor) :
    (workshop.newThread asked).entries.filterMap Entry.request? = [asked] := by
  cases made : workshop.factory.make? workshop.calls asked with
  | none =>
      obtain ⟨halt, yields⟩ := workshop.newThread_unmade made
      exact (yields.seenBy fun _ _ => rfl).2
  | some thread =>
      have yields := workshop.newThread_made made
      have told := (yields.seenBy (fun _ _ => rfl) : Told.Yields Entry.request? _ _ _).2
      rw [told, creations]
      cases workshop.metrics <;> rfl

theorem newThread_enrols (workshop : Workshop) (asked : Descriptor) :
    workshop.Enrols (workshop.newThread asked) (workshop.newThread asked).value.2 := by
  have request := workshop.request_newThread asked
  constructor
  · exact workshop.newThread_routine asked
  · cases made : workshop.factory.make? workshop.calls asked with
    | none =>
        obtain ⟨halt, yields⟩ := workshop.newThread_unmade made
        have hooks : (workshop.newThread asked).entries.filterMap Entry.birth? = [] :=
          (yields.seenBy fun _ _ => rfl).2
        have nobody : workshop.factory.makings workshop.calls [asked] = [] := by
          rw [ThreadFactory.makings_singleton, made, Option.toList_none]
        rw [yields.1]
        constructor
        · rw [hooks, request, births, nobody]
          rfl
        · rw [request]
          rfl
        · rfl
        · rfl
        · rw [request, nobody]
          exact (List.append_nil _).symm
        · intro earlier records
          rw [request]
          exact records.skip made
    | some thread =>
        have yields := workshop.newThread_made made
        have hooks : (workshop.newThread asked).entries.filterMap Entry.birth?
            = hooks workshop.metrics (.threadCreated thread.descriptor) := by
          rw [(yields.seenBy fun _ _ => rfl : Told.Yields Entry.birth? _ _ _).2, creations]
          cases workshop.metrics <;> rfl
        have one : workshop.factory.makings workshop.calls [asked] = [thread] := by
          rw [ThreadFactory.makings_singleton, made, Option.toList_some]
        rw [yields.1]
        constructor
        · rw [hooks, request, births, one]
          exact (List.append_nil _).symm
        · rw [request]
          rfl
        · rfl
        · rfl
        · rw [request, one]
          rfl
        · intro earlier records
          rw [request]
          exact records.enlist made

theorem newThread_accounts (workshop : Workshop) (asked : Descriptor) :
    workshop.Accounts (workshop.newThread asked) (workshop.newThread asked).value.2 :=
  (workshop.newThread_enrols asked).accounts

theorem joinAll_enrols (workshop : Workshop) (threads : List RuntimeThread) :
    workshop.Enrols (workshop.joinAll threads) (workshop.joinAll threads).value := by
  induction threads generalizing workshop with
  | nil => exact enrols_pure workshop workshop
  | cons thread threads ih =>
      have told : (workshop.join thread).Only Entry.IsStopping :=
        (only_tell (.deed (.joined thread.key))).bind (only_pure _)
      have joined : workshop.Enrols (workshop.join thread) (workshop.join thread).value :=
        enrols_stopping told (workshop.watch.sheds_forget thread.key)
      exact joined.bind (ih _)

end Workshop

/-! ### Pools -/

namespace Pool

open Workshop

theorem releaseAll_enrols (workshop : Workshop) (threads : List RuntimeThread) :
    workshop.Enrols (releaseAll workshop threads) (releaseAll workshop threads).value := by
  induction threads generalizing workshop with
  | nil => exact enrols_pure workshop workshop
  | cons thread threads ih =>
      have released : workshop.Enrols (Told.deed (.released thread.key))
          { workshop with watch := workshop.watch.forget thread.key } :=
        enrols_stopping (only_tell (.deed _)) (workshop.watch.sheds_forget thread.key)
      exact released.bind (ih _)

theorem makeThreads_enrols (shape : PoolShape) (workshop : Workshop) (made : List RuntimeThread)
    (index remaining : Nat) :
    workshop.Enrols (makeThreads shape workshop made index remaining)
      (makeThreads shape workshop made index remaining).value.2.2 := by
  induction remaining generalizing workshop made index with
  | zero => exact enrols_pure workshop _
  | succ remaining ih =>
      rw [makeThreads]
      dsimp only
      split
      · exact enrols_pure workshop _
      · rename_i descriptor _
        have asked := workshop.newThread_enrols descriptor
        rw [Told.value_bind]
        refine asked.bind ?_
        rcases (workshop.newThread descriptor).value with ⟨⟨halt⟩ | ⟨thread⟩, left⟩
        · exact enrols_pure left _
        · exact ih left (made ++ [thread]) (index + 1)

theorem start_enrols (workshop : Workshop) (shape : PoolShape) :
    workshop.Enrols (start workshop shape) (start workshop shape).value.2 := by
  unfold start
  split
  · exact enrols_pure workshop _
  · split
    · exact enrols_pure workshop _
    · have threads := makeThreads_enrols shape workshop [] 0 shape.size
      rw [Told.value_bind]
      refine threads.bind ?_
      rcases (makeThreads shape workshop [] 0 shape.size).value with
        ⟨⟨fault | panic⟩ | ⟨⟨⟩⟩, made, left⟩
      · exact (left.joinAll_enrols made).bind (enrols_pure _ _)
      · exact (releaseAll_enrols left made).bind (enrols_pure _ _)
      · exact (enrols_log left Target.noConfusion).bind (enrols_pure left _)

end Pool

namespace Engine

open Workshop

theorem askForPool_enrols (factory : ExecutorFactory) (calls : Nat) (workshop : Workshop)
    (shape : PoolShape) :
    workshop.Enrols (askForPool factory calls workshop shape)
      (askForPool factory calls workshop shape).value.2 := by
  have asked : workshop.Enrols (Told.call (.newExecutor factory shape)) workshop := by
    constructor
    · exact only_tell (Or.inl trivial)
    · exact staffs_quiet (only_tell ⟨rfl, rfl⟩) (.refl workshop.watch)
  unfold askForPool
  rw [Told.value_bind]
  refine asked.bind ?_
  cases factory.answer calls shape with
  | error reason => exact enrols_pure workshop _
  | ok given => exact Pool.start_enrols workshop given

theorem newExecutor_enrols (engine : Engine) (name : String) (size : Nat) :
    engine.workshop.Enrols (engine.newExecutor name size)
      (engine.newExecutor name size).value.2.workshop :=
  (askForPool_enrols engine.executorFactory engine.executorCalls engine.workshop
    ⟨name, size, .worker, engine.options.maxWorkerExecuteTime⟩).bind (enrols_pure _ _)

theorem newExecutor_accounts (engine : Engine) (name : String) (size : Nat) :
    engine.workshop.Accounts (engine.newExecutor name size)
        (engine.newExecutor name size).value.2.workshop
      ∧ (engine.newExecutor name size).value.2.closed = engine.closed
      ∧ (engine.newExecutor name size).value.2.metrics = engine.metrics :=
  ⟨(engine.newExecutor_enrols name size).accounts, rfl, rfl⟩

/-! ### Starts -/

theorem startLoops_enrols (budget : Span) (workshop : Workshop) (started : List EventLoop)
    (index remaining : Nat) :
    workshop.Enrols (startLoops budget workshop started index remaining)
      (startLoops budget workshop started index remaining).value.2.2 := by
  induction remaining generalizing workshop started index with
  | zero => exact enrols_pure workshop _
  | succ remaining ih =>
      rw [startLoops]
      dsimp only
      split
      · exact enrols_pure workshop _
      · rename_i descriptor _
        have asked := workshop.newThread_enrols descriptor
        rw [Told.value_bind]
        refine asked.bind ?_
        rcases (workshop.newThread descriptor).value with ⟨⟨halt⟩ | ⟨thread⟩, left⟩
        · exact enrols_pure left _
        · exact ih left (started ++ [⟨loopName index, .create [thread]⟩]) (index + 1)

theorem startThreads_enrols (options : Options) (factory : ExecutorFactory) (workshop : Workshop) :
    workshop.Enrols (startThreads options factory workshop)
      (startThreads options factory workshop).value.2.2 := by
  unfold startThreads
  dsimp only
  split
  · exact enrols_pure workshop _
  · have loops := startLoops_enrols options.maxEventLoopExecuteTime workshop [] 0
      options.eventLoopPoolSize.toNat
    rw [Told.value_bind]
    refine loops.bind ?_
    rcases (startLoops options.maxEventLoopExecuteTime workshop [] 0
      options.eventLoopPoolSize.toNat).value with ⟨⟨halt⟩ | ⟨⟨⟩⟩, started, between⟩
    · exact enrols_pure between _
    · have pool := askForPool_enrols factory 0 between (workersShape options)
      unfold workersShape at pool
      dsimp only
      rw [Told.value_bind]
      refine pool.bind ?_
      generalize (askForPool factory 0 between _).value = answered
      obtain ⟨⟨halt⟩ | ⟨pool⟩, left⟩ := answered
      · exact enrols_pure left _
      · exact enrols_pure left _

theorem tearDown_enrols (loops : List EventLoop) (workshop : Workshop) :
    workshop.Enrols (tearDown loops workshop) (tearDown loops workshop).value := by
  obtain ⟨stops, sheds⟩ := stopLoops_stopping workshop.watch .caller loops
  have stopped : (Told.deed .watchdogStopped).Only Entry.IsStopping := only_tell (.deed _)
  exact enrols_stopping (stops.bind (stopped.bind (only_pure _))) sheds

section Told

variable {allowed : Entry → Prop}

theorem tellStart_only (deed : allowed (.deed .watchdogStarted))
    (log : ∀ event, allowed (.log .caller event)) (interval : Span) :
    (Watchdog.tellStart interval).Only allowed := by
  have started : (Told.deed .watchdogStarted).Only allowed := only_tell deed
  exact started.bind (only_tell (log _))

theorem initSelector_only
    (introduced : ∀ selector manager, allowed (.call (.initSelector selector manager)))
    (cluster : Option ClusterBinding) : (initSelector cluster).Only allowed := by
  cases cluster with
  | none => exact only_pure none
  | some binding =>
      have told : (Told.call (.initSelector binding.selector binding.manager)).Only allowed :=
        only_tell (introduced _ _)
      exact told.bind (only_pure _)

/-- Whether it succeeds or fails, a start tells of threads, of the cluster manager that it hands over,
and of its success. -/
theorem start_only (routine : ∀ entry, entry.IsRoutine → allowed entry)
    (log : ∀ event, allowed (.log .caller event))
    (introduced : ∀ selector manager, allowed (.call (.initSelector selector manager)))
    {took : Span} (completed : ∀ sink, allowed (.call (.metrics sink (.runtimeStarted took))))
    (host : Host) (files : FileTree) (options : Options) (bindings : Bindings)
    (cluster : Option ClusterBinding) (handler : Option BlockedHandler) :
    (start host files options bindings cluster handler took).Only allowed := by
  have begun := tellStart_only (routine _ (Or.inr (.deed _))) log options.blockedThreadCheckInterval
  have threads := startThreads_enrols options bindings.executorFactory
    (create bindings.threadFactory bindings.metrics)
  have metered := tellMetrics_only completed bindings.metrics
  have noted (event : LogEvent) : (Told.tell (.log .caller event)).Only allowed :=
    only_tell (log event)
  unfold start
  refine begun.bind ((threads.routine.mono routine).bind ?_)
  dsimp only
  split
  · exact ((tearDown_enrols _ _).routine.mono routine).bind (only_pure _)
  · exact (initSelector_only introduced cluster).bind
      (metered.bind ((noted _).bind (only_pure _)))

end Told

def workshopLeft : Except AbortedStart Engine → Workshop
  | .error aborted => aborted.workshop
  | .ok engine => engine.workshop

theorem start_staffs (host : Host) (files : FileTree) (options : Options) (bindings : Bindings)
    (cluster : Option ClusterBinding) (handler : Option BlockedHandler) (took : Span) :
    let told := start host files options bindings cluster handler took
    (Workshop.create bindings.threadFactory bindings.metrics).Staffs told
      (workshopLeft told.value) := by
  let quiet (entry : Entry) : Prop := entry.birth? = none ∧ entry.request? = none
  have aside {α : Type} {told : Told α} (unread : told.Only quiet) (workshop : Workshop) :
      workshop.Staffs told workshop := staffs_quiet unread (.refl workshop.watch)
  have begun : (Watchdog.tellStart options.blockedThreadCheckInterval).Only quiet :=
    tellStart_only ⟨rfl, rfl⟩ (fun _ => ⟨rfl, rfl⟩) _
  have introduced : (initSelector cluster).Only quiet :=
    initSelector_only (fun _ _ => ⟨rfl, rfl⟩) cluster
  have metered : (tellMetrics bindings.metrics (.runtimeStarted took)).Only quiet :=
    tellMetrics_only (fun _ => ⟨rfl, rfl⟩) bindings.metrics
  have noted {event : LogEvent} : (Told.tell (.log .caller event)).Only quiet := only_tell ⟨rfl, rfl⟩
  have threads := startThreads_enrols options bindings.executorFactory
    (create bindings.threadFactory bindings.metrics)
  intro told
  unfold told start
  rw [Told.value_bind]
  refine (aside begun _).bind ?_
  dsimp only
  rw [Told.value_bind]
  refine threads.staffs.bind ?_
  generalize (startThreads options bindings.executorFactory
    (create bindings.threadFactory bindings.metrics)).value = outcome
  obtain ⟨⟨halt⟩ | ⟨workers⟩, loops, left⟩ := outcome
  · exact (tearDown_enrols loops left).staffs.bind (aside (only_pure _) _)
  · exact aside (introduced.bind (metered.bind (noted.bind (only_pure _)))) left

end Engine

end Reactor
