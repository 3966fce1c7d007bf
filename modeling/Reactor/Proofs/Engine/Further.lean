import Reactor.Proofs.Engine.Counting

/-!
Further pools. A pool that is asked for while the runtime runs gets threads that nobody had before,
all or none of them: once one cannot be made, those made before are waited for, and only the number of
requests tells that the pool was asked for. A pool that was had takes its own threads from the watch
when it ends, whenever that is, and nobody else's.
-/

namespace Reactor

open Told

def Entry.joined? : Entry → Option Nat
  | .deed (.joined key) => some key
  | _ => none

theorem request_creations (factory : ThreadFactory) (metrics : Option MetricsSink)
    {asked : List Descriptor} {threads : List RuntimeThread}
    (same : threads.length = asked.length) :
    (creations factory metrics asked threads).filterMap Entry.request? = asked := by
  induction asked generalizing threads with
  | nil => rfl
  | cons first asked ih =>
      cases threads with
      | nil => cases same
      | cons thread threads =>
          have one : (creations factory metrics [first] [thread]).filterMap Entry.request?
              = [first] := by
            cases metrics <;> rfl
          rw [creations_cons, List.filterMap_append, one, ih (Nat.succ.inj same)]
          rfl

theorem joined_creations (factory : ThreadFactory) (metrics : Option MetricsSink)
    (asked : List Descriptor) (threads : List RuntimeThread) :
    (creations factory metrics asked threads).filterMap Entry.joined? = [] := by
  apply List.filterMap_eq_nil_iff.mpr
  intro entry present
  exact (creations_making _ _ _ _ entry present).unread (fun _ _ => rfl) (fun _ _ => rfl)
    fun _ _ => rfl

theorem request_farewells (threads : List RuntimeThread) :
    (farewells threads).filterMap Entry.request? = [] := by
  unfold farewells
  rw [List.filterMap_map, List.filterMap_eq_nil_iff]
  intro thread _
  rfl

theorem joined_farewells (threads : List RuntimeThread) :
    (farewells threads).filterMap Entry.joined? = threads.map (·.key) := by
  unfold farewells
  rw [List.filterMap_map]
  exact congrFun List.filterMap_eq_map threads

namespace ThreadFactory

/-- The factory gives threads at requests in a row, none of them with a NUL in its name, until it fails
at the one with this number, if so many are made. -/
structure FailsAt (factory : ThreadFactory) (calls : Nat) (wanted : Nat → Descriptor)
    (count failing : Nat) : Prop where
  before : ∀ index < min count failing,
    (factory.make? (calls + index) (wanted index)).isSome = true
  there : failing < count → ∃ reason,
    factory.answer (calls + failing) (wanted failing) = .error reason

theorem makes_of_each {factory : ThreadFactory} {wanted : Nat → Descriptor} {calls first count : Nat}
    (each : ∀ index < count,
      (factory.make? (calls + index) (wanted (first + index))).isSome = true) :
    ∃ threads, factory.Makes calls (wantedFrom wanted first count) threads := by
  induction count generalizing calls first with
  | zero => exact ⟨[], trivial⟩
  | succ count ih =>
      obtain ⟨thread, made⟩ := Option.isSome_iff_exists.mp (each 0 (Nat.succ_pos count))
      have later : ∀ index < count,
          (factory.make? (calls + 1 + index) (wanted (first + 1 + index))).isSome = true := by
        intro index within
        have shifted := each (index + 1) (Nat.succ_lt_succ within)
        rw [Nat.add_right_comm calls, Nat.add_right_comm first]
        exact shifted
      obtain ⟨others, makes⟩ := ih later
      exact ⟨thread :: others, made, makes⟩

theorem distinct_makings (factory : ThreadFactory) (asked : List Descriptor) :
    ((factory.makings 0 asked).map (·.key)).Nodup :=
  (factory.keys_makings 0 asked).nodup List.nodup_range'

end ThreadFactory

namespace Workshop

variable {workshop : Workshop} {asked : List Descriptor}

theorem Records.stranger (records : workshop.Records asked) {key : Nat}
    (late : workshop.calls ≤ key) : workshop.watch.monitor? key = none := by
  cases shown : workshop.watch.monitor? key with
  | none => rfl
  | some monitor =>
      obtain ⟨thread, member, rfl, _⟩ := records.covers.monitors key monitor shown
      have known := (workshop.factory.keys_makings 0 asked).subset
        (List.mem_map_of_mem member)
      rw [List.mem_range'_1] at known
      rw [records.calls] at late
      omega

end Workshop

/-! ### The end of a pool -/

namespace Pool

/-- Everybody of the pool is waited for once, and they alone are no longer under watch. -/
structure Parts (pool : Pool) (watch : Watch) (told : Told (List Job × Pool × Watch)) : Prop where
  joined : told.entries.filterMap Entry.joined? = pool.crew.threads.map (·.key)
  watched : told.value.2.2.watched + pool.crew.threads.length = watch.watched
  gone : ∀ thread ∈ pool.crew.threads, told.value.2.2.monitor? thread.key = none
  others : ∀ key ∉ pool.crew.threads.map (·.key),
    told.value.2.2.monitor? key = watch.monitor? key

variable {pool : Pool} {actor : Actor}

theorem shutdown_outside (atWork : pool.crew.AtWork true)
    (outside : ∀ thread ∈ pool.crew.threads, actor ≠ .thread thread.key) (watch : Watch) :
    ∃ jobs stopped, (pool.shutdown watch actor).Yields Entry.joined?
      (jobs, stopped, watch.forgetAll pool.crew.threads) (pool.crew.threads.map (·.key)) := by
  let abnormal (report : String) : Told Unit :=
    Told.log actor .warn .executor "Pool thread exited abnormally"
      [("pool", .shown pool.shape.name), ("error", .shown report)]
  have quiet (report : String) : (abnormal report).entries.filterMap Entry.joined? = [] := rfl
  have forgets : (pool.crew.stop watch actor abnormal).value.2.2
      = watch.forgetAll pool.crew.threads :=
    Crew.watch_stop watch abnormal atWork.held outside
  have joins : (pool.crew.stop watch actor abnormal).entries.filterMap Entry.joined?
      = pool.crew.threads.map (·.key) := by
    rw [Crew.read_stop_outside (fun _ _ => rfl) pool.crew watch quiet outside, atWork.held,
      if_pos rfl]
    exact congrFun List.filterMap_eq_map _
  have stops : (pool.crew.stop watch actor abnormal).Yields Entry.joined?
      ((pool.crew.stop watch actor abnormal).value.1,
        (pool.crew.stop watch actor abnormal).value.2.1, watch.forgetAll pool.crew.threads)
      (pool.crew.threads.map (·.key)) := by
    constructor
    · rw [← forgets]
    · exact joins
  unfold shutdown
  rw [if_neg (by rw [atWork.accepting]; exact Bool.true_eq_false.mp)]
  exact ⟨_, _, stops.andLast ((yields_tell _).andThen (yields_pure _))⟩

theorem shutdown_parts {made : List RuntimeThread} {watch : Watch} (atWork : pool.crew.AtWork true)
    (outside : ∀ thread ∈ pool.crew.threads, actor ≠ .thread thread.key)
    (covers : watch.Covers made) (distinct : (made.map (·.key)).Nodup)
    (different : (pool.crew.threads.map (·.key)).Nodup)
    (alive : ∀ thread ∈ pool.crew.threads, watch.isAlive thread.key = true) :
    pool.Parts watch (pool.shutdown watch actor) := by
  obtain ⟨jobs, stopped, value, joined⟩ := shutdown_outside atWork outside watch
  constructor
  · exact joined
  · rw [value]
    exact covers.watched_forgetAll distinct different alive
  · intro thread present
    rw [value]
    exact (watch.monitor?_forgetAll _ _).trans (if_pos (List.mem_map_of_mem present))
  · intro key foreign
    rw [value]
    exact (watch.monitor?_forgetAll _ _).trans (if_neg foreign)

end Pool

/-! ### A further pool -/

namespace Engine

def furtherShape (engine : Engine) (name : String) (size : Nat) : PoolShape :=
  ⟨name, size, .worker, engine.options.maxWorkerExecuteTime⟩

def furtherWanted (engine : Engine) (name : String) (index : Nat) : Descriptor :=
  .worker (name ++ "-" ++ toString index) engine.options.maxWorkerExecuteTime

/-- A pool that was had: it holds these threads, who are under watch with all the others. -/
structure Gains (engine : Engine) (threads : List RuntimeThread) (pool : Pool)
    (told : Told (Except (Halt PoolFault) Pool × Engine)) : Prop where
  crew : pool.crew = .create threads
  joined : told.entries.filterMap Entry.joined? = []
  watched : told.value.2.watched = engine.watched + threads.length
  alive : ∀ thread ∈ threads, told.value.2.workshop.watch.isAlive thread.key = true
  others : ∀ key ∉ threads.map (·.key),
    told.value.2.workshop.watch.monitor? key = engine.workshop.watch.monitor? key
  -- Shut down again at once, the pool leaves the watch as it was.
  ends : ∀ actor, (∀ thread ∈ threads, actor ≠ .thread thread.key) →
    engine.workshop.watch.Agrees (pool.shutdown told.value.2.workshop.watch actor).value.2.2

/-- Threads that the factory makes for the first places of a further pool, and nobody knew before. -/
structure Recruits (engine : Engine) (name : String) (count : Nat)
    (threads : List RuntimeThread) : Prop where
  made : engine.workshop.factory.Makes engine.workshop.calls
    ((List.range count).map (engine.furtherWanted name)) threads
  distinct : (threads.map (·.key)).Nodup
  strangers : ∀ thread ∈ threads, engine.workshop.watch.monitor? thread.key = none

def Lacks (engine : Engine) (name : String) (size failing : Nat) (halt : Halt PoolFault) : Prop :=
  size = 0 ∧ halt = .failed (.noThreads name)
    ∨ failing < size ∧ ∃ reason,
      engine.workshop.factory.answer (engine.workshop.calls + failing)
          (engine.furtherWanted name failing) = .error reason
        ∧ halt = .failed (.noThread (name ++ "-" ++ toString failing) reason)

/-- What comes of asking for a pool, where these threads can be made for it before the factory fails
at the request with this number. -/
structure Further (engine : Engine) (name : String) (size failing : Nat)
    (threads : List RuntimeThread) (told : Told (Except (Halt PoolFault) Pool × Engine)) : Prop where
  asked : told.entries.filterMap Entry.request?
    = (List.range (min size (failing + 1))).map (engine.furtherWanted name)
  refused : (∃ halt, told.value.1 = .error halt) ↔ size = 0 ∨ failing < size
  -- All but the number of requests and the watch is as it was: the loops and the workers with their
  -- lines, the rotation, and whether the runtime is closed.
  frame : ∃ watch, told.value.2 =
    { engine with
      executorCalls := engine.executorCalls + 1
      workshop :=
        { engine.workshop with calls := engine.workshop.calls + min size (failing + 1), watch } }
  undone : ∀ halt, told.value.1 = .error halt → engine.Lacks name size failing halt
    ∧ told.entries.filterMap Entry.joined? = threads.map (·.key)
    ∧ engine.workshop.watch.Agrees told.value.2.workshop.watch
    ∧ told.value.2.watched = engine.watched
    ∧ ∀ now, told.value.2.workshop.watch.violations now = engine.workshop.watch.violations now
  done : ∀ pool, told.value.1 = .ok pool →
    threads.length = size ∧ engine.Gains threads pool told

variable {engine : Engine}

theorem newExecutor_yields (standard : engine.executorFactory = .standard) {name : String}
    {size : Nat} {answer : Except (Halt PoolFault) Pool} {left : Workshop} {seen : List Entry}
    (starts : (Pool.start engine.workshop (engine.furtherShape name size)).Yields Entry.doing?
      (answer, left) seen) :
    (engine.newExecutor name size).Yields Entry.doing?
      (answer, { engine with executorCalls := engine.executorCalls + 1, workshop := left })
      (.call (.newExecutor engine.executorFactory (engine.furtherShape name size)) :: seen) := by
  unfold newExecutor askForPool
  rw [standard]
  exact ((yields_tell _).bind starts).andLast (yields_pure _)

theorem Recruits.makes {name : String} {count : Nat} {threads : List RuntimeThread}
    (recruits : engine.Recruits name count threads) (size : Nat) :
    engine.workshop.factory.Makes engine.workshop.calls
      (wantedFrom (Pool.wanted (engine.furtherShape name size)) 0 count) threads := by
  unfold wantedFrom
  rw [← List.range_eq_range']
  exact recruits.made

theorem recruits_of_failsAt {asked : List Descriptor} (records : engine.workshop.Records asked)
    {name : String} {size failing : Nat}
    (fails : engine.workshop.factory.FailsAt engine.workshop.calls (engine.furtherWanted name) size
      failing) :
    ∃ threads, engine.Recruits name (min size failing) threads := by
  have each : ∀ index < min size failing, (engine.workshop.factory.make?
      (engine.workshop.calls + index) (engine.furtherWanted name (0 + index))).isSome = true := by
    intro index within
    rw [Nat.zero_add]
    exact fails.before index within
  obtain ⟨threads, makes⟩ := ThreadFactory.makes_of_each each
  refine ⟨threads, ?_, ?_, ?_⟩
  · rw [List.range_eq_range']
    exact makes
  · rw [makes.keys]
    exact List.nodup_range'
  · intro thread listed
    have present := List.mem_map_of_mem (f := (·.key)) listed
    rw [makes.keys, List.mem_range'_1] at present
    exact records.stranger present.1

section Asking

variable {name : String} {size failing : Nat} {threads : List RuntimeThread}

theorem further_of_error {told : Told (Except (Halt PoolFault) Pool × Engine)}
    {halt : Halt PoolFault} {watch : Watch} {seen : List Entry} (requests : Nat)
    (yields : told.Yields Entry.doing? (.error halt,
      { engine with
        executorCalls := engine.executorCalls + 1
        workshop := { engine.workshop with calls := engine.workshop.calls + requests, watch } })
      seen)
    (count : min size (failing + 1) = requests)
    (asked : seen.filterMap Entry.request? = (List.range requests).map (engine.furtherWanted name))
    (joined : seen.filterMap Entry.joined? = threads.map (·.key))
    (agrees : engine.workshop.watch.Agrees watch) (lacks : engine.Lacks name size failing halt) :
    engine.Further name size failing threads told := by
  have seenBy {γ : Type} {read : Entry → Option γ}
      (unlogged : ∀ actor event, read (.log actor event) = none) :
      told.entries.filterMap read = seen.filterMap read := (yields.seenBy unlogged).2
  constructor
  · rw [count]
    exact (seenBy fun _ _ => rfl).trans asked
  · constructor
    · intro _
      exact lacks.imp And.left And.left
    · intro _
      exact ⟨halt, congrArg Prod.fst yields.1⟩
  · rw [count]
    exact ⟨watch, congrArg Prod.snd yields.1⟩
  · intro other answered
    rw [yields.1] at answered
    cases answered
    refine ⟨lacks, (seenBy fun _ _ => rfl).trans joined, ?_⟩
    rw [yields.1]
    exact ⟨agrees, agrees.watched, agrees.violations⟩
  · intro pool answered
    rw [yields.1] at answered
    cases answered

/-- A pool without threads is refused before anybody is asked. -/
theorem newExecutor_empty (standard : engine.executorFactory = .standard) (name : String)
    (failing : Nat) : engine.Further name 0 failing [] (engine.newExecutor name 0) := by
  have starts : (Pool.start engine.workshop (engine.furtherShape name 0)).Yields Entry.doing?
      (.error (.failed (.noThreads name)), engine.workshop) [] := yields_pure _
  have yields := newExecutor_yields standard starts
  exact further_of_error 0 yields (Nat.zero_min _) rfl rfl (.refl _) (Or.inl ⟨rfl, rfl⟩)

/-- Whoever was made for a pool that lacks a thread is waited for, and was nobody's thread but the
pool's. -/
theorem newExecutor_lacking (standard : engine.executorFactory = .standard)
    (fits : Pool.bytesPerThread * size ≤ allocationLimit)
    (recruits : engine.Recruits name failing threads) (within : failing < size) {reason : String}
    (refused : engine.workshop.factory.answer (engine.workshop.calls + failing)
      (engine.furtherWanted name failing) = .error reason) :
    engine.Further name size failing threads (engine.newExecutor name size) := by
  have makes := recruits.makes size
  have starts := Pool.start_failed engine.workshop (Pool.regular_worker rfl) within fits makes refused
  have yields := newExecutor_yields standard starts
  refine further_of_error (failing + 1) yields (Nat.min_eq_right within) ?_ ?_
    (Watch.agrees_enlistAll_forgetAll recruits.strangers)
    (Or.inr ⟨within, reason, refused, rfl⟩)
  · rw [List.range_succ, List.map_append, List.range_eq_range']
    simp only [List.filterMap_cons, List.filterMap_append, Entry.request?,
      request_creations _ _ makes.length, request_farewells, List.append_nil]
    rfl
  · simp only [List.filterMap_cons, List.filterMap_append, Entry.joined?,
      joined_creations, joined_farewells, List.filterMap_nil, List.append_nil, List.nil_append]

theorem gains_of_watch {count : Nat} {made : List RuntimeThread} {pool : Pool}
    {told : Told (Except (Halt PoolFault) Pool × Engine)} (recruits : engine.Recruits name count threads)
    (watch : told.value.2.workshop.watch = engine.workshop.watch.enlistAll threads)
    (covers : told.value.2.workshop.watch.Covers made) (distinct : (made.map (·.key)).Nodup)
    (crew : pool.crew = .create threads)
    (unjoined : told.entries.filterMap Entry.joined? = []) : engine.Gains threads pool told := by
  have alive : ∀ thread ∈ threads, told.value.2.workshop.watch.isAlive thread.key = true := by
    intro thread listed
    rw [watch]
    exact engine.workshop.watch.isAlive_enlistAll listed
  have again : engine.workshop.watch.Agrees (told.value.2.workshop.watch.forgetAll threads) := by
    rw [watch]
    exact Watch.agrees_enlistAll_forgetAll recruits.strangers
  constructor
  · exact crew
  · exact unjoined
  · exact (covers.watched_forgetAll distinct recruits.distinct alive).symm.trans
      (congrArg (· + threads.length) again.watched)
  · exact alive
  · intro key foreign
    rw [watch]
    exact engine.workshop.watch.monitor?_enlistAll threads foreign
  · intro actor outside
    have atWork : pool.crew.AtWork true := by
      rw [crew]
      exact Crew.atWork_create threads
    have theirs : pool.crew.threads = threads := congrArg Crew.threads crew
    subst theirs
    obtain ⟨jobs, stopped, value, _⟩ := Pool.shutdown_outside atWork outside
      told.value.2.workshop.watch
    rw [value]
    exact again

theorem newExecutor_complete {asked : List Descriptor} (records : engine.workshop.Records asked)
    (standard : engine.executorFactory = .standard)
    (fits : Pool.bytesPerThread * size ≤ allocationLimit)
    (recruits : engine.Recruits name size threads) (inhabited : size ≠ 0)
    (enough : size ≤ failing) :
    engine.Further name size failing threads (engine.newExecutor name size) := by
  have makes := recruits.makes size
  have starts := Pool.start_made engine.workshop (Pool.regular_worker rfl) inhabited fits makes
  have yields := newExecutor_yields standard starts
  have requests : (engine.newExecutor name size).entries.filterMap Entry.request?
      = (List.range size).map (engine.furtherWanted name) := by
    rw [(yields.seenBy fun _ _ => rfl).2, List.filterMap_cons, List.range_eq_range']
    exact request_creations _ _ makes.length
  have all : min size (failing + 1) = size := Nat.min_eq_left (Nat.le_succ_of_le enough)
  constructor
  · rw [all]
    exact requests
  · rw [yields.1]
    constructor
    · rintro ⟨halt, answered⟩
      cases answered
    · rintro (empty | short)
      · exact absurd empty inhabited
      · exact absurd enough (Nat.not_le.mpr short)
  · refine ⟨engine.workshop.watch.enlistAll threads, ?_⟩
    rw [yields.1, all, ← makes.length_wantedFrom]
    rfl
  · intro halt answered
    rw [yields.1] at answered
    cases answered
  · intro pool answered
    -- The threads are covered with all those made before, whoever of these is still there.
    have covers := ((engine.newExecutor_enrols name size).staffs.records asked records).covers
    refine ⟨makes.length_wantedFrom, gains_of_watch recruits ?_ covers
      (ThreadFactory.distinct_makings _ _) ?_ ?_⟩
    · rw [yields.1]
      rfl
    · rw [yields.1] at answered
      cases answered
      rfl
    · rw [(yields.seenBy fun _ _ => rfl).2, List.filterMap_cons]
      exact joined_creations _ _ _ _

theorem newExecutor_further {asked : List Descriptor} (records : engine.workshop.Records asked)
    (standard : engine.executorFactory = .standard)
    (fits : Pool.bytesPerThread * size ≤ allocationLimit)
    (fails : engine.workshop.factory.FailsAt engine.workshop.calls (engine.furtherWanted name) size
      failing) :
    ∃ threads, engine.Recruits name (min size failing) threads
      ∧ engine.Further name size failing threads (engine.newExecutor name size) := by
  obtain ⟨threads, recruits⟩ := recruits_of_failsAt records fails
  refine ⟨threads, recruits, ?_⟩
  by_cases empty : size = 0
  · subst empty
    have nobody : threads = [] := by
      have length := recruits.made.length
      rw [Nat.zero_min] at length
      exact List.length_eq_zero_iff.mp length
    rw [nobody]
    exact newExecutor_empty standard name failing
  · by_cases within : failing < size
    · obtain ⟨reason, refused⟩ := fails.there within
      rw [Nat.min_eq_right (Nat.le_of_lt within)] at recruits
      exact newExecutor_lacking standard fits recruits within refused
    · have enough : size ≤ failing := Nat.le_of_not_lt within
      rw [Nat.min_eq_left enough] at recruits
      exact newExecutor_complete records standard fits recruits empty enough

end Asking

end Engine

namespace Books

def Reached (books : Books) : Prop :=
  ∃ host files options bindings cluster handler took engine affairs,
    let begun := Engine.start host files options bindings cluster handler took
    begun.value = .ok engine ∧ books = ((opened begun.entries engine).follow affairs).value

variable {books : Books}

theorem Reached.kept (reached : books.Reached) : ∃ bindings asked, books.Kept bindings asked := by
  obtain ⟨host, files, options, bindings, cluster, handler, took, engine, affairs, started, rfl⟩ :=
    reached
  exact ⟨bindings, _, (follow_keeps (kept_opened started) affairs).kept⟩

def afterPool (books : Books) (name : String) (size : Nat) : Books :=
  (books.attend (.own (.pool name size) fun _ => nofun)).value

/-- A further pool of any size, asked for at any moment, comes with all of its threads or is refused
with none. Where the factory fails at one of them, the pool asks for no more, waits once for each that
it got, and leaves everything as it was but the number of requests. Otherwise its threads are watched
beside the others; and whenever the pool is shut down, with whatever is in its line and by whoever is
none of them, they are waited for and the watch goes on over all others. -/
theorem further_pool_all_or_nothing (reached : books.Reached) {name : String} {size failing : Nat}
    (standard : books.course.life.engine.executorFactory = .standard)
    (fits : Pool.bytesPerThread * size ≤ allocationLimit)
    (fails : books.course.workshop.factory.FailsAt books.course.workshop.calls
      (books.course.life.engine.furtherWanted name) size failing) :
    let runtime := books.course.life.engine
    ∃ threads, runtime.Recruits name (min size failing) threads
      ∧ runtime.Further name size failing threads (runtime.newExecutor name size)
      ∧ ∀ (affairs : List Affair) (pool : Pool) (actor : Actor),
        let watch := ((books.afterPool name size).follow affairs).value.course.workshop.watch
        pool.crew.threads = threads → pool.crew.AtWork true →
        (∀ thread ∈ threads, watch.isAlive thread.key = true) →
        (∀ thread ∈ threads, actor ≠ .thread thread.key) →
        pool.Parts watch (pool.shutdown watch actor) := by
  intro runtime
  obtain ⟨bindings, asked, kept⟩ := reached.kept
  obtain ⟨threads, recruits, further⟩ :=
    Engine.newExecutor_further kept.records standard fits fails
  refine ⟨threads, recruits, further, ?_⟩
  intro affairs pool actor watch same atWork alive outside
  subst same
  obtain ⟨later, _⟩ := follow_keeps (attend_keeps kept _).kept affairs
  exact Pool.shutdown_parts atWork outside later.records.covers
    (ThreadFactory.distinct_makings _ _) recruits.distinct alive

/-- A factory that has six threads to give. -/
def spent : ThreadFactory where
  name := some "spent"
  answer calls asked := if calls < 6 then .ok (asked, .runs) else .error "no more threads"

def spentBindings : Bindings := { Life.brittle with threadFactory := spent }

def quartet : Engine :=
  let loop := Engine.loopWanted Engine.small.maxEventLoopExecuteTime
  let worker := Pool.wanted (Engine.workersShape Engine.small)
  .unused default default Engine.small spentBindings none none (Engine.workersShape Engine.small)
    [⟨0, loop 0, .runs⟩, ⟨1, loop 1, .runs⟩] [⟨2, worker 0, .runs⟩, ⟨3, worker 1, .runs⟩]

def busy : Books :=
  let begun := Engine.start default default Engine.small spentBindings none none default
  ((opened begun.entries quartet).follow
    [.own (.use (.submit .blocking false)) fun _ => nofun,
      .own (.use (.receive (.worker 0) 5)) fun _ => nofun,
      .own (.use (.submit .blocking true)) fun _ => nofun,
      .own (.use (.submit .rotation false)) fun _ => nofun]).value

theorem reached_busy : busy.Reached :=
  ⟨default, default, Engine.small, spentBindings, none, none, default, quartet, _, rfl, rfl⟩

theorem spent_fails (size : Nat) : busy.course.workshop.factory.FailsAt busy.course.workshop.calls
    (busy.course.life.engine.furtherWanted "extra") size 2 := by
  constructor
  · intro index within
    obtain rfl | rfl : index = 0 ∨ index = 1 := by omega
    · rfl
    · rfl
  · intro _
    exact ⟨"no more threads", rfl⟩

/-- The third of four further threads fails; two can be had. They are shut down later by a handler,
when one of them has had a unit. -/
theorem further_pool_all_or_nothing_busy :
    let runtime := busy.course.life.engine
    let four := runtime.newExecutor "extra" 4
    let two := runtime.newExecutor "extra" 2
    let later := (busy.afterPool "extra" 2).follow [.begin 7 5, .finish 5]
    let watch := later.value.course.workshop.watch
    runtime.watched = 4 ∧ runtime.workers.crew.line.queue = [⟨1, true⟩]
      ∧ (∃ halt, four.value.1 = .error halt
        ∧ four.entries.filterMap Entry.request?
          = ["extra-0", "extra-1", "extra-2"].map (.worker · (some (.ofSeconds 60)))
        ∧ four.entries.filterMap Entry.joined? = [4, 5] ∧ four.value.2.watched = 4)
      ∧ ∃ pool, two.value.1 = .ok pool ∧ pool.crew.threads.map (·.key) = [4, 5]
        ∧ two.value.2.watched = 6 ∧ (pool.shutdown watch (.thread 0)).value.2.2.watched = 4 := by
  intro runtime four two later watch
  have before : runtime.watched = 4 := rfl
  have third : ∃ halt, four.value.1 = .error halt
      ∧ four.entries.filterMap Entry.request?
        = ["extra-0", "extra-1", "extra-2"].map (.worker · (some (.ofSeconds 60)))
      ∧ four.entries.filterMap Entry.joined? = [4, 5] ∧ four.value.2.watched = 4 := by
    obtain ⟨given, recruits, further, _⟩ :=
      @further_pool_all_or_nothing _ reached_busy "extra" 4 2 rfl (by decide) (spent_fails 4)
    have lacking : runtime.Further "extra" 4 2 given four := further
    have keys : given.map (·.key) = [4, 5] := recruits.made.keys
    obtain ⟨halt, refused⟩ := lacking.refused.mpr (Or.inr (by decide))
    obtain ⟨_, joined, _, unwatched, _⟩ := lacking.undone halt refused
    exact ⟨halt, refused, lacking.asked.trans rfl, joined.trans keys, unwatched.trans before⟩
  have both : ∃ pool, two.value.1 = .ok pool ∧ pool.crew.threads.map (·.key) = [4, 5]
      ∧ two.value.2.watched = 6 ∧ (pool.shutdown watch (.thread 0)).value.2.2.watched = 4 := by
    obtain ⟨hired, recruits, further, parts⟩ :=
      @further_pool_all_or_nothing _ reached_busy "extra" 2 2 rfl (by decide) (spent_fails 2)
    have complete : runtime.Further "extra" 2 2 hired two := further
    have keys : hired.map (·.key) = [4, 5] := recruits.made.keys
    have known : ∀ thread ∈ hired, watch.isAlive thread.key = true
        ∧ Actor.thread 0 ≠ .thread thread.key := by
      intro thread listed
      have present : thread.key ∈ [4, 5] := keys ▸ List.mem_map_of_mem listed
      rcases List.mem_pair.mp present with same | same
      · rw [same]
        exact ⟨rfl, by decide⟩
      · rw [same]
        exact ⟨rfl, by decide⟩
    cases answered : two.value.1 with
    | error halt =>
        have impossible := complete.refused.mp ⟨halt, answered⟩
        omega
    | ok pool =>
        obtain ⟨length, gains⟩ := complete.done pool answered
        have crew : pool.crew.threads = hired := congrArg Crew.threads gains.crew
        have ends : (pool.shutdown watch (.thread 0)).value.2.2.watched + pool.crew.threads.length
            = watch.watched :=
          (parts [.begin 7 5, .finish 5] pool (.thread 0) crew
            (gains.crew ▸ Crew.atWork_create hired) (fun thread listed => (known thread listed).1)
            (fun thread listed => (known thread listed).2)).watched
        have watched : watch.watched = 6 := rfl
        refine ⟨pool, rfl, ?_, ?_, ?_⟩
        · rw [crew]
          exact keys
        · rw [gains.watched, before, length]
        · rw [crew, length] at ends
          exact Nat.add_right_cancel (ends.trans watched)
  exact ⟨before, rfl, third, both⟩

end Books

end Reactor
