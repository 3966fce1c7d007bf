import Reactor.Proofs.Engine.Validated

/-!
Starts whose lists no memory can hold. Valid options bound the sizes of a runtime from below only,
and the list of its loops and that of its workers are reserved before they are filled. A build on
valid options ends without an answer exactly if one of the two is larger than any allocation: that
of the loops before a thread is asked for, that of the workers once every loop runs.
-/

namespace Reactor

open Told

/-- A name that the operating system takes for a thread. -/
def IsThreadName (name : String) : Prop := '\x00' ∉ name.toList

theorem isThreadName_numbered {start : String} (plain : IsThreadName start) (number : Nat) :
    IsThreadName (start ++ toString number) := by
  unfold IsThreadName at plain ⊢
  rw [String.toList_append, List.mem_append]
  rintro (early | late)
  · exact plain early
  · have digits : (toString number).toList = Nat.toDigits 10 number := String.toList_ofList
    rw [digits] at late
    have digit := Nat.isDigit_of_mem_toDigits (by decide) (by decide) late
    contradiction

theorem isThreadName_loop (index : Nat) : IsThreadName (Engine.loopName index) := by
  apply isThreadName_numbered
  unfold IsThreadName
  decide

theorem isThreadName_pool {shape : PoolShape} (plain : IsThreadName shape.name) (index : Nat) :
    IsThreadName (Pool.threadName shape index) := by
  apply isThreadName_numbered
  unfold IsThreadName at plain ⊢
  simp [plain]

structure Bindings.Composed (bindings : Bindings) : Prop where
  threads : ∀ calls asked given conduct,
    bindings.threadFactory.answer calls asked = .ok (given, conduct) →
      IsThreadName asked.name → IsThreadName given.name
  executors : ∀ calls asked shape,
    bindings.executorFactory.answer calls asked = .ok shape →
      IsThreadName asked.name → IsThreadName shape.name

/-- The factory gives the threads that are asked for names that they can have. -/
def Workshop.Composed (workshop : Workshop) : Prop :=
  ∀ calls asked given conduct, workshop.factory.answer calls asked = .ok (given, conduct) →
    IsThreadName asked.name → IsThreadName given.name

theorem Workshop.Composed.failed {workshop : Workshop} (composed : workshop.Composed)
    {asked : Descriptor} (plain : IsThreadName asked.name)
    (unmade : workshop.factory.make? workshop.calls asked = none) :
    ∃ reason, workshop.factory.answer workshop.calls asked = .error reason := by
  unfold ThreadFactory.make? at unmade
  cases answer : workshop.factory.answer workshop.calls asked with
  | error reason => exact ⟨reason, rfl⟩
  | ok reply =>
      obtain ⟨given, conduct⟩ := reply
      have named := composed _ _ _ _ answer plain
      unfold IsThreadName at named
      simp [answer, named] at unmade

/-- A loop that asks for threads ends as it does when all are made, or with a failed request. -/
theorem AsksInTurn.ends {B R : Type} (property : R → Prop) {loop : Workshop → List B → Nat → Nat → Told R}
    {wanted : Nat → Descriptor} {item : Nat → RuntimeThread → B} {done : List B → Workshop → R}
    {stopped : List B → Nat → Halt String → Workshop → R}
    (asks : AsksInTurn loop wanted item done stopped)
    (plain : ∀ index, IsThreadName (wanted index).name)
    (whole : ∀ made workshop, property (done made workshop))
    (cut : ∀ made index reason workshop, property (stopped made index (.failed reason) workshop))
    {workshop : Workshop} (composed : workshop.Composed) (made : List B) (index count : Nat) :
    property (loop workshop made index count).value := by
  induction count generalizing workshop made index with
  | zero =>
      rw [asks.zero]
      exact whole made workshop
  | succ count ih =>
      rw [asks.succ, Told.value_bind]
      cases first : workshop.factory.make? workshop.calls (wanted index) with
      | none =>
          obtain ⟨reason, failed⟩ := composed.failed (plain index) first
          rw [(workshop.newThread_failed failed).1]
          exact cut made index reason _
      | some thread =>
          rw [(workshop.newThread_made first).1]
          exact @ih (workshop.enlistAll [thread]) composed _ _

namespace Engine

/-! ### The two lists -/

section Lists

variable {options : Options} {workshop : Workshop}

theorem startLoops_calm (finite : options.maxEventLoopExecuteTime.isZero = false)
    (composed : workshop.Composed) (count : Nat) (panic : Panic) :
    (startLoops options.maxEventLoopExecuteTime workshop [] 0 count).value.1
      ≠ .error (.panicked panic) := by
  apply (startLoops_asks finite).ends (fun result => result.1 ≠ _)
    isThreadName_loop _ _ composed
  · intro made workshop panicked
    cases panicked
  · intro made index reason workshop panicked
    cases panicked

theorem makeThreads_calm {shape : PoolShape} (plain : IsThreadName shape.name)
    (composed : workshop.Composed) (panic : Panic) :
    (Pool.makeThreads shape workshop [] 0 shape.size).value.1 ≠ .error (.panicked panic) := by
  rcases Pool.regular_or_not shape with regular | irregular
  · apply (Pool.makeThreads_asks regular).ends (fun result => result.1 ≠ _)
      (isThreadName_pool plain) _ _ composed
    · intro made workshop panicked
      cases panicked
    · intro made index reason workshop panicked
      cases panicked
  · intro panicked
    cases counted : shape.size with
    | zero =>
        rw [counted] at panicked
        cases panicked
    | succ count =>
        rw [counted, Pool.makeThreads] at panicked
        dsimp only at panicked
        rw [irregular] at panicked
        cases panicked

theorem start_panics {shape : PoolShape} (plain : IsThreadName shape.name)
    (composed : workshop.Composed) {panic : Panic}
    (panicked : (Pool.start workshop shape).value.1 = .error (.panicked panic)) :
    allocationLimit < Pool.bytesPerThread * shape.size := by
  unfold Pool.start at panicked
  by_cases empty : shape.size = 0
  · rw [if_pos empty] at panicked
    cases panicked
  · rw [if_neg empty] at panicked
    by_cases large : allocationLimit < Pool.bytesPerThread * shape.size
    · exact large
    · rw [if_neg large, Told.value_bind] at panicked
      have calm := makeThreads_calm plain composed
      rcases outcome : (Pool.makeThreads shape workshop [] 0 shape.size).value with
        ⟨halt | _, made, left⟩
      · rw [outcome] at panicked calm
        cases halt with
        | failed fault => cases panicked
        | panicked other => exact absurd rfl (calm other)
      · rw [outcome] at panicked
        cases panicked

end Lists

/-- The list of loops is too large, or the loops can be made and the list of workers is too large
that the executor factory answers with. -/
def Overflows (options : Options) (bindings : Bindings) : Prop :=
  allocationLimit < bytesPerLoop * options.eventLoopPoolSize.toNat
    ∨ (∃ loops, bindings.threadFactory.Makes 0 (wantedFrom
        (loopWanted options.maxEventLoopExecuteTime) 0 options.eventLoopPoolSize.toNat) loops)
      ∧ ∃ shape, bindings.executorFactory.answer 0 (workersShape options) = .ok shape
        ∧ allocationLimit < Pool.bytesPerThread * shape.size

section Start

variable (host : Host) (files : FileTree) {options : Options} (bindings : Bindings)
  (cluster : Option ClusterBinding) (handler : Option BlockedHandler) (took : Span)

theorem start_loopsOverflow
    (large : allocationLimit < bytesPerLoop * options.eventLoopPoolSize.toNat) :
    ∃ left, (start host files options bindings cluster handler took).Yields Entry.doing?
        (.error ⟨.panicked .noCapacity, left⟩) [.deed .watchdogStarted, .deed .watchdogStopped]
      ∧ ∀ key, left.watch.monitor? key = none := by
  let workshop := Workshop.create bindings.threadFactory bindings.metrics
  have stopped : (startThreads options bindings.executorFactory workshop).Yields Entry.doing?
      (.error (.panicked .noCapacity), itemsFrom freshLoop 0 [], workshop) [] := by
    unfold startThreads
    exact yields_ite_pos large (yields_pure _)
  refine ⟨_, start_undone host files cluster handler took stopped, ?_⟩
  intro key
  rfl

/-- When the list of workers is too large every loop runs, and is waited for. -/
theorem start_workersOverflow (valid : options.validate = .ok ())
    (fits : bytesPerLoop * options.eventLoopPoolSize.toNat ≤ allocationLimit)
    {loops : List RuntimeThread} {shape : PoolShape}
    (makes : bindings.threadFactory.Makes 0 (wantedFrom
      (loopWanted options.maxEventLoopExecuteTime) 0 options.eventLoopPoolSize.toNat) loops)
    (answered : bindings.executorFactory.answer 0 (workersShape options) = .ok shape)
    (large : allocationLimit < Pool.bytesPerThread * shape.size) :
    ∃ left, (start host files options bindings cluster handler took).Yields Entry.doing?
        (.error ⟨.panicked .noCapacity, left⟩)
        (.deed .watchdogStarted
          :: (loopsCreated options bindings options.eventLoopPoolSize.toNat loops
              ++ [.call (.newExecutor bindings.executorFactory (workersShape options))]
            ++ (farewells loops ++ [.deed .watchdogStopped])))
      ∧ ∀ key, left.watch.monitor? key = none := by
  let workshop := Workshop.create bindings.threadFactory bindings.metrics
  obtain ⟨_, _, finite, _⟩ := Options.validate_eq_ok_iff.mp valid
  have inhabited : shape.size ≠ 0 := by
    intro empty
    rw [empty, Nat.mul_zero] at large
    exact Nat.not_lt_zero _ large
  have pool : (Pool.start (workshop.enlistAll loops) shape).Yields Entry.doing?
      (.error (.panicked .noCapacity), workshop.enlistAll loops) [] := by
    unfold Pool.start
    exact yields_ite_neg inhabited (yields_ite_pos large (yields_pure _))
  have asked : (askForPool bindings.executorFactory 0 (workshop.enlistAll loops)
      (workersShape options)).Yields Entry.doing?
        (.error (.panicked .noCapacity), workshop.enlistAll loops)
        [.call (.newExecutor bindings.executorFactory (workersShape options))] := by
    unfold askForPool
    rw [answered]
    exact (yields_tell _).andLast pool
  have stopped : (startThreads options bindings.executorFactory workshop).Yields Entry.doing?
      (.error (.panicked .noCapacity), itemsFrom freshLoop 0 loops, workshop.enlistAll loops)
      (loopsCreated options bindings options.eventLoopPoolSize.toNat loops
        ++ [.call (.newExecutor bindings.executorFactory (workersShape options))]) := by
    unfold startThreads
    refine yields_ite_neg (Nat.not_lt.mpr fits) ?_
    exact ((startLoops_asks finite).complete workshop makes).bind (asked.andLast (yields_pure _))
  refine ⟨_, start_undone host files cluster handler took stopped, ?_⟩
  exact Watch.monitor?_forgetAll_enlistAll fun _ => id

end Start

theorem startThreads_panics {options : Options} {bindings : Bindings}
    (valid : options.validate = .ok ()) (composed : bindings.Composed) {panic : Panic}
    (panicked : (startThreads options bindings.executorFactory
      (Workshop.create bindings.threadFactory bindings.metrics)).value.1
        = .error (.panicked panic)) :
    Overflows options bindings := by
  let workshop := Workshop.create bindings.threadFactory bindings.metrics
  have crew : workshop.Composed := composed.threads
  obtain ⟨_, _, finite, _⟩ := Options.validate_eq_ok_iff.mp valid
  by_cases large : allocationLimit < bytesPerLoop * options.eventLoopPoolSize.toNat
  · exact Or.inl large
  · unfold startThreads at panicked
    dsimp only at panicked
    rw [if_neg large, Told.value_bind] at panicked
    have calm := startLoops_calm finite crew options.eventLoopPoolSize.toNat
    rcases begun : (startLoops options.maxEventLoopExecuteTime workshop [] 0
      options.eventLoopPoolSize.toNat).value with ⟨halt | _, loops, left⟩
    · rw [begun] at panicked calm
      cases halt with
      | failed error => cases panicked
      | panicked other => exact absurd rfl (calm other)
    · -- The loops were made, so the panic is that of the pool.
      obtain ⟨threads, makes, yields⟩ := made_of_startLoops begun
      rw [yields.1, Told.value_bind] at panicked
      refine Or.inr ⟨⟨threads, makes⟩, ?_⟩
      unfold askForPool at panicked
      rw [Told.value_bind] at panicked
      cases answered : bindings.executorFactory.answer 0 (workersShape options) with
      | error reason =>
          rw [workersShape] at answered
          rw [answered] at panicked
          cases panicked
      | ok shape =>
          have plain : IsThreadName shape.name := by
            apply composed.executors _ _ _ answered
            change '\x00' ∉ workersName.toList
            decide
          rw [workersShape] at answered
          rw [answered] at panicked
          dsimp only at panicked
          refine ⟨shape, rfl, ?_⟩
          have crewed : (workshop.enlistAll threads).Composed := crew
          rcases outcome : (Pool.start (workshop.enlistAll threads) shape).value with
            ⟨halt | pool, rest⟩
          · rw [outcome] at panicked
            cases halt with
            | failed fault => cases panicked
            | panicked other => exact start_panics plain crewed (congrArg Prod.fst outcome)
          · rw [outcome] at panicked
            cases panicked

theorem start_panics_iff (host : Host) (files : FileTree) {options : Options} {bindings : Bindings}
    (cluster : Option ClusterBinding) (handler : Option BlockedHandler) (took : Span)
    (valid : options.validate = .ok ()) (composed : bindings.Composed) :
    (∃ aborted panic, (start host files options bindings cluster handler took).value
        = .error aborted ∧ aborted.halt = .panicked panic)
      ↔ Overflows options bindings := by
  constructor
  · rintro ⟨aborted, panic, ended, halted⟩
    apply startThreads_panics valid composed
    show _ = Except.error (Halt.panicked panic)
    unfold start at ended
    rw [Told.value_bind] at ended
    dsimp only at ended
    rw [Told.value_bind] at ended
    rcases outcome : (startThreads options bindings.executorFactory
      (Workshop.create bindings.threadFactory bindings.metrics)).value with
      ⟨halt | pool, loops, left⟩
    · rw [outcome] at ended
      cases ended
      exact congrArg Except.error halted
    · rw [outcome] at ended
      cases ended
  · intro overflows
    by_cases large : allocationLimit < bytesPerLoop * options.eventLoopPoolSize.toNat
    · obtain ⟨left, yields, _⟩ :=
        start_loopsOverflow host files bindings cluster handler took large
      exact ⟨_, _, yields.1, rfl⟩
    · obtain ⟨⟨loops, makes⟩, shape, answered, wide⟩ := overflows.resolve_left large
      obtain ⟨left, yields, _⟩ := start_workersOverflow host files bindings cluster handler took valid
        (Nat.not_lt.mp large) makes answered wide
      exact ⟨_, _, yields.1, rfl⟩

end Engine

/-! ### Builds -/

namespace Assembly

open Engine

variable {assembly : Assembly}

theorem prepare_valid (unfilled : assembly.Unfilled) (valid : assembly.options.validate = .ok ())
    (host : Host) (registry : Registry) :
    ∃ bindings prepared after,
      (assembly.prepare host registry).value = (.ok bindings, prepared, after)
        ∧ prepared.options = assembly.options := by
  have kept := (resolve_checks unfilled host registry).1
  have answers := assembly.resolve_answers host registry
  have refuses : ∀ option,
      (assembly.resolve host registry).value.1 ≠ .error (.configuration (.badOption option)) := by
    intro option
    unfold resolve
    cases assembly.resolved with
    | true => nofun
    | false =>
        rw [valid]
        nofun
  rw [← value_prepare] at kept answers refuses
  rcases answers with ⟨option, refused⟩ | ⟨_, bindings, answered⟩
  · exact absurd refused (refuses option)
  · rcases prepares : (assembly.prepare host registry).value with ⟨answer, prepared, after⟩
    rw [prepares] at kept answered
    cases answered
    exact ⟨bindings, prepared, after, rfl, kept⟩

/-- What a build does and answers when one of its lists is too large for any allocation. -/
structure Overflowing (assembly : Assembly) (host : Host) (registry after : Registry)
    (bindings : Bindings) (launching : Told (Except (Halt BootError) Engine × Registry)) : Prop where
  loops : allocationLimit < bytesPerLoop * assembly.options.eventLoopPoolSize.toNat →
    launching.Yields Entry.doing? (.error (.panicked .noCapacity), after)
      ((assembly.prepare host registry).entries.filterMap Entry.doing?
        ++ [.deed .watchdogStarted, .deed .watchdogStopped])
  workers : ∀ loops shape,
    bytesPerLoop * assembly.options.eventLoopPoolSize.toNat ≤ allocationLimit →
    bindings.threadFactory.Makes 0 (wantedFrom
      (loopWanted assembly.options.maxEventLoopExecuteTime) 0
      assembly.options.eventLoopPoolSize.toNat) loops →
    bindings.executorFactory.answer 0 (workersShape assembly.options) = .ok shape →
    allocationLimit < Pool.bytesPerThread * shape.size →
    launching.Yields Entry.doing? (.error (.panicked .noCapacity), after)
      ((assembly.prepare host registry).entries.filterMap Entry.doing?
        ++ .deed .watchdogStarted
          :: (loopsCreated assembly.options bindings assembly.options.eventLoopPoolSize.toNat loops
              ++ [.call (.newExecutor bindings.executorFactory (workersShape assembly.options))]
            ++ (farewells loops ++ [.deed .watchdogStopped])))

theorem overflowing_of_prepare (valid : assembly.options.validate = .ok ()) {clustered : Bool}
    {host : Host} {registry after : Registry} {bindings : Bindings} {prepared : Assembly}
    {cluster : Option ClusterBinding} (files : FileTree) (took : Span)
    (prepares : (assembly.prepare host registry).value = (.ok bindings, prepared, after))
    (kept : prepared.options = assembly.options)
    (joins : clusterOf bindings clustered = some cluster) :
    assembly.Overflowing host registry after bindings
      (assembly.launch clustered host files registry took) := by
  have launches := assembly.launch_yields clustered host files registry took prepares joins
  rw [kept] at launches
  dsimp only at launches
  constructor
  · intro large
    obtain ⟨left, yields, _⟩ := start_loopsOverflow host files bindings cluster prepared.blockedHandler
      took large
    rw [yields.1, yields.2] at launches
    exact launches
  · intro loops shape fits makes answered large
    obtain ⟨left, yields, _⟩ := start_workersOverflow host files bindings cluster
      prepared.blockedHandler took valid fits makes answered large
    rw [yields.1, yields.2] at launches
    exact launches

/-- On valid options a build answers a runtime or a fault, unless the list of its loops or that of
its workers is too large for any allocation; then it panics. In the first case it has asked for no
thread by then, in the second it has made all of its loops, and waits for each. -/
theorem launch_panics_iff (unfilled : assembly.Unfilled)
    (valid : assembly.options.validate = .ok ()) (clustered : Bool) (host : Host)
    (files : FileTree) (registry : Registry) (took : Span) :
    ∃ bindings prepared after,
      (assembly.prepare host registry).value = (.ok bindings, prepared, after)
        ∧ let launching := assembly.launch clustered host files registry took
          (bindings.Composed →
            ((∃ panic, launching.value.1 = .error (.panicked panic))
              ↔ (clusterOf bindings clustered).isSome ∧ Overflows assembly.options bindings))
          ∧ ((clusterOf bindings clustered).isSome →
            assembly.Overflowing host registry after bindings launching) := by
  obtain ⟨bindings, prepared, after, prepares, kept⟩ :=
    prepare_valid unfilled valid host registry
  refine ⟨bindings, prepared, after, prepares, ?_⟩
  cases joins : clusterOf bindings clustered with
  | none =>
      constructor
      · intro _
        have refused := (launch_leaderless files took prepares joins).1
        constructor
        · rintro ⟨panic, panicked⟩
          cases refused.symm.trans panicked
        · rintro ⟨led, _⟩
          cases led
      · intro led
        cases led
  | some cluster =>
      constructor
      · intro composed
        have launches := assembly.launch_yields clustered host files registry took prepares joins
        rw [kept] at launches
        have panics := start_panics_iff host files cluster prepared.blockedHandler took valid
          composed
        rw [launches.1]
        constructor
        · rintro ⟨panic, panicked⟩
          refine ⟨rfl, panics.mp ?_⟩
          cases started : (start host files assembly.options bindings cluster
            prepared.blockedHandler took).value with
          | ok engine =>
              rw [started] at panicked
              cases panicked
          | error aborted =>
              rw [started] at panicked
              exact ⟨aborted, panic, rfl, Except.error.inj panicked⟩
        · rintro ⟨_, overflows⟩
          obtain ⟨aborted, panic, ended, halted⟩ := panics.mpr overflows
          refine ⟨panic, ?_⟩
          rw [ended]
          exact congrArg Except.error halted
      · intro _
        exact overflowing_of_prepare valid files took prepares kept joins

def withOptions (options : Options) : Assembly := { create default with options }

theorem unfilled_withOptions (options : Options) : (withOptions options).Unfilled :=
  unfilled_create default

theorem composed_standard {bindings : Bindings} (threads : bindings.threadFactory = .standard)
    (executors : bindings.executorFactory = .standard) : bindings.Composed := by
  constructor
  · intro calls asked given conduct answered plain
    rw [threads] at answered
    cases answered
    exact plain
  · intro calls asked shape answered plain
    rw [executors] at answered
    cases answered
    exact plain

/-- Valid options with more workers than any list can hold, and their small likes. -/
theorem launch_panics_iff_standard :
    (∃ panic, ((withOptions { small with workerPoolSize := 0x400000000000000 }).launch false default
        default .empty default).value.1 = .error (.panicked panic))
      ∧ ¬∃ panic, ((withOptions small).launch false default default .empty default).value.1
        = .error (.panicked panic) := by
  constructor
  · obtain ⟨bindings, prepared, after, prepares, panics, _⟩ :=
      launch_panics_iff (unfilled_withOptions { small with workerPoolSize := 0x400000000000000 })
        rfl false default default .empty default
    cases prepares
    apply (panics (composed_standard rfl rfl)).mpr
    refine ⟨rfl, Or.inr ⟨⟨madeLoops, ?_⟩, _, rfl, by decide⟩⟩
    exact ⟨by decide, by decide, trivial⟩
  · obtain ⟨bindings, prepared, after, prepares, panics, _⟩ :=
      launch_panics_iff (unfilled_withOptions small) rfl false default default .empty default
    cases prepares
    intro panicked
    rcases ((panics (composed_standard rfl rfl)).mp panicked).2 with large | ⟨_, shape, given, large⟩
    · exact absurd large (by decide)
    · cases given
      exact absurd large (by decide)

/-- The options of a file that counts as many loops as a word can: they are valid, and no runtime
starts on them. -/
theorem countless_loops_panic :
    let options := { small with eventLoopPoolSize := 0x7fffffffffffffff }
    options.validate = .ok ()
      ∧ ((withOptions options).launch false default default .empty default).value.1
        = .error (.panicked .noCapacity) :=
  ⟨rfl, rfl⟩

end Assembly

end Reactor
