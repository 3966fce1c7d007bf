import Reactor.Proofs.Engine.Release

/-!
The life of a clustered runtime, from its build over the joining of the cluster to its end. The
selector gets the manager once all threads are there. Joining waits for the manager and can be
given up at any poll; unless it succeeds the runtime is closed. A runtime that has joined leaves
the cluster if the first thing that ends it is a shutdown.
-/

namespace Reactor

open Told

def Entry.membership? (entry : Entry) : Option Entry :=
  match entry with
  | .call (.initSelector _ _) | .call (.joinCluster _) | .call (.leaveCluster _) => some entry
  | _ => none

namespace Joining

def answer (engine : Engine) (manager : ClusterManager) : Except BootError Engine :=
  match manager.joinFailure with
  | none => .ok engine
  | some reason => .error (.clusterJoin ⟨reason, []⟩)

/-- Polls a joining so many times, and then gives it up if there is still no answer. -/
def drive (joining : Joining) (polls : Nat) : Told (Option (Except BootError Engine)) := do
  match ← joining.pollUpTo polls with
  | .ok answer => return some answer
  | .error waiting =>
      let _ ← waiting.abandon
      return none

def Succeeds (manager : ClusterManager) (polls : Nat) : Prop :=
  manager.joinPolls < polls ∧ manager.joinFailure = none

instance (manager : ClusterManager) (polls : Nat) : Decidable (Succeeds manager polls) :=
  inferInstanceAs (Decidable (_ ∧ _))

variable {engine : Engine} {manager : ClusterManager} {left polls : Nat}

theorem pollUpTo_waiting (early : polls ≤ left) :
    pollUpTo ⟨engine, manager, .asked left⟩ polls
      = pure (.error ⟨engine, manager, .asked (left - polls)⟩) := by
  induction polls generalizing left with
  | zero => rfl
  | succ polls ih =>
      cases left with
      | zero => exact absurd early (Nat.not_succ_le_zero polls)
      | succ left =>
          rw [Nat.add_sub_add_right, ← ih (Nat.le_of_succ_le_succ early)]
          rfl

theorem poll_answered (sound : engine.Sound) (manager : ClusterManager) :
    (poll ⟨engine, manager, .asked 0⟩).Yields Entry.doing? (.ok (answer engine manager))
      (if manager.joinFailure = none then [] else engine.due) := by
  obtain ⟨name, nodes, joinPolls, joinFailure, leavePolls, leaveFailure⟩ := manager
  cases joinFailure with
  | none => exact Yields.andThen (Yields.andThen (yields_tell _) (yields_pure _)) (yields_pure _)
  | some reason =>
      obtain ⟨shut, closes, _⟩ := Engine.close_yields sound
      exact Yields.andLast (Yields.andThen (yields_tell _) (closes.andLast (yields_pure _)))
        (yields_pure _)

theorem pollUpTo_answered (sound : engine.Sound) (manager : ClusterManager) (late : left < polls) :
    (pollUpTo ⟨engine, manager, .asked left⟩ polls).Yields Entry.doing?
      (.ok (answer engine manager))
      (if manager.joinFailure = none then [] else engine.due) := by
  induction left generalizing polls with
  | zero =>
      obtain ⟨polls, rfl⟩ := Nat.exists_eq_succ_of_ne_zero (Nat.ne_zero_of_lt late)
      exact (poll_answered sound manager).andLast (yields_pure _)
  | succ left ih =>
      obtain ⟨polls, rfl⟩ := Nat.exists_eq_succ_of_ne_zero (Nat.ne_zero_of_lt late)
      exact (yields_pure _).andThen (ih (Nat.lt_of_succ_lt_succ late))

theorem drive_waiting (sound : engine.Sound) (early : polls ≤ left) :
    (drive ⟨engine, manager, .asked left⟩ polls).Yields Entry.doing? none engine.due := by
  obtain ⟨gone, drops⟩ := Engine.drop_yields sound
  unfold drive
  rw [pollUpTo_waiting early]
  exact (yields_pure _).andThen (drops.andLast (yields_pure _))

theorem drive_answered (sound : engine.Sound) (manager : ClusterManager) (late : left < polls) :
    (drive ⟨engine, manager, .asked left⟩ polls).Yields Entry.doing? (some (answer engine manager))
      (if manager.joinFailure = none then [] else engine.due) :=
  (pollUpTo_answered sound manager late).andLast (yields_pure _)

theorem drive_fresh (engine : Engine) (manager : ClusterManager) (polls : Nat) :
    drive ⟨engine, manager, .fresh⟩ (polls + 1)
      = (do
          Told.log .caller .debug .runtime "Joining cluster" [("cluster_manager", .text manager.name)]
          Told.call (.joinCluster manager)
          drive ⟨engine, manager, .asked manager.joinPolls⟩ (polls + 1)) := rfl

/-- A joining that is driven asks the manager once if it is polled at all; unless that succeeds
the runtime is closed. -/
theorem drive_yields (sound : engine.Sound) (manager : ClusterManager) (polls : Nat) :
    (drive ⟨engine, manager, .fresh⟩ polls).Yields Entry.doing?
      (if polls ≤ manager.joinPolls then none else some (answer engine manager))
      ((if polls = 0 then [] else [.call (.joinCluster manager)])
        ++ if Succeeds manager polls then [] else engine.due) := by
  cases polls with
  | zero =>
      obtain ⟨gone, drops⟩ := Engine.drop_yields sound
      rw [if_pos (Nat.zero_le _), if_pos rfl, if_neg fun succeeds => Nat.not_lt_zero _ succeeds.1]
      exact (yields_pure _).andThen (drops.andLast (yields_pure _))
  | succ polls =>
      rw [if_neg (Nat.succ_ne_zero polls), drive_fresh]
      refine (yields_tell _).andThen ((yields_tell _).bind ?_)
      -- The first `joinPolls` polls find the manager without an answer.
      by_cases early : polls + 1 ≤ manager.joinPolls
      · rw [if_pos early, if_neg fun succeeds => Nat.not_lt.mpr early succeeds.1]
        exact drive_waiting sound early
      · have late := Nat.not_le.mp early
        have favourable : (if Succeeds manager (polls + 1) then [] else engine.due)
            = if manager.joinFailure = none then [] else engine.due := by
          unfold Succeeds
          simp only [late, true_and]
        rw [if_neg early, favourable]
        exact drive_answered sound manager late

end Joining

/-! ### What ends a runtime -/

inductive Errand where
  | close
  | shutdown
deriving DecidableEq

namespace Engine

def attend (engine : Engine) : Errand → Told (Option (Except Failure Unit) × Engine)
  | .close => do return (none, ← engine.close)
  | .shutdown => do
      let (engine, answer) ← engine.shutdown
      return (some answer, engine)

def perform (engine : Engine) : List Errand → Told (List (Option (Except Failure Unit)) × Engine)
  | [] => return ([], engine)
  | errand :: errands => do
      let (answer, engine) ← engine.attend errand
      let (answers, engine) ← engine.perform errands
      return (answer :: answers, engine)

def reply (departs : Option ClusterManager) : Errand → Option (Except Failure Unit)
  | .close => none
  | .shutdown => some (leaveAnswer (departs.bind (·.leaveFailure)))

/-- The answers to errands one after the other: only the first finds the runtime open. -/
def replies (departs : Option ClusterManager) : List Errand → List (Option (Except Failure Unit))
  | [] => []
  | first :: others => reply departs first :: others.map (reply none)

def partings (departs : Option ClusterManager) (errands : List Errand) : List Entry :=
  if errands.head? = some .shutdown then
    departs.toList.map fun manager => .call (.leaveCluster manager)
  else
    []

variable {engine : Engine}

theorem attend_yields (sound : engine.Sound) (errand : Errand) :
    ∃ next, (engine.attend errand).Yields Entry.doing? (reply engine.departs? errand, next)
        (partings engine.departs? [errand] ++ engine.due)
      ∧ engine.Closes next := by
  cases errand with
  | close =>
      obtain ⟨next, yields, closes⟩ := close_yields sound
      exact ⟨next, yields.andLast (yields_pure _), closes⟩
  | shutdown =>
      obtain ⟨next, yields, closes⟩ := shutdown_yields sound
      exact ⟨next, yields.andLast (yields_pure _), closes⟩

theorem partings_none (errands : List Errand) : partings none errands = [] := ite_self _

theorem perform_closed (sound : engine.Sound) (closed : engine.closed = true)
    (errands : List Errand) :
    ∃ next, (engine.perform errands).Yields Entry.doing? (errands.map (reply none), next) []
      ∧ engine.Closes next := by
  induction errands generalizing engine with
  | nil => exact ⟨engine, yields_pure _, .refl sound closed⟩
  | cons errand errands ih =>
      obtain ⟨between, first, closes⟩ := attend_yields sound errand
      rw [departs?_closed closed, due_closed closed, partings_none] at first
      obtain ⟨next, rest, remains⟩ := ih closes.sound closes.closed
      exact ⟨next, first.andThen (rest.andLast (yields_pure _)), closes.trans remains⟩

/-- The first errand closes the runtime, after asking the manager to leave if it is a shutdown. -/
theorem perform_yields (sound : engine.Sound) (errands : List Errand) :
    ∃ next, (engine.perform errands).Yields Entry.doing? (replies engine.departs? errands, next)
        (partings engine.departs? errands ++ if next.closed then engine.due else [])
      ∧ next.Sound ∧ next.holdings = engine.holdings
      ∧ (next.closed = true ↔ engine.closed = true ∨ errands ≠ []) := by
  cases errands with
  | nil =>
      refine ⟨engine, (yields_pure _).of_eq rfl ?_, sound, rfl, ?_⟩
      · cases closed : engine.closed with
        | false => rfl
        | true => exact (due_closed closed).symm
      · exact ⟨Or.inl, fun either => either.resolve_right fun impossible => impossible rfl⟩
  | cons errand errands =>
      obtain ⟨between, first, closes⟩ := attend_yields sound errand
      obtain ⟨next, rest, remains⟩ := perform_closed closes.sound closes.closed errands
      have whole := closes.trans remains
      refine ⟨next, ?_, whole.sound, whole.holdings, ?_⟩
      · rw [whole.closed]
        exact first.andLast (rest.andThen (yields_pure _))
      · exact iff_of_true whole.closed (Or.inr (List.cons_ne_nil _ _))

end Engine

/-! ### From the build to the end -/

namespace Assembly

theorem made_of_buildClustered {assembly : Assembly} {host : Host} {files : FileTree}
    {registry after : Registry} {took : Span} {joining : Joining}
    (built : (assembly.buildClustered host files registry took).value = (.ok joining, after)) :
    ∃ bindings prepared,
      (assembly.prepare host registry).value = (.ok bindings, prepared, after)
        ∧ bindings.clusterManager = some joining.manager ∧ joining.stage = .fresh
        ∧ let starting := Engine.start host files prepared.options bindings
            (some (clusterWith bindings joining.manager)) prepared.blockedHandler took
          starting.value = .ok joining.engine
            ∧ (assembly.buildClustered host files registry took).entries.filterMap Entry.doing?
              = (assembly.prepare host registry).entries.filterMap Entry.doing?
                ++ starting.entries.filterMap Entry.doing? := by
  rcases prepares : (assembly.prepare host registry).value with ⟨failed | bindings, prepared, kept⟩
  · unfold buildClustered at built
    rw [Told.value_bind, prepares] at built
    cases built
  · cases bound : bindings.clusterManager with
    | none =>
        unfold buildClustered at built
        rw [Told.value_bind, prepares] at built
        dsimp only at built
        rw [bound] at built
        cases built
    | some manager =>
        obtain ⟨answered, told⟩ :=
          assembly.buildClustered_yields host files registry took prepares bound
        obtain ⟨answer, rfl⟩ := Prod.mk.inj (built.symm.trans answered)
        cases started : (Engine.start host files prepared.options bindings
            (some (clusterWith bindings manager)) prepared.blockedHandler took).value with
        | error aborted =>
            rw [started] at answer
            cases answer
        | ok engine =>
            rw [started] at answer
            cases answer
            exact ⟨bindings, prepared, rfl, bound, rfl, started, told⟩

end Assembly

theorem Entry.membership?_log (actor : Actor) (event : LogEvent) :
    (Entry.log actor event).membership? = none := rfl

theorem Entry.membership?_released (entry : Entry) (released : entry.release? = some entry) :
    entry.membership? = none := by
  cases entry with
  | log _ _ | deed _ => rfl
  | call request =>
      cases request with
      | initSelector _ _ | joinCluster _ | leaveCluster _ => cases released
      | _ => rfl

theorem Entry.IsMaking.membership {entry : Entry} (making : entry.IsMaking) :
    entry.membership? = none := by
  cases entry with
  | log _ _ | deed _ => cases making
  | call request =>
      cases request with
      | newThread _ _ | newExecutor _ _ | metrics _ _ => rfl
      | _ => cases making

theorem Entry.IsAsking.membership {entry : Entry} (asking : entry.IsAsking) :
    entry.membership? = none := by
  cases entry with
  | log _ _ => rfl
  | deed _ => cases asking
  | call request =>
      cases request with
      | probe _ | activate _ _ => rfl
      | _ => cases asking

theorem Engine.due_membership (engine : Engine) : engine.due.filterMap Entry.membership? = [] :=
  engine.due_unseen Entry.membership?_released

namespace Engine

variable {engine : Engine}

theorem membership_toldAtSuccess (options : Options) (bindings : Bindings)
    (binding : ClusterBinding) (took : Span) (shape : PoolShape) (loops workers : List RuntimeThread) :
    (toldAtSuccess options bindings (some binding) took shape loops workers).filterMap
        Entry.membership?
      = [.call (.initSelector binding.selector binding.manager)] := by
  have created : (crewsCreated options bindings.executorFactory
      (Workshop.create bindings.threadFactory bindings.metrics) shape loops workers).filterMap
      Entry.membership? = [] :=
    List.filterMap_eq_nil_iff.mpr fun entry present =>
      (crewsCreated_making _ _ _ _ _ _ entry present).membership
  have heard : (hooks bindings.metrics (.runtimeStarted took)).filterMap Entry.membership? = [] := by
    cases bindings.metrics <;> rfl
  change ((crewsCreated _ _ _ _ _ _) ++ (.call (.initSelector _ _)
    :: hooks bindings.metrics (.runtimeStarted took))).filterMap Entry.membership? = _
  rw [List.filterMap_append, created, List.nil_append,
    List.filterMap_cons_some (show Entry.membership? (.call (.initSelector _ _)) = _ from rfl), heard]

theorem perform_membership (sound : engine.Sound) (errands : List Errand) :
    (engine.perform errands).entries.filterMap Entry.membership?
      = partings engine.departs? errands := by
  obtain ⟨next, yields, _⟩ := perform_yields sound errands
  have asked : (partings engine.departs? errands).filterMap Entry.membership?
      = partings engine.departs? errands := by
    unfold partings
    split
    · cases engine.departs? <;> rfl
    · rfl
  have quiet : (if next.closed then engine.due else []).filterMap Entry.membership? = [] := by
    split
    · exact engine.due_membership
    · rfl
  rw [(yields.seenBy Entry.membership?_log).2, List.filterMap_append, asked, quiet, List.append_nil]

/-- What errands have not released is released when the runtime is let go of. -/
theorem perform_releases (sound : engine.Sound) (errands : List Errand) :
    let told := engine.perform errands
    (told.entries ++ told.value.2.drop.entries).filterMap Entry.release? = engine.due := by
  intro told
  obtain ⟨next, yields, later, same, ends⟩ := perform_yields sound errands
  obtain ⟨gone, drops⟩ := drop_yields later
  have value : told.value.2 = next := congrArg Prod.snd yields.1
  have asked : (partings engine.departs? errands).filterMap Entry.release? = [] := by
    unfold partings
    split
    · cases engine.departs? <;> rfl
    · rfl
  rw [List.filterMap_append, (yields.seenBy Entry.unreleased_log).2, value,
    (drops.seenBy Entry.unreleased_log).2, due_release, List.filterMap_append, asked,
    List.nil_append]
  cases closed : next.closed with
  | true =>
      rw [due_closed closed, List.append_nil]
      exact engine.due_release
  | false =>
      have opened : engine.closed = false := by
        refine Bool.eq_false_iff.mpr fun shut => ?_
        rw [ends.mpr (Or.inl shut)] at closed
        cases closed
      rw [due_open closed, due_open opened, same]
      rfl

end Engine

namespace Joining

open Engine Assembly

theorem drive_membership {engine : Engine} (sound : engine.Sound) (manager : ClusterManager)
    (polls : Nat) :
    (drive ⟨engine, manager, .fresh⟩ polls).entries.filterMap Entry.membership?
      = if polls = 0 then [] else [.call (.joinCluster manager)] := by
  have quiet : (if Succeeds manager polls then [] else engine.due).filterMap Entry.membership?
      = [] := by
    split
    · rfl
    · exact engine.due_membership
  rw [((drive_yields sound manager polls).seenBy Entry.membership?_log).2, List.filterMap_append,
    quiet, List.append_nil]
  split <;> rfl

theorem drive_releases {engine : Engine} (sound : engine.Sound) (manager : ClusterManager)
    (polls : Nat) :
    (drive ⟨engine, manager, .fresh⟩ polls).entries.filterMap Entry.release?
      = if Succeeds manager polls then [] else engine.due := by
  have asked : (if polls = 0 then [] else [.call (.joinCluster manager)]).filterMap Entry.release?
      = [] := by
    split <;> rfl
  rw [((drive_yields sound manager polls).seenBy Entry.unreleased_log).2, List.filterMap_append,
    asked, List.nil_append]
  split
  · rfl
  · exact engine.due_release

/-- The protocol that a clustered runtime keeps to. The selector is handed the bound manager once,
after the last thread was asked for. A joining that is driven asks the manager to join once if it
is polled at all; it gives the open runtime if the manager agrees in time, and otherwise releases
all that the runtime holds and asks nobody to leave. A runtime that has joined is closed by the
first thing that ends it, asks the manager to leave if that is a shutdown, and answers it with what
the manager said. -/
theorem cluster_protocol {assembly : Assembly} {host : Host} {files : FileTree}
    {registry after : Registry} {took : Span} {joining : Joining}
    (built : (assembly.buildClustered host files registry took).value = (.ok joining, after))
    (polls : Nat) (errands : List Errand) :
    let building := assembly.buildClustered host files registry took
    let driving := joining.drive polls
    let ending := joining.engine.perform errands
    let manager := joining.manager
    let loops := joining.engine.loops.flatMap (·.crew.threads)
    let workers := joining.engine.workers.crew.threads
    ∃ bindings prepared shape,
      let preparing := assembly.prepare host registry
      let workshop := Workshop.create bindings.threadFactory bindings.metrics
      let introduction : Entry :=
        .call (.initSelector (bindings.nodeSelector.getD .roundRobin) manager)
      preparing.value = (.ok bindings, prepared, after)
        ∧ bindings.clusterManager = some manager
        ∧ building.entries.filterMap Entry.doing?
          = preparing.entries.filterMap Entry.doing? ++ .deed .watchdogStarted
            :: (crewsCreated prepared.options bindings.executorFactory workshop shape loops workers
              ++ introduction :: hooks bindings.metrics (.runtimeStarted took))
        ∧ building.entries.filterMap Entry.membership? = [introduction]
        ∧ joining.engine.closed = false
        ∧ driving.value = (if polls ≤ manager.joinPolls then none
          else some (answer joining.engine manager))
        ∧ driving.entries.filterMap Entry.membership?
          = (if polls = 0 then [] else [.call (.joinCluster manager)])
        ∧ driving.entries.filterMap Entry.release?
          = (if Succeeds manager polls then [] else releasesOf bindings loops workers)
        ∧ ending.entries.filterMap Entry.membership?
          = (if errands.head? = some .shutdown then [.call (.leaveCluster manager)] else [])
        ∧ ending.value.1 = replies (some manager) errands
        ∧ (ending.value.2.closed = true ↔ errands ≠ [])
        ∧ (ending.entries ++ ending.value.2.drop.entries).filterMap Entry.release?
          = releasesOf bindings loops workers := by
  obtain ⟨engine, manager, stage⟩ := joining
  obtain ⟨bindings, prepared, prepares, bound, fresh, started, told⟩ := made_of_buildClustered built
  dsimp only at bound fresh started told ⊢
  subst fresh
  obtain ⟨shape, loops, workers, made, same, begun⟩ := made_of_start started
  have sound : engine.Sound := same ▸ sound_unused ..
  have opened : engine.closed = false := same ▸ rfl
  have departs : engine.departs? = some manager := same ▸ rfl
  have loopThreads : engine.loops.flatMap (·.crew.threads) = loops :=
    same ▸ threads_itemsFrom 0 loops
  have workerThreads : engine.workers.crew.threads = workers := same ▸ rfl
  have due : engine.due = releasesOf bindings loops workers :=
    (due_open opened).trans (same ▸ releases_unused ..)
  obtain ⟨ended, yields, _, _, ends⟩ := perform_yields sound errands
  rw [begun.2] at told
  rw [loopThreads, workerThreads]
  refine ⟨bindings, prepared, shape, prepares, bound, told, ?_, opened,
    (drive_yields sound manager polls).1, drive_membership sound manager polls,
    due ▸ drive_releases sound manager polls, ?_, ?_, ?_, due ▸ perform_releases sound errands⟩
  · have asked : (assembly.prepare host registry).entries.filterMap Entry.membership? = [] :=
      List.filterMap_eq_nil_iff.mpr fun entry present =>
        (assembly.prepare_asking host registry entry present).membership
    rw [← filterMap_doing Entry.membership?_log, told, List.filterMap_append,
      filterMap_doing Entry.membership?_log, asked]
    exact membership_toldAtSuccess ..
  · rw [perform_membership sound errands, departs]
    rfl
  · rw [yields.1, departs]
  · rw [yields.1, ends, opened]
    exact or_iff_right Bool.false_ne_true

def reluctant : ClusterManager :=
  { name := "hive", nodes := ["n1"], joinPolls := 1, joinFailure := none, leavePolls := 0,
    leaveFailure := some "net split" }

def hive : Assembly := { create default with options := small }.set (.clusterManager reluctant)

theorem cluster_protocol_reluctant :
    ∃ joining, (hive.buildClustered default default .empty default).value = (.ok joining, .empty)
      ∧ (joining.drive 1).value = none
      ∧ (joining.drive 1).entries.filterMap Entry.membership? = [.call (.joinCluster reluctant)]
      ∧ (joining.engine.perform [.shutdown, .close]).value.1
        = [some (.error ⟨"Failed to leave cluster", ["net split"]⟩), none] := by
  obtain ⟨joining, built, manager⟩ : ∃ joining,
      (hive.buildClustered default default .empty default).value = (.ok joining, .empty)
        ∧ joining.manager = reluctant := ⟨_, rfl, rfl⟩
  obtain ⟨_, _, _, _, _, _, _, _, driven, joins, _, _, answers, _⟩ :=
    cluster_protocol built 1 [.shutdown, .close]
  rw [manager] at driven joins answers
  exact ⟨joining, built, driven, joins, answers⟩

end Joining

end Reactor
