import Reactor.Proofs.Assembly.Precedence
import Reactor.Proofs.Engine.Life

/-!
Which options a runtime runs on. Options are validated when the slots are resolved, and then never
again: a build runs on the options that were set last, so options that are set after the slots
were resolved come to run as they are. Without such options every runtime that is started has
valid ones, has an event loop at every time of its life, and gets no event loop refused.
-/

namespace Reactor

open Told

namespace Assembly

def Request.options? : Request → Option Options
  | .set (.options options) => some options
  | _ => none

def lateOptions (host : Host) (assembly : Assembly) : List Request → List Options
  | [] => []
  | request :: later =>
      (if assembly.resolved then request.options?.toList else [])
        ++ lateOptions host (assembly.take host request) later

def LatestValid (late : List Options) : Prop :=
  ∀ options ∈ late.getLast?, options.validate = .ok ()

theorem latestValid_iff {late : List Options} {checked : Options}
    (valid : checked.validate = .ok ()) :
    (late.getLastD checked).validate = .ok () ↔ LatestValid late := by
  unfold LatestValid
  rw [List.getLastD_eq_getLast?]
  cases late.getLast? with
  | none => simp [valid]
  | some last => simp

variable {assembly : Assembly}

/-- A resolution keeps the options, and resolves the slots if the options are valid. -/
theorem resolve_checks (unfilled : assembly.Unfilled) (host : Host) (registry : Registry) :
    let after := (assembly.resolve host registry).value.2.1
    after.options = assembly.options
      ∧ (after.resolved = true ↔ assembly.resolved = true ∨ assembly.options.validate = .ok ()) := by
  unfold resolve
  cases stage : assembly.resolved with
  | true => exact ⟨rfl, iff_of_true stage (Or.inl rfl)⟩
  | false =>
      cases checked : assembly.options.validate with
      | error option =>
          refine ⟨rfl, ?_⟩
          change assembly.resolved = true ↔ _
          rw [stage]
          simp
      | ok valid =>
          have filled := congrArg Prod.fst (assembly.fill_yields (unfilled stage) host registry).1
          change (assembly.fill host registry).value.1.options = _
            ∧ ((assembly.fill host registry).value.1.resolved = true ↔ _)
          rw [filled]
          exact ⟨rfl, iff_of_true rfl (Or.inr rfl)⟩

theorem options_accept (assembly : Assembly) (setting : Setting) :
    (assembly.accept setting).options
      = (Request.set setting).options?.getD assembly.options := by
  cases setting <;> rfl

theorem follow_resolved (resolved : assembly.resolved = true) (unfilled : assembly.Unfilled)
    (host : Host) (requests : List Request) :
    (assembly.follow host requests).resolved = true
      ∧ (assembly.follow host requests).options
        = (lateOptions host assembly requests).getLastD assembly.options := by
  induction requests generalizing assembly with
  | nil => exact ⟨resolved, rfl⟩
  | cons request later ih =>
      have kept : (assembly.take host request).resolved = true
          ∧ (assembly.take host request).options = request.options?.getD assembly.options := by
        cases request with
        | set setting =>
            exact ⟨(resolved_accept assembly setting).trans resolved, options_accept assembly setting⟩
        | resolve registry =>
            obtain ⟨same, stage⟩ := resolve_checks unfilled host registry
            exact ⟨stage.mpr (Or.inl resolved), same⟩
      obtain ⟨stays, last⟩ := ih kept.1 (unfilled.take host request)
      refine ⟨stays, last.trans ?_⟩
      rw [kept.2, lateOptions, if_pos resolved]
      cases request.options? with
      | none => rfl
      | some options => exact (List.getLastD_cons ..).symm

/-- The slots are still to be resolved, or were resolved under valid options and the options are
those set last since. -/
theorem follow_unresolved (unresolved : assembly.resolved = false) (unfilled : assembly.Unfilled)
    (host : Host) (requests : List Request) :
    let after := assembly.follow host requests
    let late := lateOptions host assembly requests
    (after.resolved = false ∧ late = [])
      ∨ after.resolved = true
        ∧ ∃ checked : Options, checked.validate = .ok () ∧ after.options = late.getLastD checked := by
  -- The resolution that resolves the slots is the one that checks; from there on the options are
  -- followed by `follow_resolved`.
  induction requests generalizing assembly with
  | nil => exact Or.inl ⟨unresolved, rfl⟩
  | cons request later ih =>
      have sameLate : lateOptions host assembly (request :: later)
          = lateOptions host (assembly.take host request) later := by
        rw [lateOptions, unresolved]
        rfl
      rw [sameLate]
      cases request with
      | set setting =>
          exact ih ((resolved_accept assembly setting).trans unresolved)
            (unfilled.take host (.set setting))
      | resolve registry =>
          have kept := unfilled.resolve host registry
          obtain ⟨same, stage⟩ := resolve_checks unfilled host registry
          cases resolves : (assembly.resolve host registry).value.2.1.resolved with
          | false => exact ih resolves kept
          | true =>
              have valid := (stage.mp resolves).resolve_left (by rw [unresolved]; exact Bool.false_ne_true)
              obtain ⟨stays, last⟩ := follow_resolved resolves kept host later
              rw [same] at last
              exact Or.inr ⟨stays, assembly.options, valid, last⟩

theorem value_prepare (assembly : Assembly) (host : Host) (registry : Registry) :
    (assembly.prepare host registry).value = (assembly.resolve host registry).value := by
  unfold prepare
  rw [Told.value_bind]
  rcases (assembly.resolve host registry).value with ⟨_ | _, _, _⟩ <;> rfl

theorem resolve_answers (assembly : Assembly) (host : Host) (registry : Registry) :
    (∃ option, (assembly.resolve host registry).value.1
        = .error (.configuration (.badOption option)))
      ∨ (assembly.resolved = true ∨ assembly.options.validate = .ok ())
        ∧ ∃ bindings, (assembly.resolve host registry).value.1 = .ok bindings := by
  unfold resolve
  cases assembly.resolved with
  | true => exact Or.inr ⟨Or.inl rfl, _, rfl⟩
  | false =>
      cases assembly.options.validate with
      | error option => exact Or.inl ⟨option, rfl⟩
      | ok valid => exact Or.inr ⟨Or.inr rfl, _, rfl⟩

section Launch

variable {clustered : Bool} {host : Host} {registry : Registry} {prepared : Assembly}
  {after : Registry}

theorem launch_refused {error : BootError} (files : FileTree) (took : Span)
    (prepares : (assembly.prepare host registry).value = (.error error, prepared, after)) :
    let launching := assembly.launch clustered host files registry took
    launching.value.1 = .error (.failed error) ∧ Only Entry.IsAsking launching := by
  have asks := assembly.prepare_asking host registry
  cases clustered with
  | false =>
      refine ⟨?_, asks.bind ?_⟩
      · unfold launch build
        rw [if_neg Bool.false_ne_true, Told.value_bind, prepares]
        rfl
      · rw [prepares]
        exact only_pure _
  | true =>
      refine ⟨?_, Only.map (asks.bind ?_) _⟩
      · unfold launch buildClustered
        rw [if_pos rfl, Told.value_map, Told.value_bind, prepares]
        rfl
      · rw [prepares]
        exact only_pure _

theorem launch_leaderless {bindings : Bindings} (files : FileTree) (took : Span)
    (prepares : (assembly.prepare host registry).value = (.ok bindings, prepared, after))
    (leaderless : clusterOf bindings clustered = none) :
    let launching := assembly.launch clustered host files registry took
    launching.value.1 = .error (.failed (.configuration .noClusterManager))
      ∧ Only Entry.IsAsking launching := by
  have asks := assembly.prepare_asking host registry
  cases clustered with
  | false => cases leaderless
  | true =>
      have missing : bindings.clusterManager = none := Option.map_eq_none_iff.mp leaderless
      refine ⟨?_, Only.map (asks.bind ?_) _⟩
      · unfold launch buildClustered
        rw [if_pos rfl, Told.value_map, Told.value_bind, prepares]
        dsimp only
        rw [missing]
        rfl
      · rw [prepares]
        dsimp only
        rw [missing]
        exact only_pure _

theorem launch_cases (unfilled : assembly.Unfilled) (clustered : Bool) (host : Host)
    (files : FileTree) (registry : Registry) (took : Span) :
    let launching := assembly.launch clustered host files registry took
    (Only Entry.IsAsking launching
        ∧ ∃ fault, launching.value.1 = .error (.failed (.configuration fault))
          ∧ ∀ name, fault ≠ .eventLoopBudget name)
      ∨ (assembly.resolved = true ∨ assembly.options.validate = .ok ())
        ∧ ∃ bindings cluster handler,
          let starting := Engine.start host files assembly.options bindings cluster handler took
          launching.value.1 = starting.value.mapError (·.halt)
            ∧ launching.entries.filterMap Entry.doing?
              = (assembly.prepare host registry).entries.filterMap Entry.doing?
                ++ starting.entries.filterMap Entry.doing? := by
  have answers := assembly.resolve_answers host registry
  have keeps := (resolve_checks unfilled host registry).1
  rw [← value_prepare] at answers keeps
  rcases prepares : (assembly.prepare host registry).value with ⟨answer, prepared, after⟩
  rw [prepares] at answers keeps
  rcases answers with ⟨option, refused⟩ | ⟨stage, bindings, answered⟩
  · cases refused
    obtain ⟨value, asks⟩ := launch_refused files took prepares
    exact Or.inl ⟨asks, _, value, nofun⟩
  · cases answered
    cases joins : clusterOf bindings clustered with
    | none =>
        obtain ⟨value, asks⟩ := launch_leaderless files took prepares joins
        exact Or.inl ⟨asks, _, value, nofun⟩
    | some cluster =>
        obtain ⟨value, told⟩ :=
          assembly.launch_yields clustered host files registry took prepares joins
        change prepared.options = assembly.options at keeps
        rw [keeps] at value told
        exact Or.inr ⟨stage, bindings, cluster, prepared.blockedHandler, congrArg Prod.fst value, told⟩

end Launch

end Assembly

/-! ### The start -/

theorem Halt.mapError_ne {ε δ : Type} {change : ε → δ} {fault : δ} (halt : Halt ε)
    (other : ∀ error, change error ≠ fault) : halt.mapError change ≠ .failed fault := by
  cases halt with
  | failed error => exact fun same => other error (Halt.failed.inj same)
  | panicked panic => nofun

namespace Engine

section Start

variable {host : Host} {files : FileTree} {options : Options} {bindings : Bindings}
  {cluster : Option ClusterBinding} {handler : Option BlockedHandler} {took : Span}

theorem startThreads_suited (bounded : options.maxEventLoopExecuteTime.isZero = false)
    {executors : ExecutorFactory} {workshop : Workshop} {halt : Halt BootError}
    {left : List EventLoop × Workshop}
    (failed : (startThreads options executors workshop).value = (.error halt, left))
    (fault : ConfigurationFault) : halt ≠ .failed (.configuration fault) := by
  unfold startThreads at failed
  dsimp only at failed
  by_cases large : allocationLimit < bytesPerLoop * options.eventLoopPoolSize.toNat
  · rw [if_pos large] at failed
    cases failed
    exact fun impossible => by cases impossible
  · rw [if_neg large, Told.value_bind] at failed
    rcases (startLoops_asks bounded).outcome workshop [] 0 options.eventLoopPoolSize.toNat with
      ⟨threads, _, yields⟩ | ⟨others, place, stop, rest, stops⟩
    · rw [yields.1] at failed
      dsimp only at failed
      rw [Told.value_bind] at failed
      rcases given : (askForPool executors 0 (workshop.enlistAll threads)
        (workersShape options)).value with ⟨stop | pool, rest⟩
      · rw [workersShape] at given
        rw [given] at failed
        cases failed
        exact stop.mapError_ne fun _ impossible => by cases impossible
      · rw [workersShape] at given
        rw [given] at failed
        cases failed
    · rw [stops] at failed
      cases failed
      exact stop.mapError_ne fun _ impossible => by cases impossible

theorem start_suited (bounded : options.maxEventLoopExecuteTime.isZero = false)
    {aborted : AbortedStart}
    (failed : (start host files options bindings cluster handler took).value = .error aborted)
    (fault : ConfigurationFault) : aborted.halt ≠ .failed (.configuration fault) := by
  unfold start at failed
  rw [Told.value_bind] at failed
  dsimp only at failed
  rw [Told.value_bind] at failed
  rcases threads : (startThreads options bindings.executorFactory
    (Workshop.create bindings.threadFactory bindings.metrics)).value with ⟨halt | pool, begun, left⟩
  · rw [threads] at failed
    cases failed
    exact startThreads_suited bounded threads fault
  · rw [threads] at failed
    cases failed

end Start

theorem dispatch_noRemainder_iff (engine : Engine) (job : Job) :
    (engine.dispatch job).1 = .error (.panicked .noRemainder)
      ↔ engine.closed = false ∧ engine.loops.length = 0 := by
  unfold dispatch
  cases closed : engine.closed with
  | true =>
      rw [if_pos rfl]
      exact iff_of_false nofun fun both => Bool.noConfusion both.1
  | false =>
      rw [if_neg Bool.false_ne_true]
      dsimp only
      unfold submitTo
      dsimp only
      cases place : engine.loops[engine.nextLoop.toNat % engine.loops.length]? with
      | none =>
          have outside := List.getElem?_eq_none_iff.mp place
          refine iff_of_true rfl ⟨rfl, Nat.eq_zero_of_not_pos fun some => ?_⟩
          exact absurd (Nat.mod_lt _ some) (Nat.not_lt.mpr outside)
      | some loop =>
          have within := List.length_pos_of_mem (List.mem_of_getElem? place)
          refine iff_of_false ?_ fun both => Nat.ne_of_gt within both.2
          rw [Option.map_some]
          cases loop.submit job with
          | error fault => nofun
          | ok loop => nofun

end Engine

/-! ### Lives of built runtimes -/

theorem Life.loops_follow {life : Life} {holdings : Holdings} (tidy : life.Tidy holdings)
    (uses : List Use) :
    (life.follow uses).value.engine.loops.length = life.engine.loops.length := by
  have kept := (tidy_follow tidy uses).holdings.trans tidy.holdings.symm
  have names := congrArg (fun holdings => holdings.loops.length) kept
  unfold Engine.holdings at names
  rw [List.length_map, List.length_map] at names
  exact names

theorem Engine.loops_of_start {host : Host} {files : FileTree} {options : Options}
    {bindings : Bindings} {cluster : Option ClusterBinding} {handler : Option BlockedHandler}
    {took : Span} {engine : Engine}
    (started : (start host files options bindings cluster handler took).value = .ok engine)
    (uses : List Use) :
    engine.options = options
      ∧ ((Life.begin engine).follow uses).value.engine.loops.length
        = options.eventLoopPoolSize.toNat := by
  obtain ⟨shape, loops, workers, made, rfl, _⟩ := made_of_start started
  have tidy := Life.tidy_begin host files options bindings cluster handler shape loops workers
  refine ⟨rfl, (Life.loops_follow tidy uses).trans ?_⟩
  exact (length_itemsFrom freshLoop 0 loops).trans made.length_loops

namespace Assembly

section Launch

variable {assembly : Assembly} {clustered : Bool} {host : Host} {files : FileTree}
  {registry : Registry} {took : Span}

theorem launch_returns (unfilled : assembly.Unfilled) {engine : Engine}
    (returned : (assembly.launch clustered host files registry took).value.1 = .ok engine) :
    (assembly.resolved = true ∨ assembly.options.validate = .ok ())
      ∧ ∃ bindings cluster handler,
        (Engine.start host files assembly.options bindings cluster handler took).value
          = .ok engine := by
  rcases launch_cases unfilled clustered host files registry took with
    ⟨_, fault, refused, _⟩ | ⟨stage, bindings, cluster, handler, value, _⟩
  · cases refused.symm.trans returned
  · refine ⟨stage, bindings, cluster, handler, ?_⟩
    have answered := value.symm.trans returned
    cases started : (Engine.start host files assembly.options bindings cluster handler took).value with
    | error aborted =>
        rw [started] at answered
        cases answered
    | ok other =>
        rw [started] at answered
        cases answered
        rfl

theorem launch_unbounded (unfilled : assembly.Unfilled) {name : String}
    (answered : (assembly.launch clustered host files registry took).value.1
      = .error (.failed (.configuration (.eventLoopBudget name)))) :
    (assembly.resolved = true ∨ assembly.options.validate = .ok ())
      ∧ assembly.options.maxEventLoopExecuteTime.isZero = true := by
  rcases launch_cases unfilled clustered host files registry took with
    ⟨_, fault, refused, other⟩ | ⟨stage, bindings, cluster, handler, value, _⟩
  · cases refused.symm.trans answered
    exact absurd rfl (other name)
  · refine ⟨stage, eq_true_of_ne_false fun bounded => ?_⟩
    have halted := value.symm.trans answered
    cases started : (Engine.start host files assembly.options bindings cluster handler took).value with
    | error aborted =>
        rw [started] at halted
        exact Engine.start_suited bounded started _ (Except.error.inj halted)
    | ok engine =>
        rw [started] at halted
        cases halted

end Launch

theorem valid_iff_latestValid (host : Host) (requests : List Request) :
    let assembly := (create host).follow host requests
    assembly.resolved = true ∨ assembly.options.validate = .ok () →
    (assembly.options.validate = .ok ()
      ↔ LatestValid (lateOptions host (create host) requests)) := by
  intro assembly stage
  rcases follow_unresolved rfl (unfilled_create host) host requests with
    ⟨unresolved, none⟩ | ⟨_, checked, valid, last⟩
  · have valid := stage.resolve_left fun resolved => Bool.noConfusion (unresolved.symm.trans resolved)
    rw [none]
    exact iff_of_true valid nofun
  · have same : assembly.options = _ := last
    rw [same]
    exact latestValid_iff valid

/-- After any history of settings and resolutions a build either does no more than to ask, or
starts a runtime on the options that were set last; those are valid exactly if none were set after
the slots had been resolved, or the last of those are. A runtime that is returned has the event
loops that its options count, as long as it lives, and handing out work fails for want of a place
exactly if they count none. Under valid options no event loop is refused. -/
theorem launch_validated (host : Host) (files : FileTree) (requests : List Request)
    (clustered : Bool) (registry : Registry) (took : Span) :
    let assembly := (create host).follow host requests
    let launching := assembly.launch clustered host files registry took
    let late := lateOptions host (create host) requests
    (Only Entry.IsAsking launching
        ∨ (assembly.options.validate = .ok () ↔ LatestValid late)
          ∧ ∃ bindings cluster handler,
            let starting := Engine.start host files assembly.options bindings cluster handler took
            launching.value.1 = starting.value.mapError (·.halt)
              ∧ launching.entries.filterMap Entry.doing?
                = (assembly.prepare host registry).entries.filterMap Entry.doing?
                  ++ starting.entries.filterMap Entry.doing?)
      ∧ (∀ engine, launching.value.1 = .ok engine →
        engine.options = assembly.options
          ∧ (engine.options.validate = .ok () ↔ LatestValid late)
          ∧ ∀ uses job,
            let life := ((Life.begin engine).follow uses).value
            life.engine.loops.length = engine.options.eventLoopPoolSize.toNat
              ∧ ((life.engine.dispatch job).1 = .error (.panicked .noRemainder)
                ↔ life.engine.closed = false ∧ engine.options.eventLoopPoolSize = 0))
      ∧ (LatestValid late → ∀ name,
        launching.value.1 ≠ .error (.failed (.configuration (.eventLoopBudget name)))) := by
  intro assembly launching late
  have unfilled : assembly.Unfilled := (unfilled_create host).follow host requests
  have valid (stage : assembly.resolved = true ∨ assembly.options.validate = .ok ()) :
      assembly.options.validate = .ok () ↔ LatestValid late :=
    valid_iff_latestValid host requests stage
  refine ⟨?_, fun engine returned => ?_, fun latest name answered => ?_⟩
  · exact (launch_cases unfilled clustered host files registry took).imp And.left
      (And.imp_left valid)
  · obtain ⟨stage, bindings, cluster, handler, started⟩ := launch_returns unfilled returned
    have options := (Engine.loops_of_start started []).1
    rw [options]
    refine ⟨rfl, valid stage, fun uses job => ?_⟩
    have count := (Engine.loops_of_start started uses).2
    refine ⟨count, (Engine.dispatch_noRemainder_iff _ _).trans (and_congr_right fun _ => ?_)⟩
    rw [count, ← UInt64.toNat_inj]
    rfl
  · obtain ⟨stage, unbounded⟩ := launch_unbounded unfilled answered
    obtain ⟨_, _, bounded, _⟩ := Options.validate_eq_ok_iff.mp ((valid stage).mpr latest)
    exact Bool.noConfusion (unbounded.symm.trans bounded)

def reconfigured (options : Options) : List Request :=
  [.set (.options Engine.small), .resolve .empty, .set (.options options)]

theorem launch_validated_reconfigured :
    let assembly := (create default).follow default (reconfigured { Engine.small with workerPoolSize := 1 })
    ∃ engine, (assembly.launch false default default .empty default).value.1 = .ok engine
      ∧ engine.options.validate = .ok ()
      ∧ ∀ uses job, (((Life.begin engine).follow uses).value.engine.dispatch job).1
        ≠ .error (.panicked .noRemainder) := by
  refine ⟨_, rfl, ?_⟩
  obtain ⟨_, returns, _⟩ := launch_validated default default
    (reconfigured { Engine.small with workerPoolSize := 1 }) false .empty default
  obtain ⟨_, valid, lives⟩ := returns _ rfl
  refine ⟨valid.mpr ?_, fun uses job failed => ?_⟩
  · intro options present
    cases present
    rfl
  · exact absurd ((lives uses job).2.mp failed).2 (by decide)

/-- Options set late run unvalidated: there may be no event loop to hand work to. -/
theorem late_options_unvalidated :
    let assembly := (create default).follow default
      (reconfigured { Engine.small with eventLoopPoolSize := 0 })
    ∃ engine, (assembly.launch false default default .empty default).value.1 = .ok engine
      ∧ engine.options.validate = .error .noEventLoops
      ∧ ∀ job, (engine.dispatch job).1 = .error (.panicked .noRemainder) :=
  ⟨_, rfl, rfl, fun _ => rfl⟩

end Assembly

end Reactor
