import Reactor.Proofs.Engine.Joining
import Reactor.Proofs.Engine.Validated

/-!
Builds that are refused for their configuration. A caller who is done with setting things before
the first resolution gets such an answer exactly if the options are not valid, or if a cluster is
to be joined and nobody gives a manager for it. By then nothing has been started.
-/

namespace Reactor

open Told

namespace Assembly

def resolveAll (host : Host) (assembly : Assembly) : List Registry → Told Assembly
  | [] => return assembly
  | registry :: later => do
      let (_, assembly, _) ← assembly.resolve host registry
      resolveAll host assembly later

/-- An assembly that is set up, resolved any number of times, and then built. -/
def boot (host : Host) (files : FileTree) (settings : List Setting) (registries : List Registry)
    (clustered : Bool) (registry : Registry) (took : Span) :
    Told (Except (Halt BootError) Engine × Registry) := do
  let assembly ← (configured host settings).resolveAll host registries
  assembly.launch clustered host files registry took

theorem unfilled_configured (host : Host) (settings : List Setting) :
    (configured host settings).Unfilled := fun _ =>
  (shows_configured host settings).parts

variable {assembly : Assembly} {host : Host}

theorem resolveAll_asking (registries : List Registry) :
    Only Entry.IsAsking (assembly.resolveAll host registries) := by
  induction registries generalizing assembly with
  | nil => exact only_pure _
  | cons registry later ih => exact (assembly.resolve_asking host registry).bind ih

theorem resolveAll_keeps (unfilled : assembly.Unfilled) (registries : List Registry) :
    let after := (assembly.resolveAll host registries).value
    after.options = assembly.options ∧ after.Unfilled := by
  induction registries generalizing assembly with
  | nil => exact ⟨rfl, unfilled⟩
  | cons registry later ih =>
      have kept := (resolve_checks unfilled host registry).1
      obtain ⟨options, remains⟩ := ih (unfilled.resolve host registry)
      constructor
      · exact options.trans kept
      · exact remains

section Invalid

variable {option : BadOption}

theorem resolve_invalid (unresolved : assembly.resolved = false)
    (invalid : assembly.options.validate = .error option) (host : Host) (registry : Registry) :
    assembly.resolve host registry
      = pure (.error (.configuration (.badOption option)), assembly, registry) := by
  simp only [resolve, unresolved, invalid, Bool.false_eq_true, if_false]

theorem resolveAll_invalid (unresolved : assembly.resolved = false)
    (invalid : assembly.options.validate = .error option) (registries : List Registry) :
    assembly.resolveAll host registries = pure assembly := by
  induction registries with
  | nil => rfl
  | cons registry later ih =>
      rw [resolveAll, resolve_invalid unresolved invalid, pure_bind]
      exact ih

theorem launch_invalid (unresolved : assembly.resolved = false)
    (invalid : assembly.options.validate = .error option) (clustered : Bool) (files : FileTree)
    (registry : Registry) (took : Span) :
    assembly.launch clustered host files registry took
      = pure (.error (.failed (.configuration (.badOption option))), registry) := by
  cases clustered <;>
    simp [launch, build, buildClustered, prepare, resolve_invalid unresolved invalid, Except.map]

end Invalid

theorem resolve_valid (valid : assembly.options.validate = .ok ()) (host : Host)
    (registry : Registry) :
    (assembly.resolve host registry).value.1
      = .ok ((assembly.resolve host registry).value.2.1.bindings host) := by
  have answered : ∃ bindings, (assembly.resolve host registry).value.1 = .ok bindings := by
    unfold resolve
    cases assembly.resolved with
    | true => exact ⟨_, rfl⟩
    | false =>
        rw [valid]
        exact ⟨_, rfl⟩
  obtain ⟨bindings, answered⟩ := answered
  rw [answered, bindings_of_resolve answered]

theorem launch_valid (unfilled : assembly.Unfilled) (valid : assembly.options.validate = .ok ())
    (clustered : Bool) (host : Host) (files : FileTree) (registry : Registry) (took : Span) :
    let launching := assembly.launch clustered host files registry took
    let leader := (assembly.resolve host registry).value.2.1.slots.clusterManager.value
    (clustered = true ∧ leader = none ∧ Only Entry.IsAsking launching
        ∧ launching.value.1 = .error (.failed (.configuration .noClusterManager)))
      ∨ (clustered = false ∨ leader ≠ none)
        ∧ ∀ fault, launching.value.1 ≠ .error (.failed (.configuration fault)) := by
  intro launching leader
  have answered := resolve_valid valid host registry
  have options := (resolve_checks unfilled host registry).1
  have prepares := value_prepare assembly host registry
  rcases resolves : (assembly.resolve host registry).value with ⟨answer, prepared, after⟩
  rw [resolves] at answered options prepares
  dsimp only at answered options
  subst answered
  have sameLeader : leader = (prepared.bindings host).clusterManager := by
    change (assembly.resolve host registry).value.2.1.slots.clusterManager.value = _
    rw [resolves]
    rfl
  rw [sameLeader]
  cases joins : clusterOf (prepared.bindings host) clustered with
  | none =>
      obtain ⟨refused, asks⟩ := launch_leaderless files took prepares joins
      left
      cases clustered with
      | false => cases joins
      | true => exact ⟨rfl, Option.map_eq_none_iff.mp joins, asks, refused⟩
  | some cluster =>
      obtain ⟨_, _, bounded, _⟩ := Options.validate_eq_ok_iff.mp (options ▸ valid)
      have value := (assembly.launch_yields clustered host files registry took prepares joins).1
      right
      constructor
      · cases clustered with
        | false => exact Or.inl rfl
        | true =>
            obtain ⟨manager, bound, _⟩ := Option.map_eq_some_iff.mp joins
            right
            simp [bound]
      · intro fault refused
        have halted := (congrArg Prod.fst value).symm.trans refused
        cases started : (Engine.start host files prepared.options (prepared.bindings host) cluster
            prepared.blockedHandler took).value with
        | error aborted =>
            rw [started] at halted
            exact Engine.start_suited bounded started fault (Except.error.inj halted)
        | ok engine =>
            rw [started] at halted
            cases halted

end Assembly

namespace Joining

variable (fault : ConfigurationFault)

theorem poll_configured (joining : Joining) :
    joining.poll.value ≠ .ok (.error (.configuration fault)) := by
  obtain ⟨engine, ⟨name, nodes, joinPolls, joinFailure, leavePolls, leaveFailure⟩, stage⟩ := joining
  have settles (polls : Nat) : (poll ⟨engine,
      ⟨name, nodes, joinPolls, joinFailure, leavePolls, leaveFailure⟩, .asked polls⟩).value
        ≠ .ok (.error (.configuration fault)) := by
    intro refused
    cases polls with
    | zero => cases joinFailure <;> cases refused
    | succ polls => cases refused
  cases stage with
  | fresh => exact settles joinPolls
  | asked polls => exact settles polls

theorem pollUpTo_configured (joining : Joining) (polls : Nat) :
    (joining.pollUpTo polls).value ≠ .ok (.error (.configuration fault)) := by
  induction polls generalizing joining with
  | zero => nofun
  | succ polls ih =>
      intro refused
      rw [pollUpTo, Told.value_bind] at refused
      cases polled : joining.poll.value with
      | error waiting =>
          rw [polled] at refused
          exact ih waiting refused
      | ok answer =>
          rw [polled] at refused
          cases refused
          exact joining.poll_configured fault polled

theorem drive_configured (joining : Joining) (polls : Nat) :
    (joining.drive polls).value ≠ some (.error (.configuration fault)) := by
  intro refused
  rw [drive, Told.value_bind] at refused
  cases polled : (joining.pollUpTo polls).value with
  | error waiting =>
      rw [polled] at refused
      cases refused
  | ok answer =>
      rw [polled] at refused
      cases refused
      exact joining.pollUpTo_configured fault polls polled

end Joining

namespace Assembly

/-! ### Builds after the last setting -/

section Boot

variable (host : Host) (files : FileTree) (settings : List Setting) (registries : List Registry)
  (clustered : Bool) (registry : Registry) (took : Span)

theorem boot_invalid {option : BadOption}
    (invalid : (configured host settings).options.validate = .error option) :
    boot host files settings registries clustered registry took
      = pure (.error (.failed (.configuration (.badOption option))), registry) := by
  have unresolved := resolved_configured host settings
  rw [boot, resolveAll_invalid unresolved invalid, pure_bind]
  exact launch_invalid unresolved invalid clustered files registry took

theorem boot_valid (valid : (configured host settings).options.validate = .ok ()) :
    let booting := boot host files settings registries clustered registry took
    let assembly := ((configured host settings).resolveAll host registries).value
    let leader := (assembly.resolve host registry).value.2.1.slots.clusterManager.value
    (clustered = true ∧ leader = none ∧ Only Entry.IsAsking booting
        ∧ booting.value.1 = .error (.failed (.configuration .noClusterManager)))
      ∨ (clustered = false ∨ leader ≠ none)
        ∧ ∀ fault, booting.value.1 ≠ .error (.failed (.configuration fault)) := by
  obtain ⟨options, unfilled⟩ := @resolveAll_keeps _ host (unfilled_configured host settings)
    registries
  have launches := launch_valid unfilled (options ▸ valid) clustered host files registry took
  rcases launches with ⟨cluster, leaderless, asks, refused⟩ | launched
  · exact Or.inl ⟨cluster, leaderless, (resolveAll_asking registries).bind asks, refused⟩
  · exact Or.inr launched

end Boot

/-- A caller who sets nothing after the first resolution is refused for the configuration exactly
if the options are not valid, or if a cluster manager is needed and none is there once the slots
are resolved. Whatever was resolved before, the parts have then done no more than answer probes and
activate: there is no thread, no executor and no watchdog, and no cluster has heard of a manager.
Under options that are not valid nothing was asked at all. The joining of a cluster is never
refused for the configuration. -/
theorem boot_configuration (host : Host) (files : FileTree) (settings : List Setting)
    (registries : List Registry) (clustered : Bool) (registry : Registry) (took : Span) :
    let booting := boot host files settings registries clustered registry took
    let options := (configured host settings).options
    let assembly := ((configured host settings).resolveAll host registries).value
    let leader := (assembly.resolve host registry).value.2.1.slots.clusterManager.value
    let refusedFor := fun fault => booting.value.1 = .error (.failed (.configuration fault))
    ((∃ fault, refusedFor fault)
        ↔ options.validate ≠ .ok () ∨ clustered = true ∧ leader = none)
      ∧ ((∃ fault, refusedFor fault) → Only Entry.IsAsking booting)
      ∧ (options.validate ≠ .ok () → booting.entries = [])
      ∧ (∀ fault, refusedFor fault →
          options.validate = .ok () ∧ fault = .noClusterManager
            ∨ ∃ option, options.validate = .error option ∧ fault = .badOption option)
      ∧ ∀ (joining : Joining) polls fault,
          (joining.drive polls).value ≠ some (.error (.configuration fault)) := by
  intro booting options assembly leader refusedFor
  have joins (joining : Joining) (polls : Nat) (fault : ConfigurationFault) :
      (joining.drive polls).value ≠ some (.error (.configuration fault)) :=
    joining.drive_configured fault polls
  cases checked : options.validate with
  | error option =>
      have same : booting
          = pure (.error (.failed (.configuration (.badOption option))), registry) :=
        boot_invalid host files settings registries clustered registry took checked
      have refused : refusedFor (.badOption option) := congrArg (·.value.1) same
      refine ⟨iff_of_true ⟨_, refused⟩ (Or.inl nofun), fun _ => ?_, fun _ => ?_, fun fault again => ?_,
        joins⟩
      · rw [same]
        exact only_pure _
      · rw [same]
        rfl
      · cases refused.symm.trans again
        exact Or.inr ⟨option, rfl, rfl⟩
  | ok valid =>
      rcases boot_valid host files settings registries clustered registry took checked with
        ⟨cluster, leaderless, asks, refused⟩ | ⟨led, never⟩
      · refine ⟨iff_of_true ⟨_, refused⟩ (Or.inr ⟨cluster, leaderless⟩), fun _ => asks,
          fun invalid => absurd rfl invalid, fun fault again => ?_, joins⟩
        cases refused.symm.trans again
        exact Or.inl ⟨rfl, rfl⟩
      · refine ⟨iff_of_false (fun ⟨fault, refused⟩ => never fault refused) ?_,
          fun ⟨fault, refused⟩ => absurd refused (never fault), fun invalid => absurd rfl invalid,
          fun fault refused => absurd refused (never fault), joins⟩
        rintro (invalid | ⟨cluster, leaderless⟩)
        · exact invalid rfl
        · simp [cluster, leader, assembly, leaderless] at led

example : (boot default default [.options Engine.small] [.empty] true .empty default).value.1
    = .error (.failed (.configuration .noClusterManager)) := rfl

end Assembly

end Reactor
