import Reactor.Engine.Lifecycle
import Reactor.Proofs.Engine.Closing

/-!
Shutting a runtime down. The first poll of a shutdown asks the cluster manager to leave, if the
runtime is clustered and still open; the poll that brings the manager's answer closes the runtime,
whatever the answer is. Polls in between do nothing.
-/

namespace Reactor

open Told

namespace Engine

def leaveAnswer : Option String → Except Failure Unit
  | none => .ok ()
  | some reason => .error ⟨"Failed to leave cluster", [reason]⟩

/-- The cluster manager that a shutdown begun now asks to leave. -/
def departs? (engine : Engine) : Option ClusterManager :=
  if engine.closed then none else engine.cluster.map (·.manager)

def leaveCalls (engine : Engine) : Departure → List Entry
  | .fresh => engine.departs?.toList.map fun manager => .call (.leaveCluster manager)
  | .leaving _ _ => []

variable {engine : Engine}

theorem departs?_closed (closed : engine.closed = true) : engine.departs? = none := if_pos closed

theorem departs?_eq_some {manager : ClusterManager} (asked : engine.departs? = some manager) :
    engine.closed = false ∧ ∃ binding, engine.cluster = some binding ∧ binding.manager = manager := by
  unfold departs? at asked
  cases closed : engine.closed with
  | true =>
      rw [closed] at asked
      cases asked
  | false =>
      rw [closed] at asked
      exact ⟨rfl, Option.map_eq_some_iff.mp asked⟩

theorem pollShutdown_answered (sound : engine.Sound) (manager : ClusterManager) :
    ∃ next, (engine.pollShutdown (.leaving manager 0)).Yields Entry.doing?
        (next, .ok (leaveAnswer manager.leaveFailure)) engine.due
      ∧ engine.Closes next := by
  obtain ⟨next, yields, closes⟩ := close_yields sound
  refine ⟨next, Yields.andLast yields ?_, closes⟩
  cases manager.leaveFailure with
  | none => exact yields_pure _
  | some reason => exact yields_pure _

theorem pollShutdown_bare (sound : engine.Sound) (bare : engine.departs? = none) :
    ∃ next, (engine.pollShutdown .fresh).Yields Entry.doing? (next, .ok (.ok ())) engine.due
      ∧ engine.Closes next := by
  obtain ⟨next, yields, closes⟩ := close_yields sound
  refine ⟨next, ?_, closes⟩
  unfold departs? at bare
  unfold pollShutdown
  cases clustered : engine.cluster with
  | none => exact Yields.andLast yields (yields_pure _)
  | some binding =>
      cases closed : engine.closed with
      | true => exact Yields.andLast yields (yields_pure _)
      | false =>
          rw [clustered, closed] at bare
          cases bare

theorem pollShutdown_asks {manager : ClusterManager} (asked : engine.departs? = some manager) :
    engine.pollShutdown .fresh
      = (do
          Told.call (.leaveCluster manager)
          engine.pollShutdown (.leaving manager manager.leavePolls)) := by
  obtain ⟨opened, binding, clustered, rfl⟩ := departs?_eq_some asked
  unfold pollShutdown
  rw [clustered]
  dsimp only
  rw [opened]
  rfl

/-- A poll either brings the answer and closes the runtime, or changes nothing. -/
theorem pollShutdown_yields (sound : engine.Sound) (departure : Departure) :
    ∃ next outcome seen, (engine.pollShutdown departure).Yields Entry.doing? (next, outcome)
        (engine.leaveCalls departure ++ seen)
      ∧ ((∃ answer, outcome = .ok answer ∧ seen = engine.due ∧ engine.Closes next)
        ∨ ∃ manager polls, outcome = .error (.leaving manager polls) ∧ seen = [] ∧ next = engine) := by
  have waits (manager : ClusterManager) (polls : Nat) :
      ∃ next outcome seen, (engine.pollShutdown (.leaving manager polls)).Yields Entry.doing?
          (next, outcome) seen
        ∧ ((∃ answer, outcome = .ok answer ∧ seen = engine.due ∧ engine.Closes next)
          ∨ ∃ manager polls, outcome = .error (.leaving manager polls) ∧ seen = []
            ∧ next = engine) := by
    cases polls with
    | zero =>
        obtain ⟨next, yields, closes⟩ := pollShutdown_answered sound manager
        exact ⟨next, _, _, yields, Or.inl ⟨_, rfl, rfl, closes⟩⟩
    | succ polls =>
        exact ⟨engine, _, _, yields_pure _, Or.inr ⟨manager, polls, rfl, rfl, rfl⟩⟩
  cases departure with
  | leaving manager polls => exact waits manager polls
  | fresh =>
      unfold leaveCalls
      cases asked : engine.departs? with
      | none =>
          obtain ⟨next, yields, closes⟩ := pollShutdown_bare sound asked
          exact ⟨next, _, _, yields, Or.inl ⟨_, rfl, rfl, closes⟩⟩
      | some manager =>
          obtain ⟨next, outcome, seen, yields, ends⟩ := waits manager manager.leavePolls
          rw [pollShutdown_asks asked]
          exact ⟨next, outcome, seen, (yields_tell _).bind yields, ends⟩

theorem shutdownUpTo_leaving (sound : engine.Sound) (manager : ClusterManager) (polls : Nat) :
    ∃ next, (engine.shutdownUpTo (.leaving manager polls) (polls + 1)).Yields Entry.doing?
        (next, leaveAnswer manager.leaveFailure) engine.due
      ∧ engine.Closes next := by
  induction polls with
  | zero =>
      obtain ⟨next, yields, closes⟩ := pollShutdown_answered sound manager
      exact ⟨next, yields.andLast (yields_pure _), closes⟩
  | succ polls ih =>
      obtain ⟨next, yields, closes⟩ := ih
      exact ⟨next, (yields_pure _).andThen yields, closes⟩

/-- A shutdown that is polled to its answer asks the manager once, if there is one to be asked,
and ends with the runtime closed. -/
theorem shutdown_yields (sound : engine.Sound) :
    ∃ next, engine.shutdown.Yields Entry.doing?
        (next, leaveAnswer (engine.departs?.bind (·.leaveFailure)))
        (engine.leaveCalls .fresh ++ engine.due)
      ∧ engine.Closes next := by
  unfold leaveCalls shutdown shutdownUpTo
  dsimp only
  cases asked : engine.departs? with
  | none =>
      obtain ⟨next, yields, closes⟩ := pollShutdown_bare sound asked
      exact ⟨next, yields.andLast (yields_pure _), closes⟩
  | some manager =>
      obtain ⟨_, binding, clustered, rfl⟩ := departs?_eq_some asked
      obtain ⟨next, yields, closes⟩ :=
        shutdownUpTo_leaving sound binding.manager binding.manager.leavePolls
      rw [pollShutdown_asks asked, clustered, bind_assoc]
      exact ⟨next, (yields_tell _).bind yields, closes⟩

end Engine

end Reactor
