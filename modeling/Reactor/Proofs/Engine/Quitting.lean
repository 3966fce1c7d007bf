import Reactor.Proofs.Engine.Closing

/-!
The closing of a runtime from anywhere: from outside, from a job of one of its threads, or from a
handler in the middle of a pass. Whoever closes it, the watch only lets go of monitors, and apart
from threads and the log only the parts hear of it, each once.
-/

namespace Reactor

open Told

/-- What stopping threads tells of. -/
inductive Entry.IsStopping : Entry → Prop where
  | deed (deed : Deed) : IsStopping (.deed deed)
  | log {event : LogEvent} (actor : Actor) : event.target ≠ .watchdog → IsStopping (.log actor event)

theorem Crew.stop_stopping (crew : Crew) (watch : Watch) (actor : Actor)
    {abnormal : String → Told Unit} (quiet : ∀ report, (abnormal report).Only Entry.IsStopping) :
    (crew.stop watch actor abnormal).Only Entry.IsStopping := by
  refine Crew.of_mem_stop .deed (fun actor event target => .log actor ?_) crew watch actor quiet
  rw [target]
  exact Target.noConfusion

namespace Pool

theorem shutdown_stopping (pool : Pool) (watch : Watch) (actor : Actor) :
    (pool.shutdown watch actor).Only Entry.IsStopping
      ∧ watch.Sheds (pool.shutdown watch actor).value.2.2 := by
  unfold shutdown
  split
  · exact ⟨only_pure _, .refl watch⟩
  · refine ⟨(Crew.stop_stopping _ watch actor fun report => only_tell (.log actor ?_)).bind
      ((only_tell (.log actor ?_)).bind (only_pure _)), pool.crew.sheds_stop watch actor _⟩
    · exact Target.noConfusion
    · exact Target.noConfusion

end Pool

namespace EventLoop

theorem stop_stopping (loop : EventLoop) (watch : Watch) (actor : Actor) :
    (loop.stop watch actor).Only Entry.IsStopping
      ∧ watch.Sheds (loop.stop watch actor).value.2.2 := by
  refine ⟨(Crew.stop_stopping _ watch actor fun report => only_tell (.log actor ?_)).bind
    (only_pure _), loop.crew.sheds_stop watch actor _⟩
  exact Target.noConfusion

end EventLoop

theorem FileResolver.close_spread {γ : Type} {read : Entry → Option γ}
    (blind : ∀ entry, entry.IsStopping → read entry = none) (resolver : FileResolver)
    (actor : Actor) (working : Place) (files : FileTree) :
    ∃ failure left, (resolver.close actor working files).Yields read (failure, left)
      (read (.call (.closeResolver resolver))).toList := by
  unfold close
  cases resolver with
  | named name closes failure => exact ⟨_, _, (yields_tell _).andLast (yields_pure _)⟩
  | standard resolver =>
      have disposes : (resolver.dispose actor working files).Only Entry.IsStopping := by
        unfold StandardResolver.dispose
        split
        · exact only_pure _
        · exact (only_tell (.log actor Target.noConfusion)).bind (only_pure _)
        · exact only_pure _
      exact ⟨_, _, (yields_tell _).andLast (disposes.mono blind).yields⟩

namespace Engine

theorem stopLoops_stopping (watch : Watch) (actor : Actor) (loops : List EventLoop) :
    (stopLoops watch actor loops).Only Entry.IsStopping
      ∧ watch.Sheds (stopLoops watch actor loops).value.2.2 := by
  induction loops generalizing watch with
  | nil => exact ⟨only_pure _, .refl watch⟩
  | cons loop loops ih =>
      obtain ⟨told, sheds⟩ := loop.stop_stopping watch actor
      obtain ⟨others, later⟩ := ih (loop.stop watch actor).value.2.2
      exact ⟨told.bind (others.bind (only_pure _)), sheds.trans later⟩

/-- Who hears of a closing: the resolver, then the tracer, then the metrics. -/
def closingCalls (engine : Engine) : List Entry :=
  .call (.closeResolver engine.resolver)
    :: (engine.tracer.toList.map (fun tracer => .call (.closeTracer tracer))
      ++ hooks engine.metrics .close)

/-- The runtime once it is closed; the parts and the watchdog's listeners are those it had. -/
def Quits (engine next : Engine) : Prop :=
  ∃ (loops : List EventLoop) (workers : Pool) (watch : Watch) (files : FileTree)
    (watchdogClosed : Bool), engine.workshop.watch.Sheds watch
      ∧ next =
        { engine with
          closed := true
          watchdogClosed, loops, workers, files
          workshop := { engine.workshop with watch } }

theorem Quits.refl {engine : Engine} (closed : engine.closed = true) : engine.Quits engine := by
  refine ⟨engine.loops, engine.workers, engine.workshop.watch, engine.files,
    engine.watchdogClosed, .refl _, ?_⟩
  rw [← closed]

variable {γ : Type} {read : Entry → Option γ}

theorem tellParts_spread {α : Type} (blind : ∀ entry, entry.IsStopping → read entry = none)
    (tracer : Option Tracer) (metrics : Option MetricsSink) (actor : Actor) (result : α) :
    Yields read (do
        match tracer with
        | some tracer => Told.call (.closeTracer tracer)
        | none => pure ()
        Workshop.tellMetrics metrics .close
        Told.log actor .info .runtime "Runtime closed" []
        return result)
      result
      ((tracer.toList.map (fun tracer => Entry.call (.closeTracer tracer))
        ++ hooks metrics .close).filterMap read) := by
  have unlogged : (Told.log actor .info .runtime "Runtime closed" []).Yields read () [] :=
    ((only_tell (.log actor Target.noConfusion)).mono blind).yields
  have metered : (Workshop.tellMetrics metrics .close).Yields read ()
      ((hooks metrics .close).filterMap read) := by
    cases metrics with
    | none => exact yields_pure ()
    | some sink => exact ⟨rfl, rfl⟩
  have last : Yields read (do
      Workshop.tellMetrics metrics .close
      Told.log actor .info .runtime "Runtime closed" []
      return result) result ((hooks metrics .close).filterMap read) :=
    metered.andLast (unlogged.andThen (yields_pure result))
  cases tracer with
  | none => exact last
  | some tracer =>
      rw [List.filterMap_append]
      exact Yields.bind ⟨rfl, rfl⟩ last

theorem closeBy_quits (blind : ∀ entry, entry.IsStopping → read entry = none) (engine : Engine)
    (actor : Actor) :
    ∃ jobs next, (engine.closeBy actor).Yields read (jobs, next)
        (if engine.closed then [] else engine.closingCalls.filterMap read)
      ∧ engine.Quits next := by
  have unseen {α : Type} {told : Told α} (stopping : told.Only Entry.IsStopping) :
      told.Yields read told.value [] :=
    (stopping.mono blind).yields
  have unlogged (actor : Actor) (event : LogEvent) (target : event.target ≠ .watchdog) :
      (Told.tell (.log actor event)).Yields read () [] := unseen (only_tell (.log actor target))
  unfold closeBy
  cases closed : engine.closed with
  | true => exact ⟨[], engine, yields_pure _, .refl closed⟩
  | false =>
      obtain ⟨stopped, sheds⟩ := stopLoops_stopping engine.workshop.watch actor engine.loops
      rcases stops : (stopLoops engine.workshop.watch actor engine.loops).value with
        ⟨loopJobs, loops, between⟩
      obtain ⟨shut, later⟩ := engine.workers.shutdown_stopping between actor
      rcases shuts : (engine.workers.shutdown between actor).value with ⟨poolJobs, workers, left⟩
      obtain ⟨failure, files, resolves⟩ :=
        engine.resolver.close_spread blind actor engine.host.workingPlace engine.files
      rw [stops] at sheds
      rw [shuts] at later
      let quit : Engine :=
        { engine with
          closed := true
          watchdogClosed := true
          loops
          workers
          workshop := { engine.workshop with watch := left }
          files }
      refine ⟨loopJobs ++ poolJobs, quit, ?_, loops, workers, left, files, true,
        sheds.trans later, rfl⟩
      have stopping := unseen stopped
      have shutting := unseen shut
      rw [stops] at stopping
      rw [shuts] at shutting
      refine Yields.of_eq (stopping.andThen (shutting.andThen
        ((unseen (only_tell (.deed .watchdogStopped))).andThen
          (Yields.bind
            (show Yields read _ quit (read (.call (.closeResolver engine.resolver))).toList from ?_)
            (tellParts_spread blind engine.tracer engine.metrics actor
              (loopJobs ++ poolJobs, quit)))))) rfl ?_
      · refine resolves.andLast ?_
        cases failure with
        | none => exact yields_pure _
        | some reason => exact (unlogged actor _ Target.noConfusion).andThen (yields_pure _)
      · rw [if_neg Bool.false_ne_true, closingCalls, List.filterMap_cons]
        cases read (.call (.closeResolver engine.resolver)) <;> rfl

end Engine

end Reactor
