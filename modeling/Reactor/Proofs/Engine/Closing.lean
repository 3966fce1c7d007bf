import Reactor.Engine.Lifecycle
import Reactor.Proofs.Crew.Holding

/-!
The closing of a runtime from outside. What a runtime holds stays the same as long as it lives:
the threads of its loops and of its workers, and the parts bound to it. The first close waits for
the threads in their order and then tells the parts; every later one does nothing at all.
-/

namespace Reactor

open Told

structure Holdings where
  loops : List (String × List RuntimeThread)
  shape : PoolShape
  workers : List RuntimeThread
  resolver : FileResolver
  tracer : Option Tracer
  metrics : Option MetricsSink
  cluster : Option ClusterBinding

/-- What a close does about all that is held, in its order. -/
def Holdings.releases (holdings : Holdings) : List Entry :=
  holdings.loops.flatMap (fun loop => farewells loop.2) ++ farewells holdings.workers
    ++ .deed .watchdogStopped :: .call (.closeResolver holdings.resolver)
      :: (holdings.tracer.toList.map (fun tracer => .call (.closeTracer tracer))
        ++ hooks holdings.metrics .close)

namespace Pool

theorem shutdown_yields {pool : Pool} {working : Bool} (atWork : pool.crew.AtWork working)
    (watch : Watch) :
    ∃ jobs stopped left, (pool.shutdown watch .caller).Yields Entry.doing? (jobs, stopped, left)
        (if working then farewells pool.crew.threads else [])
      ∧ stopped.shape = pool.shape ∧ pool.crew.Ceases stopped.crew := by
  unfold shutdown
  cases working with
  | false =>
      rw [if_pos atWork.accepting]
      exact ⟨_, _, _, yields_pure _, rfl, rfl, atWork, fun _ => id⟩
  | true =>
      rw [if_neg (by rw [atWork.accepting]; exact Bool.true_eq_false.mp)]
      have stops := pool.crew.stop_yields watch
        (fun report => Told.log .caller .warn .executor "Pool thread exited abnormally"
          [("pool", .shown pool.shape.name), ("error", .shown report)])
        fun _ => rfl
      rw [atWork.held] at stops
      exact ⟨_, _, _, stops.andLast ((yields_tell _).andThen (yields_pure _)), rfl,
        pool.crew.ceases_stop watch _⟩

end Pool

namespace EventLoop

theorem stop_yields {loop : EventLoop} {working : Bool} (atWork : loop.crew.AtWork working)
    (watch : Watch) :
    ∃ jobs stopped left, (loop.stop watch .caller).Yields Entry.doing? (jobs, stopped, left)
        (if working then farewells loop.crew.threads else [])
      ∧ stopped.name = loop.name ∧ loop.crew.Ceases stopped.crew := by
  have stops := loop.crew.stop_yields watch
    (fun report => Told.log .caller .warn .runtime "Event loop exited abnormally"
      [("event_loop", .shown loop.name), ("error", .shown report)])
    fun _ => rfl
  rw [atWork.held] at stops
  exact ⟨_, _, _, stops.andLast (yields_pure _), rfl, loop.crew.ceases_stop watch _⟩

end EventLoop

theorem FileResolver.close_yields (resolver : FileResolver) (actor : Actor) (working : Place)
    (files : FileTree) :
    ∃ failure left, (resolver.close actor working files).Yields Entry.doing? (failure, left)
      [.call (.closeResolver resolver)] := by
  unfold close
  cases resolver with
  | named name closes failure => exact ⟨_, _, (yields_tell _).andLast (yields_pure _)⟩
  | standard resolver =>
      have disposes : ∃ failure left, (resolver.dispose actor working files).Yields Entry.doing?
          (failure, left) [] := by
        unfold StandardResolver.dispose
        split
        · exact ⟨_, _, yields_pure _⟩
        · exact ⟨_, _, (yields_tell _).andThen (yields_pure _)⟩
        · exact ⟨_, _, yields_pure _⟩
      obtain ⟨failure, left, yields⟩ := disposes
      exact ⟨failure, left, (yields_tell _).andLast yields⟩

namespace Engine

def holdings (engine : Engine) : Holdings where
  loops := engine.loops.map fun loop => (loop.name, loop.crew.threads)
  shape := engine.workers.shape
  workers := engine.workers.crew.threads
  resolver := engine.resolver
  tracer := engine.tracer
  metrics := engine.metrics
  cluster := engine.cluster

def jobs (engine : Engine) : List Job :=
  engine.loops.flatMap (·.crew.line.jobs) ++ engine.workers.crew.line.jobs

/-- An open runtime holds all of its threads and takes jobs; a closed one does neither. -/
structure Sound (engine : Engine) : Prop where
  loops : ∀ loop ∈ engine.loops, loop.crew.AtWork (!engine.closed)
  workers : engine.workers.crew.AtWork (!engine.closed)
  watchdog : engine.watchdogClosed = engine.closed

/-- What a close still has to do. -/
def due (engine : Engine) : List Entry := if engine.closed then [] else engine.holdings.releases

/-- The runtime has been closed, and has no other jobs than before. -/
structure Closes (engine next : Engine) : Prop where
  holdings : next.holdings = engine.holdings
  sound : next.Sound
  closed : next.closed = true
  jobs : ∀ job ∈ next.jobs, job ∈ engine.jobs

variable {engine : Engine}

theorem Closes.refl (sound : engine.Sound) (closed : engine.closed = true) : engine.Closes engine :=
  ⟨rfl, sound, closed, fun _ => id⟩

theorem Closes.trans {between last : Engine} (first : engine.Closes between)
    (second : between.Closes last) : engine.Closes last where
  holdings := second.holdings.trans first.holdings
  sound := second.sound
  closed := second.closed
  jobs job present := first.jobs job (second.jobs job present)

theorem stopLoops_yields {working : Bool} (watch : Watch) {loops : List EventLoop}
    (atWork : ∀ loop ∈ loops, loop.crew.AtWork working) :
    ∃ jobs stopped left, (stopLoops watch .caller loops).Yields Entry.doing? (jobs, stopped, left)
        (if working then loops.flatMap (fun loop => farewells loop.crew.threads) else [])
      ∧ stopped.map (fun loop => (loop.name, loop.crew.threads))
        = loops.map (fun loop => (loop.name, loop.crew.threads))
      ∧ (∀ loop ∈ stopped, loop.crew.AtWork false)
      ∧ ∀ job ∈ stopped.flatMap (·.crew.line.jobs), job ∈ loops.flatMap (·.crew.line.jobs) := by
  induction loops generalizing watch with
  | nil =>
      refine ⟨[], [], watch, (yields_pure _).of_eq rfl ?_, rfl, fun _ => ?_, fun _ => id⟩
      · cases working <;> rfl
      · intro impossible
        cases impossible
  | cons loop loops ih =>
      obtain ⟨jobs, first, between, stops, name, ceases⟩ :=
        loop.stop_yields (atWork loop List.mem_cons_self) watch
      obtain ⟨others, rest, left, follow, names, idle, within⟩ :=
        ih between fun other present => atWork other (List.mem_cons_of_mem _ present)
      refine ⟨jobs ++ others, first :: rest, left,
        (stops.bind (follow.andLast (yields_pure (jobs ++ others, first :: rest, left)))).of_eq
          rfl ?_, ?_, ?_, ?_⟩
      · cases working <;> rfl
      · rw [List.map_cons, List.map_cons, names, name, ceases.threads]
      · exact List.forall_mem_cons.mpr ⟨ceases.idle, idle⟩
      · intro job present
        rw [List.flatMap_cons, List.mem_append] at *
        exact present.imp (ceases.jobs job) (within job)

theorem tellParts_yields {α : Type} (tracer : Option Tracer) (metrics : Option MetricsSink)
    (result : α) :
    Yields Entry.doing? (do
        match tracer with
        | some tracer => Told.call (.closeTracer tracer)
        | none => pure ()
        Workshop.tellMetrics metrics .close
        Told.log .caller .info .runtime "Runtime closed" []
        return result)
      result
      (tracer.toList.map (fun tracer => .call (.closeTracer tracer)) ++ hooks metrics .close) := by
  cases tracer with
  | none =>
      exact (tellMetrics_yields _ _).andLast ((yields_tell _).andThen (yields_pure _))
  | some tracer =>
      exact (yields_tell _).bind
        ((tellMetrics_yields _ _).andLast ((yields_tell _).andThen (yields_pure _)))

theorem closeBy_yields (sound : engine.Sound) :
    ∃ jobs next, (engine.closeBy .caller).Yields Entry.doing? (jobs, next) engine.due
      ∧ engine.Closes next := by
  unfold closeBy due
  cases closed : engine.closed with
  | true =>
      exact ⟨[], engine, yields_pure _, .refl sound closed⟩
  | false =>
      have working := sound.loops
      have employed := sound.workers
      rw [closed] at working employed
      obtain ⟨loopJobs, loops, between, stops, names, idle, within⟩ :=
        stopLoops_yields engine.workshop.watch working
      obtain ⟨poolJobs, workers, left, shuts, shape, ceases⟩ := Pool.shutdown_yields employed between
      obtain ⟨failure, files, resolves⟩ :=
        engine.resolver.close_yields .caller engine.host.workingPlace engine.files
      let shut : Engine :=
        { engine with
          closed := true
          watchdogClosed := true
          loops
          workers
          workshop := { engine.workshop with watch := left }
          files }
      refine ⟨loopJobs ++ poolJobs, shut, ?_, ?_⟩
      · refine Yields.of_eq (stops.bind (shuts.bind ((yields_tell (.deed .watchdogStopped)).bind
          (Yields.bind (show Yields Entry.doing? _ shut [.call (.closeResolver engine.resolver)]
            from ?_)
            (tellParts_yields engine.tracer engine.metrics (loopJobs ++ poolJobs, shut)))))) rfl ?_
        · refine resolves.andLast ?_
          cases failure with
          | none => exact yields_pure _
          | some reason => exact (yields_tell _).andThen (yields_pure _)
        · have threads : (engine.loops.map fun loop => (loop.name, loop.crew.threads)).flatMap
              (fun loop => farewells loop.2)
              = engine.loops.flatMap fun loop => farewells loop.crew.threads := List.flatMap_map ..
          unfold Holdings.releases holdings
          rw [threads, List.append_assoc]
          rfl
      · refine ⟨?_, ⟨idle, ceases.idle, rfl⟩, rfl, ?_⟩
        · unfold holdings
          rw [names, shape, ceases.threads]
        · intro job present
          unfold jobs at *
          rw [List.mem_append] at *
          exact present.imp (within job) (ceases.jobs job)

theorem close_yields (sound : engine.Sound) :
    ∃ next, engine.close.Yields Entry.doing? next engine.due ∧ engine.Closes next := by
  obtain ⟨jobs, next, yields, closes⟩ := closeBy_yields sound
  exact ⟨next, yields.andLast (yields_pure _), closes⟩

theorem due_closed (closed : engine.closed = true) : engine.due = [] := if_pos closed

theorem due_open (opened : engine.closed = false) : engine.due = engine.holdings.releases :=
  if_neg (by rw [opened]; exact Bool.false_ne_true)

/-! ### Letting go of a runtime -/

theorem drop_yields (sound : engine.Sound) :
    ∃ next, engine.drop.Yields Entry.doing? next engine.due := by
  obtain ⟨shut, yields, closes⟩ := close_yields sound
  have idle := closes.sound.loops
  have unemployed := closes.sound.workers
  rw [closes.closed] at idle unemployed
  obtain ⟨_, loops, between, stops, _⟩ := stopLoops_yields shut.workshop.watch idle
  obtain ⟨_, workers, left, shuts, _⟩ := Pool.shutdown_yields unemployed between
  have quiet : shut.watchdogClosed ≠ false := by
    rw [closes.sound.watchdog, closes.closed]
    exact Bool.true_eq_false.mp
  let gone : Engine :=
    { shut with
      loops
      workers
      watchdogClosed := true
      workshop := { shut.workshop with watch := left } }
  refine ⟨gone, yields.andLast (stops.andThen (shuts.andThen ?_))⟩
  dsimp only
  rw [if_neg quiet]
  exact yields_pure gone

end Engine

end Reactor
