import Reactor.Engine.Work
import Reactor.Proofs.Engine.Closing

/-!
Jobs on their way into a runtime and through it. There are four ways in. On an open runtime a job
that is taken comes into one line and nothing else changes; on a closed one every way in refuses,
and the runtime stays as it is. A job that was refused is in no line.
-/

namespace Reactor

open Told

theorem Pool.submit_idle {pool : Pool} (idle : pool.crew.line.accepting = false) (job : Job) :
    pool.submit job = .error (.poolShutDown pool.shape.name) := by
  unfold Pool.submit Line.submit
  rw [if_pos idle]

theorem EventLoop.submit_idle {loop : EventLoop} (idle : loop.crew.line.accepting = false)
    (job : Job) : loop.submit job = .error (.loopStopped loop.name) := by
  unfold EventLoop.submit Line.submit
  rw [if_pos idle]

def Seat.place : Seat → Nat
  | .loop _ => 0
  | .worker place => place

namespace Engine

/-- The runtime goes on as it was, with no other jobs than before and the ones brought in. -/
structure Continues (engine next : Engine) (brought : List Job) : Prop where
  holdings : next.holdings = engine.holdings
  closed : next.closed = engine.closed
  sound : engine.Sound → next.Sound
  jobs : ∀ job ∈ next.jobs, job ∈ brought ∨ job ∈ engine.jobs

variable {engine next : Engine} {brought : List Job}

theorem Continues.refl (engine : Engine) (brought : List Job) : engine.Continues engine brought :=
  ⟨rfl, rfl, id, fun _ => Or.inr⟩

theorem Continues.due (continues : engine.Continues next brought) : next.due = engine.due := by
  unfold Engine.due
  rw [continues.closed, continues.holdings]

theorem continues_loop {index : Nat} {loop : EventLoop} {crew : Crew}
    (present : engine.loops[index]? = some loop) (continues : loop.crew.Continues crew brought)
    (watch : Watch) (position : UInt64) :
    engine.Continues
      { engine with
        loops := engine.loops.set index { loop with crew }
        workshop := { engine.workshop with watch }
        nextLoop := position }
      brought := by
  obtain ⟨within, found⟩ := List.getElem?_eq_some_iff.mp present
  refine ⟨?_, rfl, fun sound => ⟨?_, sound.workers, sound.watchdog⟩, ?_⟩
  · have same : (engine.loops.set index { loop with crew }).map
        (fun loop => (loop.name, loop.crew.threads))
        = engine.loops.map fun loop => (loop.name, loop.crew.threads) := by
      subst found
      rw [List.map_set, continues.threads]
      refine List.ext_getElem? fun place => ?_
      rw [List.getElem?_set]
      by_cases here : index = place
      · subst place
        simp [within]
      · rw [if_neg here]
    unfold holdings
    rw [same]
  · intro other member
    rcases List.mem_or_eq_of_mem_set member with old | rfl
    · exact sound.loops other old
    · exact continues.atWork (sound.loops loop (List.mem_of_getElem? present))
  · intro job member
    unfold jobs at *
    rw [List.mem_append] at *
    rcases member with atLoop | atWorkers
    · obtain ⟨other, listed, inLine⟩ := List.mem_flatMap.mp atLoop
      rcases List.mem_or_eq_of_mem_set listed with old | rfl
      · exact Or.inr (Or.inl (List.mem_flatMap.mpr ⟨other, old, inLine⟩))
      · refine (continues.jobs job inLine).imp_right fun known => Or.inl ?_
        exact List.mem_flatMap.mpr ⟨loop, List.mem_of_getElem? present, known⟩
    · exact Or.inr (Or.inr atWorkers)

theorem continues_workers {crew : Crew} (continues : engine.workers.crew.Continues crew brought)
    (watch : Watch) :
    engine.Continues
      { engine with
        workers := { engine.workers with crew }
        workshop := { engine.workshop with watch } }
      brought := by
  refine ⟨?_, rfl, fun sound => ⟨sound.loops, continues.atWork sound.workers, sound.watchdog⟩, ?_⟩
  · unfold holdings
    rw [continues.threads]
  · intro job member
    unfold jobs at *
    rw [List.mem_append] at *
    rcases member with atLoop | atWorkers
    · exact Or.inr (Or.inl atLoop)
    · exact (continues.jobs job atWorkers).imp_right Or.inr

/-- Where a job is offered: to the next loop of the rotation, to one loop, to the runtime for its
workers, or to the pool of workers itself. -/
inductive Entrance where
  | rotation
  | loop (index : Nat)
  | blocking
  | pool
deriving DecidableEq

private def settled (engine : Engine) :
    Except SubmitFault Engine → Except (Halt SubmitFault) Unit × Engine
  | .ok next => (.ok (), next)
  | .error fault => (.error (.failed fault), engine)

def offer (engine : Engine) (job : Job) :
    Entrance → Option (Except (Halt SubmitFault) Unit × Engine)
  | .rotation =>
      let (answer, next) := engine.dispatch job
      some (answer.map fun _ => (), next)
  | .loop index => (engine.submitTo index job).map engine.settled
  | .blocking => some (engine.settled (engine.executeBlocking job))
  | .pool => some (engine.settled
      ((engine.workers.submit job).map fun workers => { engine with workers }))

def refusal? (engine : Engine) : Entrance → Option SubmitFault
  | .rotation | .blocking => some .runtimeClosed
  | .loop index => engine.loops[index]?.map fun loop => .loopStopped loop.name
  | .pool => some (.poolShutDown engine.workers.shape.name)

theorem offer_closed (sound : engine.Sound) (closed : engine.closed = true) (job : Job)
    (entrance : Entrance) :
    engine.offer job entrance
      = (engine.refusal? entrance).map fun fault => (.error (.failed fault), engine) := by
  cases entrance with
  | rotation =>
      unfold offer dispatch
      rw [if_pos closed]
      rfl
  | blocking =>
      unfold offer executeBlocking
      rw [if_pos closed]
      rfl
  | pool =>
      have idle := sound.workers.accepting
      rw [closed] at idle
      unfold offer
      dsimp only
      rw [Pool.submit_idle idle]
      rfl
  | loop index =>
      change (engine.submitTo index job).map engine.settled
        = (engine.loops[index]?.map fun loop => SubmitFault.loopStopped loop.name).map _
      unfold submitTo
      cases present : engine.loops[index]? with
      | none => rfl
      | some loop =>
          have idle := (sound.loops loop (List.mem_of_getElem? present)).accepting
          rw [closed] at idle
          change some (engine.settled ((loop.submit job).map _)) = _
          rw [EventLoop.submit_idle idle]
          rfl

theorem submitTo_continues {index : Nat} {job : Job}
    (submitted : engine.submitTo index job = some (.ok next)) : engine.Continues next [job] := by
  unfold submitTo at submitted
  obtain ⟨loop, present, submitted⟩ := Option.map_eq_some_iff.mp submitted
  unfold EventLoop.submit at submitted
  cases accepted : loop.crew.line.submit job with
  | error refusal =>
      rw [accepted] at submitted
      cases refusal <;> cases submitted
  | ok line =>
      rw [accepted] at submitted
      cases submitted
      exact continues_loop present (Crew.continues_submit accepted) engine.workshop.watch
        engine.nextLoop

theorem submit_continues {job : Job}
    (submitted : (engine.workers.submit job).map (fun workers => { engine with workers }) = .ok next) :
    engine.Continues next [job] := by
  unfold Pool.submit at submitted
  cases accepted : engine.workers.crew.line.submit job with
  | error refusal =>
      rw [accepted] at submitted
      cases refusal <;> cases submitted
  | ok line =>
      rw [accepted] at submitted
      cases submitted
      exact continues_workers (Crew.continues_submit accepted) engine.workshop.watch

theorem Continues.of_rotation (position : UInt64)
    (continues : { engine with nextLoop := position }.Continues next brought) :
    engine.Continues next brought where
  holdings := continues.holdings
  closed := continues.closed
  sound sound := continues.sound ⟨sound.loops, sound.workers, sound.watchdog⟩
  jobs := continues.jobs

def taken (job : Job) : Except (Halt SubmitFault) Unit → List Job
  | .ok () => [job]
  | .error _ => []

theorem outcome_of_settled {outcome : Except SubmitFault Engine}
    {answer : Except (Halt SubmitFault) Unit} (same : engine.settled outcome = (answer, next)) :
    (∃ fault, answer = .error (.failed fault) ∧ next = engine)
      ∨ (answer = .ok () ∧ outcome = .ok next) := by
  cases outcome with
  | error fault =>
      cases same
      exact Or.inl ⟨fault, rfl, rfl⟩
  | ok accepted =>
      cases same
      exact Or.inr ⟨rfl, rfl⟩

theorem settled_cases {outcome : Except SubmitFault Engine}
    {answer : Except (Halt SubmitFault) Unit} (same : engine.settled outcome = (answer, next)) :
    next = engine ∨ outcome = .ok next := by
  rcases outcome_of_settled same with ⟨_, _, unchanged⟩ | ⟨_, done⟩
  · exact Or.inl unchanged
  · exact Or.inr done

theorem settled_continues {job : Job} {outcome : Except SubmitFault Engine}
    {answer : Except (Halt SubmitFault) Unit}
    (accepts : ∀ accepted, outcome = .ok accepted → engine.Continues accepted [job])
    (same : engine.settled outcome = (answer, next)) :
    engine.Continues next (taken job answer) := by
  cases outcome with
  | error fault =>
      cases same
      exact .refl engine []
  | ok accepted =>
      cases same
      exact accepts next rfl

theorem dispatch_continues (engine : Engine) (job : Job) :
    engine.Continues (engine.dispatch job).2 (taken job ((engine.dispatch job).1.map fun _ => ())) := by
  unfold dispatch
  by_cases closed : engine.closed = true
  · rw [if_pos closed]
    exact .refl engine []
  · rw [if_neg closed]
    dsimp only
    refine Continues.of_rotation (engine.nextLoop + 1) ?_
    split
    · exact .refl _ []
    · exact .refl _ []
    · rename_i submitted
      exact submitTo_continues submitted

theorem offer_continues {job : Job} {entrance : Entrance}
    {answer : Except (Halt SubmitFault) Unit}
    (offered : engine.offer job entrance = some (answer, next)) :
    engine.Continues next (taken job answer) := by
  cases entrance with
  | rotation =>
      cases offered
      exact engine.dispatch_continues job
  | blocking =>
      refine settled_continues (fun accepted done => ?_) (Option.some.inj offered)
      unfold executeBlocking at done
      by_cases closed : engine.closed = true
      · rw [if_pos closed] at done
        cases done
      · rw [if_neg closed] at done
        exact submit_continues done
  | pool =>
      exact settled_continues (fun accepted done => submit_continues done) (Option.some.inj offered)
  | loop index =>
      obtain ⟨outcome, submitted, same⟩ := Option.map_eq_some_iff.mp offered
      refine settled_continues (fun accepted done => ?_) same
      exact submitTo_continues (submitted.trans (congrArg some done))

/-! ### Jobs on the threads -/

def crewAt? (engine : Engine) : Seat → Option Crew
  | .loop index => engine.loops[index]?.map (·.crew)
  | .worker _ => some engine.workers.crew

def withCrewAt (engine : Engine) (seat : Seat) (crew : Crew) (watch : Watch) : Engine :=
  let seen := { engine with workshop := { engine.workshop with watch } }
  match seat with
  | .worker _ => { seen with workers := { engine.workers with crew } }
  | .loop index =>
      match engine.loops[index]? with
      | none => seen
      | some loop => { seen with loops := engine.loops.set index { loop with crew } }

def receiveAt (engine : Engine) (seat : Seat) (now : Nat) : Engine :=
  match engine.crewAt? seat with
  | none => engine
  | some crew =>
      match crew.receive engine.workshop.watch now seat.place with
      | none => engine
      | some (_, crew, watch) => engine.withCrewAt seat crew watch

def finishAt (engine : Engine) (seat : Seat) : Told Engine :=
  match engine.crewAt? seat with
  | none => return engine
  | some crew => do
      let (crew, watch) ← crew.finish engine.workshop.watch seat.place
      return engine.withCrewAt seat crew watch

theorem continues_withCrewAt {seat : Seat} {crew changed : Crew}
    (present : engine.crewAt? seat = some crew) (continues : crew.Continues changed brought)
    (watch : Watch) : engine.Continues (engine.withCrewAt seat changed watch) brought := by
  cases seat with
  | worker place =>
      cases present
      exact continues_workers continues watch
  | loop index =>
      obtain ⟨loop, found, rfl⟩ := Option.map_eq_some_iff.mp present
      unfold withCrewAt
      dsimp only
      rw [found]
      exact continues_loop found continues watch engine.nextLoop

theorem receiveAt_continues (engine : Engine) (seat : Seat) (now : Nat) :
    engine.Continues (engine.receiveAt seat now) [] := by
  unfold receiveAt
  split
  · exact .refl engine []
  · rename_i crew present
    split
    · exact .refl engine []
    · rename_i received
      exact continues_withCrewAt present (Crew.continues_receive received) _

theorem finishAt_yields (engine : Engine) (seat : Seat) :
    ∃ next, (engine.finishAt seat).Yields Entry.doing? next [] ∧ engine.Continues next [] := by
  unfold finishAt
  split
  · exact ⟨engine, yields_pure _, .refl engine []⟩
  · rename_i crew present
    have done : (crew.finish engine.workshop.watch seat.place).Yields Entry.doing? _ [] :=
      ⟨rfl, crew.read_finish (fun _ _ => rfl) _ _⟩
    exact ⟨_, done.andThen (yields_pure _),
      continues_withCrewAt present (crew.continues_finish _ _) _⟩

end Engine

end Reactor
