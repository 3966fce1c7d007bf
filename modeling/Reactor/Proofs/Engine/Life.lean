import Reactor.Proofs.Engine.Made
import Reactor.Proofs.Engine.Shutdown
import Reactor.Proofs.Engine.Submitting

/-!
The life of a runtime after its start. From outside it is closed and shut down, any number of
times and with shutdowns that overlap, and jobs are offered to it and run in between. At every
moment the runtime is open and holds all of its threads, or closed for good and holds none.
-/

namespace Reactor

open Told

structure Life where
  engine : Engine
  -- The shutdowns begun so far; none once one was answered or given up.
  shutdowns : List (Option Departure)
  offers : Nat
  refused : List Job

inductive Use where
  | close
  | shutdown
  | poll (number : Nat)
  | giveUp (number : Nat)
  | submit (entrance : Engine.Entrance) (panics : Bool)
  | receive (seat : Seat) (now : Nat)
  | finish (seat : Seat)
deriving DecidableEq

namespace Life

def begin (engine : Engine) : Life := ⟨engine, [], 0, []⟩

def submit (life : Life) (entrance : Engine.Entrance) (panics : Bool) : Life :=
  let job : Job := ⟨life.offers, panics⟩
  match life.engine.offer job entrance with
  | none => life
  | some (.ok (), engine) => { life with engine, offers := life.offers + 1 }
  | some (.error _, engine) =>
      { life with engine, offers := life.offers + 1, refused := life.refused ++ [job] }

def waiting? {α : Type} : Except Departure α → Option Departure
  | .ok _ => none
  | .error departure => some departure

def use (life : Life) : Use → Told Life
  | .close => do return { life with engine := ← life.engine.close }
  | .shutdown => return { life with shutdowns := life.shutdowns ++ [some .fresh] }
  | .poll number =>
      match life.shutdowns[number]? with
      | some (some departure) => do
          let (engine, outcome) ← life.engine.pollShutdown departure
          let shutdowns := life.shutdowns.set number (waiting? outcome)
          return { life with engine, shutdowns }
      | _ => return life
  | .giveUp number => return { life with shutdowns := life.shutdowns.set number none }
  | .submit entrance panics => return life.submit entrance panics
  | .receive seat now => return { life with engine := life.engine.receiveAt seat now }
  | .finish seat => do return { life with engine := ← life.engine.finishAt seat }

def follow (life : Life) : List Use → Told Life
  | [] => return life
  | use :: uses => do (← life.use use).follow uses

def leaveCalls (life : Life) : Use → List Entry
  | .poll number => (life.shutdowns[number]?.join).elim [] life.engine.leaveCalls
  | _ => []

/-- What holds at every moment of the life of a runtime with these holdings. -/
structure Tidy (life : Life) (holdings : Holdings) : Prop where
  sound : life.engine.Sound
  holdings : life.engine.holdings = holdings
  numbered : ∀ job ∈ life.engine.jobs, job.ticket < life.offers
  known : ∀ job ∈ life.refused, job.ticket < life.offers
  apart : ∀ job ∈ life.refused, job ∉ life.engine.jobs

variable {life next : Life} {holdings : Holdings}

theorem Tidy.keep (tidy : life.Tidy holdings) {engine : Engine} (shutdowns : List (Option Departure))
    (sound : engine.Sound) (kept : engine.holdings = life.engine.holdings)
    (jobs : ∀ job ∈ engine.jobs, job ∈ life.engine.jobs) :
    Tidy { life with engine, shutdowns } holdings where
  sound := sound
  holdings := kept.trans tidy.holdings
  numbered job present := tidy.numbered job (jobs job present)
  known := tidy.known
  apart job refused present := tidy.apart job refused (jobs job present)

theorem Tidy.closes (tidy : life.Tidy holdings) {engine : Engine}
    (shutdowns : List (Option Departure)) (closes : life.engine.Closes engine) :
    Tidy { life with engine, shutdowns } holdings :=
  tidy.keep shutdowns closes.sound closes.holdings closes.jobs

theorem Tidy.continues (tidy : life.Tidy holdings) {engine : Engine}
    (continues : life.engine.Continues engine []) : Tidy { life with engine } holdings := by
  refine tidy.keep life.shutdowns (continues.sound tidy.sound) continues.holdings ?_
  intro job present
  rcases continues.jobs job present with impossible | old
  · cases impossible
  · exact old

/-- A job that is taken has a ticket that no job had before. -/
theorem Tidy.taken (tidy : life.Tidy holdings) {engine : Engine} {panics : Bool}
    (continues : life.engine.Continues engine [⟨life.offers, panics⟩]) :
    Tidy { life with engine, offers := life.offers + 1 } holdings where
  sound := continues.sound tidy.sound
  holdings := continues.holdings.trans tidy.holdings
  numbered job present := by
    rcases continues.jobs job present with latest | old
    · rw [List.mem_singleton.mp latest]
      exact Nat.lt_succ_self _
    · exact Nat.lt_succ_of_lt (tidy.numbered job old)
  known job refused := Nat.lt_succ_of_lt (tidy.known job refused)
  apart job refused present := by
    rcases continues.jobs job present with latest | old
    · have earlier := tidy.known job refused
      rw [List.mem_singleton.mp latest] at earlier
      exact Nat.lt_irrefl _ earlier
    · exact tidy.apart job refused old

theorem Tidy.refused (tidy : life.Tidy holdings) {engine : Engine} {panics : Bool}
    (continues : life.engine.Continues engine []) :
    Tidy { life with
      engine
      offers := life.offers + 1
      refused := life.refused ++ [⟨life.offers, panics⟩] } holdings where
  sound := continues.sound tidy.sound
  holdings := continues.holdings.trans tidy.holdings
  numbered job present :=
    Nat.lt_succ_of_lt ((tidy.continues continues).numbered job present)
  known job refused := by
    rcases List.mem_append.mp refused with old | latest
    · exact Nat.lt_succ_of_lt (tidy.known job old)
    · rw [List.mem_singleton.mp latest]
      exact Nat.lt_succ_self _
  apart job refused present := by
    rcases List.mem_append.mp refused with old | latest
    · exact (tidy.continues continues).apart job old present
    · have earlier := (tidy.continues continues).numbered job present
      rw [List.mem_singleton.mp latest] at earlier
      exact Nat.lt_irrefl _ earlier

theorem Tidy.submit (tidy : life.Tidy holdings) (entrance : Engine.Entrance) (panics : Bool) :
    (life.submit entrance panics).Tidy holdings := by
  unfold Life.submit
  dsimp only
  split
  · exact tidy
  · rename_i offered
    exact tidy.taken (Engine.offer_continues offered)
  · rename_i offered
    exact tidy.refused (Engine.offer_continues offered)

theorem closed_submit (life : Life) (entrance : Engine.Entrance) (panics : Bool) :
    (life.submit entrance panics).engine.closed = life.engine.closed := by
  unfold Life.submit
  dsimp only
  split
  · rfl
  · rename_i offered
    exact (Engine.offer_continues offered).closed
  · rename_i offered
    exact (Engine.offer_continues offered).closed

/-- A use closes an open runtime and does all that is due, or leaves it as open as it was. -/
theorem use_yields (tidy : life.Tidy holdings) (use : Use) :
    ∃ next seen, (life.use use).Yields Entry.doing? next (life.leaveCalls use ++ seen)
      ∧ next.Tidy holdings
      ∧ ((next.engine.closed = true ∧ seen = life.engine.due)
        ∨ (next.engine.closed = life.engine.closed ∧ seen = [])) := by
  cases use with
  | close =>
      obtain ⟨engine, yields, closes⟩ := Engine.close_yields tidy.sound
      exact ⟨{ life with engine }, life.engine.due, yields.andLast (yields_pure _),
        tidy.closes life.shutdowns closes, Or.inl ⟨closes.closed, rfl⟩⟩
  | shutdown =>
      exact ⟨_, [], yields_pure _, tidy.keep _ tidy.sound rfl fun _ => id, Or.inr ⟨rfl, rfl⟩⟩
  | giveUp number =>
      exact ⟨_, [], yields_pure _, tidy.keep _ tidy.sound rfl fun _ => id, Or.inr ⟨rfl, rfl⟩⟩
  | submit entrance panics =>
      exact ⟨_, [], yields_pure _, tidy.submit entrance panics,
        Or.inr ⟨closed_submit life entrance panics, rfl⟩⟩
  | receive seat now =>
      have continues := life.engine.receiveAt_continues seat now
      exact ⟨_, [], yields_pure _, tidy.continues continues, Or.inr ⟨continues.closed, rfl⟩⟩
  | finish seat =>
      obtain ⟨engine, yields, continues⟩ := life.engine.finishAt_yields seat
      exact ⟨{ life with engine }, [], yields.andLast (yields_pure _), tidy.continues continues,
        Or.inr ⟨continues.closed, rfl⟩⟩
  | poll number =>
      unfold Life.use leaveCalls
      dsimp only
      rcases life.shutdowns[number]? with _ | _ | departure
      · exact ⟨life, [], yields_pure _, tidy, Or.inr ⟨rfl, rfl⟩⟩
      · exact ⟨life, [], yields_pure _, tidy, Or.inr ⟨rfl, rfl⟩⟩
      · obtain ⟨engine, outcome, seen, yields, ends⟩ :=
          Engine.pollShutdown_yields tidy.sound departure
        let shutdowns := life.shutdowns.set number (waiting? outcome)
        refine ⟨{ life with engine, shutdowns }, seen, yields.andLast (yields_pure _), ?_, ?_⟩
        · rcases ends with ⟨_, _, _, closes⟩ | ⟨_, _, _, _, rfl⟩
          · exact tidy.closes shutdowns closes
          · exact tidy.keep shutdowns tidy.sound rfl fun _ => id
        · rcases ends with ⟨_, _, due, closes⟩ | ⟨_, _, _, quiet, rfl⟩
          · exact Or.inl ⟨closes.closed, due⟩
          · exact Or.inr ⟨rfl, quiet⟩

/-! ### Whole lives -/

theorem tidy_use (tidy : life.Tidy holdings) (use : Use) : (life.use use).value.Tidy holdings := by
  obtain ⟨next, _, yields, nextTidy, _⟩ := use_yields tidy use
  rw [yields.1]
  exact nextTidy

theorem tidy_follow (tidy : life.Tidy holdings) (uses : List Use) :
    (life.follow uses).value.Tidy holdings := by
  induction uses generalizing life with
  | nil => exact tidy
  | cons use uses ih => exact ih (tidy_use tidy use)

theorem closed_use (tidy : life.Tidy holdings) (use : Use) (closed : life.engine.closed = true) :
    (life.use use).value.engine.closed = true := by
  obtain ⟨next, _, yields, _, ends⟩ := use_yields tidy use
  rw [yields.1]
  rcases ends with ⟨shut, _⟩ | ⟨stays, _⟩
  · exact shut
  · exact stays.trans closed

theorem closed_follow (tidy : life.Tidy holdings) (uses : List Use)
    (closed : life.engine.closed = true) : (life.follow uses).value.engine.closed = true := by
  induction uses generalizing life with
  | nil => exact closed
  | cons use uses ih => exact ih (tidy_use tidy use) (closed_use tidy use closed)

theorem follow_append (life : Life) (first second : List Use) :
    life.follow (first ++ second) = life.follow first >>= fun between => between.follow second := by
  induction first generalizing life with
  | nil => rfl
  | cons use first ih =>
      rw [List.cons_append, follow, follow, bind_assoc]
      congr 1
      funext next
      exact ih next

theorem closed_of_close (tidy : life.Tidy holdings) {uses : List Use} (closes : .close ∈ uses) :
    (life.follow uses).value.engine.closed = true := by
  obtain ⟨before, after, rfl⟩ := List.append_of_mem closes
  have between := tidy_follow tidy before
  obtain ⟨engine, yields, shuts⟩ := Engine.close_yields between.sound
  have now : ((life.follow before).value.use .close).value.engine.closed = true := by
    change (life.follow before).value.engine.close.value.closed = true
    rw [yields.1]
    exact shuts.closed
  rw [follow_append]
  exact closed_follow (tidy_use between .close) after now

end Life

namespace Engine

theorem mem_itemsFrom_freshLoop {index : Nat} {threads : List RuntimeThread} {loop : EventLoop}
    (present : loop ∈ itemsFrom freshLoop index threads) :
    ∃ thread, loop.crew = .create [thread] := by
  obtain ⟨place, thread, _, rfl⟩ := mem_itemsFrom present
  exact ⟨thread, rfl⟩

section Start

variable (host : Host) (files : FileTree) (options : Options) (bindings : Bindings)
  (cluster : Option ClusterBinding) (handler : Option BlockedHandler) (shape : PoolShape)
  (loops workers : List RuntimeThread)

theorem sound_unused :
    (unused host files options bindings cluster handler shape loops workers).Sound where
  loops loop present := by
    obtain ⟨thread, fresh⟩ := mem_itemsFrom_freshLoop present
    rw [fresh]
    exact Crew.atWork_create [thread]
  workers := Crew.atWork_create workers
  watchdog := rfl

theorem jobs_unused :
    (unused host files options bindings cluster handler shape loops workers).jobs = [] := by
  unfold jobs
  rw [List.append_eq_nil_iff]
  refine ⟨List.flatMap_eq_nil_iff.mpr fun loop present => ?_, Crew.jobs_create workers⟩
  obtain ⟨thread, fresh⟩ := mem_itemsFrom_freshLoop present
  rw [fresh]
  exact Crew.jobs_create [thread]

end Start

end Engine

namespace Life

theorem tidy_begin (host : Host) (files : FileTree) (options : Options) (bindings : Bindings)
    (cluster : Option ClusterBinding) (handler : Option BlockedHandler) (shape : PoolShape)
    (loops workers : List RuntimeThread) :
    let engine := Engine.unused host files options bindings cluster handler shape loops workers
    (begin engine).Tidy engine.holdings := by
  intro engine
  have none : engine.jobs = [] := Engine.jobs_unused ..
  refine ⟨Engine.sound_unused .., rfl, ?_, fun _ impossible => ?_, fun _ impossible => ?_⟩
  · intro job present
    change job ∈ engine.jobs at present
    rw [none] at present
    cases present
  · cases impossible
  · cases impossible

end Life

end Reactor
