import Reactor.Engine.Lifecycle
import Reactor.Proofs.Engine.Creating
import Reactor.Proofs.Engine.Life

/-!
What is heard of the end of a runtime. An open runtime owes one call to each of its parts, whoever
closes it pays them, and a closed one owes nothing. Being used from outside, a runtime calls its
parts for nothing else; it stays with the factory and the parts that it was bound to, and brings
nobody new under watch.
-/

namespace Reactor

open Told

variable {γ : Type} {read : Entry → Option γ}

/-- A reading that looks past the log, past what becomes of threads, and past leaving a cluster. -/
structure Entry.SeesParts (read : Entry → Option γ) : Prop where
  unlogged : ∀ actor event, read (.log actor event) = none
  undone : ∀ deed, read (.deed deed) = none
  unleft : ∀ manager, read (.call (.leaveCluster manager)) = none

theorem Entry.SeesParts.stopping (sees : Entry.SeesParts read) (entry : Entry)
    (stopping : entry.IsStopping) : read entry = none := by
  cases stopping with
  | deed deed => exact sees.undone deed
  | log actor _ => exact sees.unlogged actor _

theorem Entry.seesParts_hook : Entry.SeesParts Entry.hook? := ⟨fun _ _ => rfl, fun _ => rfl, fun _ => rfl⟩

theorem Crew.thins_finish (crew : Crew) (watch : Watch) (index : Nat) :
    watch.Thins (crew.finish watch index).value.2 := by
  cases present : crew.threads[index]? with
  | none =>
      unfold finish
      rw [present]
      exact .refl watch
  | some thread =>
      cases finished : crew.line.finish index with
      | none =>
          unfold finish
          rw [present, finished]
          exact .refl watch
      | some ended =>
          rw [value_finish watch present finished]
          dsimp only
          split
          · exact .refl watch
          · exact watch.thins_finish thread.key

theorem Crew.thins_receive {crew next : Crew} {watch after : Watch} {now index : Nat} {job : Job}
    (received : crew.receive watch now index = some (job, next, after)) : watch.Thins after := by
  obtain ⟨thread, _, _, _, _, rfl⟩ := receive_eq_some received
  split
  · exact .refl watch
  · exact watch.thins_begin now thread.key

namespace Engine

/-- Bound to the same metrics, for itself and for the threads made, and to the same factory. -/
structure Akin (engine next : Engine) : Prop where
  metrics : next.metrics = engine.metrics
  factory : next.workshop.factory = engine.workshop.factory
  listener : next.workshop.metrics = engine.workshop.metrics

/-- With the same parts, and with no request for a thread and nobody new under watch in between. -/
structure Remains (engine next : Engine) : Prop where
  akin : engine.Akin next
  parts : next.closingCalls = engine.closingCalls
  calls : next.workshop.calls = engine.workshop.calls
  thins : engine.workshop.watch.Thins next.workshop.watch

def ending (engine : Engine) : List Entry :=
  if engine.closed then [] else hooks engine.metrics .close

/-- On the way from one moment to a later one the metrics heard this, and of what they were to
hear the rest is left. -/
structure Ends (engine next : Engine) (heard : List Entry) : Prop where
  akin : engine.Akin next
  stays : engine.closed = true → next.closed = true
  told : heard ++ next.ending = engine.ending

def owed (read : Entry → Option γ) (engine : Engine) : List γ :=
  if engine.closed then [] else engine.closingCalls.filterMap read

/-- On the way from one moment to a later one a reading saw this, and nothing else than the end. -/
structure Pays (read : Entry → Option γ) (engine next : Engine) (seen : List γ) : Prop where
  remains : engine.Remains next
  stays : engine.closed = true → next.closed = true
  paid : seen ++ next.owed read = engine.owed read

variable {engine middle next : Engine} {heard later : List Entry} {seen after : List γ}

theorem Akin.refl (engine : Engine) : engine.Akin engine := ⟨rfl, rfl, rfl⟩

theorem Akin.trans (first : engine.Akin middle) (second : middle.Akin next) : engine.Akin next :=
  ⟨second.metrics.trans first.metrics, second.factory.trans first.factory,
    second.listener.trans first.listener⟩

theorem Remains.of_watch {watch : Watch} (thins : engine.workshop.watch.Thins watch)
    (loops : List EventLoop) (workers : Pool) (nextLoop : UInt64) (watchdogClosed closed : Bool) :
    engine.Remains
      { engine with
        loops, workers, nextLoop, watchdogClosed, closed
        workshop := { engine.workshop with watch } } :=
  ⟨⟨rfl, rfl, rfl⟩, rfl, rfl, thins⟩

theorem Remains.refl (engine : Engine) : engine.Remains engine :=
  ⟨.refl engine, rfl, rfl, .refl _⟩

theorem Remains.trans (first : engine.Remains middle) (second : middle.Remains next) :
    engine.Remains next :=
  ⟨first.akin.trans second.akin, second.parts.trans first.parts, second.calls.trans first.calls,
    first.thins.trans second.thins⟩

theorem ending_closed (closed : engine.closed = true) : engine.ending = [] := if_pos closed

theorem ending_open (opened : engine.closed = false) :
    engine.ending = hooks engine.metrics .close :=
  if_neg (by rw [opened]; exact Bool.false_ne_true)

theorem Ends.of_same (akin : engine.Akin next) (same : next.closed = engine.closed) :
    engine.Ends next [] := by
  refine ⟨akin, same.trans, ?_⟩
  unfold ending
  rw [same, akin.metrics]
  rfl

theorem Ends.refl (engine : Engine) : engine.Ends engine [] := .of_same (.refl engine) rfl

theorem Ends.trans (first : engine.Ends middle heard) (second : middle.Ends next later) :
    engine.Ends next (heard ++ later) where
  akin := first.akin.trans second.akin
  stays := second.stays ∘ first.stays
  told := by rw [List.append_assoc, second.told, first.told]

theorem mem_ending {entry : Entry} (present : entry ∈ engine.ending) :
    ∃ sink, entry = .call (.metrics sink .close) := by
  unfold ending at present
  split at present
  · cases present
  · obtain ⟨sink, _, rfl⟩ := List.mem_map.mp present
    exact ⟨sink, rfl⟩

/-- Whatever was heard of the end is a milestone, and no thread and no report was heard of. -/
theorem Ends.parts {α : Type} {told : Told α}
    (ends : engine.Ends next (told.entries.filterMap Entry.hook?)) :
    engine.Ends next (told.entries.filterMap Entry.milestone?)
      ∧ told.entries.filterMap Entry.occasion? = [] := by
  have closing (entry : Entry) (present : entry ∈ told.entries.filterMap Entry.hook?) :
      ∃ sink, entry = .call (.metrics sink .close) := by
    have owed : entry ∈ engine.ending := by
      rw [← ends.told]
      exact List.mem_append_left _ present
    exact mem_ending owed
  have unheard : (told.entries.filterMap Entry.hook?).filterMap Entry.occasion? = [] := by
    refine List.filterMap_eq_nil_iff.mpr fun entry present => ?_
    obtain ⟨sink, rfl⟩ := closing entry present
    rfl
  refine ⟨?_, (filterMap_hook _ _).symm.trans unheard⟩
  have all : told.entries.filterMap Entry.milestone? = told.entries.filterMap Entry.hook? := by
    refine (filterMap_hook _ _).symm.trans
      ((List.filterMap_congr fun entry present => ?_).trans List.filterMap_some)
    obtain ⟨sink, rfl⟩ := closing entry present
    rfl
  rw [all]
  exact ends

theorem owed_closed (closed : engine.closed = true) : engine.owed read = [] := if_pos closed

theorem owed_open (opened : engine.closed = false) :
    engine.owed read = engine.closingCalls.filterMap read :=
  if_neg (by rw [opened]; exact Bool.false_ne_true)

theorem Pays.of_same (remains : engine.Remains next) (same : next.closed = engine.closed) :
    engine.Pays read next [] := by
  refine ⟨remains, same.trans, ?_⟩
  unfold owed
  rw [same, remains.parts]
  rfl

theorem Pays.refl (engine : Engine) : engine.Pays read engine [] := .of_same (.refl engine) rfl

theorem Pays.trans (first : engine.Pays read middle seen) (second : middle.Pays read next after) :
    engine.Pays read next (seen ++ after) where
  remains := first.remains.trans second.remains
  stays := second.stays ∘ first.stays
  paid := by rw [List.append_assoc, second.paid, first.paid]

theorem Pays.bind {α β : Type} {first : Told α} {rest : α → Told β}
    (one : engine.Pays read middle (first.entries.filterMap read))
    (other : middle.Pays read next ((rest first.value).entries.filterMap read)) :
    engine.Pays read next ((first >>= rest).entries.filterMap read) := by
  rw [Told.entries_bind, List.filterMap_append]
  exact one.trans other

theorem Pays.quiet {α : Type} {told : Told α} (unseen : told.Only fun entry => read entry = none)
    (remains : engine.Remains next) (same : next.closed = engine.closed) :
    engine.Pays read next (told.entries.filterMap read) := by
  rw [List.filterMap_eq_nil_iff.mpr unseen]
  exact .of_same remains same

theorem hook_closingCalls (engine : Engine) :
    engine.closingCalls.filterMap Entry.hook? = hooks engine.metrics .close := by
  unfold closingCalls
  cases engine.tracer <;> cases engine.metrics <;> rfl

theorem Pays.ends (pays : engine.Pays Entry.hook? next heard) : engine.Ends next heard where
  akin := pays.remains.akin
  stays := pays.stays
  told := by
    have paid := pays.paid
    unfold owed at paid
    rw [hook_closingCalls, hook_closingCalls] at paid
    exact paid

/-! ### Closing -/

section Closing

variable (sees : Entry.SeesParts read)

include sees

theorem closeBy_pays (engine : Engine) (actor : Actor) :
    engine.Pays read (engine.closeBy actor).value.2 ((engine.closeBy actor).entries.filterMap read)
      ∧ (engine.closeBy actor).value.2.closed = true := by
  obtain ⟨jobs, next, ⟨value, seen⟩, quits⟩ := engine.closeBy_quits sees.stopping actor
  rw [value, seen]
  obtain ⟨loops, workers, watch, files, watchdogClosed, sheds, rfl⟩ := quits
  constructor
  · constructor
    · exact ⟨⟨rfl, rfl, rfl⟩, rfl, rfl, sheds.thins⟩
    · intro _
      rfl
    · exact List.append_nil _
  · rfl

theorem close_pays (engine : Engine) :
    engine.Pays read engine.close.value (engine.close.entries.filterMap read) :=
  (closeBy_pays sees engine .caller).1.bind (.quiet (only_pure _) (.refl _) rfl)

theorem pollShutdown_pays (engine : Engine) (departure : Departure) :
    engine.Pays read (engine.pollShutdown departure).value.1
      ((engine.pollShutdown departure).entries.filterMap read) := by
  have departs (answer : Except Failure Unit) :
      let told : Told (Engine × Except Departure (Except Failure Unit)) := do
        let engine ← engine.close
        return (engine, .ok answer)
      engine.Pays read told.value.1 (told.entries.filterMap read) :=
    (close_pays sees engine).bind (.quiet (only_pure _) (.refl _) rfl)
  have waits (manager : ClusterManager) (polls : Nat) :
      engine.Pays read (engine.pollShutdown (.leaving manager polls)).value.1
        ((engine.pollShutdown (.leaving manager polls)).entries.filterMap read) := by
    obtain ⟨name, nodes, joinPolls, joinFailure, leavePolls, leaveFailure⟩ := manager
    cases polls with
    | zero => cases leaveFailure <;> exact departs _
    | succ polls => exact .quiet (only_pure _) (.refl _) rfl
  cases departure with
  | leaving manager polls => exact waits manager polls
  | fresh =>
      cases asked : engine.departs? with
      | some manager =>
          rw [pollShutdown_asks asked]
          exact (Pays.quiet (only_tell (sees.unleft manager)) (.refl _) rfl).bind
            (waits manager manager.leavePolls)
      | none =>
          unfold pollShutdown
          unfold departs? at asked
          cases clustered : engine.cluster with
          | none => exact departs (.ok ())
          | some binding =>
              cases closed : engine.closed with
              | true => exact departs (.ok ())
              | false =>
                  rw [clustered, closed] at asked
                  cases asked

theorem drop_pays (engine : Engine) :
    engine.Pays read engine.drop.value (engine.drop.entries.filterMap read) := by
  let shut := engine.close.value
  obtain ⟨stops, shed⟩ := stopLoops_stopping shut.workshop.watch .caller shut.loops
  obtain ⟨shuts, shed'⟩ := shut.workers.shutdown_stopping
    (stopLoops shut.workshop.watch .caller shut.loops).value.2.2 .caller
  have left (loops : List EventLoop) (workers : Pool) {watch : Watch}
      (sheds : shut.workshop.watch.Sheds watch) :
      let gone : Engine :=
        { shut with
          loops
          workers
          watchdogClosed := true
          workshop := { shut.workshop with watch } }
      let told : Told Engine := do
        if shut.watchdogClosed = false then
          Told.deed .watchdogStopped
        return gone
      shut.Pays read told.value (told.entries.filterMap read) := by
    have remains (watchdogClosed : Bool) :=
      Remains.of_watch sheds.thins loops workers shut.nextLoop watchdogClosed shut.closed
    dsimp only
    split
    · have stopped : (Told.deed .watchdogStopped).Only fun entry => read entry = none :=
        only_tell (sees.undone _)
      exact .quiet (stopped.bind (only_pure _)) (remains true) rfl
    · exact .quiet (only_pure _) (remains true) rfl
  exact (close_pays sees engine).bind
    ((Pays.quiet (stops.mono sees.stopping) (.refl shut) rfl).bind
      ((Pays.quiet (shuts.mono sees.stopping) (.refl shut) rfl).bind
        (left _ _ (shed.trans shed'))))

end Closing

theorem closeBy_ends (engine : Engine) (actor : Actor) :
    engine.Ends (engine.closeBy actor).value.2
        ((engine.closeBy actor).entries.filterMap Entry.hook?)
      ∧ (engine.closeBy actor).value.2.closed = true := by
  obtain ⟨pays, closed⟩ := closeBy_pays Entry.seesParts_hook engine actor
  exact ⟨pays.ends, closed⟩

theorem drop_ends (engine : Engine) :
    engine.Ends engine.drop.value (engine.drop.entries.filterMap Entry.hook?) :=
  (drop_pays Entry.seesParts_hook engine).ends

theorem submitTo_remains {index : Nat} {job : Job}
    (submitted : engine.submitTo index job = some (.ok next)) : engine.Remains next := by
  obtain ⟨loop, _, accepted⟩ := Option.map_eq_some_iff.mp submitted
  cases taken : loop.submit job with
  | error fault =>
      rw [taken] at accepted
      cases accepted
  | ok loop =>
      rw [taken] at accepted
      cases accepted
      exact .of_watch (.refl _) _ engine.workers engine.nextLoop engine.watchdogClosed engine.closed

theorem submit_remains {job : Job}
    (submitted : (engine.workers.submit job).map (fun workers => { engine with workers }) = .ok next) :
    engine.Remains next := by
  cases taken : engine.workers.submit job with
  | error fault =>
      rw [taken] at submitted
      cases submitted
  | ok workers =>
      rw [taken] at submitted
      cases submitted
      exact .of_watch (.refl _) engine.loops workers engine.nextLoop engine.watchdogClosed
        engine.closed

theorem dispatch_remains (engine : Engine) (job : Job) :
    engine.Remains (engine.dispatch job).2 := by
  have turned : engine.Remains { engine with nextLoop := engine.nextLoop + 1 } :=
    .of_watch (.refl _) engine.loops engine.workers _ engine.watchdogClosed engine.closed
  unfold dispatch
  split
  · exact .refl engine
  · dsimp only
    split
    · exact turned
    · exact turned
    · rename_i submitted
      exact turned.trans (submitTo_remains submitted)

theorem offer_remains {job : Job} {entrance : Entrance} {answer : Except (Halt SubmitFault) Unit}
    (offered : engine.offer job entrance = some (answer, next)) : engine.Remains next := by
  cases entrance with
  | rotation =>
      cases offered
      exact engine.dispatch_remains job
  | blocking =>
      rcases settled_cases (Option.some.inj offered) with rfl | taken
      · exact .refl next
      · unfold executeBlocking at taken
        split at taken
        · cases taken
        · exact submit_remains taken
  | pool =>
      rcases settled_cases (Option.some.inj offered) with rfl | taken
      · exact .refl next
      · exact submit_remains taken
  | loop index =>
      obtain ⟨outcome, submitted, same⟩ := Option.map_eq_some_iff.mp offered
      rcases settled_cases same with rfl | taken
      · exact .refl next
      · exact submitTo_remains (submitted.trans (congrArg some taken))

theorem withCrewAt_remains (seat : Seat) (crew : Crew) {watch : Watch}
    (thins : engine.workshop.watch.Thins watch) :
    engine.Remains (engine.withCrewAt seat crew watch) := by
  unfold withCrewAt
  cases seat with
  | worker place =>
      exact .of_watch thins engine.loops _ engine.nextLoop engine.watchdogClosed engine.closed
  | loop index =>
      dsimp only
      split
      · exact .of_watch thins engine.loops engine.workers engine.nextLoop engine.watchdogClosed
          engine.closed
      · exact .of_watch thins _ engine.workers engine.nextLoop engine.watchdogClosed engine.closed

theorem receiveAt_remains (engine : Engine) (seat : Seat) (now : Nat) :
    engine.Remains (engine.receiveAt seat now) := by
  unfold receiveAt
  split
  · exact .refl engine
  · split
    · exact .refl engine
    · rename_i received
      exact withCrewAt_remains seat _ (Crew.thins_receive received)

theorem finishAt_pays (sees : Entry.SeesParts read) (engine : Engine) (seat : Seat) :
    engine.Pays read (engine.finishAt seat).value
      ((engine.finishAt seat).entries.filterMap read) := by
  unfold finishAt
  split
  · exact .refl engine
  · rename_i crew present
    have unseen : (crew.finish engine.workshop.watch seat.place).Only
        fun entry => read entry = none :=
      List.filterMap_eq_nil_iff.mp (crew.read_finish sees.unlogged _ _)
    have continues := crew.continues_finish engine.workshop.watch seat.place
    have thins := crew.thins_finish engine.workshop.watch seat.place
    exact .quiet (unseen.bind (only_pure _)) (withCrewAt_remains seat _ thins)
      (continues_withCrewAt present continues _).closed

end Engine

/-! ### Uses -/

theorem Life.submit_remains (life : Life) (entrance : Engine.Entrance) (panics : Bool) :
    life.engine.Remains (life.submit entrance panics).engine := by
  unfold Life.submit
  dsimp only
  split
  · exact .refl life.engine
  · rename_i offered
    exact Engine.offer_remains offered
  · rename_i offered
    exact Engine.offer_remains offered

theorem Life.use_pays (sees : Entry.SeesParts read) (life : Life) (use : Use) :
    life.engine.Pays read (life.use use).value.engine ((life.use use).entries.filterMap read) := by
  cases use with
  | close => exact (Engine.close_pays sees life.engine).bind (.refl _)
  | shutdown => exact .refl life.engine
  | giveUp number => exact .refl life.engine
  | submit entrance panics =>
      exact .quiet (only_pure _) (life.submit_remains entrance panics)
        (closed_submit life entrance panics)
  | receive seat now =>
      exact .quiet (only_pure _) (life.engine.receiveAt_remains seat now)
        (life.engine.receiveAt_continues seat now).closed
  | finish seat => exact (Engine.finishAt_pays sees life.engine seat).bind (.refl _)
  | poll number =>
      unfold Life.use
      dsimp only
      split
      · exact (Engine.pollShutdown_pays sees life.engine _).bind (.refl _)
      · exact .refl life.engine

theorem Life.use_ends (life : Life) (use : Use) :
    life.engine.Ends (life.use use).value.engine
      ((life.use use).entries.filterMap Entry.hook?) :=
  (life.use_pays Entry.seesParts_hook use).ends

end Reactor
