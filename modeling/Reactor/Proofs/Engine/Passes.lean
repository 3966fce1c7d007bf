import Reactor.Proofs.Engine.Quitting
import Reactor.Proofs.Thread.Hearing
import Reactor.Proofs.Thread.Ledger

/-!
Passes of the watchdog, alone and inside a runtime. After any number of turns a pass finds what
is due by the ledger, and announces it in that order: to the log, to the metrics, to the handler,
once for each registration. The table it leaves is that of one more turn, also when a handler has
closed the runtime meanwhile, so that the next pass starts from there.
-/

namespace Reactor

open Told

theorem Entry.announcing?_stopping {entry : Entry} (stopping : entry.IsStopping) :
    entry.announcing? = none := by
  cases stopping with
  | deed deed => rfl
  | log actor target =>
      exact if_neg fun both => target both.1

theorem Engine.announcing_closingCalls (engine : Engine) :
    engine.closingCalls.filterMap Entry.announcing? = [] := by
  unfold closingCalls
  cases engine.tracer <;> cases engine.metrics <;> rfl

structure Audience.Hears {σ : Type} (audience : Audience) (actor : Actor)
    (reports : List BlockedThread) (after : σ → Prop)
    (pass : Told (List BlockedThread × Option Panic × σ)) : Prop where
  outcome : ∃ next, after next
    ∧ pass.value = (reports, reports.findSome? audience.objection?, next)
  announced : pass.entries.filterMap Entry.announcing?
    = (audience.heard reports).flatMap (audience.announcement actor)
  whole : reports.findSome? audience.objection? = none →
    pass.entries.filterMap Entry.announcing? = reports.flatMap (audience.announcement actor)

theorem Audience.hears_of_hearAll {σ : Type} {audience : Audience} {actor : Actor}
    {close : σ → Told σ} {after : σ → Prop}
    (unseen : ∀ state, (close state).entries.filterMap Entry.announcing? = [])
    (kept : ∀ state, after state → after (close state).value) {state : σ} (holds : after state)
    (reports : List BlockedThread) :
    audience.Hears actor reports after
      ((reports, ·) <$> audience.hearAll close actor state reports) := by
  have announced : (audience.hearAll close actor state reports).entries.filterMap Entry.announcing?
      = (audience.heard reports).flatMap (audience.announcement actor) := by
    rw [read_hearAll unseen, announcing_announcement]
  refine ⟨⟨_, hearAll_keeps audience actor kept holds reports, ?_⟩, ?_, fun content => ?_⟩
  · rw [Told.value_map, ← objection_hearAll]
  · rw [Told.entries_map]
    exact announced
  · rw [Told.entries_map, announced, heard_eq_self content]

theorem Watchdog.announcing_close (watchdog : Watchdog) (actor : Actor) :
    (watchdog.close actor).entries.filterMap Entry.announcing? = []
      ∧ (watchdog.close actor).value.watch = watchdog.watch := by
  obtain ⟨interval, warningTime, handler, watch, closed, crashed⟩ := watchdog
  unfold close
  cases closed with
  | true => exact ⟨rfl, rfl⟩
  | false =>
      by_cases joins : (crashed && actor != .watchdog) = true
      · simp [joins, Entry.announcing?]
      · simp [joins, Entry.announcing?]

theorem Engine.announcing_closeBy (engine : Engine) (actor : Actor) :
    (engine.closeBy actor).entries.filterMap Entry.announcing? = []
      ∧ engine.workshop.watch.Sheds (engine.closeBy actor).value.2.workshop.watch := by
  obtain ⟨jobs, next, ⟨value, seen⟩, quits⟩ :=
    engine.closeBy_quits (fun _ => Entry.announcing?_stopping) actor
  obtain ⟨loops, workers, watch, files, watchdogClosed, sheds, rfl⟩ := quits
  rw [value, seen, engine.announcing_closingCalls, ite_self]
  exact ⟨rfl, sheds⟩

namespace Patrol

variable {patrol : Patrol} {ledger : Ledger}

theorem Keeps.watchdog_pass (keeps : patrol.Keeps ledger) {watchdog : Watchdog}
    (same : watchdog.watch = patrol.watch) (now : Nat) (actor : Actor) :
    watchdog.audience.Hears actor (ledger.overdue now)
      (fun next => next.watch = (patrol.take (.pass [])).watch) (watchdog.pass now actor) := by
  have due : watchdog.watch.prune.violations now = ledger.overdue now := by
    rw [Watch.violations_prune, same, keeps.violations]
  unfold Watchdog.pass
  dsimp only
  rw [due]
  refine Audience.hears_of_hearAll (fun state => (state.announcing_close actor).1)
    (fun state kept => ?_) ?_ _
  · exact (state.announcing_close actor).2.trans kept
  · change watchdog.watch.prune = patrol.watch.prune
    rw [same]

/-- A pass inside a runtime, whose handler may close it: the monitors of its threads go. -/
theorem Keeps.engine_pass (keeps : patrol.Keeps ledger) {engine : Engine}
    (same : engine.workshop.watch = patrol.watch) (now : Nat) (actor : Actor) :
    engine.audience.Hears actor (ledger.overdue now)
      (fun next => ∃ lost, next.workshop.watch = (patrol.take (.pass lost)).watch)
      (engine.pass now actor) := by
  have due : engine.workshop.watch.prune.violations now = ledger.overdue now := by
    rw [Watch.violations_prune, same, keeps.violations]
  unfold Engine.pass
  dsimp only
  rw [due]
  refine Audience.hears_of_hearAll (fun state => ?_) (fun state kept => ?_) ?_ _
  · rw [Told.entries_map]
    exact (state.announcing_closeBy actor).1
  · obtain ⟨lost, shed⟩ := kept
    obtain ⟨more, gone⟩ := (state.announcing_closeBy actor).2
    refine ⟨lost ++ more, gone.trans ?_⟩
    rw [shed]
    exact List.foldl_append.symm
  · exact ⟨[], congrArg Watch.prune same⟩

/-- After any number of turns a pass, alone or inside a runtime, returns exactly the reports that
are due by the ledger, and announces each of them in their order; the registrations that count are
those whose monitor is alive; and who stays in a unit beyond its limit is due again later. -/
theorem passes_report_exactly (turns : List Turn) (now : Nat) (actor : Actor) :
    let patrol := start.follow turns
    let ledger := Ledger.empty.follow turns
    patrol.watch.watched = ledger.watched
      ∧ (∀ alone : Watchdog,
          let watchdog := { alone with watch := patrol.watch }
          (watchdog.check now actor).value.1 = ledger.overdue now
            ∧ watchdog.audience.Hears actor (ledger.overdue now)
              (fun next => next.watch = (start.follow (turns ++ [.pass []])).watch)
              (watchdog.pass now actor))
      ∧ (∀ runtime : Engine,
          let engine :=
            { runtime with workshop := { runtime.workshop with watch := patrol.watch } }
          engine.watched = ledger.watched
            ∧ (engine.check now actor).value.1 = ledger.overdue now
            ∧ engine.audience.Hears actor (ledger.overdue now)
              (fun next => ∃ lost,
                next.workshop.watch = (start.follow (turns ++ [.pass lost])).watch)
              (engine.pass now actor))
      ∧ (∀ (report : BlockedThread) (warningTime : Span),
          (report.event warningTime).level
            = if warningTime < report.blockedFor then .error else .warn)
      ∧ ∀ (key later : Nat) (report : BlockedThread) (more : List Turn),
          key ∈ ledger.registrations → ledger.report? now key = some report → now ≤ later →
          (ledger.follow more).monitor? key = ledger.monitor? key →
          ∃ again ∈ (Ledger.empty.follow (turns ++ more)).overdue later,
            again.name = report.name ∧ again.role = report.role ∧ again.budget = report.budget
              ∧ report.blockedFor.nanos ≤ again.blockedFor.nanos := by
  intro patrol ledger
  have keeps : patrol.Keeps ledger := keeps_follow keeps_start turns
  have next (lost : List Nat) : start.follow (turns ++ [.pass lost]) = patrol.take (.pass lost) :=
    follow_append start turns [.pass lost]
  refine ⟨keeps.watched, fun alone => ⟨?_, ?_⟩, fun runtime => ⟨keeps.watched, ?_, ?_⟩,
    BlockedThread.level_event, ?_⟩
  · rw [Watchdog.reports_check]
    exact keeps.violations now
  · rw [next]
    exact keeps.watchdog_pass rfl now actor
  · rw [Engine.reports_check]
    exact keeps.violations now
  · simp only [next]
    exact keeps.engine_pass rfl now actor
  · intro key later report more registered due after unchanged
    obtain ⟨again, shown, same⟩ := Ledger.report?_later due after unchanged
    have kept : Ledger.empty.follow (turns ++ more) = ledger.follow more := List.foldl_append
    rw [kept]
    exact ⟨again, List.mem_filterMap.mpr
      ⟨key, (ledger.registrations_follow more).subset registered, shown⟩, same⟩

/-- Three monitors, the first registered twice, the last one gone: the first is over its limit and
reported twice, now and later; the second has no limit. -/
theorem passes_report_exactly_twice :
    let turns : List Turn :=
      [.create ⟨"loop-0", .eventLoop, some ⟨10⟩⟩, .create ⟨"pool-0", .worker, none⟩,
        .create ⟨"pool-1", .worker, some ⟨20⟩⟩, .register 0, .register 1, .register 2, .register 0,
        .begin 5 0, .begin 5 1, .begin 5 2, .drop 2, .pass []]
    let watchdog : Watchdog :=
      ⟨⟨60⟩, ⟨20⟩, some fun _ => .closes, (start.follow turns).watch, false, false⟩
    watchdog.watch.watched = 3
      ∧ (watchdog.check 30 .caller).value.1
        = List.replicate 2 ⟨"loop-0", .eventLoop, ⟨10⟩, ⟨25⟩⟩
      ∧ ∃ again ∈ (Ledger.empty.follow (turns ++ [.finish 1, .pass []])).overdue 40,
          again.name = "loop-0" ∧ 25 ≤ again.blockedFor.nanos := by
  intro turns watchdog
  have exactly := passes_report_exactly turns 30 .caller
  obtain ⟨again, due, name, _, _, longer⟩ := exactly.2.2.2.2 0 40
    ⟨"loop-0", .eventLoop, ⟨10⟩, ⟨25⟩⟩ [.finish 1, .pass []] (by decide) rfl (by decide) rfl
  exact ⟨exactly.1, (exactly.2.1 watchdog).1, again, due, name, longer⟩

end Patrol

end Reactor
