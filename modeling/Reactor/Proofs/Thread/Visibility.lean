import Reactor.Proofs.Thread.Units
import Reactor.Thread.Watchdog

/-!
What the watchdog sees of a unit of work. While the outermost unit of a thread is open, the
monitor shows how long that unit has been running as long as no other unit has begun inside it.
From then on it shows the inner unit; and once any inner unit has ended it shows nothing, until
another one begins, although the outermost unit goes on.
-/

namespace Reactor

theorem depth_looks {steps : List Step} (looks : ∀ step ∈ steps, step = .look) :
    depth steps = 0 := by
  induction steps with
  | nil => rfl
  | cons step steps ih =>
      rw [depth_cons, looks step List.mem_cons_self, Step.change, Int.zero_add]
      exact ih fun other present => looks other (List.mem_cons_of_mem _ present)

theorem looks_of_no_begin {steps before : List Step} (nested : Nested steps)
    (taken : before <+: steps) (alone : ∀ step ∈ before, step ≠ .begin) :
    ∀ step ∈ before, step = .look := by
  -- A step that is no look would end a unit that has not begun.
  induction before using List.reverseRecOn with
  | nil =>
      intro step present
      cases present
  | append_singleton before last ih =>
      have earlier := (List.prefix_append before [last]).trans taken
      have looks := ih earlier fun step present => alone step (List.mem_append_left _ present)
      have opened := nested.within taken
      rw [depth_append, depth_looks looks] at opened
      intro step present
      rcases List.mem_append.mp present with among | final
      · exact looks step among
      · rw [List.mem_singleton.mp final]
        cases last with
        | begin => exact absurd rfl (alone .begin (List.mem_append_right _ (List.mem_singleton_self _)))
        | finish => exact absurd opened (by decide)
        | look => rfl

namespace Monitor

variable (monitor : Monitor) (inner : List Activity) (start : Nat) (moment : List (Nat × Step))

theorem executingFor_follow (now : Nat) :
    (monitor.follow ((start, .begin) :: moment)).executingFor now
      = (openSince ((start, .begin) :: moment)).map fun began => ⟨now - began⟩ := by
  unfold executingFor
  rw [mark_follow]

theorem openSince_alone (within : moment.map (·.2) <+: (Activity.stepsOfAll inner).1)
    (alone : ∀ step ∈ moment, step.2 ≠ .begin) :
    openSince ((start, .begin) :: moment) = some start := by
  refine openSince_looks fun step present => ?_
  refine looks_of_no_begin (Activity.nested_stepsOfAll inner) within ?_ step.2
    (List.mem_map_of_mem present)
  intro other among
  obtain ⟨step, present, rfl⟩ := List.mem_map.mp among
  exact alone step present

/-- What a monitor shows between the first step of an outermost unit and its last one: the unit
that began last, unless a unit has ended since. That is the outermost one as long as no unit has
begun inside it, and, as time goes on, in no other case. -/
theorem shown_inside_unit (within : moment.map (·.2) <+: (Activity.stepsOfAll inner).1) :
    let taken := (start, Step.begin) :: moment
    let current := monitor.follow taken
    0 < depth (taken.map (·.2))
      ∧ (∀ now, current.executingFor now = (openSince taken).map fun began => ⟨now - began⟩)
      ∧ (∀ now report, current.violation now = some report ↔
          ∃ budget began, monitor.descriptor.budget = some budget ∧ openSince taken = some began
            ∧ budget < ⟨now - began⟩
            ∧ report = ⟨monitor.descriptor.name, monitor.descriptor.role, budget, ⟨now - began⟩⟩)
      ∧ ((∀ step ∈ moment, step.2 ≠ .begin) → ∀ now,
          current.executingFor now = some ⟨now - start⟩
            ∧ ∀ (watchdog : Watchdog) (key : Nat) (actor : Actor) (budget : Span),
              key ∈ watchdog.watch.roster → watchdog.watch.monitor? key = some current →
              monitor.descriptor.budget = some budget → budget < ⟨now - start⟩ →
              ⟨monitor.descriptor.name, monitor.descriptor.role, budget, ⟨now - start⟩⟩
                ∈ (watchdog.check now actor).value.1)
      ∧ ((∀ step ∈ moment, start < step.1) → ∀ now, (∀ step ∈ moment, step.1 ≤ now) →
          (current.executingFor now = some ⟨now - start⟩ ↔ ∀ step ∈ moment, step.2 ≠ .begin)) := by
  intro taken current
  have nested := Activity.nested_stepsOfAll inner
  have shows : ∀ now, current.executingFor now
      = (openSince taken).map fun began => ⟨now - began⟩ :=
    monitor.executingFor_follow start moment
  have descriptor : current.descriptor = monitor.descriptor := monitor.descriptor_follow taken
  have violates : ∀ now report, current.violation now = some report ↔
      ∃ budget began, monitor.descriptor.budget = some budget ∧ openSince taken = some began
        ∧ budget < ⟨now - began⟩
        ∧ report = ⟨monitor.descriptor.name, monitor.descriptor.role, budget, ⟨now - began⟩⟩ := by
    intro now report
    rw [violation_eq_some_iff, descriptor, shows now]
    constructor
    · rintro ⟨budget, elapsed, bounded, executing, exceeds, rfl⟩
      obtain ⟨began, opened, rfl⟩ := Option.map_eq_some_iff.mp executing
      exact ⟨budget, began, bounded, opened, exceeds, rfl⟩
    · rintro ⟨budget, began, bounded, opened, exceeds, rfl⟩
      exact ⟨budget, _, bounded, by rw [opened]; rfl, exceeds, rfl⟩
  refine ⟨?_, shows, violates, ?_, ?_⟩
  · have opened := nested.within within
    change 0 < depth (.begin :: moment.map (·.2))
    rw [depth_cons]
    change 0 < 1 + depth (moment.map (·.2))
    omega
  · intro alone now
    have opened : openSince taken = some start := openSince_alone inner start moment within alone
    refine ⟨by rw [shows, opened]; rfl, ?_⟩
    intro watchdog key actor budget registered alive bounded exceeds
    rw [Watchdog.reports_check, Watch.mem_violations]
    exact ⟨key, registered, current, alive,
      (violates now _).mpr ⟨budget, start, bounded, opened, exceeds, rfl⟩⟩
  · intro later now past
    constructor
    · -- Whatever began inside began later, so it has not been running for that long.
      intro shown step present begins
      have marked : ∃ step ∈ moment, step.2 ≠ .look :=
        ⟨step, present, by rw [begins]; exact Step.noConfusion⟩
      rw [shows, openSince_cons marked, Option.map_eq_some_iff] at shown
      obtain ⟨began, opened, same⟩ := shown
      have inside := mem_of_openSince opened
      have after := later _ inside
      have before := past _ inside
      have lengths : now - began = now - start := congrArg Span.nanos same
      omega
    · intro alone
      have opened : openSince taken = some start := openSince_alone inner start moment within alone
      rw [shows, opened]
      rfl

/-- A look, then a unit that gives up inside an attempt: what is shown at the look, and what after
that unit. -/
theorem shown_inside_unit_troubled :
    let descriptor : Descriptor := ⟨"loop-0", .eventLoop, some ⟨10⟩⟩
    let inner : List Activity := [.look, .attempt [.unit [.panic]], .look]
    let early : Monitor := (Monitor.idle descriptor).follow [(0, .begin), (1, .look)]
    let late : Monitor :=
      (Monitor.idle descriptor).follow [(0, .begin), (1, .look), (2, .begin), (3, .finish)]
    let watchdog : Watchdog := ⟨⟨60⟩, ⟨20⟩, none, ⟨[(0, early)], [0]⟩, false, false⟩
    [.look, .begin, .finish] <+: (Activity.stepsOfAll inner).1
      ∧ early.executingFor 30 = some ⟨30⟩
      ∧ ⟨"loop-0", .eventLoop, ⟨10⟩, ⟨30⟩⟩ ∈ (watchdog.check 30 .caller).value.1
      ∧ late.executingFor 30 = none ∧ ¬late.executingFor 30 = some ⟨30⟩ := by
  intro descriptor inner early late watchdog
  have beginning := shown_inside_unit (Monitor.idle descriptor) inner 0 [(1, .look)] (by decide)
  have ended := shown_inside_unit (Monitor.idle descriptor) inner 0
    [(1, .look), (2, .begin), (3, .finish)] (by decide)
  have shown := beginning.2.2.2.1 (by decide) 30
  refine ⟨by decide, shown.1, ?_, ended.2.1 30, ?_⟩
  · exact shown.2 watchdog 0 .caller ⟨10⟩ (by decide) (by decide) rfl (by decide)
  · rw [ended.2.2.2.2 (by decide) 30 (by decide)]
    decide

/-- A unit that begins and ends at once inside another one hides it: thirty seconds later the
thread, whose limit is one second, seems idle, and a pass reports nothing. -/
theorem inner_unit_hides_outer :
    let inner : List Activity := [.unit [], .look]
    let taken : List (Nat × Step) := [(0, .begin), (0, .begin), (0, .finish)]
    let current := (Monitor.idle ⟨"loop-0", .eventLoop, some (.ofMillis 1000)⟩).follow taken
    let watchdog : Watchdog :=
      ⟨.ofMillis 60000, .ofMillis 5000, none, ⟨[(0, current)], [0]⟩, false, false⟩
    taken.tail.map (·.2) <+: (Activity.stepsOfAll inner).1
      ∧ 0 < depth (taken.map (·.2))
      ∧ ¬current.executingFor 30000000000 = some (.ofSeconds 30)
      ∧ (watchdog.check 30000000000 .caller).value.1 = [] := by
  intro inner taken current watchdog
  exact ⟨by decide, by decide, by decide, by decide⟩

end Monitor

end Reactor
