import Mathlib.Data.List.Infix
import Reactor.Thread.Watch

/-!
The watchdog's table against a ledger. Monitors come to life and go, are registered, begin and end
units, and passes clear the table of those that are gone. The ledger beside it clears nothing: it
knows every monitor there ever was and every registration ever made. After any number of turns the
table still has every registration whose monitor is alive, once and in its order.
-/

namespace Reactor

inductive Turn where
  | create (descriptor : Descriptor)
  | register (key : Nat)
  | drop (key : Nat)
  | begin (now key : Nat)
  | finish (key : Nat)
  -- A pass; whoever hears of its reports may let go of monitors.
  | pass (lost : List Nat)

structure Patrol where
  watch : Watch
  created : Nat

namespace Patrol

def start : Patrol := ⟨.empty, 0⟩

def take (patrol : Patrol) : Turn → Patrol
  | .create descriptor =>
      ⟨patrol.watch.adopt patrol.created (.idle descriptor), patrol.created + 1⟩
  | .register key =>
      if patrol.watch.isAlive key then { patrol with watch := patrol.watch.register key } else patrol
  | .drop key => { patrol with watch := patrol.watch.forget key }
  | .begin now key => { patrol with watch := patrol.watch.begin now key }
  | .finish key => { patrol with watch := patrol.watch.finish key }
  | .pass lost => { patrol with watch := lost.foldl Watch.forget patrol.watch.prune }

def follow (patrol : Patrol) (turns : List Turn) : Patrol := turns.foldl take patrol

theorem follow_append (patrol : Patrol) (first second : List Turn) :
    patrol.follow (first ++ second) = (patrol.follow first).follow second := List.foldl_append

end Patrol

structure Ledger where
  -- Every monitor there ever was, by key; none once it is gone.
  monitors : List (Option Monitor)
  registrations : List Nat

namespace Ledger

def empty : Ledger := ⟨[], []⟩

def monitor? (ledger : Ledger) (key : Nat) : Option Monitor := ledger.monitors[key]?.join

def isAlive (ledger : Ledger) (key : Nat) : Bool := (ledger.monitor? key).isSome

def edit (ledger : Ledger) (key : Nat) (change : Option Monitor → Option Monitor) : Ledger :=
  { ledger with monitors := ledger.monitors.modify key change }

def drop (ledger : Ledger) (key : Nat) : Ledger := ledger.edit key fun _ => none

def take (ledger : Ledger) : Turn → Ledger
  | .create descriptor =>
      { ledger with monitors := ledger.monitors ++ [some (.idle descriptor)] }
  | .register key =>
      if ledger.isAlive key then
        { ledger with registrations := ledger.registrations ++ [key] }
      else
        ledger
  | .drop key => ledger.drop key
  | .begin now key => ledger.edit key (Option.map (·.begin now))
  | .finish key => ledger.edit key (Option.map (·.finish))
  | .pass lost => lost.foldl drop ledger

def follow (ledger : Ledger) (turns : List Turn) : Ledger := turns.foldl take ledger

/-- The number of registrations whose monitor is alive. -/
def watched (ledger : Ledger) : Nat := (ledger.registrations.filter ledger.isAlive).length

/-- The report on a monitor that is alive, has a limit, has begun a unit, and has been at it for
longer than the limit. -/
def report? (ledger : Ledger) (now key : Nat) : Option BlockedThread := do
  let monitor ← ledger.monitor? key
  let budget ← monitor.descriptor.budget
  let began ← monitor.mark
  if budget.nanos < now - began then
    some ⟨monitor.descriptor.name, monitor.descriptor.role, budget, ⟨now - began⟩⟩
  else
    none

/-- The reports due at an instant, one for each registration, in their order. -/
def overdue (ledger : Ledger) (now : Nat) : List BlockedThread :=
  ledger.registrations.filterMap (ledger.report? now)

theorem report?_eq (ledger : Ledger) (now key : Nat) :
    ledger.report? now key = (ledger.monitor? key).bind (·.violation now) := by
  unfold report?
  refine congrArg (Option.bind (ledger.monitor? key)) (funext fun monitor => ?_)
  obtain ⟨⟨name, role, budget⟩, mark⟩ := monitor
  cases budget <;> cases mark <;> rfl

theorem monitor?_create (ledger : Ledger) (descriptor : Descriptor) (key : Nat) :
    (ledger.take (.create descriptor)).monitor? key
      = if key = ledger.monitors.length then some (.idle descriptor) else ledger.monitor? key := by
  change (ledger.monitors ++ [some (Monitor.idle descriptor)])[key]?.join = _
  rcases Nat.lt_trichotomy key ledger.monitors.length with old | rfl | beyond
  · rw [List.getElem?_append_left old, if_neg (Nat.ne_of_lt old)]
    rfl
  · rw [List.getElem?_concat_length, if_pos rfl]
    rfl
  · rw [if_neg (Nat.ne_of_gt beyond), monitor?, List.getElem?_eq_none (Nat.le_of_lt beyond),
      List.getElem?_eq_none (by rw [List.length_append]; exact beyond)]

theorem monitor?_edit (ledger : Ledger) (key other : Nat)
    {change : Option Monitor → Option Monitor} (gone : change none = none) :
    (ledger.edit key change).monitor? other
      = if other = key then change (ledger.monitor? other) else ledger.monitor? other := by
  unfold edit monitor?
  rw [List.getElem?_modify]
  by_cases same : other = key
  · subst other
    rw [if_pos rfl]
    cases ledger.monitors[key]? with
    | none => exact gone.symm
    | some monitor => exact congrArg Option.join (congrArg some (if_pos rfl))
  · rw [if_neg same]
    cases ledger.monitors[other]? with
    | none => rfl
    | some monitor =>
        exact congrArg Option.join (congrArg some (if_neg fun equal => same equal.symm))

theorem monitor?_drop (ledger : Ledger) (key other : Nat) :
    (ledger.drop key).monitor? other = if other = key then none else ledger.monitor? other :=
  ledger.monitor?_edit key other rfl

theorem monitor?_dropAll (ledger : Ledger) (lost : List Nat) (key : Nat) :
    (lost.foldl drop ledger).monitor? key
      = if key ∈ lost then none else ledger.monitor? key := by
  induction lost generalizing ledger with
  | nil => rfl
  | cons first lost ih =>
      rw [List.foldl_cons, ih, monitor?_drop]
      by_cases later : key ∈ lost
      · rw [if_pos later, if_pos (List.mem_cons_of_mem first later)]
      · simp [later]

theorem shape_dropAll (ledger : Ledger) (lost : List Nat) :
    (lost.foldl drop ledger).monitors.length = ledger.monitors.length
      ∧ (lost.foldl drop ledger).registrations = ledger.registrations := by
  induction lost generalizing ledger with
  | nil => exact ⟨rfl, rfl⟩
  | cons key lost ih =>
      obtain ⟨length, registrations⟩ := ih (ledger.drop key)
      exact ⟨length.trans (List.length_modify ..), registrations⟩

theorem take_register (ledger : Ledger) (key : Nat) :
    ledger.take (.register key)
      = if ledger.isAlive key then
          { ledger with registrations := ledger.registrations ++ [key] }
        else ledger := rfl

theorem registrations_take (ledger : Ledger) (turn : Turn) :
    ledger.registrations <+: (ledger.take turn).registrations := by
  cases turn with
  | create | drop | begin | finish => exact List.prefix_rfl
  | register key =>
      rw [take_register]
      split
      · exact List.prefix_append _ _
      · exact List.prefix_rfl
  | pass lost =>
      rw [take, (ledger.shape_dropAll lost).2]

theorem registrations_follow (ledger : Ledger) (turns : List Turn) :
    ledger.registrations <+: (ledger.follow turns).registrations := by
  induction turns generalizing ledger with
  | nil => exact List.prefix_rfl
  | cons turn turns ih => exact (ledger.registrations_take turn).trans (ih (ledger.take turn))

/-- A thread that stays in its unit stays due, for longer and longer. -/
theorem report?_later {ledger next : Ledger} {key now later : Nat} {report : BlockedThread}
    (due : ledger.report? now key = some report) (after : now ≤ later)
    (unchanged : next.monitor? key = ledger.monitor? key) :
    ∃ again, next.report? later key = some again ∧ again.name = report.name
      ∧ again.role = report.role ∧ again.budget = report.budget
      ∧ report.blockedFor.nanos ≤ again.blockedFor.nanos := by
  unfold report? at *
  rw [unchanged]
  obtain ⟨monitor, alive, due⟩ := Option.bind_eq_some_iff.mp due
  obtain ⟨budget, bounded, due⟩ := Option.bind_eq_some_iff.mp due
  obtain ⟨began, marked, due⟩ := Option.bind_eq_some_iff.mp due
  obtain ⟨exceeds, shown⟩ := Option.ite_none_right_eq_some.mp due
  cases shown
  have longer : now - began ≤ later - began := Nat.sub_le_sub_right after began
  refine ⟨⟨monitor.descriptor.name, monitor.descriptor.role, budget, ⟨later - began⟩⟩, ?_,
    rfl, rfl, rfl, longer⟩
  rw [alive, Option.bind_eq_bind, Option.bind_some, bounded, Option.bind_eq_bind, Option.bind_some,
    marked, Option.bind_eq_bind, Option.bind_some, if_pos (Nat.lt_of_lt_of_le exceeds longer)]

end Ledger

/-! ### The table is what the ledger says -/

theorem filter_filter_of_imp {α : Type} {many few : α → Bool}
    (fewer : ∀ item, few item = true → many item = true) (items : List α) :
    (items.filter many).filter few = items.filter few := by
  rw [List.filter_filter]
  refine List.filter_congr fun item _ => ?_
  cases kept : few item with
  | false => rfl
  | true => exact fewer item kept

namespace Patrol

structure Keeps (patrol : Patrol) (ledger : Ledger) : Prop where
  created : patrol.created = ledger.monitors.length
  monitors : ∀ key, patrol.watch.monitor? key = ledger.monitor? key
  known : ∀ key ∈ ledger.registrations, key < ledger.monitors.length
  listed : ∀ key ∈ patrol.watch.roster, key ∈ ledger.registrations
  alive : patrol.watch.roster.filter ledger.isAlive = ledger.registrations.filter ledger.isAlive

variable {patrol : Patrol} {ledger : Ledger}

theorem keeps_start : start.Keeps .empty where
  created := rfl
  monitors _ := rfl
  known _ impossible := by cases impossible
  listed _ impossible := by cases impossible
  alive := rfl

theorem Keeps.isAlive (keeps : patrol.Keeps ledger) :
    patrol.watch.isAlive = ledger.isAlive := by
  funext key
  unfold Watch.isAlive Ledger.isAlive
  rw [keeps.monitors]

theorem Keeps.fewer (keeps : patrol.Keeps ledger) {watch : Watch} {next : Ledger}
    (length : next.monitors.length = ledger.monitors.length)
    (registrations : next.registrations = ledger.registrations)
    (monitors : ∀ key, watch.monitor? key = next.monitor? key)
    (roster : watch.roster = patrol.watch.roster
      ∨ watch.roster = patrol.watch.roster.filter ledger.isAlive)
    (living : ∀ key, next.isAlive key = true → ledger.isAlive key = true) :
    Keeps { patrol with watch } next where
  created := keeps.created.trans length.symm
  monitors := monitors
  known key present := by
    rw [length]
    exact keeps.known key (registrations ▸ present)
  listed key present := by
    rw [registrations]
    change key ∈ watch.roster at present
    rcases roster with same | pruned
    · exact keeps.listed key (same ▸ present)
    · rw [pruned] at present
      exact keeps.listed key (List.mem_of_mem_filter present)
  alive := by
    change watch.roster.filter next.isAlive = _
    have kept : watch.roster.filter next.isAlive = patrol.watch.roster.filter next.isAlive := by
      rcases roster with same | pruned
      · rw [same]
      · rw [pruned, filter_filter_of_imp living]
    rw [kept, registrations, ← filter_filter_of_imp living, keeps.alive,
      filter_filter_of_imp living]

theorem Keeps.create (keeps : patrol.Keeps ledger) (descriptor : Descriptor) :
    (patrol.take (.create descriptor)).Keeps (ledger.take (.create descriptor)) := by
  have fresh : ∀ key ∈ ledger.registrations,
      (ledger.take (.create descriptor)).isAlive key = ledger.isAlive key := by
    intro key present
    unfold Ledger.isAlive
    rw [Ledger.monitor?_create, if_neg (Nat.ne_of_lt (keeps.known key present))]
  refine ⟨?_, fun key => ?_, fun key present => ?_, keeps.listed, ?_⟩
  · change patrol.created + 1 = (ledger.monitors ++ [_]).length
    rw [List.length_append, keeps.created]
    rfl
  · rw [Ledger.monitor?_create]
    change (patrol.watch.adopt patrol.created _).monitor? key = _
    rw [Watch.monitor?_adopt, keeps.created, keeps.monitors]
  · change key < (ledger.monitors ++ [_]).length
    rw [List.length_append]
    exact Nat.lt_add_right 1 (keeps.known key present)
  · change patrol.watch.roster.filter _ = ledger.registrations.filter _
    rw [List.filter_congr fun key present => fresh key (keeps.listed key present),
      List.filter_congr fresh]
    exact keeps.alive

theorem Keeps.register (keeps : patrol.Keeps ledger) (key : Nat) :
    (patrol.take (.register key)).Keeps (ledger.take (.register key)) := by
  change (if patrol.watch.isAlive key then _ else _ : Patrol).Keeps _
  rw [Ledger.take_register, keeps.isAlive]
  split
  · rename_i living
    have present : key < ledger.monitors.length := by
      by_contra beyond
      unfold Ledger.isAlive Ledger.monitor? at living
      rw [List.getElem?_eq_none (Nat.le_of_not_lt beyond)] at living
      cases living
    refine ⟨keeps.created, keeps.monitors, ?_, ?_, ?_⟩
    · intro other listed
      rcases List.mem_append.mp listed with old | new
      · exact keeps.known other old
      · rw [List.mem_singleton.mp new]
        exact present
    · intro other listed
      rcases List.mem_append.mp listed with old | new
      · exact List.mem_append_left _ (keeps.listed other old)
      · exact List.mem_append_right _ new
    · change (patrol.watch.roster ++ [key]).filter ledger.isAlive
        = (ledger.registrations ++ [key]).filter ledger.isAlive
      rw [List.filter_append, List.filter_append, keeps.alive]
  · exact keeps

theorem keeps_take (keeps : patrol.Keeps ledger) (turn : Turn) :
    (patrol.take turn).Keeps (ledger.take turn) := by
  have edited {key : Nat} {watch : Watch} {change : Option Monitor → Option Monitor}
      (gone : change none = none) (same : watch.roster = patrol.watch.roster)
      (monitors : ∀ other, watch.monitor? other
        = if other = key then change (patrol.watch.monitor? other)
          else patrol.watch.monitor? other) :
      Keeps { patrol with watch } (ledger.edit key change) := by
    refine keeps.fewer (List.length_modify ..) rfl (fun other => ?_) (Or.inl same) fun other living => ?_
    · rw [monitors, ledger.monitor?_edit key other gone, keeps.monitors]
    · unfold Ledger.isAlive at *
      rw [ledger.monitor?_edit key other gone] at living
      cases before : ledger.monitor? other with
      | some monitor => rfl
      | none =>
          rw [before, gone, ite_self] at living
          cases living
  cases turn with
  | create descriptor => exact keeps.create descriptor
  | register key => exact keeps.register key
  | drop key => exact edited rfl rfl fun other => patrol.watch.monitor?_forget key other
  | begin now key => exact edited rfl rfl fun other => patrol.watch.monitor?_begin now key other
  | finish key => exact edited rfl rfl fun other => patrol.watch.monitor?_finish key other
  | pass lost =>
      obtain ⟨length, registrations⟩ := ledger.shape_dropAll lost
      change Keeps _ (lost.foldl Ledger.drop ledger)
      refine keeps.fewer length registrations (fun key => ?_) (Or.inr ?_) fun key living => ?_
      · rw [Watch.monitor?_foldl_forget, Ledger.monitor?_dropAll, Watch.monitor?_prune, keeps.monitors]
      · rw [Watch.roster_foldl_forget, ← keeps.isAlive]
        rfl
      · unfold Ledger.isAlive at *
        rw [Ledger.monitor?_dropAll] at living
        split at living
        · cases living
        · exact living

theorem keeps_follow (keeps : patrol.Keeps ledger) (turns : List Turn) :
    (patrol.follow turns).Keeps (ledger.follow turns) := by
  induction turns generalizing patrol ledger with
  | nil => exact keeps
  | cons turn turns ih => exact ih (keeps_take keeps turn)

theorem Keeps.watched (keeps : patrol.Keeps ledger) : patrol.watch.watched = ledger.watched := by
  unfold Watch.watched Ledger.watched
  rw [keeps.isAlive, keeps.alive]

/-- What a pass finds in the table is what is due by the ledger. -/
theorem Keeps.violations (keeps : patrol.Keeps ledger) (now : Nat) :
    patrol.watch.violations now = ledger.overdue now := by
  have same : (fun key => (patrol.watch.monitor? key).bind (·.violation now))
      = ledger.report? now := by
    funext key
    rw [Ledger.report?_eq, keeps.monitors]
  rw [← Watch.violations_prune]
  change (patrol.watch.roster.filter patrol.watch.isAlive).filterMap
    (fun key => (patrol.watch.monitor? key).bind (·.violation now)) = _
  rw [keeps.isAlive, same, keeps.alive, List.filterMap_filter]
  refine List.filterMap_congr fun key _ => ?_
  cases living : ledger.monitor? key with
  | none => simp [Ledger.isAlive, Ledger.report?, living]
  | some monitor => simp [Ledger.isAlive, living]

end Patrol

end Reactor
