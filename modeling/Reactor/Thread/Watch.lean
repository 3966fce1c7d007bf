import Reactor.Thread.Monitor

/-!
The monitors under watch. A monitor lives as long as somebody holds its thread; a registration
does not keep it alive. One pass finds the threads whose current unit has run for longer than
their budget, in the order in which they were registered.
-/

namespace Reactor

structure BlockedThread where
  name : String
  role : Role
  budget : Span
  blockedFor : Span
deriving DecidableEq, Inhabited

/-- The report on a monitor at an instant, if its unit has run for longer than its budget. -/
def Monitor.violation (monitor : Monitor) (now : Nat) : Option BlockedThread :=
  match monitor.descriptor.budget, monitor.executingFor now with
  | some budget, some elapsed =>
    if budget < elapsed then
      some ⟨monitor.descriptor.name, monitor.descriptor.role, budget, elapsed⟩
    else
      none
  | _, _ => none

theorem Monitor.violation_eq_some_iff {monitor : Monitor} {now : Nat} {report : BlockedThread} :
    monitor.violation now = some report ↔
      ∃ budget elapsed, monitor.descriptor.budget = some budget
        ∧ monitor.executingFor now = some elapsed ∧ budget < elapsed
        ∧ report = ⟨monitor.descriptor.name, monitor.descriptor.role, budget, elapsed⟩ := by
  unfold violation
  split
  · rename_i budget elapsed bounded executing
    simp only [bounded, executing, Option.some.injEq, Option.ite_none_right_eq_some]
    constructor
    · rintro ⟨exceeds, rfl⟩
      exact ⟨budget, elapsed, rfl, rfl, exceeds, rfl⟩
    · rintro ⟨_, _, rfl, rfl, exceeds, rfl⟩
      exact ⟨exceeds, rfl⟩
  · rename_i lacking
    constructor
    · intro impossible
      cases impossible
    · rintro ⟨budget, elapsed, bounded, executing, _⟩
      exact absurd executing (lacking budget elapsed bounded)

structure Watch where
  monitors : List (Nat × Monitor)
  -- The registrations in their order; one key may be registered several times.
  roster : List Nat
deriving Inhabited

namespace Watch

def empty : Watch := ⟨[], []⟩

def monitor? (watch : Watch) (key : Nat) : Option Monitor := watch.monitors.lookup key

def isAlive (watch : Watch) (key : Nat) : Bool := (watch.monitor? key).isSome

def adopt (watch : Watch) (key : Nat) (monitor : Monitor) : Watch :=
  { watch with monitors := (key, monitor) :: watch.monitors }

def register (watch : Watch) (key : Nat) : Watch :=
  { watch with roster := watch.roster ++ [key] }

/-- Lets go of a monitor; its registrations stay until the next pass. -/
def forget (watch : Watch) (key : Nat) : Watch :=
  { watch with monitors := watch.monitors.filter (·.1 != key) }

private def change (watch : Watch) (key : Nat) (edit : Monitor → Monitor) : Watch :=
  { watch with
    monitors := watch.monitors.map fun (other, monitor) =>
      if other = key then (other, edit monitor) else (other, monitor) }

def begin (watch : Watch) (now key : Nat) : Watch := watch.change key (·.begin now)

def finish (watch : Watch) (key : Nat) : Watch := watch.change key (·.finish)

def isMarked (watch : Watch) (key : Nat) : Bool :=
  (watch.monitor? key).any (·.mark.isSome)

/-! ### What the operations do to the monitor under a key -/

theorem monitor?_adopt (watch : Watch) (key other : Nat) (monitor : Monitor) :
    (watch.adopt key monitor).monitor? other
      = if other = key then some monitor else watch.monitor? other := by
  unfold monitor? adopt
  rw [List.lookup_cons]
  by_cases same : other = key
  · simp [same]
  · have different : (other == key) = false := beq_eq_false_iff_ne.mpr same
    simp [same, different]

@[simp] theorem monitor?_register (watch : Watch) (key other : Nat) :
    (watch.register key).monitor? other = watch.monitor? other := rfl

theorem monitor?_forget (watch : Watch) (key other : Nat) :
    (watch.forget key).monitor? other = if other = key then none else watch.monitor? other := by
  unfold monitor? forget
  generalize watch.monitors = monitors
  induction monitors with
  | nil => simp
  | cons first rest ih =>
      obtain ⟨head, monitor⟩ := first
      by_cases same : head = key
      · subst head
        rw [List.filter_cons_of_neg (by simp), ih, List.lookup_cons]
        by_cases found : other = key
        · simp [found]
        · have different : (other == key) = false := beq_eq_false_iff_ne.mpr found
          simp [found, different]
      · rw [List.filter_cons_of_pos (by simpa using same), List.lookup_cons, List.lookup_cons, ih]
        by_cases found : other = head
        · subst other
          simp [same]
        · have different : (other == head) = false := beq_eq_false_iff_ne.mpr found
          simp [different]

private theorem monitor?_change (watch : Watch) (key other : Nat) (edit : Monitor → Monitor) :
    (watch.change key edit).monitor? other
      = if other = key then (watch.monitor? other).map edit else watch.monitor? other := by
  unfold monitor? change
  generalize watch.monitors = monitors
  induction monitors with
  | nil => simp
  | cons first rest ih =>
      obtain ⟨head, monitor⟩ := first
      simp only [List.map_cons] at ih ⊢
      by_cases same : head = key
      · subst head
        rw [if_pos rfl, List.lookup_cons, List.lookup_cons, ih]
        by_cases found : other = key
        · simp [found]
        · have different : (other == key) = false := beq_eq_false_iff_ne.mpr found
          simp [found, different]
      · rw [if_neg same, List.lookup_cons, List.lookup_cons, ih]
        by_cases found : other = head
        · subst other
          simp [same]
        · have different : (other == head) = false := beq_eq_false_iff_ne.mpr found
          simp [different]

theorem monitor?_begin (watch : Watch) (now key other : Nat) :
    (watch.begin now key).monitor? other
      = if other = key then (watch.monitor? other).map (·.begin now) else watch.monitor? other :=
  watch.monitor?_change key other _

theorem monitor?_finish (watch : Watch) (key other : Nat) :
    (watch.finish key).monitor? other
      = if other = key then (watch.monitor? other).map (·.finish) else watch.monitor? other :=
  watch.monitor?_change key other _

/-- The watch once some monitors have been let go, and otherwise as it was. -/
def Sheds (watch after : Watch) : Prop := ∃ lost : List Nat, after = lost.foldl forget watch

theorem Sheds.refl (watch : Watch) : watch.Sheds watch := ⟨[], rfl⟩

theorem sheds_forget (watch : Watch) (key : Nat) : watch.Sheds (watch.forget key) := ⟨[key], rfl⟩

theorem Sheds.trans {watch middle after : Watch} (first : watch.Sheds middle)
    (second : middle.Sheds after) : watch.Sheds after := by
  obtain ⟨early, rfl⟩ := first
  obtain ⟨late, rfl⟩ := second
  exact ⟨early ++ late, List.foldl_append.symm⟩

theorem roster_foldl_forget (watch : Watch) (lost : List Nat) :
    (lost.foldl forget watch).roster = watch.roster := by
  induction lost generalizing watch with
  | nil => rfl
  | cons key lost ih => exact ih (watch.forget key)

theorem monitor?_foldl_forget (watch : Watch) (lost : List Nat) (key : Nat) :
    (lost.foldl forget watch).monitor? key = if key ∈ lost then none else watch.monitor? key := by
  induction lost generalizing watch with
  | nil => rfl
  | cons first lost ih =>
      rw [List.foldl_cons, ih, monitor?_forget]
      by_cases later : key ∈ lost
      · rw [if_pos later, if_pos (List.mem_cons_of_mem first later)]
      · simp [later]

theorem forget_finish (watch : Watch) (key : Nat) :
    (watch.finish key).forget key = watch.forget key := by
  refine congrArg (fun monitors => ({ watch with monitors } : Watch)) ?_
  change (watch.monitors.map _).filter _ = watch.monitors.filter _
  induction watch.monitors with
  | nil => rfl
  | cons first rest ih =>
      obtain ⟨head, monitor⟩ := first
      by_cases same : head = key
      · simpa [same] using ih
      · simpa [same] using ih

theorem forget_finish_comm (watch : Watch) (key other : Nat) :
    (watch.finish key).forget other = (watch.forget other).finish key := by
  refine congrArg (fun monitors => ({ watch with monitors } : Watch)) ?_
  change (watch.monitors.map _).filter _ = (watch.monitors.filter _).map _
  rw [List.filter_map]
  refine congrArg _ (List.filter_congr fun place _ => ?_)
  by_cases same : place.1 = key <;> simp [same]

/-- A unit that was finished on a monitor that is let go of leaves no trace. -/
theorem foldl_forget_finish (watch : Watch) {key : Nat} {lost : List Nat} (listed : key ∈ lost) :
    lost.foldl forget (watch.finish key) = lost.foldl forget watch := by
  induction lost generalizing watch with
  | nil => cases listed
  | cons first lost ih =>
      by_cases same : key = first
      · subst first
        exact congrArg (lost.foldl forget) (watch.forget_finish key)
      · have later := (List.mem_cons.mp listed).resolve_left same
        rw [List.foldl_cons, watch.forget_finish_comm, ih _ later]
        rfl

theorem Sheds.monitor? {watch after : Watch} (sheds : watch.Sheds after) {key : Nat}
    {monitor : Monitor} (alive : after.monitor? key = some monitor) :
    watch.monitor? key = some monitor := by
  obtain ⟨lost, rfl⟩ := sheds
  rw [monitor?_foldl_forget] at alive
  split at alive
  · cases alive
  · exact alive

/-- The watch without the registrations of a key. -/
def strike (watch : Watch) (key : Nat) : Watch :=
  { watch with roster := watch.roster.filter (· != key) }

/-! ### The registrations -/

def watched (watch : Watch) : Nat := (watch.roster.filter watch.isAlive).length

def prune (watch : Watch) : Watch := { watch with roster := watch.roster.filter watch.isAlive }

@[simp] theorem monitor?_prune (watch : Watch) (key : Nat) :
    watch.prune.monitor? key = watch.monitor? key := rfl

@[simp] theorem watched_prune (watch : Watch) : watch.prune.watched = watch.watched := by
  change ((watch.roster.filter watch.isAlive).filter watch.isAlive).length = _
  rw [List.filter_filter]
  simp [watched]

/-- The threads over their budget at an instant, once per registration, in their order. -/
def violations (watch : Watch) (now : Nat) : List BlockedThread :=
  watch.roster.filterMap fun key => (watch.monitor? key).bind (·.violation now)

theorem mem_violations {watch : Watch} {now : Nat} {report : BlockedThread} :
    report ∈ watch.violations now ↔
      ∃ key ∈ watch.roster, ∃ monitor, watch.monitor? key = some monitor
        ∧ monitor.violation now = some report := by
  simp only [violations, List.mem_filterMap, Option.bind_eq_some_iff]

/-- Registrations of monitors that are gone give no report. -/
@[simp] theorem violations_prune (watch : Watch) (now : Nat) :
    watch.prune.violations now = watch.violations now := by
  change (watch.roster.filter watch.isAlive).filterMap
    (fun key => (watch.monitor? key).bind (·.violation now)) = _
  unfold violations
  induction watch.roster with
  | nil => rfl
  | cons key rest ih =>
      cases found : watch.monitor? key with
      | none => simpa [isAlive, found] using ih
      | some monitor =>
          rw [List.filter_cons_of_pos (by simp [isAlive, found]), List.filterMap_cons, ih,
            List.filterMap_cons]

theorem violations_strike {watch : Watch} {key now : Nat}
    (quiet : ∀ monitor, watch.monitor? key = some monitor → monitor.violation now = none) :
    (watch.strike key).violations now = watch.violations now := by
  change (watch.roster.filter (· != key)).filterMap
    (fun key => (watch.monitor? key).bind (·.violation now)) = _
  unfold violations
  induction watch.roster with
  | nil => rfl
  | cons first rest ih =>
      by_cases same : first = key
      · subst first
        have silent : (watch.monitor? key).bind (·.violation now) = none := by
          rw [Option.bind_eq_none_iff]
          exact quiet
        rw [List.filter_cons_of_neg (by simp), List.filterMap_cons, silent, ih]
      · rw [List.filter_cons_of_pos (by simpa using same), List.filterMap_cons, ih,
          List.filterMap_cons]

end Watch

end Reactor
