import Mathlib.Data.List.Infix
import Reactor.Thread.Watch

/-!
Units of work on a monitor. The units of a thread are nested: whatever a task does, and however
it ends, every unit that begins also ends, inside the one that was open before. The monitor does
not follow the nesting. It has one mark, which the last step decides: it shows the unit that began
last, and nothing as soon as any unit has ended since.
-/

namespace Reactor

/-- What a step adds to the number of open units. -/
def Step.change : Step → Int
  | .begin => 1
  | .finish => -1
  | .look => 0

/-- The number of units that are open after these steps. -/
def depth : List Step → Int
  | [] => 0
  | step :: steps => step.change + depth steps

@[simp] theorem depth_nil : depth [] = 0 := rfl

@[simp] theorem depth_cons (step : Step) (steps : List Step) :
    depth (step :: steps) = step.change + depth steps := rfl

@[simp] theorem depth_append (first second : List Step) :
    depth (first ++ second) = depth first + depth second := by
  induction first with
  | nil => simp
  | cons step first ih => rw [List.cons_append, depth_cons, depth_cons, ih, Int.add_assoc]

theorem prefix_append_cases {α : Type} {before first second : List α}
    (early : before <+: first ++ second) :
    before <+: first ∨ ∃ late, before = first ++ late ∧ late <+: second := by
  rcases List.prefix_or_prefix_of_prefix early (List.prefix_append first second) with
    shorter | ⟨late, rfl⟩
  · exact Or.inl shorter
  · exact Or.inr ⟨late, rfl, (List.prefix_append_right_inj first).mp early⟩

/-- Every unit that begins ends, and no unit ends that has not begun. -/
structure Nested (steps : List Step) : Prop where
  closes : depth steps = 0
  within : ∀ {before : List Step}, before <+: steps → 0 ≤ depth before

theorem nested_nil : Nested [] where
  closes := rfl
  within before := by
    rw [List.prefix_nil.mp before]
    exact Int.le_refl 0

theorem nested_look : Nested [.look] where
  closes := rfl
  within before := by
    rcases List.prefix_cons_iff.mp before with rfl | ⟨rest, rfl, shorter⟩
    · exact Int.le_refl 0
    · rw [List.prefix_nil.mp shorter]
      exact Int.le_refl 0

theorem Nested.append {first second : List Step} (one : Nested first) (other : Nested second) :
    Nested (first ++ second) where
  closes := by rw [depth_append, one.closes, other.closes, Int.add_zero]
  within before := by
    rcases prefix_append_cases before with early | ⟨late, rfl, shorter⟩
    · exact one.within early
    · rw [depth_append, one.closes, Int.zero_add]
      exact other.within shorter

theorem Nested.unit_cases {inner before : List Step} (nested : Nested inner)
    (early : before <+: .begin :: inner ++ [.finish]) :
    before = [] ∨ (∃ inside, before = .begin :: inside ∧ inside <+: inner ∧ 0 < depth before)
      ∨ before = .begin :: inner ++ [.finish] := by
  rcases List.prefix_cons_iff.mp early with rfl | ⟨rest, rfl, shorter⟩
  · exact Or.inl rfl
  · rcases prefix_append_cases shorter with inside | ⟨last, rfl, ending⟩
    · refine Or.inr (Or.inl ⟨rest, rfl, inside, ?_⟩)
      have opened := nested.within inside
      rw [depth_cons]
      change 0 < 1 + depth rest
      omega
    · rcases List.prefix_cons_iff.mp ending with rfl | ⟨none, rfl, nothing⟩
      · refine Or.inr (Or.inl ⟨inner, by rw [List.append_nil], List.prefix_rfl, ?_⟩)
        rw [List.append_nil, depth_cons, nested.closes]
        exact Int.one_pos
      · rw [List.prefix_nil.mp nothing]
        exact Or.inr (Or.inr rfl)

theorem Nested.unit {inner : List Step} (nested : Nested inner) :
    Nested (.begin :: inner ++ [.finish]) where
  closes := by
    rw [List.cons_append, depth_cons, depth_append, nested.closes]
    rfl
  within early := by
    rcases nested.unit_cases early with rfl | ⟨_, _, _, opened⟩ | rfl
    · exact Int.le_refl 0
    · exact Int.le_of_lt opened
    · rw [List.cons_append, depth_cons, depth_append, nested.closes]
      exact Int.le_refl 0

namespace Activity

mutual

theorem nested_steps : (activity : Activity) → Nested activity.steps.1
  | .look => nested_look
  | .panic => nested_nil
  | .unit inner => (nested_stepsOfAll inner).unit
  | .attempt inner => nested_stepsOfAll inner

theorem nested_stepsOfAll : (activities : List Activity) → Nested (stepsOfAll activities).1
  | [] => nested_nil
  | activity :: rest => by
      have first := activity.nested_steps
      have others := nested_stepsOfAll rest
      unfold stepsOfAll
      dsimp only
      cases activity.steps.2 with
      | true => exact first
      | false => exact first.append others

end

/-- The steps of a job, however it ends. -/
def jobUnit (body : List Activity) : List Step := .begin :: (stepsOfAll body).1 ++ [.finish]

theorem steps_job (body : List Activity) : (job body).steps = (jobUnit body, false) := by
  have attempted : stepsOfAll [.attempt body] = ((stepsOfAll body).1, false) := by
    rw [stepsOfAll, stepsOfAll, steps]
    simp
  rw [job, steps, attempted]
  rfl

end Activity

theorem jobSteps_cons (body : List Activity) (jobs : List (List Activity)) :
    jobSteps (body :: jobs) = Activity.jobUnit body ++ jobSteps jobs := by
  unfold jobSteps
  rw [List.map_cons, Activity.stepsOfAll, Activity.steps_job]
  rfl

theorem nested_jobSteps (jobs : List (List Activity)) : Nested (jobSteps jobs) :=
  Activity.nested_stepsOfAll _

/-! ### The mark -/

/-- The start of the unit that began last, if no unit has ended since. -/
def openSince (steps : List (Nat × Step)) : Option Nat :=
  match steps.reverse.find? (·.2 != .look) with
  | some (began, .begin) => some began
  | _ => none

theorem mem_of_openSince {steps : List (Nat × Step)} {began : Nat}
    (shown : openSince steps = some began) : (began, .begin) ∈ steps := by
  unfold openSince at shown
  split at shown
  · rename_i found
    cases shown
    exact List.mem_reverse.mp (List.mem_of_find?_eq_some found)
  · cases shown

theorem openSince_cons {first : Nat × Step} {later : List (Nat × Step)}
    (marked : ∃ step ∈ later, step.2 ≠ .look) : openSince (first :: later) = openSince later := by
  obtain ⟨step, present, marks⟩ := marked
  have found : (later.reverse.find? (·.2 != .look)).isSome := by
    rw [List.find?_isSome]
    exact ⟨step, List.mem_reverse.mpr present, bne_iff_ne.mpr marks⟩
  unfold openSince
  rw [List.reverse_cons, List.find?_append, Option.or_of_isSome found]

theorem openSince_looks {start : Nat} {looks : List (Nat × Step)}
    (idle : ∀ step ∈ looks, step.2 = .look) : openSince ((start, .begin) :: looks) = some start := by
  have none : looks.reverse.find? (·.2 != .look) = none := by
    rw [List.find?_eq_none]
    intro step present
    simp [idle step (List.mem_reverse.mp present)]
  unfold openSince
  rw [List.reverse_cons, List.find?_append, none]
  rfl

namespace Monitor

theorem follow_concat (monitor : Monitor) (steps : List (Nat × Step)) (last : Nat × Step) :
    monitor.follow (steps ++ [last]) = (monitor.follow steps).apply last.1 last.2 :=
  List.foldl_append

theorem descriptor_follow (monitor : Monitor) (steps : List (Nat × Step)) :
    (monitor.follow steps).descriptor = monitor.descriptor := by
  induction steps using List.reverseRecOn with
  | nil => rfl
  | append_singleton steps last ih =>
      rw [follow_concat, ← ih]
      obtain ⟨now, step⟩ := last
      cases step <;> rfl

/-- Once a unit has begun, the mark is decided by the last step that is no look. -/
theorem mark_follow (monitor : Monitor) (start : Nat) (moment : List (Nat × Step)) :
    (monitor.follow ((start, .begin) :: moment)).mark = openSince ((start, .begin) :: moment) := by
  induction moment using List.reverseRecOn with
  | nil => rfl
  | append_singleton moment last ih =>
      rw [← List.cons_append, follow_concat]
      unfold openSince at ih ⊢
      rw [List.reverse_concat]
      obtain ⟨now, step⟩ := last
      cases step with
      | begin | finish => rfl
      | look => exact ih

theorem mark_of_closed {monitor : Monitor} (clear : monitor.mark = none) {moment : List (Nat × Step)}
    {steps : List Step} (nested : Nested steps) (taken : moment.map (·.2) <+: steps)
    (closed : depth (moment.map (·.2)) = 0) : (monitor.follow moment).mark = none := by
  -- The last step that is no look cannot begin a unit: before it, less than no unit would be open.
  induction moment using List.reverseRecOn with
  | nil => exact clear
  | append_singleton moment last ih =>
      rw [List.map_append] at taken closed
      have earlier : moment.map (·.2) <+: steps := (List.prefix_append _ _).trans taken
      have opened := nested.within earlier
      rw [depth_append] at closed
      obtain ⟨now, step⟩ := last
      rw [follow_concat]
      cases step with
      | finish => rfl
      | look => exact ih earlier (by simpa [Step.change] using closed)
      | begin =>
          change depth (moment.map (·.2)) + 1 = 0 at closed
          omega

end Monitor

end Reactor
