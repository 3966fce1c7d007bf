import Reactor.Proofs.Engine.Release

/-!
How often a runtime leaves its cluster. A shutdown asks the manager to leave at its first poll, if
the runtime is open then; nothing is noted of it before the manager has answered. So a runtime
leaves once as long as no shutdown is begun to be polled while another waits for the manager, and
two shutdowns that overlap both leave.
-/

namespace Reactor

open Told

def Entry.leave? : Entry → Option ClusterManager
  | .call (.leaveCluster manager) => some manager
  | _ => none

theorem Entry.leave?_released (entry : Entry) (released : entry.release? = some entry) :
    entry.leave? = none := by
  cases entry with
  | log _ _ | deed _ => rfl
  | call request =>
      cases request with
      | leaveCluster _ => cases released
      | _ => rfl

namespace Life

variable {life : Life} {holdings : Holdings}

def asks? (life : Life) : Use → Option ClusterManager
  | .poll number =>
      if life.shutdowns[number]?.join = some .fresh then life.engine.departs? else none
  | _ => none

theorem leaveCalls_leave (life : Life) (use : Use) :
    (life.leaveCalls use).filterMap Entry.leave? = (life.asks? use).toList := by
  cases use with
  | poll number =>
      change ((life.shutdowns[number]?.join).elim [] life.engine.leaveCalls).filterMap _
        = (if life.shutdowns[number]?.join = some .fresh then life.engine.departs? else none).toList
      rcases life.shutdowns[number]?.join with _ | _ | _
      · rfl
      · change (life.engine.departs?.toList.map _).filterMap _ = life.engine.departs?.toList
        cases life.engine.departs? <;> rfl
      · rfl
  | _ => rfl

theorem asks?_closed (closed : life.engine.closed = true) (use : Use) : life.asks? use = none := by
  cases use with
  | poll number =>
      unfold asks?
      rw [Engine.departs?_closed closed]
      exact ite_self _
  | _ => rfl

theorem asks?_poll {number : Nat} {manager : ClusterManager}
    (asked : life.asks? (.poll number) = some manager) :
    life.shutdowns[number]? = some (some .fresh) ∧ life.engine.departs? = some manager := by
  unfold asks? at asked
  dsimp only at asked
  by_cases fresh : life.shutdowns[number]?.join = some .fresh
  · rw [if_pos fresh] at asked
    exact ⟨Option.join_eq_some_iff.mp fresh, asked⟩
  · rw [if_neg fresh] at asked
    cases asked

theorem use_leaves (tidy : life.Tidy holdings) (use : Use) :
    (life.use use).entries.filterMap Entry.leave? = (life.asks? use).toList := by
  obtain ⟨next, seen, yields, _, ends⟩ := use_yields tidy use
  have silent : seen.filterMap Entry.leave? = [] := by
    rcases ends with ⟨_, rfl⟩ | ⟨_, rfl⟩
    · exact life.engine.due_unseen Entry.leave?_released
    · rfl
  rw [(yields.seenBy fun _ _ => rfl).2, List.filterMap_append, silent, leaveCalls_leave,
    List.append_nil]

theorem leaves_cons (tidy : life.Tidy holdings) (use : Use) (uses : List Use) :
    (life.follow (use :: uses)).entries.filterMap Entry.leave?
      = (life.asks? use).toList
        ++ ((life.use use).value.follow uses).entries.filterMap Entry.leave? := by
  rw [follow, Told.entries_bind, List.filterMap_append, use_leaves tidy]

theorem manager_of_leaves (tidy : life.Tidy holdings) {uses : List Use} :
    ∀ manager ∈ (life.follow uses).entries.filterMap Entry.leave?,
      holdings.cluster.map (·.manager) = some manager := by
  induction uses generalizing life with
  | nil =>
      intro manager impossible
      cases impossible
  | cons use uses ih =>
      intro manager asked
      rw [leaves_cons tidy] at asked
      rcases List.mem_append.mp asked with now | later
      · rw [Option.mem_toList] at now
        cases use with
        | poll number =>
            obtain ⟨_, binding, clustered, same⟩ := Engine.departs?_eq_some (asks?_poll now).2
            rw [← tidy.holdings]
            exact Option.map_eq_some_iff.mpr ⟨binding, clustered, same⟩
        | _ => cases now
      · exact ih (tidy_use tidy use) manager later

theorem leaves_closed (tidy : life.Tidy holdings) (closed : life.engine.closed = true)
    (uses : List Use) : (life.follow uses).entries.filterMap Entry.leave? = [] := by
  induction uses generalizing life with
  | nil => rfl
  | cons use uses ih =>
      rw [leaves_cons tidy, asks?_closed closed,
        ih (tidy_use tidy use) (closed_use tidy use closed)]
      rfl

def Awaits (life : Life) : Prop :=
  ∃ manager polls, some (.leaving manager polls) ∈ life.shutdowns

/-- The use asks nobody to leave while a shutdown waits, nor gives up a shutdown that waits. -/
def Patient (life : Life) : Use → Prop
  | .poll number => life.asks? (.poll number) ≠ none → ¬life.Awaits
  | .giveUp number => ∀ manager polls, life.shutdowns[number]?.join ≠ some (.leaving manager polls)
  | _ => True

def AllPatient (life : Life) : List Use → Prop
  | [] => True
  | use :: uses => life.Patient use ∧ (life.use use).value.AllPatient uses

/-- The manager has been asked, and that is still to be seen. -/
def Spent (life : Life) : Prop := life.engine.closed = true ∨ life.Awaits

theorem spent_poll (tidy : life.Tidy holdings) {number : Nat} {departure : Departure}
    (found : life.shutdowns[number]? = some (some departure)) :
    (life.use (.poll number)).value.Spent := by
  obtain ⟨engine, outcome, seen, yields, ends⟩ := Engine.pollShutdown_yields tidy.sound departure
  have polled : (life.use (.poll number)).value
      = { life with engine, shutdowns := life.shutdowns.set number (waiting? outcome) } := by
    unfold Life.use
    dsimp only
    rw [found]
    dsimp only
    rw [Told.value_bind, yields.1]
    rfl
  rw [polled]
  rcases ends with ⟨_, _, _, closes⟩ | ⟨manager, polls, rfl, _, _⟩
  · exact Or.inl closes.closed
  · obtain ⟨within, _⟩ := List.getElem?_eq_some_iff.mp found
    exact Or.inr ⟨manager, polls, List.mem_set within _⟩

theorem poll_unmatched {number : Nat}
    (settled : ∀ departure, life.shutdowns[number]? ≠ some (some departure)) :
    (life.use (.poll number)).value = life := by
  unfold Life.use
  dsimp only
  split
  · rename_i found
    exact absurd found (settled _)
  · rfl

theorem shutdowns_submit (life : Life) (entrance : Engine.Entrance) (panics : Bool) :
    (life.submit entrance panics).shutdowns = life.shutdowns := by
  unfold Life.submit
  dsimp only
  split <;> rfl

theorem spent_of_asks (tidy : life.Tidy holdings) {use : Use} {manager : ClusterManager}
    (asked : life.asks? use = some manager) : (life.use use).value.Spent := by
  cases use with
  | poll number => exact spent_poll tidy (asks?_poll asked).1
  | _ => cases asked

theorem spent_use (tidy : life.Tidy holdings) {use : Use} (patient : life.Patient use)
    (spent : life.Spent) : life.asks? use = none ∧ (life.use use).value.Spent := by
  rcases spent with closed | ⟨manager, polls, waits⟩
  · exact ⟨asks?_closed closed use, Or.inl (closed_use tidy use closed)⟩
  · have awaits : life.Awaits := ⟨manager, polls, waits⟩
    cases use with
    | poll number =>
        constructor
        · cases asked : life.asks? (.poll number) with
          | none => rfl
          | some manager =>
              have begins : life.asks? (.poll number) ≠ none := by
                rw [asked]
                exact Option.some_ne_none manager
              exact absurd awaits (patient begins)
        · by_cases matched : ∃ departure, life.shutdowns[number]? = some (some departure)
          · obtain ⟨departure, found⟩ := matched
            exact spent_poll tidy found
          · rw [poll_unmatched (not_exists.mp matched)]
            exact Or.inr awaits
    | giveUp number =>
        refine ⟨rfl, Or.inr ⟨manager, polls, ?_⟩⟩
        obtain ⟨place, found⟩ := List.mem_iff_getElem?.mp waits
        have elsewhere : number ≠ place := by
          rintro rfl
          exact patient manager polls (Option.join_eq_some_iff.mpr found)
        exact List.mem_iff_getElem?.mpr ⟨place, (List.getElem?_set_ne elsewhere).trans found⟩
    | shutdown => exact ⟨rfl, Or.inr ⟨manager, polls, List.mem_append_left _ waits⟩⟩
    | close => exact ⟨rfl, Or.inl (closed_of_close tidy (List.mem_singleton_self Use.close))⟩
    | submit entrance panics =>
        refine ⟨rfl, Or.inr ⟨manager, polls, ?_⟩⟩
        change _ ∈ (life.submit entrance panics).shutdowns
        rw [shutdowns_submit]
        exact waits
    | receive seat now => exact ⟨rfl, Or.inr awaits⟩
    | finish seat => exact ⟨rfl, Or.inr awaits⟩

theorem leaves_spent (tidy : life.Tidy holdings) {uses : List Use}
    (patient : life.AllPatient uses) (spent : life.Spent) :
    (life.follow uses).entries.filterMap Entry.leave? = [] := by
  -- A spent life stays spent under patient uses, and a patient use of it asks nobody.
  induction uses generalizing life with
  | nil => rfl
  | cons use uses ih =>
      obtain ⟨quiet, stillSpent⟩ := spent_use tidy patient.1 spent
      rw [leaves_cons tidy, quiet, ih (tidy_use tidy use) patient.2 stillSpent]
      rfl

theorem leaves_patient (tidy : life.Tidy holdings) {uses : List Use}
    (patient : life.AllPatient uses) :
    ((life.follow uses).entries.filterMap Entry.leave?).length ≤ 1 := by
  induction uses generalizing life with
  | nil => exact Nat.zero_le 1
  | cons use uses ih =>
      rw [leaves_cons tidy]
      cases asked : life.asks? use with
      | none => exact ih (tidy_use tidy use) patient.2
      | some manager =>
          rw [leaves_spent (tidy_use tidy use) patient.2 (spent_of_asks tidy asked)]
          exact Nat.le_refl 1

/-! ### Runtimes that were started -/

open Engine

/-- Only the bound manager is ever asked to leave, and nobody is once the runtime has been closed.
It is asked at most once if no shutdown asks it while another one waits for its answer, and none
that waits is given up. -/
theorem leaves_once {host : Host} {files : FileTree} {options : Options} {bindings : Bindings}
    {cluster : Option ClusterBinding} {handler : Option BlockedHandler} {took : Span}
    {engine : Engine}
    (started : (start host files options bindings cluster handler took).value = .ok engine)
    (uses : List Use) :
    let told := (begin engine).follow uses
    let leaves := told.entries.filterMap Entry.leave?
    (∀ manager ∈ leaves, cluster.map (·.manager) = some manager)
      ∧ (told.value.engine.closed = true →
        ∀ later, (told.value.follow later).entries.filterMap Entry.leave? = [])
      ∧ ((begin engine).AllPatient uses → leaves.length ≤ 1) := by
  intro told leaves
  obtain ⟨shape, loops, workers, _, rfl, _⟩ := made_of_start started
  have tidy := tidy_begin host files options bindings cluster handler shape loops workers
  refine ⟨fun manager asked => ?_, fun closed later => ?_, leaves_patient tidy⟩
  · have bound := manager_of_leaves tidy manager asked
    change (cluster.map introduced).map (·.manager) = some manager at bound
    rw [Option.map_map] at bound
    exact bound
  · exact leaves_closed (tidy_follow tidy uses) closed later

theorem leaves_once_hesitant :
    (((begin troubled).follow [.shutdown, .poll 0, .close, .shutdown, .poll 1]).entries.filterMap
      Entry.leave?).length ≤ 1 := by
  have patient : (begin troubled).AllPatient [.shutdown, .poll 0, .close, .shutdown, .poll 1] := by
    refine ⟨trivial, fun _ => ?_, trivial, trivial, fun asks => ?_, trivial⟩
    · rintro ⟨manager, polls, waits⟩
      cases List.mem_singleton.mp waits
    · exact absurd rfl asks
  exact (leaves_once started_troubled _).2.2 patient

/-- Two shutdowns that overlap both leave the cluster. -/
theorem overlapping_shutdowns_both_leave :
    (start default default small brittle (some ⟨hesitant, .roundRobin, .fresh⟩) none default).value
        = .ok troubled
      ∧ ((begin troubled).follow [.shutdown, .shutdown, .poll 0, .poll 1]).entries.filterMap
          Entry.leave? = [hesitant, hesitant] :=
  ⟨started_troubled, rfl⟩

end Life

end Reactor
