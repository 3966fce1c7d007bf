import Mathlib.Data.List.Nodup
import Mathlib.Logic.Relation
import Reactor.Proofs.Campus.Order

/-!
Threads that calls wait for. Only the call that leads waits, and never for the thread that it is
made on, so no threads wait for one another in a circle; and it waits for each thread once.
-/

namespace Reactor

namespace Site

variable {kind : CrewKind} {site next : Site} {act : Act}

def Apart (site : Site) : Prop :=
  ∀ closing ∈ site.closings, ∀ left, closing.left? = some left → left.Nodup

/-- The threads have been taken, and no closing call has this one still ahead. -/
def Spent (site : Site) (thread : Nat) : Prop :=
  site.crew.held = false
    ∧ ∀ closing ∈ site.closings, ∀ left, closing.left? = some left → thread ∉ left

theorem left_step (step : Step kind site act next) :
    ∀ closing ∈ next.closings, ∀ left, closing.left? = some left →
      (∃ before ∈ site.closings, ∃ more, before.left? = some more ∧ left.Sublist more)
        ∨ left = [] ∨ site.crew.held = true ∧ ∃ caller, left = site.others caller := by
  intro closing listed left found
  have kept (old : closing ∈ site.closings) :
      ∃ before ∈ site.closings, ∃ more, before.left? = some more ∧ left.Sublist more :=
    ⟨closing, old, left, found, List.Sublist.refl left⟩
  cases step with
  | submit _ _ _ | receive _ | finish _ _ | leave _ => exact Or.inl (kept listed)
  | call _ =>
      rcases List.mem_append.mp listed with old | new
      · exact Or.inl (kept old)
      · cases List.mem_singleton.mp new
        cases found
  | hangUp _ _ _ | late _ _ _ _ =>
      rcases List.mem_or_eq_of_mem_set listed with old | rfl
      · exact Or.inl (kept old)
      · cases found
  | take _ _ held =>
      rcases List.mem_or_eq_of_mem_set listed with old | rfl
      · exact Or.inl (kept old)
      · cases found
        exact Or.inr (Or.inr ⟨held, _, rfl⟩)
  | bare _ _ _ =>
      rcases List.mem_or_eq_of_mem_set listed with old | rfl
      · exact Or.inl (kept old)
      · cases kind <;> cases found
        exact Or.inr (Or.inl rfl)
  | @join number thread waiting _ present joining _ =>
      rcases List.mem_or_eq_of_mem_set listed with old | rfl
      · exact Or.inl (kept old)
      · cases found
        refine Or.inl ⟨waiting, List.mem_of_getElem? present, thread :: left, ?_, ?_⟩
        · rw [Closing.left?, joining]
        · exact List.sublist_cons_self thread left
  | settle _ _ =>
      rcases List.mem_or_eq_of_mem_set listed with old | rfl
      · exact Or.inl (kept old)
      · cases found
        exact Or.inr (Or.inl rfl)

theorem held_step (step : Step kind site act next) (taken : site.crew.held = false) :
    next.crew.held = false := by
  cases step with
  | take _ _ _ => rfl
  | submit _ _ _ | receive _ | finish _ _ | leave _ | call _ | hangUp _ _ _ | late _ _ _ _
  | bare _ _ _ | join _ _ _ | settle _ _ => exact taken

theorem Apart.step (apart : site.Apart) (step : Step kind site act next) : next.Apart := by
  intro closing listed left found
  rcases left_step step closing listed left found with
    ⟨before, old, more, had, fewer⟩ | rfl | ⟨_, caller, rfl⟩
  · exact (apart before old more had).sublist fewer
  · exact List.nodup_nil
  · exact List.nodup_range.filter _

theorem Apart.run {start : Site} {acts : List Act} (apart : start.Apart)
    (run : Run kind start acts site) : site.Apart := by
  induction run with
  | start => exact apart
  | step _ step ih => exact ih.step step

theorem Spent.step {thread : Nat} (spent : site.Spent thread) (step : Step kind site act next) :
    next.Spent thread := by
  obtain ⟨taken, absent⟩ := spent
  constructor
  · exact held_step step taken
  · intro closing listed left found
    rcases left_step step closing listed left found with
      ⟨before, old, more, had, fewer⟩ | rfl | ⟨held, _⟩
    · exact fun present => absent before old more had (fewer.subset present)
    · exact List.not_mem_nil
    · exact Bool.noConfusion (taken.symm.trans held)

theorem closings_joined {number thread : Nat} {closing : Closing} {left : List Nat}
    (present : site.closings[number]? = some closing)
    (joining : closing.stage = .joining (thread :: left))
    (step : Step kind site (.proceed number) next) :
    next.closings = site.closings.set number { closing with stage := .joining left } := by
  cases step with
  | join found waiting _ =>
      cases found.symm.trans present
      cases waiting.symm.trans joining
      rfl
  | late found stage _ _ | take found stage _ | bare found stage _ | settle found stage =>
      cases found.symm.trans present
      cases stage.symm.trans joining

theorem decides_of_left? {closing : Closing} {left : List Nat} (waits : closing.left? = some left) :
    closing.decides kind = true := by
  unfold Closing.left? at waits
  unfold Closing.decides
  split at waits
  · rename_i stage
    cases kind <;> simp [stage]
  · rename_i stage
    cases kind <;> simp [stage]
  · cases waits

theorem spent_join (sound : Sound kind site) (apart : site.Apart) {number thread : Nat}
    {closing : Closing} {left : List Nat} (present : site.closings[number]? = some closing)
    (joining : closing.stage = .joining (thread :: left))
    (step : Step kind site (.proceed number) next) : next.Spent thread := by
  have ahead : closing.left? = some (thread :: left) := by rw [Closing.left?, joining]
  have taken : site.crew.held = false := by
    by_contra held
    have none := (sound.fits number closing present).taken (by simpa using held)
    rw [ahead] at none
    cases none
  constructor
  · exact held_step step taken
  · intro other listed more found
    rw [closings_joined present joining step] at listed
    obtain ⟨place, atPlace⟩ := List.mem_iff_getElem?.mp listed
    rw [closing_set _ present] at atPlace
    split at atPlace
    · cases atPlace
      cases found
      exact (List.nodup_cons.mp (apart closing (List.mem_of_getElem? present) _ ahead)).1
    · -- No other call has threads ahead.
      rename_i elsewhere
      exact absurd (sound.single number place closing other present atPlace
        (decides_of_left? ahead) (decides_of_left? found)) elsewhere

end Site

namespace Campus

variable {campus next : Campus} {act : Act}

/-! ### Who waits for whom -/

/-- The thread that a call waits for. -/
def Awaits (campus : Campus) (quitting : Quitting) (whom : Party) : Prop :=
  match quitting.stage with
  | .within crew closing => ∃ kind site waiting place left, campus.crews[crew]? = some (kind, site)
      ∧ site.closings[closing]? = some waiting ∧ waiting.stage = .joining (place :: left)
      ∧ whom = .member crew place
  | .awaiting => whom = .watchdog
  | _ => False

def Waits (campus : Campus) (who whom : Party) : Prop :=
  ∃ quitting ∈ campus.quittings, quitting.caller = who ∧ campus.Awaits quitting whom

theorem Awaits.leads {quitting : Quitting} {whom : Party} (awaits : campus.Awaits quitting whom) :
    quitting.stage.leads = true := by
  unfold Awaits at awaits
  split at awaits
  · rename_i at_
    rw [at_]
    rfl
  · rename_i at_
    rw [at_]
    rfl
  · cases awaits

/-- No call waits for the thread that it is made on. -/
theorem Awaits.other {quitting : Quitting} {whom : Party} (awaits : campus.Awaits quitting whom)
    (follows : campus.Follows quitting)
    (manned : campus.Manned) : quitting.caller ≠ whom := by
  unfold Awaits at awaits
  split at awaits
  · rename_i crew closing at_
    obtain ⟨kind, site, waiting, place, left, present, stood, joining, rfl⟩ := awaits
    intro same
    obtain ⟨rfl, stage, closings⟩ := follows.present crew closing kind site at_ present
    have fits := (manned crew kind site present).fits 0 waiting stood
    have ahead := fits.ahead (place :: left) (by rw [Closing.left?, joining]) place
      List.mem_cons_self
    rw [closings] at stood
    cases stood
    apply ahead.2
    rw [same]
    exact if_pos rfl
  · rename_i at_
    rw [awaits]
    exact (follows.awaits at_).1
  · cases awaits

/-- Nobody waits for a party that waits. -/
theorem Sound.not_waits (sound : campus.Sound) (manned : campus.Manned) {who whom other : Party}
    (waits : campus.Waits who whom) : ¬campus.Waits whom other := by
  rintro ⟨second, secondListed, secondCaller, secondAwaits⟩
  obtain ⟨first, firstListed, firstCaller, firstAwaits⟩ := waits
  obtain ⟨number, present⟩ := List.mem_iff_getElem?.mp firstListed
  have same : second = first :=
    sound.leader present firstAwaits.leads secondListed secondAwaits.leads
  have follows := sound.follows first firstListed firstAwaits.leads
  apply firstAwaits.other follows manned
  rw [← secondCaller, same]

/-- No parties wait for one another in a circle. -/
theorem Sound.acyclic (sound : campus.Sound) (manned : campus.Manned) (party : Party) :
    ¬Relation.TransGen campus.Waits party party := by
  intro circle
  obtain ⟨whom, waits, _⟩ := Relation.TransGen.head'_iff.mp circle
  cases circle with
  | single waits => exact sound.not_waits manned waits waits
  | tail _ waited => exact sound.not_waits manned waited waits

/-! ### Threads that have been waited for -/

theorem apart_run {start : Campus} {acts : List Act}
    (apart : ∀ (crew : Nat) (kind : CrewKind) (site : Site),
      start.crews[crew]? = some (kind, site) → site.Apart)
    (run : Run start acts campus) {crew : Nat} {kind : CrewKind} {site : Site}
    (present : campus.crews[crew]? = some (kind, site)) : site.Apart := by
  obtain ⟨first, began, crewRun⟩ := crew_run run present
  exact (apart crew kind first began).run crewRun

/-- What the waiting of the calls so far has come to. -/
structure Tallied (campus : Campus) (joins : List (Nat × Party)) : Prop where
  once : (joins.map (·.2)).Nodup
  lead : ∀ join ∈ joins, ∃ quitting, campus.quittings[join.1]? = some quitting
    ∧ quitting.stage.leads = true ∧ quitting.caller ≠ join.2
  spent : ∀ crew place, .member crew place ∈ joins.map (·.2) → ∀ (kind : CrewKind) (site : Site),
    campus.crews[crew]? = some (kind, site) → site.Spent place
  met : .watchdog ∈ joins.map (·.2) → campus.lookout.held = false
    ∧ ∀ quitting ∈ campus.quittings, quitting.stage ≠ .awaiting

theorem met_step (step : Step campus act next) (taken : campus.lookout.held = false)
    (none : ∀ quitting ∈ campus.quittings, quitting.stage ≠ .awaiting) :
    next.lookout.held = false ∧ ∀ quitting ∈ next.quittings, quitting.stage ≠ .awaiting := by
  have moved {number : Nat} {quitting : Quitting} {stage : QuitStage} (other : stage ≠ .awaiting)
      (one : Quitting) (listed : one ∈ campus.quittings.set number { quitting with stage }) :
      one.stage ≠ .awaiting := by
    rcases List.mem_or_eq_of_mem_set listed with old | rfl
    · exact none one old
    · exact other
  cases step with
  | submit _ _ | serve _ _ _ | stop _ _ _ _ _ _ | join _ _ _ _ _ _ | hear _ | heard _ _ _
  | exit _ _ => exact ⟨taken, none⟩
  | call _ _ =>
      refine ⟨taken, fun one listed => ?_⟩
      rcases List.mem_append.mp listed with old | new
      · exact none one old
      · cases List.mem_singleton.mp new
        exact nofun
  | collect _ _ held => exact Bool.noConfusion (taken.symm.trans held)
  | first _ _ _ | late _ _ _ | enter _ _ _ _ | leave _ _ _ _ _ | signal _ _ | bare _ _ _
  | meet _ _ _ | part _ _ => exact ⟨taken, moved nofun⟩

theorem Tallied.step {joins : List (Nat × Party)} (tallied : campus.Tallied joins)
    (step : Step campus act next) : next.Tallied joins where
  once := tallied.once
  lead join listed := by
    obtain ⟨quitting, present, leads, other⟩ := tallied.lead join listed
    obtain ⟨stage, still, onward⟩ := quitting_step step present
    exact ⟨_, still, onward leads, other⟩
  spent crew place listed kind site present := by
    rcases crew_step step present with ⟨seen, before, _, old, crewStep⟩ | ⟨_, old⟩
    · exact (tallied.spent crew place listed kind before old).step crewStep
    · exact tallied.spent crew place listed kind site old
  met listed := by
    obtain ⟨taken, none⟩ := tallied.met listed
    exact met_step step taken none

theorem Tallied.join {joins : List (Nat × Party)} (tallied : campus.Tallied joins) {number : Nat}
    {quitting : Quitting} {party : Party} (present : campus.quittings[number]? = some quitting)
    (leads : quitting.stage.leads = true) (other : quitting.caller ≠ party)
    (anew : party ∉ joins.map (·.2))
    (spent : ∀ crew place, party = .member crew place → ∀ (kind : CrewKind) (site : Site),
      campus.crews[crew]? = some (kind, site) → site.Spent place)
    (met : party = .watchdog → campus.lookout.held = false
      ∧ ∀ quitting ∈ campus.quittings, quitting.stage ≠ .awaiting) :
    campus.Tallied (joins ++ [(number, party)]) := by
  have parties : (joins ++ [(number, party)]).map (·.2) = joins.map (·.2) ++ [party] := by simp
  constructor
  · rw [parties, List.nodup_append]
    refine ⟨tallied.once, List.nodup_singleton _, ?_⟩
    intro one listed last isLast same
    rw [List.mem_singleton] at isLast
    exact anew (isLast ▸ same ▸ listed)
  · intro join listed
    rcases List.mem_append.mp listed with old | new
    · exact tallied.lead join old
    · cases List.mem_singleton.mp new
      exact ⟨quitting, present, leads, other⟩
  · intro crew place listed
    rw [parties, List.mem_append, List.mem_singleton] at listed
    rcases listed with old | new
    · exact tallied.spent crew place old
    · exact spent crew place new.symm
  · intro listed
    rw [parties, List.mem_append, List.mem_singleton] at listed
    rcases listed with old | new
    · exact tallied.met old
    · exact met new.symm

/-- A thread that is waited for has not been waited for before. -/
theorem Tallied.anew {joins : List (Nat × Party)} (tallied : campus.Tallied joins)
    {quitting : Quitting} {whom : Party} (listed : quitting ∈ campus.quittings)
    (awaits : campus.Awaits quitting whom) : whom ∉ joins.map (·.2) := by
  intro before
  unfold Awaits at awaits
  split at awaits
  · obtain ⟨kind, site, waiting, place, left, present, stood, joining, rfl⟩ := awaits
    have spent := tallied.spent _ place before kind site present
    exact spent.2 waiting (List.mem_of_getElem? stood) (place :: left)
      (by rw [Closing.left?, joining]) List.mem_cons_self
  · rename_i awaiting
    subst whom
    exact (tallied.met before).2 quitting listed awaiting
  · cases awaits

theorem tallied_step {joins : List (Nat × Party)} (sound : campus.Sound) (manned : campus.Manned)
    (apart : ∀ (crew : Nat) (kind : CrewKind) (site : Site),
      campus.crews[crew]? = some (kind, site) → site.Apart)
    (tallied : campus.Tallied joins) (step : Step campus act next) :
    next.Tallied (joins ++ act.join?.toList) := by
  have kept := tallied.step step
  have unjoined (none : act.join? = none) : next.Tallied (joins ++ act.join?.toList) := by
    rw [none, Option.toList_none, List.append_nil]
    exact kept
  cases step with
  | @join number crew closing place left quitting kind site changed waiting present at_ old stood
      joining crewStep =>
      have listed := List.mem_of_getElem? present
      have leads : quitting.stage.leads = true := by rw [at_]; rfl
      have awaits : campus.Awaits quitting (.member crew place) := by
        unfold Awaits
        rw [at_]
        exact ⟨kind, site, waiting, place, left, old, stood, joining, rfl⟩
      refine kept.join present leads (awaits.other (sound.follows quitting listed leads) manned)
        (tallied.anew listed awaits) ?_ nofun
      intro other seat same otherKind found here
      cases same
      rw [put_at old, if_pos rfl] at here
      cases here
      exact Site.spent_join (manned crew kind site old) (apart crew kind site old) stood joining
        crewStep
  | @meet number quitting present awaiting gone =>
      have listed := List.mem_of_getElem? present
      have leads : quitting.stage.leads = true := by rw [awaiting]; rfl
      have awaits : campus.Awaits quitting .watchdog := by
        unfold Awaits
        rw [awaiting]
      obtain ⟨other, taken⟩ := (sound.follows quitting listed leads).awaits awaiting
      have now := (moved_at present .parting number).trans (if_pos rfl)
      refine kept.join now rfl other (tallied.anew listed awaits) nofun fun _ => ⟨taken, ?_⟩
      intro one oneListed waits
      rcases List.mem_iff_getElem?.mp oneListed with ⟨place, atPlace⟩
      rw [moved_at present] at atPlace
      split at atPlace
      · cases atPlace
        cases waits
      · rename_i elsewhere
        exact elsewhere (sound.single number place quitting one present atPlace leads
          (by rw [waits]; rfl))
  | submit _ _ | serve _ _ _ | call _ _ | first _ _ _ | late _ _ _ | enter _ _ _ _
  | stop _ _ _ _ _ _ | leave _ _ _ _ _ | signal _ _ | collect _ _ _ | bare _ _ _ | part _ _
  | hear _ | heard _ _ _ | exit _ _ =>
      exact unjoined rfl

theorem tallied_run {start : Campus} {acts : List Act} (sound : start.Sound)
    (manned : start.Manned)
    (apart : ∀ (crew : Nat) (kind : CrewKind) (site : Site),
      start.crews[crew]? = some (kind, site) → site.Apart)
    (run : Run start acts campus) : campus.Tallied (joinsIn acts) := by
  induction run with
  | start =>
      constructor
      · exact List.nodup_nil
      · exact nofun
      · exact nofun
      · exact nofun
  | step earlier step ih =>
      rw [joinsIn_concat]
      exact tallied_step (sound_run sound earlier) (manned_run manned earlier)
        (fun _ _ _ => apart_run apart earlier) ih step

end Campus

end Reactor
