import Reactor.Proofs.Campus.Joins
import Reactor.Proofs.Crew.Progress

/-!
A campus left to itself. Every step uses up some of the work there, so it comes to rest. As long
as a call has not returned somebody can take a step: the call itself, or the thread that it waits
for, or the watchdog. So at rest every call has returned, and a campus that was closed has lost all
of its threads.
-/

namespace Reactor

def stepsAhead (sizes : List Nat) : Nat := (sizes.map (· + 5)).sum

/-- The work that a call has ahead, at crews of those sizes. -/
def QuitStage.load (sizes : List Nat) : QuitStage → Nat
  | .begun => stepsAhead sizes + 6
  | .before crew => stepsAhead (sizes.drop crew) + 5
  | .within crew _ => stepsAhead (sizes.drop (crew + 1)) + 6
  | .signalled => 4
  | .awaiting => 3
  | .parting => 2
  | .returned _ => 0

def LookoutPost.load : LookoutPost → Nat
  | .hearing => 2
  | .sleeping => 1
  | .gone => 0

namespace Campus

variable {campus next : Campus} {act : Act}

def sizes (campus : Campus) : List Nat := campus.crews.map (·.2.crew.line.posts.length)

def work (campus : Campus) : Nat :=
  (campus.crews.map (·.2.work)).sum
    + (campus.quittings.map fun quitting => quitting.stage.load campus.sizes).sum
    + campus.lookout.post.load

theorem stepsAhead_drop {crew : Nat} {kind : CrewKind} {site : Site}
    (present : campus.crews[crew]? = some (kind, site)) :
    stepsAhead (campus.sizes.drop crew)
      = site.crew.line.posts.length + 5 + stepsAhead (campus.sizes.drop (crew + 1)) := by
  have here : campus.sizes[crew]? = some site.crew.line.posts.length := by
    simp [sizes, present]
  obtain ⟨within, same⟩ := List.getElem?_eq_some_iff.mp here
  rw [List.drop_eq_getElem_cons within, same]
  simp [stepsAhead]

theorem sizes_put {crew : Nat} {kind : CrewKind} {site changed : Site} {seen : Site.Act}
    (present : campus.crews[crew]? = some (kind, site)) (step : Site.Step kind site seen changed) :
    (campus.put crew kind changed).sizes = campus.sizes := by
  have same : changed.crew.line.posts.length = site.crew.line.posts.length := by
    rcases Site.line_step step with ⟨_, _, lineStep⟩ | ⟨_, unchanged⟩
    · exact Line.length_posts_step lineStep
    · rw [unchanged]
  have here : campus.sizes[crew]? = some changed.crew.line.posts.length := by
    simp [sizes, present, same]
  obtain ⟨within, found⟩ := List.getElem?_eq_some_iff.mp here
  change (campus.crews.set crew (kind, changed)).map _ = _
  rw [List.map_set]
  change campus.sizes.set crew changed.crew.line.posts.length = campus.sizes
  rw [← found, List.set_getElem_self]

theorem work_put {crew : Nat} {kind : CrewKind} {site changed : Site} {seen : Site.Act}
    (present : campus.crews[crew]? = some (kind, site)) (step : Site.Step kind site seen changed) :
    (campus.put crew kind changed).work + site.work = campus.work + changed.work := by
  have crews := Line.sum_map_set (fun pair : CrewKind × Site => pair.2.work) (kind, changed) present
  have sizes := sizes_put present step
  unfold work
  rw [sizes]
  simp only [put] at crews ⊢
  omega

theorem work_moved {number : Nat} {quitting : Quitting} {stage : QuitStage}
    (present : campus.quittings[number]? = some quitting) (crews : next.crews = campus.crews)
    (post : next.lookout.post = campus.lookout.post)
    (quittings : next.quittings = campus.quittings.set number { quitting with stage }) :
    next.work + quitting.stage.load campus.sizes = campus.work + stage.load campus.sizes := by
  have calls := Line.sum_map_set (fun quitting : Quitting => quitting.stage.load campus.sizes)
    { quitting with stage } present
  have sizes : next.sizes = campus.sizes := by rw [Campus.sizes, crews, Campus.sizes]
  unfold work
  rw [sizes, crews, post, quittings]
  dsimp only at calls
  omega

theorem work_lt_moved {number : Nat} {quitting : Quitting} {old stage : QuitStage}
    (present : campus.quittings[number]? = some quitting) (before : quitting.stage = old)
    (crews : next.crews = campus.crews) (post : next.lookout.post = campus.lookout.post)
    (quittings : next.quittings = campus.quittings.set number { quitting with stage })
    (less : stage.load campus.sizes < old.load campus.sizes) : next.work < campus.work := by
  have moved := work_moved present crews post quittings
  rw [before] at moved
  omega

theorem work_call {site next : Site} {kind : CrewKind} {caller : Option Nat}
    (step : Site.Step kind site (.call caller) next) :
    next.work = site.work + site.crew.line.posts.length + 3 := by
  cases step with
  | call _ =>
      simp [Site.work, Closing.load]
      omega

/-- Every step that needs nothing from outside uses up work. -/
theorem work_lt (step : Step campus act next) (own : act.isOwn = true) :
    next.work < campus.work := by
  cases step with
  | submit _ _ => cases own
  | call _ _ => cases own
  | hear _ => cases own
  | serve present crewStep _ =>
      have whole := work_put present crewStep
      have less := Site.work_lt crewStep rfl
      omega
  | stop _ _ present crewStep onward _ =>
      have whole := work_put present crewStep
      have less := Site.work_lt crewStep (by rcases onward with rfl | rfl <;> rfl)
      omega
  | join _ _ present _ _ crewStep =>
      have whole := work_put present crewStep
      have less := Site.work_lt crewStep rfl
      omega
  | @enter number crew quitting kind site changed present before atCrew crewStep =>
      have whole := work_put atCrew crewStep
      have moved := @work_moved (campus.put crew kind changed)
        ((campus.put crew kind changed).moved number quitting
          (.within crew site.closings.length)) number quitting _ present rfl rfl rfl
      have more := work_call crewStep
      have ahead := stepsAhead_drop atCrew
      rw [sizes_put atCrew crewStep, before] at moved
      simp only [QuitStage.load] at moved
      omega
  | first present begun _ =>
      refine work_lt_moved present begun rfl rfl rfl ?_
      simp [QuitStage.load]
  | late present begun _ =>
      refine work_lt_moved present begun rfl rfl rfl ?_
      simp [QuitStage.load]
  | leave present at_ _ _ _ =>
      refine work_lt_moved present at_ rfl rfl rfl ?_
      simp [QuitStage.load]
  | signal present before =>
      refine work_lt_moved present before rfl rfl rfl ?_
      simp only [QuitStage.load]
      omega
  | collect present signalled _ =>
      refine work_lt_moved present signalled rfl rfl rfl ?_
      split <;> simp [QuitStage.load]
  | bare present signalled _ =>
      refine work_lt_moved present signalled rfl rfl rfl ?_
      simp [QuitStage.load]
  | meet present awaiting _ =>
      refine work_lt_moved present awaiting rfl rfl rfl ?_
      simp [QuitStage.load]
  | part present parting =>
      refine work_lt_moved present parting rfl rfl rfl ?_
      simp [QuitStage.load]
  | @heard post awake _ other =>
      have less : post.load < campus.lookout.post.load := by
        rw [awake]
        cases post with
        | hearing => exact absurd rfl other
        | sleeping | gone => decide
      exact Nat.add_lt_add_left less _
  | exit asleep _ =>
      have less : LookoutPost.load .gone < campus.lookout.post.load := by
        rw [asleep]
        decide
      exact Nat.add_lt_add_left less _

/-- No step is possible without something from outside. -/
def Resting (campus : Campus) : Prop :=
  ∀ act next, act.isOwn = true → ¬Step campus act next

/-! ### What keeps nobody -/

theorem Follows.free {quitting : Quitting} (follows : campus.Follows quitting) {crew place : Nat}
    {kind : CrewKind} {site : Site} (present : campus.crews[crew]? = some (kind, site))
    (other : quitting.caller ≠ .member crew place) : site.Free place := by
  intro closing listed caller
  by_cases below : crew < quitting.stage.stopped campus.crews.length
  · obtain ⟨decisive, closings⟩ := follows.past crew kind site present below
    rw [closings, List.mem_singleton] at listed
    subst closing
    exact ⟨decisive, rfl⟩
  · by_cases inside : ∃ number, quitting.stage = .within crew number
    · obtain ⟨number, at_⟩ := inside
      obtain ⟨_, stage, closings⟩ := follows.present crew number kind site at_ present
      rw [closings, List.mem_singleton] at listed
      subst closing
      exact absurd (Party.within_eq_some caller) other
    · have none : site.closings = [] :=
        follows.ahead crew kind site present (Nat.le_of_not_lt below)
          fun number at_ => inside ⟨number, at_⟩
      rw [none] at listed
      cases listed

theorem Follows.visited {quitting : Quitting} (follows : campus.Follows quitting)
    (past : quitting.stage.isPast = true) {crew : Nat} {kind : CrewKind} {site : Site}
    (present : campus.crews[crew]? = some (kind, site)) :
    ∃ decisive, site.closings = [⟨quitting.caller.within crew, .returned decisive⟩] := by
  obtain ⟨inside, _⟩ := List.getElem?_eq_some_iff.mp present
  refine follows.past crew kind site present ?_
  rw [(QuitStage.stopped_of_isPast past _).1]
  exact inside

theorem Sound.done (sound : campus.Sound) {quitting : Quitting}
    (listed : quitting ∈ campus.quittings) (leads : quitting.stage.leads = true)
    (idle : ∀ other ∈ campus.quittings, other.stage ≠ .begun) {party : Party}
    (apart : quitting.caller ≠ party) : campus.Done party := by
  obtain ⟨number, present⟩ := List.mem_iff_getElem?.mp listed
  intro other otherListed caller
  by_contra busy
  have unreturned : other.stage.isReturned = false := by simpa using busy
  have same := sound.leader present leads otherListed
    (QuitStage.leads_of_busy unreturned (idle other otherListed))
  exact apart (same ▸ caller)

/-! ### At rest -/

theorem Resting.begun (resting : campus.Resting) :
    ∀ quitting ∈ campus.quittings, quitting.stage ≠ .begun := by
  intro quitting listed begun
  obtain ⟨number, present⟩ := List.mem_iff_getElem?.mp listed
  cases closed : campus.closed with
  | false => exact resting _ _ rfl (.first present begun closed)
  | true => exact resting _ _ rfl (.late present begun closed)

section Crew

variable {crew place : Nat} {kind : CrewKind} {site : Site}

theorem Resting.serve (resting : campus.Resting) (present : campus.crews[crew]? = some (kind, site))
    {happening : Happening Job} {next : Site}
    (done : ∀ place job, happening = .finished place job → campus.Done (.member crew place)) :
    ¬Site.Step kind site (.serve happening) next :=
  fun crewStep => resting _ _ rfl (.serve present crewStep done)

theorem Resting.not_waiting (resting : campus.Resting)
    (present : campus.crews[crew]? = some (kind, site)) (shut : site.crew.line.accepting = false) :
    site.crew.line.posts[place]? ≠ some .waiting := by
  intro waiting
  cases found : site.crew.line.queue with
  | nil =>
      have left := Line.leave_eq_some_iff.mpr ⟨shut, waiting, found, rfl⟩
      exact resting.serve present (fun _ _ impossible => by cases impossible) (.leave left)
  | cons job queue =>
      have received := Line.receive_eq_some_iff.mpr ⟨waiting, queue, found, rfl⟩
      exact resting.serve present (fun _ _ impossible => by cases impossible) (.receive received)

theorem Resting.not_running (resting : campus.Resting)
    (present : campus.crews[crew]? = some (kind, site)) (done : campus.Done (.member crew place))
    (free : site.Free place) (job : Job) : site.crew.line.posts[place]? ≠ some (.running job) := by
  intro running
  have finished := Line.finish_eq_some_iff.mpr ⟨running, rfl⟩
  refine resting.serve present (fun other last same => ?_) (.finish free finished)
  cases same
  exact done

/-- The thread that a call waits for is not the caller's, so nothing keeps it. -/
theorem Resting.not_joining (resting : campus.Resting) (sound : campus.Sound)
    (manned : campus.Manned) {number closing : Nat} {quitting : Quitting}
    (atNumber : campus.quittings[number]? = some quitting)
    (at_ : quitting.stage = .within crew closing)
    (present : campus.crews[crew]? = some (kind, site)) (left : List Nat) :
    site.closings[closing]? ≠ some ⟨quitting.caller.within crew, .joining (place :: left)⟩ := by
  intro stood
  have listed := List.mem_of_getElem? atNumber
  have leads : quitting.stage.leads = true := by rw [at_]; rfl
  have follows := sound.follows quitting listed leads
  have fits := (manned crew kind site present).fits closing _ stood
  obtain ⟨within, elsewhere⟩ := fits.ahead (place :: left) rfl place List.mem_cons_self
  have apart : quitting.caller ≠ .member crew place := by
    intro same
    apply elsewhere
    change quitting.caller.within crew = some place
    rw [same]
    exact if_pos rfl
  have shut : site.crew.line.accepting = false := by
    simpa using fits.shut (by exact nofun)
  cases post : site.crew.line.posts[place]? with
  | none => exact absurd within (Nat.not_lt.mpr (List.getElem?_eq_none_iff.mp post))
  | some doing =>
      cases doing with
      | waiting => exact resting.not_waiting present shut post
      | running job =>
          exact resting.not_running present (sound.done listed leads resting.begun apart)
            (follows.free present apart) job post
      | gone => exact resting _ _ rfl (.join atNumber at_ present stood rfl (.join stood rfl post))

/-- A call that leads is not held up at a crew. -/
theorem Resting.not_within (resting : campus.Resting) (sound : campus.Sound)
    (manned : campus.Manned) {quitting : Quitting} (listed : quitting ∈ campus.quittings)
    (closing : Nat) : quitting.stage ≠ .within crew closing := by
  intro at_
  obtain ⟨number, atNumber⟩ := List.mem_iff_getElem?.mp listed
  have leads : quitting.stage.leads = true := by rw [at_]; rfl
  have follows := sound.follows quitting listed leads
  have inside := follows.inside crew closing at_
  rcases found : campus.crews[crew] with ⟨kind, site⟩
  have present : campus.crews[crew]? = some (kind, site) := by
    rw [List.getElem?_eq_getElem inside, found]
  obtain ⟨rfl, stage, closings⟩ := follows.present crew closing kind site at_ present
  have stood : site.closings[0]? = some ⟨quitting.caller.within crew, stage⟩ := by
    rw [closings]
    rfl
  have stuck {act : Site.Act} {next : Site} (onward : act = .hangUp 0 ∨ act = .proceed 0)
      (calm : ∀ place left, stage ≠ .joining (place :: left)) : ¬Site.Step kind site act next := by
    intro crewStep
    have own : (Act.site crew act).isOwn = true := by
      rcases onward with rfl | rfl <;> rfl
    refine resting _ _ own (.stop atNumber at_ present crewStep onward ?_)
    intro waiting place left standing
    cases stood.symm.trans standing
    exact calm place left
  cases stage with
  | begun =>
      by_cases late : kind = .pool ∧ site.crew.line.accepting = false
      · exact stuck (Or.inr rfl) (fun _ _ => nofun) (.late stood rfl late.1 late.2)
      · refine stuck (Or.inl rfl) (fun _ _ => nofun) (.hangUp stood rfl fun pool => ?_)
        simpa [pool] using late
  | hungUp =>
      cases held : site.crew.held with
      | true => exact stuck (Or.inr rfl) (fun _ _ => nofun) (.take stood rfl held)
      | false => exact stuck (Or.inr rfl) (fun _ _ => nofun) (.bare stood rfl held)
  | returned decisive => exact resting _ _ rfl (.leave atNumber at_ present stood rfl)
  | joining left =>
      cases left with
      | nil => exact stuck (Or.inr rfl) (fun _ _ => nofun) (.settle stood rfl)
      | cons place left =>
          exact resting.not_joining sound manned atNumber at_ present left stood

end Crew

/-- At rest every call has returned. -/
theorem Resting.returned (resting : campus.Resting) (sound : campus.Sound)
    (manned : campus.Manned) :
    ∀ quitting ∈ campus.quittings, quitting.stage.isReturned = true := by
  intro quitting listed
  by_contra busy
  have unreturned : quitting.stage.isReturned = false := by simpa using busy
  have leads := QuitStage.leads_of_busy unreturned (resting.begun quitting listed)
  have follows := sound.follows quitting listed leads
  obtain ⟨number, present⟩ := List.mem_iff_getElem?.mp listed
  cases stage : quitting.stage with
  | begun => exact resting.begun quitting listed stage
  | returned decisive =>
      rw [stage] at unreturned
      cases unreturned
  | within crew closing => exact resting.not_within sound manned listed closing stage
  | parting => exact resting _ _ rfl (.part present stage)
  | signalled =>
      cases held : campus.lookout.held with
      | true => exact resting _ _ rfl (.collect present stage held)
      | false => exact resting _ _ rfl (.bare present stage held)
  | awaiting =>
      have told := follows.told (by rw [stage]; rfl)
      have done := sound.done listed leads resting.begun (follows.awaits stage).1
      cases post : campus.lookout.post with
      | sleeping => exact resting _ _ rfl (.exit post told)
      | hearing => exact resting _ _ rfl (@Step.heard campus .gone post done nofun)
      | gone => exact resting _ _ rfl (.meet present stage post)
  | before crew =>
      have bounded := follows.bounded
      rw [stage] at bounded
      rcases Nat.lt_or_eq_of_le bounded with inside | last
      · change crew < campus.crews.length at inside
        rcases found : campus.crews[crew] with ⟨kind, site⟩
        have crewPresent : campus.crews[crew]? = some (kind, site) := by
          rw [List.getElem?_eq_getElem inside, found]
        have none : site.closings = [] := by
          refine follows.ahead crew kind site crewPresent ?_ ?_
          · rw [stage]
            exact Nat.le_refl _
          · rw [stage]
            exact fun _ => nofun
        refine resting _ _ rfl (.enter present stage crewPresent (.call fun thread here => ?_))
        have working := sound.busy quitting listed unreturned
        rw [Party.within_eq_some here] at working
        obtain ⟨otherKind, other, job, again, running⟩ := working
        cases crewPresent.symm.trans again
        refine ⟨⟨job, running⟩, ?_⟩
        intro closing impossible
        rw [none] at impossible
        cases impossible
      · change crew = campus.crews.length at last
        exact resting _ _ rfl (.signal present (last ▸ stage))

/-- Once every call has returned, the one that has found the runtime open is past every crew. -/
theorem Sound.past (sound : campus.Sound)
    (returned : ∀ quitting ∈ campus.quittings, quitting.stage.isReturned = true)
    (closed : campus.closed = true) :
    ∃ quitting, quitting.stage.isPast = true ∧ campus.Follows quitting := by
  obtain ⟨quitting, listed, leads⟩ := sound.led closed
  exact ⟨quitting, QuitStage.isPast_of_returned leads (returned quitting listed),
    sound.follows quitting listed leads⟩

/-- Once every call has returned, so has every closing call at the crews. -/
theorem Sound.ended (sound : campus.Sound)
    (returned : ∀ quitting ∈ campus.quittings, quitting.stage.isReturned = true)
    {crew : Nat} {kind : CrewKind} {site : Site}
    (present : campus.crews[crew]? = some (kind, site)) :
    ∀ closing ∈ site.closings, ∃ decisive, closing.stage = .returned decisive := by
  intro closing listed
  cases closed : campus.closed with
  | false =>
      rw [sound.fresh closed crew kind site present] at listed
      cases listed
  | true =>
      obtain ⟨quitting, past, follows⟩ := sound.past returned closed
      obtain ⟨decisive, closings⟩ := follows.visited past present
      rw [closings, List.mem_singleton] at listed
      subst closing
      exact ⟨decisive, rfl⟩

theorem Resting.site (resting : campus.Resting) (sound : campus.Sound) (manned : campus.Manned)
    {crew : Nat} {kind : CrewKind} {site : Site}
    (present : campus.crews[crew]? = some (kind, site)) : Site.Resting kind site := by
  have ended := sound.ended (resting.returned sound manned) present
  intro act next own crewStep
  cases act with
  | submit _ | call _ => cases own
  | serve happening =>
      refine resting.serve present (fun place job _ quitting listed _ => ?_) crewStep
      exact resting.returned sound manned quitting listed
  | hangUp number =>
      cases crewStep with
      | hangUp stood begun _ =>
          obtain ⟨decisive, done⟩ := ended _ (List.mem_of_getElem? stood)
          cases begun.symm.trans done
  | proceed number =>
      cases crewStep with
      | late stood stage _ _ | take stood stage _ | bare stood stage _ | join stood stage _
      | settle stood stage =>
          obtain ⟨decisive, done⟩ := ended _ (List.mem_of_getElem? stood)
          cases stage.symm.trans done

/-- A closed campus at rest has lost the watchdog and every thread of its crews. -/
theorem Resting.gone (resting : campus.Resting) (sound : campus.Sound) (manned : campus.Manned)
    (closed : campus.closed = true) :
    campus.lookout.post = .gone
      ∧ ∀ (crew : Nat) (kind : CrewKind) (site : Site), campus.crews[crew]? = some (kind, site) →
        ∀ post ∈ site.crew.line.posts, post = .gone := by
  obtain ⟨quitting, past, follows⟩ := sound.past (resting.returned sound manned) closed
  constructor
  · cases post : campus.lookout.post with
    | gone => rfl
    | sleeping => exact absurd (.exit post (follows.told past)) (resting _ _ rfl)
    | hearing =>
        have done : campus.Done .watchdog := fun other listed _ =>
          resting.returned sound manned other listed
        exact absurd (@Step.heard campus .gone post done nofun) (resting _ _ rfl)
  · intro crew kind site present
    obtain ⟨decisive, closings⟩ := follows.visited past present
    have stood : site.closings[0]? = some ⟨quitting.caller.within crew, .returned decisive⟩ := by
      rw [closings]
      rfl
    have siteSound := manned crew kind site present
    have shut := (siteSound.fits 0 _ stood).shut (by exact nofun)
    exact (resting.site sound manned present).gone siteSound (by simpa using shut)

end Campus

end Reactor
