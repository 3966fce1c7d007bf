import Reactor.Proofs.Crew.Site

/-!
What closing calls have achieved at every moment of a run. The line accepts jobs only while no
call has got beyond its beginning; the threads are held until one call takes them; and that call
has waited for every thread but its own and those it still has ahead. So a decisive call from
outside returns to a crew of which every thread has exited.
-/

namespace Reactor

namespace Closing

def left? (closing : Closing) : Option (List Nat) :=
  match closing.stage with
  | .joining left => some left
  | .returned true => some []
  | _ => none

/-- Whether the call is the one that closes the crew. -/
def decides (kind : CrewKind) (closing : Closing) : Bool :=
  match kind, closing.stage with
  | .pool, .hungUp => true
  | _, .joining _ => true
  | _, .returned decisive => decisive
  | _, _ => false

theorem left?_of_decides {kind : CrewKind} {closing : Closing}
    (decisive : closing.decides kind = true) :
    closing.left? ≠ none ∨ (kind = .pool ∧ closing.stage = .hungUp) := by
  obtain ⟨caller, stage⟩ := closing
  cases stage with
  | begun => cases kind <;> cases decisive
  | hungUp =>
      cases kind with
      | pool => exact Or.inr ⟨rfl, rfl⟩
      | loop => cases decisive
  | joining left => exact Or.inl (Option.some_ne_none left)
  | returned flag =>
      have set : flag = true := by
        cases kind <;> exact decisive
      subst set
      exact Or.inl (Option.some_ne_none [])

/-- What a call has achieved at a site. -/
structure Fits (kind : CrewKind) (site : Site) (closing : Closing) : Prop where
  closed : site.crew.line.accepting = true → closing.stage = .begun
  taken : site.crew.held = true → closing.left? = none
  keeps : kind = .pool → closing.stage = .hungUp → site.crew.held = true
  joined : ∀ left, closing.left? = some left → ∀ thread < site.crew.line.posts.length,
    closing.caller ≠ some thread → thread ∉ left → site.crew.line.posts[thread]? = some .gone
  ahead : ∀ left, closing.left? = some left → ∀ thread ∈ left,
    thread < site.crew.line.posts.length ∧ closing.caller ≠ some thread

theorem Fits.shut {kind : CrewKind} {site : Site} {closing : Closing}
    (fits : closing.Fits kind site) (further : closing.stage ≠ .begun) :
    site.crew.line.accepting ≠ true :=
  fun accepting => further (fits.closed accepting)

/-- A call that has waited for some more threads. -/
theorem Fits.onward {kind : CrewKind} {site : Site} {closing : Closing} {left rest : List Nat}
    (fits : closing.Fits kind site) (waiting : closing.left? = some left) (stage : ClosingStage)
    (now : left? { closing with stage } = some rest) (fewer : ∀ thread ∈ rest, thread ∈ left)
    (met : ∀ thread ∈ left, thread ∉ rest → site.crew.line.posts[thread]? = some .gone) :
    Fits kind site { closing with stage } where
  closed accepting := by
    have begun := fits.closed accepting
    rw [left?, begun] at waiting
    cases waiting
  taken held := by
    have none := fits.taken held
    rw [waiting] at none
    cases none
  keeps _ hungUp := by
    change stage = .hungUp at hungUp
    subst hungUp
    cases now
  joined remaining found thread within elsewhere missing := by
    rw [now] at found
    cases found
    by_cases listed : thread ∈ left
    · exact met thread listed missing
    · exact fits.joined left waiting thread within elsewhere listed
  ahead remaining found thread listed := by
    rw [now] at found
    cases found
    exact fits.ahead left waiting thread (fewer thread listed)

theorem fits_idle {kind : CrewKind} {site : Site} {closing : Closing}
    (shut : site.crew.line.accepting = true → closing.stage = .begun)
    (idle : closing.left? = none) (calm : closing.stage ≠ .hungUp) : closing.Fits kind site where
  closed := shut
  taken _ := idle
  keeps _ hungUp := absurd hungUp calm
  joined left found := by
    rw [idle] at found
    cases found
  ahead left found := by
    rw [idle] at found
    cases found

theorem Fits.mono {kind : CrewKind} {site next : Site} {closing : Closing}
    (fits : closing.Fits kind site)
    (accepting : next.crew.line.accepting = true → site.crew.line.accepting = true)
    (held : next.crew.held = site.crew.held)
    (posts : next.crew.line.posts.length = site.crew.line.posts.length)
    (gone : ∀ thread : Nat, site.crew.line.posts[thread]? = some .gone →
      next.crew.line.posts[thread]? = some .gone) :
    closing.Fits kind next where
  closed open_ := fits.closed (accepting open_)
  taken stillHeld := fits.taken (held.symm.trans stillHeld)
  keeps pool hungUp := held.trans (fits.keeps pool hungUp)
  joined left found thread within other done :=
    gone thread (fits.joined left found thread (posts ▸ within) other done)
  ahead left found thread present := by
    rw [posts]
    exact fits.ahead left found thread present

end Closing

namespace Site

/-- At most one call closes the crew. -/
def Single (kind : CrewKind) (closings : List Closing) : Prop :=
  ∀ (first second : Nat) (one other : Closing), closings[first]? = some one →
    closings[second]? = some other → one.decides kind = true → other.decides kind = true →
    first = second

/-- The state of a site at every moment of a run. -/
structure Sound (kind : CrewKind) (site : Site) : Prop where
  fits : ∀ (number : Nat) (closing : Closing), site.closings[number]? = some closing →
    closing.Fits kind site
  single : Single kind site.closings
  manned : site.crew.line.accepting = true → site.crew.held = true
  staying : site.crew.line.Staying

theorem closing_set {closings : List Closing} {number : Nat} {old : Closing} (new : Closing)
    (present : closings[number]? = some old) (other : Nat) :
    (closings.set number new)[other]? = if number = other then some new else closings[other]? := by
  obtain ⟨within, _⟩ := List.getElem?_eq_some_iff.mp present
  by_cases same : number = other
  · subst other
    rw [if_pos rfl, List.getElem?_set_self within]
  · rw [if_neg same, List.getElem?_set_ne same]

theorem single_set {kind : CrewKind} {closings : List Closing} {number : Nat}
    {old new : Closing} (single : Single kind closings) (present : closings[number]? = some old)
    (entitled : new.decides kind = true → old.decides kind = true
      ∨ ∀ (other : Nat) (closing : Closing), closings[other]? = some closing →
        closing.decides kind = false) :
    Single kind (closings.set number new) := by
  have unrivalled {other : Nat} {closing : Closing} (found : closings[other]? = some closing)
      (decisive : closing.decides kind = true) (newDecides : new.decides kind = true) :
      number = other := by
    rcases entitled newDecides with oldDecides | none
    · exact single number other old closing present found oldDecides decisive
    · rw [none other closing found] at decisive
      cases decisive
  intro first second one other atFirst atSecond oneDecides otherDecides
  rw [closing_set new present] at atFirst atSecond
  by_cases isFirst : number = first
  · rw [if_pos isFirst] at atFirst
    cases atFirst
    by_cases isSecond : number = second
    · exact isFirst.symm.trans isSecond
    · rw [if_neg isSecond] at atSecond
      exact isFirst.symm.trans (unrivalled atSecond otherDecides oneDecides)
  · rw [if_neg isFirst] at atFirst
    by_cases isSecond : number = second
    · rw [if_pos isSecond] at atSecond
      cases atSecond
      exact (unrivalled atFirst oneDecides otherDecides).symm.trans isSecond
    · rw [if_neg isSecond] at atSecond
      exact single first second one other atFirst atSecond oneDecides otherDecides

theorem sound_moved {kind : CrewKind} {site : Site} (sound : Sound kind site) {number : Nat}
    {closing : Closing} (present : site.closings[number]? = some closing) (stage : ClosingStage)
    (fits : Closing.Fits kind site { closing with stage })
    (entitled : Closing.decides kind { closing with stage } = true →
      closing.decides kind = true) :
    Sound kind (site.moved number closing stage) where
  fits other found atOther := by
    change (site.closings.set number _)[other]? = some found at atOther
    rw [closing_set _ present] at atOther
    have fitsHere : found.Fits kind site := by
      by_cases same : number = other
      · rw [if_pos same] at atOther
        cases atOther
        exact fits
      · rw [if_neg same] at atOther
        exact sound.fits other found atOther
    exact fitsHere.mono id rfl rfl fun _ => id
  single := single_set sound.single present fun decisive => Or.inl (entitled decisive)
  manned := sound.manned
  staying := sound.staying

theorem sound_work {kind : CrewKind} {site next : Site} (sound : Sound kind site)
    {happening : Happening Job} (step : site.crew.line.Step happening next.crew.line)
    (talking : happening ≠ .hungUp) (held : next.crew.held = site.crew.held)
    (closings : next.closings = site.closings) : Sound kind next where
  fits number closing present := by
    rw [closings] at present
    refine (sound.fits number closing present).mono ?_ held (Line.length_posts_step step)
      fun thread => Line.gone_step step
    rw [Line.accepting_step step talking]
    exact id
  single := by
    rw [closings]
    exact sound.single
  manned := by
    rw [Line.accepting_step step talking, held]
    exact sound.manned
  staying := Line.staying_step sound.staying step

theorem sound_call {kind : CrewKind} {site : Site} (sound : Sound kind site)
    (caller : Option Nat) :
    Sound kind { site with closings := site.closings ++ [⟨caller, .begun⟩] } := by
  have fresh : Closing.decides kind ⟨caller, .begun⟩ = false := by
    cases kind <;> rfl
  have old {number : Nat} {closing : Closing}
      (found : (site.closings ++ [⟨caller, .begun⟩])[number]? = some closing) :
      site.closings[number]? = some closing ∨ closing = ⟨caller, .begun⟩ := by
    rw [List.getElem?_append] at found
    split at found
    · exact Or.inl found
    · exact Or.inr (List.mem_singleton.mp (List.mem_of_getElem? found))
  refine ⟨?_, ?_, sound.manned, sound.staying⟩
  · intro number closing found
    rcases old found with known | rfl
    · exact (sound.fits number closing known).mono id rfl rfl fun _ => id
    · exact Closing.fits_idle (fun _ => rfl) rfl (by intro equal; cases equal)
  · intro first second one other atFirst atSecond oneDecides otherDecides
    rcases old atFirst with firstKnown | rfl
    · rcases old atSecond with secondKnown | rfl
      · exact sound.single first second one other firstKnown secondKnown oneDecides otherDecides
      · rw [fresh] at otherDecides
        cases otherDecides
    · rw [fresh] at oneDecides
      cases oneDecides

theorem decides_of_accepting {kind : CrewKind} {site : Site} (sound : Sound kind site)
    (accepting : site.crew.line.accepting = true) (number : Nat) (closing : Closing)
    (present : site.closings[number]? = some closing) : closing.decides kind = false := by
  have begun := (sound.fits number closing present).closed accepting
  unfold Closing.decides
  rw [begun]
  cases kind <;> rfl

theorem sound_hangUp {kind : CrewKind} {site : Site} (sound : Sound kind site) {number : Nat}
    {closing : Closing} (present : site.closings[number]? = some closing)
    (first : kind = .pool → site.crew.line.accepting = true) :
    Sound kind ((site.withLine site.crew.line.hangUp).moved number closing .hungUp) where
  fits other found atOther := by
    change (site.closings.set number _)[other]? = some found at atOther
    rw [closing_set _ present] at atOther
    by_cases same : number = other
    · rw [if_pos same] at atOther
      cases atOther
      exact
        { closed := fun impossible => by cases impossible
          taken := fun _ => rfl
          keeps := fun pool _ => sound.manned (first pool)
          joined := fun _ impossible => by cases impossible
          ahead := fun _ impossible => by cases impossible }
    · rw [if_neg same] at atOther
      exact (sound.fits other found atOther).mono (fun impossible => by cases impossible) rfl rfl
        fun _ => id
  single := by
    refine single_set sound.single present fun decisive => Or.inr fun other found atOther => ?_
    cases kind with
    | pool => exact decides_of_accepting sound (first rfl) other found atOther
    | loop => cases decisive
  manned impossible := by cases impossible
  staying thread gone := ⟨rfl, (sound.staying thread gone).2⟩

theorem mem_others {site : Site} {caller : Option Nat} {thread : Nat} :
    thread ∈ site.others caller
      ↔ thread < site.crew.line.posts.length ∧ caller ≠ some thread := by
  simp [others]

theorem sound_take {kind : CrewKind} {site : Site} (sound : Sound kind site) {number : Nat}
    {closing : Closing} (present : site.closings[number]? = some closing)
    (hungUp : closing.stage = .hungUp) (held : site.crew.held = true) :
    Sound kind ({ site with crew := { site.crew with held := false } }.moved number closing
      (.joining (site.others closing.caller))) := by
  have shut : site.crew.line.accepting ≠ true := by
    intro accepting
    have begun := (sound.fits number closing present).closed accepting
    rw [hungUp] at begun
    cases begun
  have pooled : kind = .pool → closing.decides kind = true := by
    rintro rfl
    unfold Closing.decides
    rw [hungUp]
  have rivals {other : Nat} {found : Closing} (atOther : site.closings[other]? = some found)
      (decisive : found.decides kind = true) : kind = .pool ∧ found.stage = .hungUp := by
    rcases Closing.left?_of_decides decisive with taken | pool
    · exact absurd ((sound.fits other found atOther).taken held) taken
    · exact pool
  refine ⟨?_, ?_, fun accepting => absurd accepting shut, sound.staying⟩
  · intro other found atOther
    change (site.closings.set number _)[other]? = some found at atOther
    rw [closing_set _ present] at atOther
    by_cases same : number = other
    · rw [if_pos same] at atOther
      cases atOther
      exact
        { closed := fun accepting => absurd accepting shut
          taken := fun impossible => by cases impossible
          keeps := fun _ impossible => by cases impossible
          joined := by
            intro left found thread within elsewhere missing
            cases found
            exact absurd (mem_others.mpr ⟨within, elsewhere⟩) missing
          ahead := by
            intro left found thread listed
            cases found
            exact mem_others.mp listed }
    · rw [if_neg same] at atOther
      have fits := sound.fits other found atOther
      refine
        { closed := fits.closed
          taken := fun impossible => by cases impossible
          keeps := fun pool rivalHungUp => ?_
          joined := fits.joined
          ahead := fits.ahead }
      have rivalDecides : found.decides kind = true := by
        subst pool
        unfold Closing.decides
        rw [rivalHungUp]
      exact absurd (sound.single number other closing found present atOther (pooled pool)
        rivalDecides) same
  · refine single_set sound.single present fun _ => ?_
    cases kind with
    | pool => exact Or.inl (pooled rfl)
    | loop =>
        refine Or.inr fun other found atOther => ?_
        by_contra decisive
        have pool := (rivals atOther (by simpa using decisive)).1
        cases pool

theorem sound_step {kind : CrewKind} {site next : Site} {act : Act} (sound : Sound kind site)
    (step : Step kind site act next) : Sound kind next := by
  cases step with
  | submit lineStep offered _ =>
      refine sound_work sound lineStep ?_ rfl rfl
      rintro rfl
      cases offered
  | receive received => exact sound_work sound (.receive received) (by simp) rfl rfl
  | finish _ finished => exact sound_work sound (.finish finished) (by simp) rfl rfl
  | leave left => exact sound_work sound (.leave left) (by simp) rfl rfl
  | call _ => exact sound_call sound _
  | hangUp present _ first => exact sound_hangUp sound present first
  | take present hungUp held => exact sound_take sound present hungUp held
  | late present _ pool shut =>
      subst pool
      refine sound_moved sound present _ (Closing.fits_idle ?_ rfl ?_) ?_
      · intro accepting
        rw [shut] at accepting
        cases accepting
      · intro equal
        cases equal
      · intro impossible
        cases impossible
  | @bare number closing present hungUp bare =>
      have fits := sound.fits number closing present
      cases kind with
      | pool =>
          have held := fits.keeps rfl hungUp
          rw [bare] at held
          cases held
      | loop =>
          refine sound_moved sound present _ (Closing.fits_idle ?_ rfl ?_) ?_
          · exact fun accepting => absurd accepting
              (fits.shut (by rw [hungUp]; intro equal; cases equal))
          · intro equal
            cases equal
          · intro impossible
            cases impossible
  | @join number thread closing left present joining gone =>
      have waiting : closing.left? = some (thread :: left) := by
        rw [Closing.left?, joining]
      refine sound_moved sound present _ ?_ fun _ => ?_
      · refine (sound.fits number closing present).onward waiting _ rfl
          (fun other => List.mem_cons_of_mem thread) fun other listed missing => ?_
        rcases List.mem_cons.mp listed with same | later
        · rw [same]
          exact gone
        · exact absurd later missing
      · unfold Closing.decides
        rw [joining]
        cases kind <;> rfl
  | @settle number closing present joining =>
      have waiting : closing.left? = some [] := by
        rw [Closing.left?, joining]
      refine sound_moved sound present _ ?_ fun _ => ?_
      · exact (sound.fits number closing present).onward waiting _ rfl (fun _ => id)
          fun other listed missing => absurd listed missing
      · unfold Closing.decides
        rw [joining]
        cases kind <;> rfl

theorem sound_create {threads : List RuntimeThread}
    (serving : ∀ thread ∈ threads, thread.runsTask = true) (kind : CrewKind) :
    Sound kind (create threads) where
  fits _ _ impossible := by cases impossible
  single _ _ _ _ impossible := by cases impossible
  manned _ := rfl
  staying thread gone := by
    obtain ⟨worker, present, post⟩ := List.mem_map.mp (List.mem_of_getElem? gone)
    rw [if_pos (serving worker present)] at post
    cases post

theorem sound_run {kind : CrewKind} {start site : Site} {acts : List Act}
    (sound : Sound kind start) (run : Run kind start acts site) : Sound kind site := by
  induction run with
  | start => exact sound
  | step _ step ih => exact sound_step ih step

/-- A decisive call that has returned outside has seen every thread go. -/
theorem Sound.gone {kind : CrewKind} {site : Site} (sound : Sound kind site)
    (returned : ⟨none, .returned true⟩ ∈ site.closings) :
    ∀ post ∈ site.crew.line.posts, post = .gone := by
  obtain ⟨number, atNumber⟩ := List.mem_iff_getElem?.mp returned
  intro post present
  obtain ⟨thread, within, found⟩ := List.mem_iff_getElem.mp present
  have left := (sound.fits number _ atNumber).joined [] rfl thread within
    (Option.some_ne_none thread).symm List.not_mem_nil
  rw [List.getElem?_eq_getElem within, found] at left
  exact Option.some.inj left

end Site

end Reactor
