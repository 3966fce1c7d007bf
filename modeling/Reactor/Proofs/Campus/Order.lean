import Reactor.Proofs.Campus.Steps
import Reactor.Proofs.Crew.Closing

/-!
The order that calls keep on a campus. One call at most has found the runtime open; it alone stops
crews, one after the other, so the stage it has come to tells what every crew has seen of it. All
other calls have just begun or have returned.
-/

namespace Reactor

namespace Site

variable {kind : CrewKind} {site next : Site}

theorem closings_submit {happening : Happening Job}
    (step : Step kind site (.submit happening) next) : next.closings = site.closings := by
  cases step with
  | submit _ _ _ => rfl

theorem closings_serve {happening : Happening Job} (step : Step kind site (.serve happening) next) :
    next.closings = site.closings := by
  cases step with
  | receive _ | finish _ _ | leave _ => rfl

theorem closings_call {caller : Option Nat} (step : Step kind site (.call caller) next) :
    next.closings = site.closings ++ [⟨caller, .begun⟩] := by
  cases step with
  | call _ => rfl

theorem closings_onward {number : Nat} {act : Act} (step : Step kind site act next)
    (onward : act = .hangUp number ∨ act = .proceed number) :
    ∃ closing stage, site.closings[number]? = some closing
      ∧ next.closings = site.closings.set number { closing with stage } := by
  rcases onward with rfl | rfl
  · cases step with
    | hangUp present _ _ => exact ⟨_, _, present, rfl⟩
  · cases step with
    | late present _ _ _ | take present _ _ | bare present _ _ | join present _ _
    | settle present _ => exact ⟨_, _, present, rfl⟩

/-- A thread goes on with its job until it ends it, once its calls have returned. -/
theorem running_step {act : Act} (step : Step kind site act next) {thread : Nat} {job : Job}
    (running : site.crew.line.posts[thread]? = some (.running job)) :
    next.crew.line.posts[thread]? = some (.running job) ∨ act = .serve (.finished thread job) := by
  rcases line_step step with ⟨happening, seen, lineStep⟩ | ⟨_, same⟩
  · rcases Line.running_step lineStep running with still | rfl
    · exact Or.inl still
    · cases step with
      | submit _ offered _ =>
          cases seen
          cases offered
      | finish _ _ =>
          cases seen
          exact Or.inr rfl
      | receive _ | leave _ | call _ | hangUp _ _ _ | late _ _ _ _ | take _ _ _ | bare _ _ _
      | join _ _ _ | settle _ _ => cases seen
  · rw [same]
    exact Or.inl running

end Site

namespace Campus

variable {campus next : Campus} {act : Act}

theorem atWork_step (step : Step campus act next) {party : Party} (working : campus.AtWork party) :
    next.AtWork party ∨ campus.Done party := by
  cases party with
  | outside _ => exact Or.inl trivial
  | watchdog =>
      cases step with
      | hear asleep => exact absurd (working.symm.trans asleep) nofun
      | exit asleep _ => exact absurd (working.symm.trans asleep) nofun
      | heard _ done _ => exact Or.inr done
      | submit _ _ | serve _ _ _ | call _ _ | first _ _ _ | late _ _ _ | enter _ _ _ _
      | stop _ _ _ _ _ _ | join _ _ _ _ _ _ | leave _ _ _ _ _ | signal _ _ | collect _ _ _
      | bare _ _ _ | meet _ _ _ | part _ _ => exact Or.inl working
  | member crew place =>
      obtain ⟨kind, site, job, present, running⟩ := working
      have here {home : Nat} {kept : CrewKind} {before after : Site} {seen : Site.Act}
          (old : campus.crews[home]? = some (kept, before))
          (crewStep : Site.Step kept before seen after)
          (still : home = crew → seen ≠ .serve (.finished place job)) :
          ∃ kind site job, (campus.put home kept after).crews[crew]? = some (kind, site)
            ∧ site.crew.line.posts[place]? = some (.running job) := by
        rw [put_at old]
        by_cases same : home = crew
        · subst home
          cases old.symm.trans present
          refine ⟨kind, after, job, if_pos rfl, ?_⟩
          exact (Site.running_step crewStep running).resolve_right (still rfl)
        · exact ⟨kind, site, job, by rw [if_neg same, present], running⟩
      cases step with
      | submit old crewStep => exact Or.inl (here old crewStep fun _ => nofun)
      | enter _ _ old crewStep => exact Or.inl (here old crewStep fun _ => nofun)
      | join _ _ old _ _ crewStep => exact Or.inl (here old crewStep fun _ => nofun)
      | stop _ _ old crewStep onward _ =>
          refine Or.inl (here old crewStep fun _ finished => ?_)
          rw [finished] at onward
          rcases onward with impossible | impossible <;> cases impossible
      | @serve home kept _ _ happening old crewStep done =>
          by_cases ended : home = crew ∧ happening = .finished place job
          · obtain ⟨rfl, ended⟩ := ended
            exact Or.inr (done place job ended)
          · refine Or.inl (here old crewStep fun same finished => ended ⟨same, ?_⟩)
            cases finished
            rfl
      | call _ _ | first _ _ _ | late _ _ _ | leave _ _ _ _ _ | signal _ _ | collect _ _ _
      | bare _ _ _ | meet _ _ _ | part _ _ | hear _ | heard _ _ _ | exit _ _ =>
          exact Or.inl ⟨kind, site, job, present, running⟩

/-! ### One call leads -/

/-- What a call that leads has made of the crews and of the watchdog. -/
structure Follows (campus : Campus) (quitting : Quitting) : Prop where
  past : ∀ (crew : Nat) (kind : CrewKind) (site : Site), campus.crews[crew]? = some (kind, site) →
    crew < quitting.stage.stopped campus.crews.length →
    ∃ decisive, site.closings = [⟨quitting.caller.within crew, .returned decisive⟩]
  present : ∀ (crew closing : Nat) (kind : CrewKind) (site : Site),
    quitting.stage = .within crew closing → campus.crews[crew]? = some (kind, site) →
    closing = 0 ∧ ∃ stage, site.closings = [⟨quitting.caller.within crew, stage⟩]
  ahead : ∀ (crew : Nat) (kind : CrewKind) (site : Site), campus.crews[crew]? = some (kind, site) →
    quitting.stage.stopped campus.crews.length ≤ crew →
    (∀ closing, quitting.stage ≠ .within crew closing) → site.closings = []
  bounded : quitting.stage.stopped campus.crews.length ≤ campus.crews.length
  inside : ∀ crew closing, quitting.stage = .within crew closing → crew < campus.crews.length
  told : quitting.stage.isPast = true → campus.lookout.stopping = true
  awaits : quitting.stage = .awaiting →
    quitting.caller ≠ .watchdog ∧ campus.lookout.held = false

theorem Follows.mono {quitting : Quitting} (follows : campus.Follows quitting)
    (length : next.crews.length = campus.crews.length)
    (same : ∀ (crew : Nat) (kind : CrewKind) (site : Site), next.crews[crew]? = some (kind, site) →
      ∃ before, campus.crews[crew]? = some (kind, before) ∧ site.closings = before.closings)
    (stopping : next.lookout.stopping = campus.lookout.stopping)
    (held : next.lookout.held = campus.lookout.held) : next.Follows quitting where
  past crew kind site present below := by
    obtain ⟨before, old, closings⟩ := same crew kind site present
    rw [closings]
    exact follows.past crew kind before old (length ▸ below)
  present crew closing kind site at_ present := by
    obtain ⟨before, old, closings⟩ := same crew kind site present
    rw [closings]
    exact follows.present crew closing kind before at_ old
  ahead crew kind site present above outside := by
    obtain ⟨before, old, closings⟩ := same crew kind site present
    rw [closings]
    exact follows.ahead crew kind before old (length ▸ above) outside
  bounded := by
    rw [length]
    exact follows.bounded
  inside crew closing at_ := by
    rw [length]
    exact follows.inside crew closing at_
  told past := stopping.trans (follows.told past)
  awaits awaiting := ⟨(follows.awaits awaiting).1, held.trans (follows.awaits awaiting).2⟩

theorem Follows.moved {quitting other : Quitting} {number : Nat} {stage : QuitStage}
    (follows : campus.Follows quitting) : (campus.moved number other stage).Follows quitting :=
  ⟨follows.past, follows.present, follows.ahead, follows.bounded, follows.inside, follows.told,
    follows.awaits⟩

theorem Follows.last {quitting : Quitting} (follows : campus.Follows quitting) {stage : QuitStage}
    (past : stage.isPast = true)
    (total : quitting.stage.stopped campus.crews.length = campus.crews.length)
    (crews : next.crews = campus.crews) (stopping : next.lookout.stopping = true)
    (awaits : stage = .awaiting → quitting.caller ≠ .watchdog ∧ next.lookout.held = false) :
    next.Follows { quitting with stage } := by
  obtain ⟨all, _, outside⟩ := QuitStage.stopped_of_isPast past campus.crews.length
  constructor
  · intro crew kind site present below
    rw [crews] at present below
    refine follows.past crew kind site present ?_
    rw [total]
    exact all ▸ below
  · exact fun crew closing _ _ at_ => absurd at_ (outside crew closing)
  · intro crew kind site present above _
    rw [crews] at present above
    obtain ⟨within, _⟩ := List.getElem?_eq_some_iff.mp present
    rw [all] at above
    omega
  · rw [crews]
    exact Nat.le_of_eq all
  · exact fun crew closing at_ => absurd at_ (outside crew closing)
  · exact fun _ => stopping
  · exact awaits

theorem Follows.onward {quitting : Quitting} (follows : campus.Follows quitting)
    (came : quitting.stage.isPast = true) {stage : QuitStage} (past : stage.isPast = true)
    (crews : next.crews = campus.crews)
    (stopping : next.lookout.stopping = campus.lookout.stopping)
    (awaits : stage = .awaiting → quitting.caller ≠ .watchdog ∧ next.lookout.held = false) :
    next.Follows { quitting with stage } :=
  follows.last past (QuitStage.stopped_of_isPast came _).1 crews
    (stopping.trans (follows.told came)) awaits

/-- The calls at every moment of a run. -/
structure Sound (campus : Campus) : Prop where
  begun : campus.closed = false → ∀ quitting ∈ campus.quittings, quitting.stage = .begun
  fresh : campus.closed = false → ∀ (crew : Nat) (kind : CrewKind) (site : Site),
    campus.crews[crew]? = some (kind, site) → site.closings = []
  led : campus.closed = true → ∃ quitting ∈ campus.quittings, quitting.stage.leads = true
  single : ∀ (first second : Nat) (one other : Quitting), campus.quittings[first]? = some one →
    campus.quittings[second]? = some other → one.stage.leads = true → other.stage.leads = true →
    first = second
  follows : ∀ quitting ∈ campus.quittings, quitting.stage.leads = true → campus.Follows quitting
  busy : ∀ quitting ∈ campus.quittings, quitting.stage.isReturned = false →
    campus.AtWork quitting.caller

/-- The call that leads is the only one. -/
theorem Sound.leader (sound : campus.Sound) {number : Nat} {quitting other : Quitting}
    (present : campus.quittings[number]? = some quitting) (leads : quitting.stage.leads = true)
    (listed : other ∈ campus.quittings) (otherLeads : other.stage.leads = true) :
    other = quitting := by
  obtain ⟨place, found⟩ := List.mem_iff_getElem?.mp listed
  have same := sound.single place number other quitting found present otherLeads leads
  subst place
  exact Option.some.inj (found.symm.trans present)

theorem Sound.lone (sound : campus.Sound) :
    ∃ number, ∀ (other : Nat) (quitting : Quitting), campus.quittings[other]? = some quitting →
      quitting.stage.leads = true → other = number := by
  by_cases some : ∃ (number : Nat) (one : Quitting), campus.quittings[number]? = some one
      ∧ one.stage.leads = true
  · obtain ⟨number, one, present, leads⟩ := some
    exact ⟨number, fun other quitting found otherLeads =>
      sound.single other number quitting one found present otherLeads leads⟩
  · exact ⟨0, fun other quitting found leads => absurd ⟨other, quitting, found, leads⟩ some⟩

theorem Sound.other (sound : campus.Sound) (step : Step campus act next)
    (quittings : next.quittings = campus.quittings) (closed : next.closed = campus.closed)
    (same : ∀ (crew : Nat) (kind : CrewKind) (site : Site), next.crews[crew]? = some (kind, site) →
      ∃ before, campus.crews[crew]? = some (kind, before) ∧ site.closings = before.closings)
    (stopping : next.lookout.stopping = campus.lookout.stopping)
    (held : next.lookout.held = campus.lookout.held) : next.Sound where
  begun unclosed := by
    rw [quittings]
    exact sound.begun (closed ▸ unclosed)
  fresh unclosed crew kind site present := by
    obtain ⟨before, old, closings⟩ := same crew kind site present
    rw [closings]
    exact sound.fresh (closed ▸ unclosed) crew kind before old
  led isClosed := by
    rw [quittings]
    exact sound.led (closed ▸ isClosed)
  single := by
    rw [quittings]
    exact sound.single
  follows quitting listed leads := by
    rw [quittings] at listed
    exact (sound.follows quitting listed leads).mono (length_crews_step step) same stopping held
  busy quitting listed unreturned := by
    rw [quittings] at listed
    refine (atWork_step step (sound.busy quitting listed unreturned)).resolve_right fun done => ?_
    rw [done quitting listed rfl] at unreturned
    cases unreturned

theorem Sound.advance (sound : campus.Sound) (step : Step campus act next) {number : Nat}
    {quitting : Quitting} (present : campus.quittings[number]? = some quitting)
    {before : QuitStage} (came : quitting.stage = before) (led : before.leads = true)
    (unreturned : before.isReturned = false) (stage : QuitStage)
    (quittings : next.quittings = campus.quittings.set number { quitting with stage })
    (still : stage.leads = true) (closed : next.closed = campus.closed)
    (onward : campus.Follows quitting → next.Follows { quitting with stage }) : next.Sound := by
  have listed := List.mem_of_getElem? present
  have leads : quitting.stage.leads = true := came ▸ led
  have busy : quitting.stage.isReturned = false := came ▸ unreturned
  have isClosed : campus.closed = true := by
    by_contra unclosed
    have begun := sound.begun (by simpa using unclosed) quitting listed
    rw [begun] at leads
    cases leads
  have here : next.quittings[number]? = some { quitting with stage } := by
    obtain ⟨within, _⟩ := List.getElem?_eq_some_iff.mp present
    rw [quittings, List.getElem?_set_self within]
  have lone (other : Nat) (found : Quitting) (atOther : next.quittings[other]? = some found)
      (otherLeads : found.stage.leads = true) : other = number := by
    by_contra elsewhere
    rw [quittings, List.getElem?_set_ne (Ne.symm elsewhere)] at atOther
    exact elsewhere (sound.single other number found quitting atOther present otherLeads leads)
  constructor
  · intro unclosed
    rw [closed, isClosed] at unclosed
    cases unclosed
  · intro unclosed
    rw [closed, isClosed] at unclosed
    cases unclosed
  · exact fun _ => ⟨_, List.mem_of_getElem? here, still⟩
  · intro first second one other atFirst atSecond oneLeads otherLeads
    rw [lone first one atFirst oneLeads, lone second other atSecond otherLeads]
  · intro found foundListed foundLeads
    obtain ⟨place, atPlace⟩ := List.mem_iff_getElem?.mp foundListed
    rw [lone place found atPlace foundLeads, here] at atPlace
    exact Option.some.inj atPlace ▸ onward (sound.follows quitting listed leads)
  · intro found foundListed unreturned
    rw [quittings] at foundListed
    have working : campus.AtWork found.caller ∧ ¬campus.Done found.caller := by
      rcases List.mem_or_eq_of_mem_set foundListed with old | rfl
      · refine ⟨sound.busy found old unreturned, fun done => ?_⟩
        rw [done found old rfl] at unreturned
        cases unreturned
      · refine ⟨sound.busy quitting listed busy, fun done => ?_⟩
        rw [done quitting listed rfl] at busy
        cases busy
    exact (atWork_step step working.1).resolve_right working.2

theorem Sound.aside (sound : campus.Sound) (crews : next.crews = campus.crews)
    (lookout : next.lookout = campus.lookout) (closed : next.closed = campus.closed)
    (kept : ∀ quitting ∈ campus.quittings, quitting.stage.leads = true →
      quitting ∈ next.quittings)
    (leading : ∀ (number : Nat) (quitting : Quitting), next.quittings[number]? = some quitting →
      quitting.stage.leads = true → campus.quittings[number]? = some quitting)
    (begun : next.closed = false → ∀ quitting ∈ next.quittings, quitting.stage = .begun)
    (busy : ∀ quitting ∈ next.quittings, quitting.stage.isReturned = false →
      campus.AtWork quitting.caller) : next.Sound where
  begun := begun
  fresh unclosed := by
    rw [crews]
    exact sound.fresh (closed ▸ unclosed)
  led isClosed := by
    obtain ⟨quitting, listed, leads⟩ := sound.led (closed ▸ isClosed)
    exact ⟨quitting, kept quitting listed leads, leads⟩
  single first second one other atFirst atSecond oneLeads otherLeads :=
    sound.single first second one other (leading first one atFirst oneLeads)
      (leading second other atSecond otherLeads) oneLeads otherLeads
  follows quitting listed leads := by
    obtain ⟨number, present⟩ := List.mem_iff_getElem?.mp listed
    have old := List.mem_of_getElem? (leading number quitting present leads)
    refine (sound.follows quitting old leads).mono (by rw [crews]) ?_ (by rw [lookout])
      (by rw [lookout])
    intro crew kind site found
    exact ⟨site, crews ▸ found, rfl⟩
  busy quitting listed unreturned := by
    have working := busy quitting listed unreturned
    cases caller : quitting.caller with
    | outside _ => trivial
    | member crew place =>
        rw [caller] at working
        unfold AtWork
        rw [crews]
        exact working
    | watchdog =>
        rw [caller] at working
        unfold AtWork
        rw [lookout]
        exact working

/-! ### Steps of the call that leads -/

theorem set_self {number : Nat} {quitting : Quitting}
    (present : campus.quittings[number]? = some quitting) :
    campus.quittings.set number quitting = campus.quittings := by
  obtain ⟨within, rfl⟩ := List.getElem?_eq_some_iff.mp present
  exact List.set_getElem_self within

theorem Sound.first (sound : campus.Sound) {number : Nat} {quitting : Quitting}
    (present : campus.quittings[number]? = some quitting) (begun : quitting.stage = .begun)
    (unclosed : campus.closed = false) :
    ({ campus with closed := true }.moved number quitting (.before 0)).Sound := by
  have listed := List.mem_of_getElem? present
  have found (other : Nat) :
      ({ campus with closed := true }.moved number quitting (.before 0)).quittings[other]?
        = if number = other then some { quitting with stage := .before 0 }
          else campus.quittings[other]? :=
    @moved_at { campus with closed := true } number quitting present _ other
  have lone (other : Nat) (one : Quitting)
      (atOther : ({ campus with closed := true }.moved number quitting
        (.before 0)).quittings[other]? = some one)
      (leads : one.stage.leads = true) : other = number := by
    by_contra elsewhere
    rw [found, if_neg (Ne.symm elsewhere)] at atOther
    rw [sound.begun unclosed one (List.mem_of_getElem? atOther)] at leads
    cases leads
  have here := (found number).trans (if_pos rfl)
  constructor
  · exact nofun
  · exact nofun
  · exact fun _ => ⟨_, List.mem_of_getElem? here, rfl⟩
  · intro first second one other atFirst atSecond oneLeads otherLeads
    rw [lone first one atFirst oneLeads, lone second other atSecond otherLeads]
  · intro one oneListed leads
    obtain ⟨place, atPlace⟩ := List.mem_iff_getElem?.mp oneListed
    rw [lone place one atPlace leads, here] at atPlace
    cases atPlace
    constructor
    · exact fun _ _ _ _ below => absurd below (Nat.not_lt_zero _)
    · exact fun _ _ _ _ => nofun
    · exact fun crew kind site old _ _ => sound.fresh unclosed crew kind site old
    · exact Nat.zero_le _
    · exact fun _ _ => nofun
    · exact nofun
    · exact nofun
  · intro one oneListed unreturned
    rcases List.mem_or_eq_of_mem_set oneListed with old | rfl
    · exact sound.busy one old unreturned
    · exact sound.busy quitting listed (by rw [begun]; rfl)

section Crew

variable {crew closing : Nat} {quitting : Quitting} {kind : CrewKind} {site changed : Site}

theorem Follows.enter (follows : campus.Follows quitting) (before : quitting.stage = .before crew)
    (old : campus.crews[crew]? = some (kind, site))
    (crewStep : Site.Step kind site (.call (quitting.caller.within crew)) changed) :
    (campus.put crew kind changed).Follows
      { quitting with stage := .within crew site.closings.length } := by
  have length : (campus.put crew kind changed).crews.length = campus.crews.length :=
    List.length_set
  have unvisited : site.closings = [] := by
    refine follows.ahead crew kind site old ?_ ?_
    · rw [before]
      exact Nat.le_refl _
    · rw [before]
      exact nofun
  have closings := Site.closings_call crewStep
  rw [unvisited] at closings
  obtain ⟨within, _⟩ := List.getElem?_eq_some_iff.mp old
  constructor
  · intro other otherKind found present below
    change other < crew at below
    rw [put_at old, if_neg (Nat.ne_of_gt below)] at present
    exact follows.past other otherKind found present (by rw [before]; exact below)
  · intro other number otherKind found at_ present
    cases at_
    rw [put_at old, if_pos rfl] at present
    cases present
    exact ⟨by rw [unvisited]; rfl, .begun, closings⟩
  · intro other otherKind found present above outside
    have elsewhere : crew ≠ other := by
      rintro rfl
      exact outside _ rfl
    rw [put_at old, if_neg elsewhere] at present
    refine follows.ahead other otherKind found present ?_ ?_
    · rw [before]
      exact above
    · rw [before]
      exact nofun
  · rw [length]
    exact Nat.le_of_lt within
  · intro other number at_
    cases at_
    rw [length]
    exact within
  · exact nofun
  · exact nofun

theorem Follows.stop (follows : campus.Follows quitting)
    (at_ : quitting.stage = .within crew closing)
    (old : campus.crews[crew]? = some (kind, site)) {act : Site.Act}
    (crewStep : Site.Step kind site act changed)
    (onward : act = .hangUp closing ∨ act = .proceed closing) :
    (campus.put crew kind changed).Follows quitting := by
  have length : (campus.put crew kind changed).crews.length = campus.crews.length :=
    List.length_set
  have elsewhere {other : Nat} {otherKind : CrewKind} {found : Site}
      (present : (campus.put crew kind changed).crews[other]? = some (otherKind, found))
      (apart : crew ≠ other) : campus.crews[other]? = some (otherKind, found) := by
    rw [put_at old, if_neg apart] at present
    exact present
  constructor
  · intro other otherKind found present below
    rw [length] at below
    refine follows.past other otherKind found (elsewhere present ?_) below
    rw [at_] at below
    exact Nat.ne_of_gt below
  · intro other number otherKind found within present
    cases at_.symm.trans within
    rw [put_at old, if_pos rfl] at present
    cases present
    obtain ⟨first, stage, closings⟩ := follows.present crew closing kind site at_ old
    obtain ⟨waiting, reached, stood, closings'⟩ := Site.closings_onward crewStep onward
    subst first
    rw [closings] at stood closings'
    cases stood
    exact ⟨rfl, reached, closings'⟩
  · intro other otherKind found present above outside
    rw [length] at above
    refine follows.ahead other otherKind found (elsewhere present ?_) above outside
    rintro rfl
    exact outside closing at_
  · rw [length]
    exact follows.bounded
  · intro other number within
    rw [length]
    exact follows.inside other number within
  · exact follows.told
  · exact follows.awaits

theorem Follows.leave (follows : campus.Follows quitting)
    (at_ : quitting.stage = .within crew closing)
    (old : campus.crews[crew]? = some (kind, site)) {past : Closing} {decisive : Bool}
    (stood : site.closings[closing]? = some past) (returned : past.stage = .returned decisive) :
    campus.Follows { quitting with stage := .before (crew + 1) } := by
  constructor
  · intro other otherKind found present below
    change other < crew + 1 at below
    by_cases same : other = crew
    · subst other
      cases old.symm.trans present
      obtain ⟨first, stage, closings⟩ := follows.present crew closing kind site at_ old
      subst first
      rw [closings] at stood
      cases stood
      change stage = _ at returned
      exact ⟨decisive, returned ▸ closings⟩
    · refine follows.past other otherKind found present ?_
      rw [at_]
      change other < crew
      omega
  · exact fun _ _ _ _ => nofun
  · intro other otherKind found present above _
    change crew + 1 ≤ other at above
    refine follows.ahead other otherKind found present ?_ ?_
    · rw [at_]
      change crew ≤ other
      omega
    · intro number within
      cases at_.symm.trans within
      omega
  · exact follows.inside crew closing at_
  · exact fun _ _ => nofun
  · exact nofun
  · exact nofun

end Crew

/-! ### Every step -/

theorem sound_step (sound : campus.Sound) (step : Step campus act next) : next.Sound := by
  have same {home : Nat} {kept : CrewKind} {before after : Site}
      (old : campus.crews[home]? = some (kept, before))
      (closings : after.closings = before.closings) (crew : Nat) (kind : CrewKind) (site : Site)
      (present : (campus.put home kept after).crews[crew]? = some (kind, site)) :
      ∃ before, campus.crews[crew]? = some (kind, before) ∧ site.closings = before.closings := by
    rw [put_at old] at present
    by_cases here : home = crew
    · subst home
      rw [if_pos rfl] at present
      cases present
      exact ⟨before, old, closings⟩
    · rw [if_neg here] at present
      exact ⟨site, present, rfl⟩
  have untouched (crew : Nat) (kind : CrewKind) (site : Site)
      (present : campus.crews[crew]? = some (kind, site)) :
      ∃ before, campus.crews[crew]? = some (kind, before) ∧ site.closings = before.closings :=
    ⟨site, present, rfl⟩
  cases step with
  -- Crews and the watchdog at work leave the calls as they are.
  | submit old crewStep =>
      exact sound.other (.submit old crewStep) rfl rfl (same old (Site.closings_submit crewStep))
        rfl rfl
  | serve old crewStep done =>
      exact sound.other (.serve old crewStep done) rfl rfl
        (same old (Site.closings_serve crewStep)) rfl rfl
  | hear asleep => exact sound.other (.hear asleep) rfl rfl untouched rfl rfl
  | heard awake done other => exact sound.other (.heard awake done other) rfl rfl untouched rfl rfl
  | exit asleep told => exact sound.other (.exit asleep told) rfl rfl untouched rfl rfl
  | @call caller working free =>
      have listed {quitting : Quitting}
          (found : quitting ∈ campus.quittings ++ [⟨caller, .begun⟩]) :
          quitting ∈ campus.quittings ∨ quitting = ⟨caller, .begun⟩ := by
        simpa using found
      refine sound.aside rfl rfl rfl ?_ ?_ ?_ ?_
      · exact fun quitting old _ => List.mem_append_left _ old
      · intro number quitting found leads
        rw [List.getElem?_append] at found
        split at found
        · exact found
        · cases List.mem_singleton.mp (List.mem_of_getElem? found)
          cases leads
      · intro unclosed quitting found
        rcases listed found with old | rfl
        · exact sound.begun unclosed quitting old
        · rfl
      · intro quitting found unreturned
        rcases listed found with old | rfl
        · exact sound.busy quitting old unreturned
        · exact working
  -- Only a call that finds the runtime open comes to lead.
  | first present begun unclosed => exact sound.first present begun unclosed
  | @late number quitting present begun closed =>
      refine sound.aside rfl rfl rfl ?_ ?_ ?_ ?_
      · intro other old leads
        obtain ⟨place, atPlace⟩ := List.mem_iff_getElem?.mp old
        have elsewhere : number ≠ place := by
          rintro rfl
          cases present.symm.trans atPlace
          rw [begun] at leads
          cases leads
        exact List.mem_of_getElem? ((moved_at present _ place).trans
          ((if_neg elsewhere).trans atPlace))
      · intro other one found leads
        rw [moved_at present] at found
        split at found
        · cases found
          cases leads
        · exact found
      · exact fun unclosed => Bool.noConfusion (closed.symm.trans unclosed)
      · intro one found unreturned
        rcases List.mem_or_eq_of_mem_set found with old | rfl
        · exact sound.busy one old unreturned
        · cases unreturned
  -- All other steps are steps of the call that leads.
  | enter present before old crewStep =>
      refine sound.advance (.enter present before old crewStep) present before rfl rfl _ rfl rfl rfl
        fun follows => ?_
      exact (follows.enter before old crewStep).moved
  | stop present at_ old crewStep onward calm =>
      refine sound.advance (.stop present at_ old crewStep onward calm) present at_ rfl rfl _
        (set_self present).symm (by rw [at_]; rfl) rfl fun follows => ?_
      exact follows.stop at_ old crewStep onward
  | join present at_ old stood joining crewStep =>
      refine sound.advance (.join present at_ old stood joining crewStep) present at_ rfl rfl _
        (set_self present).symm (by rw [at_]; rfl) rfl fun follows => ?_
      exact follows.stop at_ old crewStep (Or.inr rfl)
  | leave present at_ old stood returned =>
      refine sound.advance (.leave present at_ old stood returned) present at_ rfl rfl _ rfl rfl rfl
        fun follows => ?_
      exact (follows.leave at_ old stood returned).moved
  | signal present before =>
      refine sound.advance (.signal present before) present before rfl rfl _ rfl rfl rfl
        fun follows => ?_
      exact follows.last rfl (by rw [before]; rfl) rfl rfl nofun
  | collect present signalled held =>
      refine sound.advance (.collect present signalled held) present signalled rfl rfl _ rfl
        (by split <;> rfl) rfl fun follows => ?_
      refine follows.onward (by rw [signalled]; rfl) (by split <;> rfl) rfl rfl ?_
      split
      · exact nofun
      · rename_i elsewhere
        exact fun _ => ⟨elsewhere, rfl⟩
  | bare present signalled bare =>
      refine sound.advance (.bare present signalled bare) present signalled rfl rfl _ rfl rfl rfl
        fun follows => ?_
      exact follows.onward (by rw [signalled]; rfl) rfl rfl rfl nofun
  | meet present awaiting gone =>
      refine sound.advance (.meet present awaiting gone) present awaiting rfl rfl _ rfl rfl rfl
        fun follows => ?_
      exact follows.onward (by rw [awaiting]; rfl) rfl rfl rfl nofun
  | part present parting =>
      refine sound.advance (.part present parting) present parting rfl rfl _ rfl rfl rfl
        fun follows => ?_
      exact follows.onward (by rw [parting]; rfl) rfl rfl rfl nofun

theorem sound_run {start : Campus} {acts : List Act} (sound : start.Sound)
    (run : Run start acts campus) : campus.Sound := by
  induction run with
  | start => exact sound
  | step _ step ih => exact sound_step ih step

theorem sound_of {engine : Engine} (opened : engine.closed = false) : (of engine).Sound where
  begun _ _ impossible := by cases impossible
  fresh _ crew kind site present := by
    rcases List.mem_append.mp (List.mem_of_getElem? present) with loop | pool
    · obtain ⟨_, _, same⟩ := List.mem_map.mp loop
      cases same
      rfl
    · cases List.mem_singleton.mp pool
      rfl
  led closed := Bool.noConfusion (opened.symm.trans closed)
  single _ _ _ _ impossible := by cases impossible
  follows _ impossible := by cases impossible
  busy _ impossible := by cases impossible

/-- Every crew is sound in itself. -/
def Manned (campus : Campus) : Prop :=
  ∀ (crew : Nat) (kind : CrewKind) (site : Site), campus.crews[crew]? = some (kind, site) →
    Site.Sound kind site

theorem manned_run {start : Campus} {acts : List Act} (manned : start.Manned)
    (run : Run start acts campus) : campus.Manned := by
  intro crew kind site present
  obtain ⟨first, began, crewRun⟩ := crew_run run present
  exact Site.sound_run (manned crew kind first began) crewRun

end Campus

end Reactor
