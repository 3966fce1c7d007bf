import Reactor.Engine
import Reactor.Proofs.Crew.Serving

/-!
A runtime at work while calls close it, one step at a time and in any order. Its crews stand in
the order in which they are stopped, the loops first and then the pool; the watchdog stands beside
them. A call comes from outside, from a job on a thread of a crew, or from a handler on the thread
of the watchdog. The first call that finds the runtime open stops one crew after the other, then
the watchdog, and then tells the parts; every other call returns at once.
-/

namespace Reactor

inductive Party where
  | outside (name : Nat)
  | member (crew place : Nat)
  | watchdog
deriving DecidableEq

def Party.within (crew : Nat) : Party → Option Nat
  | .member home place => if home = crew then some place else none
  | .outside _ | .watchdog => none

theorem Party.within_eq_some {party : Party} {crew place : Nat}
    (here : party.within crew = some place) : party = .member crew place := by
  cases party with
  | outside _ | watchdog => cases here
  | member home other =>
      obtain ⟨rfl, rfl⟩ : home = crew ∧ other = place := by simpa [within] using here
      rfl

/-- How far a call that closes a runtime has come. -/
inductive QuitStage where
  | begun
  -- It goes on to stop that crew; past the last one, the watchdog.
  | before (crew : Nat)
  -- It stops that crew, which counts it as that closing call.
  | within (crew closing : Nat)
  | signalled
  | awaiting
  -- It tells the parts, which may call again.
  | parting
  | returned (decisive : Bool)
deriving DecidableEq

namespace QuitStage

/-- Whether the call is the one that has found the runtime open. -/
def leads : QuitStage → Bool
  | begun | returned false => false
  | before _ | within _ _ | signalled | awaiting | parting | returned true => true

/-- The number of crews that the call has stopped, of so many. -/
def stopped (total : Nat) : QuitStage → Nat
  | begun | returned false => 0
  | before crew | within crew _ => crew
  | signalled | awaiting | parting | returned true => total

def isPast : QuitStage → Bool
  | signalled | awaiting | parting | returned true => true
  | begun | before _ | within _ _ | returned false => false

def isReturned : QuitStage → Bool
  | returned _ => true
  | _ => false

theorem stopped_of_isPast {stage : QuitStage} (past : stage.isPast = true) (total : Nat) :
    stage.stopped total = total ∧ stage.leads = true
      ∧ ∀ crew closing, stage ≠ within crew closing := by
  cases stage with
  | begun | before _ | within _ _ => cases past
  | signalled | awaiting | parting => exact ⟨rfl, rfl, nofun⟩
  | returned decisive =>
      cases decisive with
      | false => cases past
      | true => exact ⟨rfl, rfl, nofun⟩

theorem leads_of_busy {stage : QuitStage} (busy : stage.isReturned = false)
    (further : stage ≠ .begun) : stage.leads = true := by
  cases stage with
  | begun => exact absurd rfl further
  | returned decisive => cases busy
  | before _ | within _ _ | signalled | awaiting | parting => rfl

theorem isPast_of_returned {stage : QuitStage} (leads : stage.leads = true)
    (returned : stage.isReturned = true) : stage.isPast = true := by
  cases stage with
  | begun | before _ | within _ _ | signalled | awaiting | parting => cases returned
  | returned decisive =>
      cases decisive with
      | false => cases leads
      | true => rfl

end QuitStage

structure Quitting where
  caller : Party
  stage : QuitStage
deriving DecidableEq

inductive LookoutPost where
  | sleeping
  | hearing
  | gone
deriving DecidableEq

structure Lookout where
  stopping : Bool
  held : Bool
  post : LookoutPost
deriving DecidableEq

structure Campus where
  crews : List (CrewKind × Site)
  lookout : Lookout
  closed : Bool
  quittings : List Quitting

namespace Campus

def of (engine : Engine) : Campus where
  crews := engine.loops.map (fun loop => (.loop, ⟨loop.crew, 0, []⟩))
    ++ [(.pool, ⟨engine.workers.crew, 0, []⟩)]
  lookout := if engine.watchdogClosed then ⟨true, false, .gone⟩ else ⟨false, true, .sleeping⟩
  closed := engine.closed
  quittings := []

def put (campus : Campus) (crew : Nat) (kind : CrewKind) (site : Site) : Campus :=
  { campus with crews := campus.crews.set crew (kind, site) }

def moved (campus : Campus) (number : Nat) (quitting : Quitting) (stage : QuitStage) : Campus :=
  { campus with quittings := campus.quittings.set number { quitting with stage } }

/-- A party in a position to call: a thread runs a job, or the watchdog a handler. -/
def AtWork (campus : Campus) : Party → Prop
  | .outside _ => True
  | .member crew place => ∃ kind site job, campus.crews[crew]? = some (kind, site)
      ∧ site.crew.line.posts[place]? = some (.running job)
  | .watchdog => campus.lookout.post = .hearing

def Done (campus : Campus) (party : Party) : Prop :=
  ∀ quitting ∈ campus.quittings, quitting.caller = party → quitting.stage.isReturned = true

inductive Act where
  | site (crew : Nat) (act : Site.Act)
  | join (number crew closing place : Nat)
  | call (caller : Party)
  | move (number : Nat)
  | meet (number : Nat)
  | watch (post : LookoutPost)

namespace Act

def at? (crew : Nat) : Act → Option Site.Act
  | site home act => if home = crew then some act else none
  | join _ home closing _ => if home = crew then some (.proceed closing) else none
  | call _ | move _ | meet _ | watch _ => none

def join? : Act → Option (Nat × Party)
  | join number crew _ place => some (number, .member crew place)
  | meet number => some (number, .watchdog)
  | site _ _ | call _ | move _ | watch _ => none

/-- Whether it needs nothing from outside: no submission, no further call, no blocked thread. -/
def isOwn : Act → Bool
  | site _ (.submit _) | call _ | watch .hearing => false
  | _ => true

end Act

inductive Step : Campus → Act → Campus → Prop where
  | submit {campus : Campus} {crew : Nat} {kind : CrewKind} {site next : Site}
      {happening : Happening Job} :
      campus.crews[crew]? = some (kind, site) → Site.Step kind site (.submit happening) next →
        Step campus (.site crew (.submit happening)) (campus.put crew kind next)
  | serve {campus : Campus} {crew : Nat} {kind : CrewKind} {site next : Site}
      {happening : Happening Job} :
      campus.crews[crew]? = some (kind, site) → Site.Step kind site (.serve happening) next →
        (∀ place job, happening = .finished place job → campus.Done (.member crew place)) →
        Step campus (.site crew (.serve happening)) (campus.put crew kind next)
  -- A party calls while no call of its own keeps it; a call that tells the parts does not.
  | call {campus : Campus} {caller : Party} :
      campus.AtWork caller →
        (∀ quitting ∈ campus.quittings, quitting.caller = caller →
          quitting.stage = .parting ∨ quitting.stage.isReturned = true) →
        Step campus (.call caller)
          { campus with quittings := campus.quittings ++ [⟨caller, .begun⟩] }
  | first {campus : Campus} {number : Nat} {quitting : Quitting} :
      campus.quittings[number]? = some quitting → quitting.stage = .begun →
        campus.closed = false →
        Step campus (.move number)
          ({ campus with closed := true }.moved number quitting (.before 0))
  | late {campus : Campus} {number : Nat} {quitting : Quitting} :
      campus.quittings[number]? = some quitting → quitting.stage = .begun →
        campus.closed = true →
        Step campus (.move number) (campus.moved number quitting (.returned false))
  | enter {campus : Campus} {number crew : Nat} {quitting : Quitting} {kind : CrewKind}
      {site next : Site} :
      campus.quittings[number]? = some quitting → quitting.stage = .before crew →
        campus.crews[crew]? = some (kind, site) →
        Site.Step kind site (.call (quitting.caller.within crew)) next →
        Step campus (.site crew (.call (quitting.caller.within crew)))
          ((campus.put crew kind next).moved number quitting (.within crew site.closings.length))
  | stop {campus : Campus} {number crew closing : Nat} {quitting : Quitting} {kind : CrewKind}
      {site next : Site} {act : Site.Act} :
      campus.quittings[number]? = some quitting → quitting.stage = .within crew closing →
        campus.crews[crew]? = some (kind, site) → Site.Step kind site act next →
        act = .hangUp closing ∨ act = .proceed closing →
        (∀ waiting place left, site.closings[closing]? = some waiting →
          waiting.stage ≠ .joining (place :: left)) →
        Step campus (.site crew act) (campus.put crew kind next)
  | join {campus : Campus} {number crew closing place : Nat} {left : List Nat}
      {quitting : Quitting} {kind : CrewKind} {site next : Site} {waiting : Closing} :
      campus.quittings[number]? = some quitting → quitting.stage = .within crew closing →
        campus.crews[crew]? = some (kind, site) → site.closings[closing]? = some waiting →
        waiting.stage = .joining (place :: left) → Site.Step kind site (.proceed closing) next →
        Step campus (.join number crew closing place) (campus.put crew kind next)
  | leave {campus : Campus} {number crew closing : Nat} {quitting : Quitting} {kind : CrewKind}
      {site : Site} {past : Closing} {decisive : Bool} :
      campus.quittings[number]? = some quitting → quitting.stage = .within crew closing →
        campus.crews[crew]? = some (kind, site) → site.closings[closing]? = some past →
        past.stage = .returned decisive →
        Step campus (.move number) (campus.moved number quitting (.before (crew + 1)))
  | signal {campus : Campus} {number : Nat} {quitting : Quitting} :
      campus.quittings[number]? = some quitting →
        quitting.stage = .before campus.crews.length →
        Step campus (.move number)
          ({ campus with lookout := { campus.lookout with stopping := true } }.moved number quitting
            .signalled)
  -- A call on the thread of the watchdog does not wait for it.
  | collect {campus : Campus} {number : Nat} {quitting : Quitting} :
      campus.quittings[number]? = some quitting → quitting.stage = .signalled →
        campus.lookout.held = true →
        Step campus (.move number)
          ({ campus with lookout := { campus.lookout with held := false } }.moved number quitting
            (if quitting.caller = Party.watchdog then .parting else .awaiting))
  | bare {campus : Campus} {number : Nat} {quitting : Quitting} :
      campus.quittings[number]? = some quitting → quitting.stage = .signalled →
        campus.lookout.held = false →
        Step campus (.move number) (campus.moved number quitting .parting)
  | meet {campus : Campus} {number : Nat} {quitting : Quitting} :
      campus.quittings[number]? = some quitting → quitting.stage = .awaiting →
        campus.lookout.post = .gone →
        Step campus (.meet number) (campus.moved number quitting .parting)
  | part {campus : Campus} {number : Nat} {quitting : Quitting} :
      campus.quittings[number]? = some quitting → quitting.stage = .parting →
        Step campus (.move number) (campus.moved number quitting (.returned true))
  | hear {campus : Campus} :
      campus.lookout.post = .sleeping →
        Step campus (.watch .hearing)
          { campus with lookout := { campus.lookout with post := .hearing } }
  -- A handler ends after the calls that it has made; one that panics ends the watchdog.
  | heard {campus : Campus} {post : LookoutPost} :
      campus.lookout.post = .hearing → campus.Done .watchdog → post ≠ .hearing →
        Step campus (.watch post) { campus with lookout := { campus.lookout with post } }
  | exit {campus : Campus} :
      campus.lookout.post = .sleeping → campus.lookout.stopping = true →
        Step campus (.watch .gone)
          { campus with lookout := { campus.lookout with post := .gone } }

abbrev Run : Campus → List Act → Campus → Prop := Execution Step

def actsAt (crew : Nat) (acts : List Act) : List Site.Act := acts.filterMap (Act.at? crew)

/-- The calls that have waited for threads, with the threads, in order. -/
def joinsIn (acts : List Act) : List (Nat × Party) := acts.filterMap Act.join?

theorem actsAt_concat (crew : Nat) (acts : List Act) (act : Act) :
    actsAt crew (acts ++ [act]) = actsAt crew acts ++ (act.at? crew).toList := by
  cases found : act.at? crew <;> simp [actsAt, found]

theorem joinsIn_concat (acts : List Act) (act : Act) :
    joinsIn (acts ++ [act]) = joinsIn acts ++ act.join?.toList := by
  cases found : act.join? <;> simp [joinsIn, found]

/-! ### What the crews see -/

section Crews

variable {campus next : Campus} {act : Act}

theorem put_at {crew : Nat} {kind : CrewKind} {site : Site}
    (present : campus.crews[crew]? = some (kind, site)) (changed : Site) (other : Nat) :
    (campus.put crew kind changed).crews[other]?
      = if crew = other then some (kind, changed) else campus.crews[other]? := by
  obtain ⟨within, _⟩ := List.getElem?_eq_some_iff.mp present
  change (campus.crews.set crew _)[other]? = _
  rw [List.getElem?_set]
  simp [within]

/-- A step of the campus is a step of the crew, or leaves the crew alone. -/
theorem crew_step (step : Step campus act next) {crew : Nat} {kind : CrewKind} {site : Site}
    (present : next.crews[crew]? = some (kind, site)) :
    (∃ seen before, act.at? crew = some seen ∧ campus.crews[crew]? = some (kind, before)
        ∧ Site.Step kind before seen site)
      ∨ act.at? crew = none ∧ campus.crews[crew]? = some (kind, site) := by
  have here {home : Nat} {kept : CrewKind} {before after : Site} {seen : Site.Act}
      (old : campus.crews[home]? = some (kept, before))
      (crewStep : Site.Step kept before seen after)
      (new : (campus.put home kept after).crews[crew]? = some (kind, site)) :
      (∃ seen' before, (if home = crew then some seen else none) = some seen'
          ∧ campus.crews[crew]? = some (kind, before) ∧ Site.Step kind before seen' site)
        ∨ (if home = crew then some seen else none) = none
          ∧ campus.crews[crew]? = some (kind, site) := by
    rw [put_at old] at new
    by_cases same : home = crew
    · subst home
      rw [if_pos rfl] at new
      cases new
      exact Or.inl ⟨seen, before, if_pos rfl, old, crewStep⟩
    · rw [if_neg same] at new
      exact Or.inr ⟨if_neg same, new⟩
  cases step with
  | submit old crewStep => exact here old crewStep present
  | serve old crewStep _ => exact here old crewStep present
  | enter _ _ old crewStep => exact here old crewStep present
  | stop _ _ old crewStep _ _ => exact here old crewStep present
  | join _ _ old _ _ crewStep => exact here old crewStep present
  | call _ _ | first _ _ _ | late _ _ _ | leave _ _ _ _ _ | signal _ _ | collect _ _ _
  | bare _ _ _ | meet _ _ _ | part _ _ | hear _ | heard _ _ _ | exit _ _ =>
      exact Or.inr ⟨rfl, present⟩

theorem length_crews_step (step : Step campus act next) :
    next.crews.length = campus.crews.length := by
  cases step with
  | submit _ _ | serve _ _ _ | enter _ _ _ _ | stop _ _ _ _ _ _ | join _ _ _ _ _ _ =>
      exact List.length_set
  | call _ _ | first _ _ _ | late _ _ _ | leave _ _ _ _ _ | signal _ _ | collect _ _ _
  | bare _ _ _ | meet _ _ _ | part _ _ | hear _ | heard _ _ _ | exit _ _ => rfl

/-- Every crew has its own run below the run of the campus. -/
theorem crew_run {start : Campus} {acts : List Act} (run : Run start acts campus) {crew : Nat}
    {kind : CrewKind} {site : Site} (present : campus.crews[crew]? = some (kind, site)) :
    ∃ first, start.crews[crew]? = some (kind, first)
      ∧ Site.Run kind first (actsAt crew acts) site := by
  induction run generalizing site with
  | start => exact ⟨site, present, .start⟩
  | step _ step ih =>
      rw [actsAt_concat]
      rcases crew_step step present with ⟨seen, before, saw, old, crewStep⟩ | ⟨unseen, old⟩
      · obtain ⟨first, began, crewRun⟩ := ih old
        rw [saw]
        exact ⟨first, began, crewRun.step crewStep⟩
      · rw [unseen, Option.toList_none, List.append_nil]
        exact ih old

end Crews

/-! ### What becomes of the calls -/

section Calls

variable {campus next : Campus} {act : Act}

theorem moved_at {number : Nat} {quitting : Quitting}
    (present : campus.quittings[number]? = some quitting) (stage : QuitStage) (other : Nat) :
    (campus.moved number quitting stage).quittings[other]?
      = if number = other then some { quitting with stage } else campus.quittings[other]? := by
  obtain ⟨within, _⟩ := List.getElem?_eq_some_iff.mp present
  change (campus.quittings.set number _)[other]? = _
  rw [List.getElem?_set]
  simp [within]

/-- A call stays the call of its caller, and one that leads goes on to lead. -/
theorem quitting_step (step : Step campus act next) {number : Nat} {quitting : Quitting}
    (present : campus.quittings[number]? = some quitting) :
    ∃ stage, next.quittings[number]? = some { quitting with stage }
      ∧ (quitting.stage.leads = true → stage.leads = true) := by
  have move {other : Nat} {old : Quitting} {stage : QuitStage} {base : Campus}
      (same : base.quittings = campus.quittings) (found : campus.quittings[other]? = some old)
      (onward : old.stage.leads = true → stage.leads = true) :
      ∃ stage', (base.moved other old stage).quittings[number]?
          = some { quitting with stage := stage' }
        ∧ (quitting.stage.leads = true → stage'.leads = true) := by
    rw [moved_at (same ▸ found)]
    by_cases this : other = number
    · subst other
      cases found.symm.trans present
      exact ⟨stage, if_pos rfl, onward⟩
    · exact ⟨quitting.stage, by rw [if_neg this, same, present], id⟩
  have rest (same : next.quittings = campus.quittings) :
      ∃ stage, next.quittings[number]? = some { quitting with stage }
        ∧ (quitting.stage.leads = true → stage.leads = true) :=
    ⟨quitting.stage, by rw [same, present], id⟩
  cases step with
  | submit _ _ | serve _ _ _ | stop _ _ _ _ _ _ | join _ _ _ _ _ _ | hear _ | heard _ _ _
  | exit _ _ => exact rest rfl
  | call _ _ =>
      obtain ⟨within, _⟩ := List.getElem?_eq_some_iff.mp present
      refine ⟨quitting.stage, ?_, id⟩
      rw [List.getElem?_append_left within]
      exact present
  | first found begun _ => exact move rfl found fun _ => rfl
  | late found begun _ => exact move rfl found (by rw [begun]; exact id)
  | enter found _ _ _ => exact move rfl found fun _ => rfl
  | leave found _ _ _ _ => exact move rfl found fun _ => rfl
  | signal found _ => exact move rfl found fun _ => rfl
  | collect found _ _ => exact move rfl found fun _ => by split <;> rfl
  | bare found _ _ => exact move rfl found fun _ => rfl
  | meet found _ _ => exact move rfl found fun _ => rfl
  | part found _ => exact move rfl found fun _ => rfl

end Calls

end Campus

end Reactor
