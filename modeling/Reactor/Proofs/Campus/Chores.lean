import Reactor.Proofs.Campus.Closing
import Reactor.Proofs.Engine.Submitting

/-!
A runtime that is used one thing after the other. Jobs are offered to it, its threads receive and
finish them, and it is closed from outside and from its own jobs. Its campus has a run for every
such use, at the end of which it shows what has become of the runtime.
-/

namespace Reactor

namespace Engine

def crews (engine : Engine) : List (CrewKind × Crew) :=
  engine.loops.map (fun loop => (.loop, loop.crew)) ++ [(.pool, engine.workers.crew)]

def home (engine : Engine) : Seat → Nat
  | .loop index => index
  | .worker _ => engine.loops.length

/-- One crew of a runtime has changed, and the runtime is as open as before. -/
structure Alters (engine next : Engine) (home : Nat) (kind : CrewKind) (old changed : Crew) :
    Prop where
  found : engine.crews[home]? = some (kind, old)
  crews : next.crews = engine.crews.set home (kind, changed)
  closed : next.closed = engine.closed
  watchdogClosed : next.watchdogClosed = engine.watchdogClosed

variable {engine next : Engine}

theorem alters_loop {index : Nat} {loop : EventLoop} (present : engine.loops[index]? = some loop)
    (changed : Crew) (watch : Watch) (position : UInt64) :
    engine.Alters
      { engine with
        loops := engine.loops.set index { loop with crew := changed }
        workshop := { engine.workshop with watch }
        nextLoop := position }
      index .loop loop.crew changed := by
  obtain ⟨within, same⟩ := List.getElem?_eq_some_iff.mp present
  have inside : index < (engine.loops.map fun loop => (CrewKind.loop, loop.crew)).length := by
    simpa using within
  constructor
  · unfold crews
    rw [List.getElem?_append_left inside, List.getElem?_map, present]
    rfl
  · unfold crews
    rw [List.set_append_left _ _ inside, List.map_set]
  · rfl
  · rfl

theorem alters_workers (engine : Engine) (changed : Crew) (watch : Watch) :
    engine.Alters
      { engine with
        workers := { engine.workers with crew := changed }
        workshop := { engine.workshop with watch } }
      engine.loops.length .pool engine.workers.crew changed := by
  have last : engine.loops.length
      = (engine.loops.map fun loop => (CrewKind.loop, loop.crew)).length := by simp
  constructor
  · unfold crews
    rw [last]
    exact List.getElem?_concat_length
  · unfold crews
    rw [last, List.set_append_right _ _ (Nat.le_refl _), Nat.sub_self]
    rfl
  · rfl
  · rfl

theorem alters_withCrewAt {seat : Seat} {old : Crew} (present : engine.crewAt? seat = some old)
    (changed : Crew) (watch : Watch) :
    ∃ kind, engine.Alters (engine.withCrewAt seat changed watch) (engine.home seat) kind old
      changed := by
  cases seat with
  | worker place =>
      cases present
      exact ⟨.pool, engine.alters_workers changed watch⟩
  | loop index =>
      obtain ⟨loop, found, rfl⟩ := Option.map_eq_some_iff.mp present
      unfold withCrewAt
      dsimp only
      rw [found]
      exact ⟨.loop, alters_loop found changed watch engine.nextLoop⟩

/-- The crew that a job comes to by an entrance. -/
def goal (engine : Engine) : Entrance → Nat
  | .rotation => engine.nextLoop.toNat % engine.loops.length
  | .loop index => index
  | .blocking | .pool => engine.loops.length

def Admits (engine next : Engine) (home : Nat) (job : Job) : Prop :=
  ∃ kind old line, old.line.submit job = .ok line
    ∧ engine.Alters next home kind old { old with line }

theorem submitTo_admits {index : Nat} {job : Job}
    (submitted : engine.submitTo index job = some (.ok next)) : engine.Admits next index job := by
  unfold submitTo at submitted
  obtain ⟨loop, present, submitted⟩ := Option.map_eq_some_iff.mp submitted
  unfold EventLoop.submit at submitted
  cases accepted : loop.crew.line.submit job with
  | error refusal =>
      rw [accepted] at submitted
      cases refusal <;> cases submitted
  | ok line =>
      rw [accepted] at submitted
      cases submitted
      exact ⟨.loop, loop.crew, line, accepted,
        alters_loop present _ engine.workshop.watch engine.nextLoop⟩

theorem submit_admits {job : Job}
    (submitted : (engine.workers.submit job).map (fun workers => { engine with workers }) = .ok next) :
    engine.Admits next engine.loops.length job := by
  unfold Pool.submit at submitted
  cases accepted : engine.workers.crew.line.submit job with
  | error refusal =>
      rw [accepted] at submitted
      cases refusal <;> cases submitted
  | ok line =>
      rw [accepted] at submitted
      cases submitted
      exact ⟨.pool, engine.workers.crew, line, accepted,
        engine.alters_workers _ engine.workshop.watch⟩

structure Stays (engine next : Engine) : Prop where
  crews : next.crews = engine.crews
  closed : next.closed = engine.closed
  watchdogClosed : next.watchdogClosed = engine.watchdogClosed

theorem Stays.refl (engine : Engine) : engine.Stays engine := ⟨rfl, rfl, rfl⟩

theorem dispatch_cases (engine : Engine) (job : Job) :
    (∃ halt, (engine.dispatch job).1 = .error halt ∧ engine.Stays (engine.dispatch job).2)
      ∨ (∃ index, (engine.dispatch job).1 = .ok index
        ∧ engine.Admits (engine.dispatch job).2 (engine.goal .rotation) job) := by
  unfold dispatch
  by_cases closed : engine.closed = true
  · rw [if_pos closed]
    exact .inl ⟨_, rfl, .refl engine⟩
  · rw [if_neg closed]
    dsimp only
    split
    · exact .inl ⟨_, rfl, rfl, rfl, rfl⟩
    · exact .inl ⟨_, rfl, rfl, rfl, rfl⟩
    · rename_i submitted
      obtain ⟨kind, old, line, accepted, alters⟩ := submitTo_admits submitted
      exact .inr ⟨_, rfl, kind, old, line, accepted,
        alters.found, alters.crews, alters.closed, alters.watchdogClosed⟩

/-- A job that is refused leaves the crews as they are; one that is taken comes to its goal. -/
theorem offer_cases {job : Job} {entrance : Entrance} {answer : Except (Halt SubmitFault) Unit}
    (offered : engine.offer job entrance = some (answer, next)) :
    (∃ halt, answer = .error halt ∧ engine.Stays next)
      ∨ (answer = .ok () ∧ engine.Admits next (engine.goal entrance) job) := by
  cases entrance with
  | rotation =>
      cases offered
      rcases engine.dispatch_cases job with ⟨halt, refused, stays⟩ | ⟨index, taken, admits⟩
      · exact .inl ⟨halt, congrArg (Except.map fun _ => ()) refused, stays⟩
      · exact .inr ⟨congrArg (Except.map fun _ => ()) taken, admits⟩
  | loop index =>
      obtain ⟨outcome, submitted, same⟩ := Option.map_eq_some_iff.mp offered
      rcases outcome_of_settled same with ⟨fault, refused, rfl⟩ | ⟨taken, rfl⟩
      · exact .inl ⟨_, refused, .refl _⟩
      · exact .inr ⟨taken, submitTo_admits submitted⟩
  | blocking =>
      rcases outcome_of_settled (Option.some.inj offered) with ⟨fault, refused, rfl⟩ | ⟨taken, done⟩
      · exact .inl ⟨_, refused, .refl _⟩
      · unfold executeBlocking at done
        by_cases closed : engine.closed = true
        · rw [if_pos closed] at done
          cases done
        · rw [if_neg closed] at done
          exact .inr ⟨taken, submit_admits done⟩
  | pool =>
      rcases outcome_of_settled (Option.some.inj offered) with ⟨fault, refused, rfl⟩ | ⟨taken, done⟩
      · exact .inl ⟨_, refused, .refl _⟩
      · exact .inr ⟨taken, submit_admits done⟩

def actorOf (engine : Engine) : Party → Actor
  | .outside _ => .caller
  | .member crew place =>
      match engine.crews[crew]?.bind (·.2.threads[place]?) with
      | some thread => .thread thread.key
      | none => .caller
  | .watchdog => .watchdog

structure AtWork (engine : Engine) (party : Party) : Prop where
  working : ∀ crew place, party = .member crew place → ∃ kind here job,
    engine.crews[crew]? = some (kind, here) ∧ here.line.posts[place]? = some (.running job)
  unwatched : party ≠ .watchdog

end Engine

/-! ### Chores -/

/-- What is done with a runtime, one thing after the other. -/
inductive Chore where
  | offer (entrance : Engine.Entrance) (panics : Bool)
  | receive (seat : Seat) (now : Nat)
  | finish (seat : Seat)
  | close (party : Party)

structure Service where
  engine : Engine
  -- The number of jobs that each crew has accepted; it is the ticket of its next one.
  accepted : Nat → Nat

namespace Service

def begin (engine : Engine) : Service := ⟨engine, fun _ => 0⟩

def run (service : Service) : Chore → Service
  | .offer entrance panics =>
      let goal := service.engine.goal entrance
      let ticket := service.accepted goal
      match service.engine.offer ⟨ticket, panics⟩ entrance with
      | none => service
      | some (.error _, engine) => { service with engine }
      | some (.ok (), engine) => ⟨engine, Function.update service.accepted goal (ticket + 1)⟩
  | .receive seat now => { service with engine := service.engine.receiveAt seat now }
  | .finish seat => { service with engine := (service.engine.finishAt seat).value }
  | .close party =>
      { service with engine := (service.engine.closeBy (service.engine.actorOf party)).value.2 }

def runAll (service : Service) : List Chore → Service
  | [] => service
  | chore :: chores => (service.run chore).runAll chores

def Fits (service : Service) : List Chore → Prop
  | [] => True
  | chore :: chores =>
      (∀ party, chore = .close party → service.engine.AtWork party)
        ∧ (service.run chore).Fits chores

end Service

namespace Campus

variable {campus : Campus} {engine next : Engine} {service : Service}

theorem Shows.crew_at (shows : campus.Shows engine) (crew : Nat) :
    engine.crews[crew]? = campus.crews[crew]?.map fun post => (post.1, post.2.crew) := by
  have same : engine.crews = _ := shows.crews.symm
  rw [same, List.getElem?_map]

theorem Shows.found (shows : campus.Shows engine) {home : Nat} {kind : CrewKind} {here : Crew}
    (present : engine.crews[home]? = some (kind, here)) :
    ∃ site, campus.crews[home]? = some (kind, site) ∧ site.crew = here := by
  rw [shows.crew_at] at present
  obtain ⟨⟨_, site⟩, found, same⟩ := Option.map_eq_some_iff.mp present
  cases same
  exact ⟨site, found, rfl⟩

theorem Shows.stays (shows : campus.Shows engine) (stays : engine.Stays next) :
    campus.Shows next where
  crews := shows.crews.trans stays.crews.symm
  closed := shows.closed.trans stays.closed.symm
  stopping := shows.stopping.trans stays.watchdogClosed.symm

theorem Shows.put (shows : campus.Shows engine) {home : Nat} {kind : CrewKind}
    {old changed : Crew} (alters : engine.Alters next home kind old changed) {site : Site}
    (same : site.crew = changed) : (campus.put home kind site).Shows next where
  crews := by
    have after : next.crews = _ := alters.crews
    unfold Campus.put
    rw [List.map_set, shows.crews, same]
    exact after.symm
  closed := shows.closed.trans alters.closed.symm
  stopping := shows.stopping.trans alters.watchdogClosed.symm

theorem Shows.actorOf (shows : campus.Shows engine) (party : Party) :
    campus.actorOf party = engine.actorOf party := by
  cases party with
  | outside _ | watchdog => rfl
  | member crew place =>
      simp only [Campus.actorOf, Engine.actorOf, threadAt?, shows.crew_at crew]
      cases campus.crews[crew]? <;> rfl

/-- The campus shows a runtime in use while no call is under way. -/
structure Reflects (campus : Campus) (service : Service) : Prop where
  shows : campus.Shows service.engine
  offers : ∀ (crew : Nat) (kind : CrewKind) (site : Site),
    campus.crews[crew]? = some (kind, site) → site.offers = service.accepted crew
  returned : ∀ quitting ∈ campus.quittings, quitting.stage.isReturned = true
  unheard : campus.lookout.post ≠ .hearing

theorem Reflects.put (reflects : campus.Reflects service) {home : Nat} {kind : CrewKind}
    {old changed : Crew} (alters : service.engine.Alters next home kind old changed)
    {before site : Site} (present : campus.crews[home]? = some (kind, before))
    (same : site.crew = changed) (accepted : Nat → Nat) (offers : site.offers = accepted home)
    (elsewhere : ∀ other, other ≠ home → accepted other = service.accepted other) :
    (campus.put home kind site).Reflects ⟨next, accepted⟩ where
  shows := reflects.shows.put alters same
  offers crew found other listed := by
    rw [put_at present] at listed
    by_cases here : home = crew
    · rw [if_pos here] at listed
      cases listed
      exact here ▸ offers
    · rw [if_neg here] at listed
      exact (reflects.offers crew found other listed).trans (elsewhere crew (Ne.symm here)).symm
  returned := reflects.returned
  unheard := reflects.unheard

theorem Reflects.quiet (reflects : campus.Reflects service) {party : Party}
    (atWork : service.engine.AtWork party) : campus.Quiet party where
  atWork := by
    cases party with
    | outside _ => exact trivial
    | watchdog => exact absurd rfl atWork.unwatched
    | member crew place =>
        obtain ⟨kind, _, job, found, running⟩ := atWork.working crew place rfl
        obtain ⟨site, present, rfl⟩ := reflects.shows.found found
        exact ⟨kind, site, job, present, running⟩
  returned := reflects.returned
  unheard hearing := absurd hearing reflects.unheard

theorem reflects_of (engine : Engine) : (of engine).Reflects (.begin engine) where
  shows := shows_of engine
  offers crew kind site present := by
    rcases List.mem_append.mp (List.mem_of_getElem? present) with loop | pool
    · obtain ⟨_, _, same⟩ := List.mem_map.mp loop
      cases same
      rfl
    · cases List.mem_singleton.mp pool
      rfl
  returned := nofun
  unheard := by
    unfold of
    cases engine.watchdogClosed <;> exact nofun

/-! ### Chores are runs -/

theorem offer_run (reflects : campus.Reflects service) (entrance : Engine.Entrance)
    (panics : Bool) :
    ∃ acts after, Run campus acts after ∧ after.Reflects (service.run (.offer entrance panics)) := by
  let goal := service.engine.goal entrance
  let job : Job := ⟨service.accepted goal, panics⟩
  unfold Service.run
  dsimp only
  split
  · exact ⟨_, _, .start, reflects⟩
  · rename_i halt next offered
    rcases Engine.offer_cases offered with ⟨_, _, stays⟩ | ⟨taken, _⟩
    · exact ⟨_, _, .start, reflects.shows.stays stays, reflects.offers, reflects.returned,
        reflects.unheard⟩
    · cases taken
  · rename_i next offered
    rcases Engine.offer_cases offered with ⟨_, refused, _⟩ | ⟨_, kind, old, line, accepted, alters⟩
    · cases refused
    · obtain ⟨site, present, rfl⟩ := reflects.shows.found alters.found
      have ticket : job.ticket = site.offers := (reflects.offers goal kind site present).symm
      have step : Step campus (.site goal (.submit (.accepted job)))
          (campus.put goal kind { site.withLine line with offers := site.offers + 1 }) :=
        .submit present (.submit (.accept accepted) rfl ticket)
      refine ⟨_, _, Execution.start.step step, reflects.put alters present rfl _ ?_ ?_⟩
      · rw [Function.update_self]
        exact congrArg (· + 1) ticket.symm
      · exact fun other elsewhere => Function.update_of_ne elsewhere _ _

theorem receive_run (reflects : campus.Reflects service) (seat : Seat) (now : Nat) :
    ∃ acts after, Run campus acts after ∧ after.Reflects (service.run (.receive seat now)) := by
  unfold Service.run Engine.receiveAt
  dsimp only
  split
  · exact ⟨_, _, .start, reflects⟩
  · rename_i crew here
    split
    · exact ⟨_, _, .start, reflects⟩
    · rename_i job changed watch received
      obtain ⟨kind, alters⟩ := Engine.alters_withCrewAt here changed watch
      obtain ⟨site, present, rfl⟩ := reflects.shows.found alters.found
      have step : Step campus (.site _ (.serve (.received seat.place job)))
          (campus.put _ kind { site with crew := changed }) :=
        .serve present (Site.receive_step kind received) nofun
      exact ⟨_, _, Execution.start.step step, reflects.put alters present rfl service.accepted
        (reflects.offers _ kind site present) fun _ _ => rfl⟩

section Started

variable {host : Host} {files : FileTree} {options : Options} {bindings : Bindings}
  {cluster : Option ClusterBinding} {handler : Option BlockedHandler} {took : Span}
  (started : (Engine.start host files options bindings cluster handler took).value = .ok engine)
  (faithful : bindings.threadFactory.RunsTasks) {acts : List Act}

include started faithful

theorem finish_run (run : Run (of engine) acts campus) (reflects : campus.Reflects service)
    (seat : Seat) :
    ∃ later after, Run campus later after ∧ after.Reflects (service.run (.finish seat)) := by
  unfold Service.run Engine.finishAt
  dsimp only
  split
  · exact ⟨_, _, .start, reflects⟩
  · rename_i crew here
    let watch := service.engine.workshop.watch
    let done := (crew.finish watch seat.place).value
    obtain ⟨kind, alters⟩ := Engine.alters_withCrewAt here done.1 done.2
    obtain ⟨site, present, rfl⟩ := reflects.shows.found alters.found
    have offers := reflects.offers _ kind site present
    by_cases busy : ∃ job, site.crew.line.posts[seat.place]? = some (.running job)
    · obtain ⟨job, running⟩ := busy
      have sound := sound_run (sound_of (opened_of_start started)) run
      obtain ⟨first, began, crewRun⟩ := crew_run run present
      obtain ⟨threads, rfl, _⟩ := crews_of_start started faithful began
      have step : Step campus
          (.site (service.engine.home seat) (.serve (.finished seat.place job)))
          (campus.put (service.engine.home seat) kind { site with crew := done.1 }) := by
        apply Step.serve present
        · exact Site.finish_step kind watch (Site.staffed_run crewRun)
            (fun closing listed _ => sound.ended reflects.returned present closing listed) running
        · exact fun _ _ _ quitting listed _ => reflects.returned quitting listed
      exact ⟨_, _, Execution.start.step step,
        reflects.put alters present rfl service.accepted offers fun _ _ => rfl⟩
    · have same : site.crew = done.1 := by
        simp only [done, Crew.finish]
        split
        · rename_i finished
          exact absurd ⟨_, (Line.finish_eq_some_iff.mp finished).1⟩ busy
        · rfl
      refine ⟨_, _, .start, ?_⟩
      rw [← put_self present]
      exact reflects.put alters present same service.accepted offers fun _ _ => rfl

theorem close_run (run : Run (of engine) acts campus) (reflects : campus.Reflects service)
    {party : Party} (atWork : service.engine.AtWork party) :
    ∃ later after, Run campus later after ∧ after.Reflects (service.run (.close party)) := by
  obtain ⟨later, after, closing, shows, leaves⟩ :=
    closeBy_run started faithful run reflects.shows (reflects.quiet atWork)
  rw [reflects.shows.actorOf] at shows
  refine ⟨later, after, closing, shows, ?_, ?_, fun hearing => ?_⟩
  · intro crew kind site present
    have kept := congrArg (·[crew]?) leaves.offers
    simp only [List.getElem?_map, present, Option.map_some] at kept
    obtain ⟨⟨old, before⟩, found, same⟩ := Option.map_eq_some_iff.mp kept.symm
    exact same.symm.trans (reflects.offers crew old before found)
  · intro quitting listed
    rw [leaves.quittings] at listed
    rcases List.mem_append.mp listed with old | new
    · exact reflects.returned quitting old
    · cases List.mem_singleton.mp new
      rfl
  · exact reflects.unheard (leaves.unheard hearing)

theorem chores_run (run : Run (of engine) acts campus) (reflects : campus.Reflects service)
    {chores : List Chore} (fits : service.Fits chores) :
    ∃ later after, Run campus later after ∧ after.Reflects (service.runAll chores) := by
  induction chores generalizing campus service acts with
  | nil => exact ⟨[], campus, .start, reflects⟩
  | cons chore chores ih =>
      obtain ⟨atWork, others⟩ := fits
      have first : ∃ later after, Run campus later after
          ∧ after.Reflects (service.run chore) := by
        cases chore with
        | offer entrance panics => exact offer_run reflects entrance panics
        | receive seat now => exact receive_run reflects seat now
        | finish seat => exact finish_run started faithful run reflects seat
        | close party => exact close_run started faithful run reflects (atWork party rfl)
      obtain ⟨later, middle, begun, still⟩ := first
      obtain ⟨last, after, ended, shown⟩ := ih (run.append begun) still others
      exact ⟨later ++ last, after, begun.append ended, shown⟩

/-- After any chores the campus of a runtime that was started has a run that shows what has become
of the runtime. -/
theorem service_run {chores : List Chore} (fits : (Service.begin engine).Fits chores) :
    ∃ acts campus, Run (of engine) acts campus
      ∧ campus.Reflects ((Service.begin engine).runAll chores) :=
  chores_run started faithful .start (reflects_of engine) fits

end Started

end Campus

end Reactor
