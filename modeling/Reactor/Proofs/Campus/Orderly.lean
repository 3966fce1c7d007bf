import Reactor.Proofs.Campus.Rest
import Reactor.Proofs.Crew.Delivery
import Reactor.Proofs.Engine.Life

/-!
Runtimes that are closed from within. However many calls close a runtime at once, from its own
threads, from the thread of its watchdog and from outside, no threads wait for one another in a
circle, each thread is waited for once and by the same call, and no thread leaves work behind.
-/

namespace Reactor

namespace Campus

section Start

variable {host : Host} {files : FileTree} {options : Options} {bindings : Bindings}
  {cluster : Option ClusterBinding} {handler : Option BlockedHandler} {took : Span}
  {engine : Engine}

theorem crews_of_start
    (started : (Engine.start host files options bindings cluster handler took).value = .ok engine)
    (faithful : bindings.threadFactory.RunsTasks) {crew : Nat} {kind : CrewKind} {site : Site}
    (present : (of engine).crews[crew]? = some (kind, site)) :
    ∃ threads, site = Site.create threads ∧ ∀ thread ∈ threads, thread.runsTask = true := by
  obtain ⟨shape, loops, workers, made, rfl, _⟩ := Engine.made_of_start started
  rcases List.mem_append.mp (List.mem_of_getElem? present) with loop | pool
  · obtain ⟨made_, listed, same⟩ := List.mem_map.mp loop
    obtain ⟨place, thread, threadListed, rfl⟩ := mem_itemsFrom listed
    cases same
    refine ⟨[thread], rfl, fun other present => ?_⟩
    rw [List.mem_singleton.mp present]
    exact (made.loopsMade.serve faithful thread threadListed).runsTask
  · cases List.mem_singleton.mp pool
    exact ⟨workers, rfl,
      fun thread listed => (made.workersMade.serve faithful thread listed).runsTask⟩

theorem opened_of_start
    (started : (Engine.start host files options bindings cluster handler took).value = .ok engine) :
    engine.closed = false := by
  obtain ⟨shape, loops, workers, made, rfl, _⟩ := Engine.made_of_start started
  rfl

end Start

/-! ### Every run -/

/-- What a run of calls that close a runtime keeps to. -/
structure Orderly (acts : List Act) (campus : Campus) : Prop where
  acyclic : ∀ party, ¬Relation.TransGen campus.Waits party party
  -- No thread is waited for twice.
  once : ((joinsIn acts).map (·.2)).Nodup
  anew : ∀ who whom, campus.Waits who whom → whom ∉ (joinsIn acts).map (·.2)
  -- One call does all the waiting.
  alone : ∃ number, (∀ join ∈ joinsIn acts, join.1 = number)
    ∧ ∀ (other : Nat) (quitting : Quitting) whom, campus.quittings[other]? = some quitting →
      campus.Awaits quitting whom → other = number
  foreign : ∀ join ∈ joinsIn acts, ∃ quitting, campus.quittings[join.1]? = some quitting
    ∧ quitting.caller ≠ join.2
  -- A thread has left only once every job that its line ever accepts has been received.
  received : ∀ (crew : Nat) (kind : CrewKind) (site : Site) (place : Nat),
    campus.crews[crew]? = some (kind, site) → site.crew.line.posts[place]? = some .gone →
    let history := Site.historyOf (actsAt crew acts)
    site.crew.line.accepting = false ∧ acceptedIn history = (receivedIn history).map (·.2)
  -- Only finitely many steps are possible without something from outside.
  finite : ∀ act next, act.isOwn = true → Step campus act next → next.work < campus.work
  -- Where none is possible every call has returned, and a closed runtime has no thread.
  live : campus.Resting →
    (∀ quitting ∈ campus.quittings, quitting.stage.isReturned = true)
      ∧ (campus.closed = true → campus.lookout.post = .gone
        ∧ ∀ (crew : Nat) (kind : CrewKind) (site : Site), campus.crews[crew]? = some (kind, site) →
          ∀ post ∈ site.crew.line.posts, post = .gone)

/-- Over every run of a runtime whose threads run their tasks themselves. -/
theorem orderly_of_run {host : Host} {files : FileTree} {options : Options} {bindings : Bindings}
    {cluster : Option ClusterBinding} {handler : Option BlockedHandler} {took : Span}
    {engine : Engine}
    (started : (Engine.start host files options bindings cluster handler took).value = .ok engine)
    (faithful : bindings.threadFactory.RunsTasks) {acts : List Act} {campus : Campus}
    (run : Run (of engine) acts campus) : campus.Orderly acts := by
  have crews {crew : Nat} {kind : CrewKind} {site : Site}
      (present : (of engine).crews[crew]? = some (kind, site)) :
      ∃ threads, site = Site.create threads ∧ ∀ thread ∈ threads, thread.runsTask = true :=
    crews_of_start started faithful present
  have beginning : (of engine).Sound := sound_of (opened_of_start started)
  have staffed : (of engine).Manned := by
    intro crew kind site present
    obtain ⟨threads, rfl, serving⟩ := crews present
    exact Site.sound_create serving kind
  have sound := sound_run beginning run
  have manned := manned_run staffed run
  have tallied : campus.Tallied (joinsIn acts) := by
    refine tallied_run beginning staffed (fun crew kind site present => ?_) run
    obtain ⟨threads, rfl, _⟩ := crews present
    exact fun closing impossible => by cases impossible
  constructor
  case acyclic => exact sound.acyclic manned
  case once => exact tallied.once
  case anew =>
    rintro who whom ⟨quitting, listed, _, awaits⟩
    exact tallied.anew listed awaits
  case alone =>
    obtain ⟨number, lone⟩ := sound.lone
    refine ⟨number, fun join listed => ?_, fun other quitting whom present awaits => ?_⟩
    · obtain ⟨quitting, present, leads, _⟩ := tallied.lead join listed
      exact lone join.1 quitting present leads
    · exact lone other quitting present awaits.leads
  case foreign =>
    intro join listed
    obtain ⟨quitting, present, _, other⟩ := tallied.lead join listed
    exact ⟨quitting, present, other⟩
  case received =>
    intro crew kind site place present gone history
    obtain ⟨first, began, crewRun⟩ := crew_run run present
    obtain ⟨threads, rfl, _⟩ := crews began
    -- A thread leaves only an empty line that accepts no more.
    obtain ⟨shut, empty⟩ := (manned crew kind site present).staying place gone
    have inOrder : site.crew.line.InOrder history := Site.inOrder_run rfl (Site.line_run crewRun)
    constructor
    · exact shut
    · rw [inOrder, empty, List.append_nil]
  case finite => exact fun act next own step => work_lt step own
  case live =>
    intro resting
    exact ⟨resting.returned sound manned, resting.gone sound manned⟩

def sparse : Options := { Options.standard 1 with eventLoopPoolSize := 1, workerPoolSize := 1 }

def sparseBindings : Bindings :=
  ⟨.portable, none, none, none, none, .named "files" true none, .standard, .standard⟩

def lonely : Campus where
  crews :=
    [(.loop, .create [⟨0, ⟨"strand-event-loop-0", .eventLoop, some (.ofSeconds 2)⟩, .runs⟩]),
      (.pool, .create [⟨1, .worker "strand-worker-0" (some (.ofSeconds 60)), .runs⟩])]
  lookout := ⟨false, true, .sleeping⟩
  closed := false
  quittings := []

theorem started_lonely : ∃ engine,
    (Engine.start default default sparse sparseBindings none none default).value = .ok engine
      ∧ of engine = lonely :=
  ⟨_, rfl, rfl⟩

/-- A job of the loop and one of the worker both close the runtime. The loop's is first: it does
not wait for its own thread, but for the worker, whose job ends after its late call. -/
def rivals : List Act :=
  [.site 0 (.submit (.accepted ⟨0, false⟩)), .site 0 (.serve (.received 0 ⟨0, false⟩)),
    .site 1 (.submit (.accepted ⟨0, true⟩)), .site 1 (.serve (.received 0 ⟨0, true⟩)),
    .call (.member 1 0), .call (.member 0 0), .move 1, .site 0 (.call (some 0)),
    .site 0 (.hangUp 0), .site 0 (.proceed 0), .site 0 (.proceed 0), .move 1,
    .site 1 (.call none), .site 1 (.hangUp 0), .site 1 (.proceed 0), .move 0,
    .site 1 (.serve (.finished 0 ⟨0, true⟩)), .site 1 (.serve (.exited 0)), .join 1 1 0 0,
    .site 1 (.proceed 0), .move 1, .move 1, .move 1, .watch .gone, .meet 1, .move 1]

theorem run_rivals : ∃ campus, Run lonely rivals campus
    ∧ campus.quittings = [⟨.member 1 0, .returned false⟩, ⟨.member 0 0, .returned true⟩] := by
  have accepted := Execution.step (.start : Run lonely [] lonely)
    (show Step _ (.site 0 (.submit (.accepted ⟨0, false⟩))) _ from
      .submit rfl (.submit (.accept rfl) rfl rfl))
  have received := accepted.step
    (show Step _ (.site 0 (.serve (.received 0 ⟨0, false⟩))) _ from .serve rfl (.receive rfl) nofun)
  have offered := received.step
    (show Step _ (.site 1 (.submit (.accepted ⟨0, true⟩))) _ from
      .submit rfl (.submit (.accept rfl) rfl rfl))
  have taken := offered.step
    (show Step _ (.site 1 (.serve (.received 0 ⟨0, true⟩))) _ from .serve rfl (.receive rfl) nofun)
  have worker := taken.step
    (show Step _ (.call (.member 1 0)) _ from .call ⟨_, _, _, rfl, rfl⟩ nofun)
  have loop := worker.step
    (show Step _ (.call (.member 0 0)) _ from .call ⟨_, _, _, rfl, rfl⟩ (by decide))
  have first := loop.step (show Step _ (.move 1) _ from .first rfl rfl rfl)
  have entered := first.step (show Step _ (.site 0 (.call (some 0))) _ from
    @Step.enter _ 1 0 ⟨.member 0 0, .before 0⟩ _ _ _ rfl rfl rfl (.call fun place here => by
      cases here
      exact ⟨⟨_, rfl⟩, nofun⟩))
  have shut := entered.step (show Step _ (.site 0 (.hangUp 0)) _ from
    @Step.stop _ 1 0 0 _ _ _ _ _ rfl rfl rfl (.hangUp rfl rfl nofun) (.inl rfl) nofun)
  have spared := shut.step (show Step _ (.site 0 (.proceed 0)) _ from
    @Step.stop _ 1 0 0 _ _ _ _ _ rfl rfl rfl (.take rfl rfl rfl) (.inr rfl) nofun)
  have settled := spared.step (show Step _ (.site 0 (.proceed 0)) _ from
    @Step.stop _ 1 0 0 _ _ _ _ _ rfl rfl rfl (.settle rfl rfl) (.inr rfl) nofun)
  have onward := settled.step (show Step _ (.move 1) _ from .leave rfl rfl rfl rfl rfl)
  have arrived := onward.step (show Step _ (.site 1 (.call none)) _ from
    @Step.enter _ 1 1 ⟨.member 0 0, .before 1⟩ _ _ _ rfl rfl rfl (.call nofun))
  have closed := arrived.step (show Step _ (.site 1 (.hangUp 0)) _ from
    @Step.stop _ 1 1 0 _ _ _ _ _ rfl rfl rfl (.hangUp rfl rfl fun _ => rfl) (.inl rfl) nofun)
  have waiting := closed.step (show Step _ (.site 1 (.proceed 0)) _ from
    @Step.stop _ 1 1 0 _ _ _ _ _ rfl rfl rfl (.take rfl rfl rfl) (.inr rfl) nofun)
  have late := waiting.step (show Step _ (.move 0) _ from .late rfl rfl rfl)
  have done : ∀ quitting ∈ [Quitting.mk (.member 1 0) (.returned false),
      ⟨.member 0 0, .within 1 0⟩], quitting.caller = .member 1 0 →
      quitting.stage.isReturned = true := by decide
  have finished := late.step (show Step _ (.site 1 (.serve (.finished 0 ⟨0, true⟩))) _ from
    .serve rfl (.finish nofun rfl) fun place job same => by cases same; exact done)
  have gone := finished.step (show Step _ (.site 1 (.serve (.exited 0))) _ from
    .serve rfl (.leave rfl) nofun)
  have met := gone.step (show Step _ (.join 1 1 0 0) _ from
    .join rfl rfl rfl rfl rfl (.join rfl rfl rfl))
  have emptied := met.step (show Step _ (.site 1 (.proceed 0)) _ from
    @Step.stop _ 1 1 0 _ _ _ _ _ rfl rfl rfl (.settle rfl rfl) (.inr rfl) nofun)
  have stopped := emptied.step (show Step _ (.move 1) _ from .leave rfl rfl rfl rfl rfl)
  have told := stopped.step (show Step _ (.move 1) _ from .signal rfl rfl)
  have collected := told.step (show Step _ (.move 1) _ from .collect rfl rfl rfl)
  have exited := collected.step (show Step _ (.watch .gone) _ from .exit rfl rfl)
  have parted := exited.step (show Step _ (.meet 1) _ from .meet rfl rfl rfl)
  exact ⟨_, parted.step (show Step _ (.move 1) _ from .part rfl rfl), rfl⟩

theorem orderly_of_run_rivals : ∃ engine campus,
    (Engine.start default default sparse sparseBindings none none default).value = .ok engine
      ∧ Run (of engine) rivals campus
      ∧ campus.Orderly rivals
      ∧ joinsIn rivals = [(1, .member 1 0), (1, .watchdog)] := by
  obtain ⟨engine, started, same⟩ := started_lonely
  obtain ⟨campus, run, _⟩ := run_rivals
  rw [← same] at run
  exact ⟨engine, campus, started, run,
    orderly_of_run started ThreadFactory.runsTasks_standard run, rfl⟩

end Campus

end Reactor
