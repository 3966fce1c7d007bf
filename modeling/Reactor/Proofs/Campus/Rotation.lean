import Reactor.Proofs.Campus.Turns
import Reactor.Proofs.Crew.Serial

/-!
The event loops of a runtime over every run of calls, direct submissions, work and closing. The
loop whose turn it is follows from the number of turns before; each loop runs what has come in
there, in that order; and a loop that has lost its thread refuses its share and disturbs no other.
-/

namespace Reactor

namespace Campus

variable {campus : Campus}

/-- Once the calls of a job have returned, none of them keeps its thread. -/
theorem Sound.free_of_done (sound : campus.Sound) {crew place : Nat} {kind : CrewKind}
    {site : Site} (present : campus.crews[crew]? = some (kind, site))
    (done : campus.Done (.member crew place)) : site.Free place := by
  cases closed : campus.closed with
  | false =>
      intro closing listed
      rw [sound.fresh closed crew kind site present] at listed
      cases listed
  | true =>
      obtain ⟨quitting, listed, leads⟩ := sound.led closed
      have follows := sound.follows quitting listed leads
      by_cases own : quitting.caller = .member crew place
      · have past := QuitStage.isPast_of_returned leads (done quitting listed own)
        obtain ⟨decisive, closings⟩ := follows.visited past present
        intro closing found _
        rw [closings, List.mem_singleton] at found
        subst closing
        exact ⟨decisive, rfl⟩
      · exact follows.free present own

end Campus

namespace Rota

def finishedAt (crew : Nat) (turns : List Turn) : List Job :=
  (finishedIn (Site.historyOf (Campus.actsAt crew (actsOf turns)))).map (·.2)

/-- What the thread of a loop makes of the jobs that have come in there. -/
structure Runs (index : Nat) (turns : List Turn) (campus : Campus) (site : Site) : Prop where
  alone : ∃ post, site.crew.line.posts = [post]
  inOrder : takenAt index turns
    = finishedAt index turns ++ (Line.runningAt site.crew.line.posts 0 ++ site.crew.line.queue)
  receives : ∀ job queue, site.crew.line.posts = [.waiting] → site.crew.line.queue = job :: queue →
    ∃ after, Campus.Step campus (.site index (.serve (.received 0 job))) after
  finishes : ∀ job, site.crew.line.posts = [.running job] → campus.Done (.member index 0) →
    ∃ after, Campus.Step campus (.site index (.serve (.finished 0 job))) after
  survives : ∀ job after, Campus.Step campus (.site index (.serve (.finished 0 job))) after →
    ∃ next, after.crews[index]? = some (.loop, next) ∧ next.crew.line.posts = [.waiting]
  exited : site.crew.line.posts = [.gone] → takenAt index turns = finishedAt index turns
    ∧ ∀ job, ∃ refusal, site.crew.line.submit job = .error refusal
  rest : campus.Resting → (∀ quitting ∈ campus.quittings, quitting.stage.isReturned = true) →
    takenAt index turns = finishedAt index turns

theorem runs_of_serial {index : Nat} {turns : List Turn} {campus : Campus} {site : Site}
    (sound : campus.Sound) (present : campus.crews[index]? = some (.loop, site))
    (jobs : acceptedIn (Site.historyOf (Campus.actsAt index (actsOf turns))) = takenAt index turns)
    (serial : Line.Serial (Site.historyOf (Campus.actsAt index (actsOf turns))) site.crew.line) :
    Runs index turns campus site := by
  have complete (idle : Line.runningAt site.crew.line.posts 0 = [])
      (empty : site.crew.line.queue = []) : takenAt index turns = finishedAt index turns :=
    jobs.symm.trans (serial.finished idle empty)
  have receives (job : Job) (queue : List Job) (waiting : site.crew.line.posts = [.waiting])
      (found : site.crew.line.queue = job :: queue) :
      ∃ after, Campus.Step campus (.site index (.serve (.received 0 job))) after := by
    obtain ⟨line, received⟩ := Line.receive_alone waiting found
    exact ⟨_, .serve present (.receive received) nofun⟩
  have finishes (job : Job) (running : site.crew.line.posts = [.running job])
      (done : campus.Done (.member index 0)) :
      ∃ after, Campus.Step campus (.site index (.serve (.finished 0 job))) after := by
    have finished : site.crew.line.finish 0 = some (job, _) :=
      Line.finish_eq_some_iff.mpr ⟨by rw [running]; rfl, rfl⟩
    refine ⟨_, .serve present (.finish (sound.free_of_done present done) finished) ?_⟩
    intro place other same
    cases same
    exact done
  constructor
  case alone => exact serial.alone
  case inOrder => exact jobs.symm.trans serial.inTurn
  case receives => exact receives
  case finishes => exact finishes
  case survives =>
    intro job after step
    cases step with
    | stop _ _ _ _ onward _ => rcases onward with same | same <;> cases same
    | serve found siteStep _ =>
        cases found.symm.trans present
        cases siteStep with
        | finish _ finished =>
            refine ⟨_, (Campus.put_at present _ index).trans (if_pos rfl), ?_⟩
            exact Line.finish_alone serial finished
  case exited =>
    intro gone
    refine ⟨complete ?_ (serial.left gone), fun job => Line.submit_gone gone job⟩
    rw [gone]
    rfl
  case rest =>
    intro resting returned
    obtain ⟨post, alone⟩ := serial.alone
    cases post with
    | waiting =>
        -- A thread that waits at rest has nothing in its line: it could take it.
        refine complete (by rw [alone]; rfl) ?_
        cases found : site.crew.line.queue with
        | nil => rfl
        | cons job queue =>
            obtain ⟨after, step⟩ := receives job queue alone found
            exact absurd step (resting _ _ rfl)
    | running job =>
        obtain ⟨after, step⟩ := finishes job alone fun quitting listed _ => returned quitting listed
        exact absurd step (resting _ _ rfl)
    | gone => exact complete (by rw [alone]; rfl) (serial.left alone)

/-! ### Every run -/

/-- How a runtime hands jobs to its loops, and what becomes of them there. -/
structure InTurn (engine : Engine) (turns : List Turn) (rota : Rota) : Prop where
  shows : rota.campus.Shows rota.engine
  placed : ∀ before entrance job crew later, turns = before ++ .taken entrance job crew :: later →
    crew = placeOf engine.loops.length (rotations before) entrance
  -- Only the loop whose turn it is refuses a job in its turn.
  refused : ∀ before job halt later, turns = before ++ .refused .rotation job halt :: later →
    halt = .failed .runtimeClosed
      ∨ ∃ name, name = Engine.loopName (placeOf engine.loops.length (rotations before) .rotation)
        ∧ (halt = .failed (.loopStopped name) ∨ halt = .failed (.loopExited name))
  barred : rota.engine.closed = true → ∀ job,
    rota.engine.dispatch job = (.error (.failed .runtimeClosed), rota.engine)
  -- The loop whose turn it is gets the job, and nothing else changes but the rotation.
  next : rota.engine.closed = false → ∃ place loop,
    place = placeOf engine.loops.length (rotations turns) .rotation
      ∧ rota.engine.loops[place]? = some loop
      ∧ ∀ job, (rota.engine.dispatch job).1 ≠ .error (.failed .runtimeClosed)
        ∧ rota.engine.dispatch job
        = match loop.submit job with
          | .error fault =>
              (.error (.failed fault), { rota.engine with nextLoop := rota.engine.nextLoop + 1 })
          | .ok changed =>
              (.ok place,
                { rota.engine with
                  nextLoop := rota.engine.nextLoop + 1
                  loops := rota.engine.loops.set place changed })
  closing : ∀ actor, (rota.engine.closeBy actor).value.2.nextLoop = rota.engine.nextLoop
  loops : ∀ index < engine.loops.length, ∃ site, rota.campus.crews[index]? = some (.loop, site)
    ∧ rota.engine.loops[index]? = some ⟨Engine.loopName index, site.crew⟩
    ∧ Runs index turns rota.campus site
  -- Every call is answered, by the crew where it belongs or by none.
  answered : ∀ entrance panics,
    (∀ index, entrance = .loop index → index < engine.loops.length) →
    ∃ ticket next,
      Step rota (.taken entrance ⟨ticket, panics⟩
          (placeOf engine.loops.length (rotations turns) entrance)) next
        ∨ ∃ halt, Step rota (.refused entrance ⟨ticket, panics⟩ halt) next
  acts : ∀ act after, Campus.Step rota.campus act after → ¬IsSubmission act →
    ∃ now, Step rota (.act act) ⟨now, after⟩
  finite : ∀ act after, act.isOwn = true → Campus.Step rota.campus act after →
    after.work < rota.campus.work

section Start

variable {host : Host} {files : FileTree} {options : Options} {bindings : Bindings}
  {cluster : Option ClusterBinding} {handler : Option BlockedHandler} {took : Span}
  {engine : Engine}

theorem loop_of_start
    (started : (Engine.start host files options bindings cluster handler took).value = .ok engine)
    {index : Nat} (within : index < engine.loops.length) :
    ∃ thread, engine.loops[index]? = some (Engine.freshLoop index thread) := by
  obtain ⟨_, threads, _, _, rfl, _⟩ := Engine.made_of_start started
  have there : index < threads.length := by
    rw [← length_itemsFrom Engine.freshLoop 0 threads]
    exact within
  refine ⟨threads[index], ?_⟩
  change (itemsFrom Engine.freshLoop 0 threads)[index]? = _
  rw [getElem?_itemsFrom, Nat.zero_add, List.getElem?_eq_getElem there]
  rfl

theorem name_of_start
    (started : (Engine.start host files options bindings cluster handler took).value = .ok engine)
    {index : Nat} {name : String} (present : engine.names[index]? = some name) :
    name = Engine.loopName index := by
  have within := (List.getElem?_eq_some_iff.mp present).1
  rw [Engine.names, List.length_map] at within
  obtain ⟨thread, found⟩ := loop_of_start started within
  rw [Engine.names, List.getElem?_map, found] at present
  exact (Option.some.inj present).symm

theorem keeps_of_start
    (started : (Engine.start host files options bindings cluster handler took).value = .ok engine)
    {turns : List Turn} {rota : Rota} (run : Run ⟨engine, .of engine⟩ turns rota) :
    Keeps engine turns rota := by
  refine keeps_run ?_ run
  obtain ⟨_, _, _, _, rfl, _⟩ := Engine.made_of_start started
  rfl

theorem loop_runs
    (started : (Engine.start host files options bindings cluster handler took).value = .ok engine)
    {turns : List Turn} {rota : Rota} (keeps : Keeps engine turns rota) {index : Nat}
    (within : index < engine.loops.length) :
    ∃ site, rota.campus.crews[index]? = some (.loop, site)
      ∧ rota.engine.loops[index]? = some ⟨Engine.loopName index, site.crew⟩
      ∧ Runs index turns rota.campus site := by
  obtain ⟨thread, fresh⟩ := loop_of_start started within
  have inside : index < rota.engine.loops.length := keeps.length ▸ within
  rcases listed : rota.engine.loops[index] with ⟨name, crew⟩
  have present : rota.engine.loops[index]? = some ⟨name, crew⟩ := by
    rw [List.getElem?_eq_getElem inside, listed]
  have named : name = Engine.loopName index := name_of_start started (keeps.name_at present)
  obtain ⟨site, found, rfl⟩ :=
    keeps.shows.found ((Engine.crews_loop inside).trans (congrArg (Option.map _) present))
  -- The crew began with one thread and an empty line, so whatever it went through was serial.
  obtain ⟨first, began, siteRun⟩ := Campus.crew_run keeps.run found
  have start : first.crew = .create [thread] := by
    obtain ⟨loop, same, _, crew⟩ := (Campus.shows_of engine).kind_loop began within
    cases same.symm.trans fresh
    exact crew
  have serial := Line.serial_run (start ▸ Line.serial_create thread) (Site.line_run siteRun)
  have sound := Campus.sound_run (Campus.sound_of (Campus.opened_of_start started)) keeps.run
  subst named
  exact ⟨site, found, present, runs_of_serial sound found (keeps.jobs index) serial⟩

theorem loops_in_turn
    (started : (Engine.start host files options bindings cluster handler took).value = .ok engine)
    (looped : engine.loops ≠ []) {turns : List Turn} {rota : Rota}
    (run : Run ⟨engine, .of engine⟩ turns rota) : InTurn engine turns rota := by
  have keeps := keeps_of_start started run
  constructor
  case shows => exact keeps.shows
  case placed =>
    rintro before entrance job crew later rfl
    obtain ⟨earlier, _, first, step⟩ := run.step_between
    exact (keeps_of_start started first).placed step
  case refused =>
    rintro before job halt later rfl
    obtain ⟨earlier, _, first, step⟩ := run.step_between
    rcases (keeps_of_start started first).refused looped step with shut | ⟨name, listed, named⟩
    · exact Or.inl shut
    · exact Or.inr ⟨name, name_of_start started listed, named⟩
  case barred => exact fun closed job => Engine.dispatch_closed closed job
  case next =>
    intro opened
    obtain ⟨loop, present⟩ := keeps.loop_next looped
    refine ⟨_, loop, keeps.goal .rotation, present, fun job => ⟨?_, ?_⟩⟩
    · exact Engine.dispatch_admits opened present job
    · exact Engine.dispatch_open opened present job
  case closing => exact fun actor => (rota.engine.names_closeBy actor).2
  case loops => exact fun index within => loop_runs started keeps within
  case answered => exact fun entrance panics there => keeps.can_offer looped there panics
  case acts => exact fun act after step other => keeps.can_act step other
  case finite => exact fun act after own step => Campus.work_lt step own

end Start

/-- The second thread that it makes drops its task. -/
def absent : ThreadFactory where
  name := some "absent"
  answer calls descriptor := .ok (descriptor, if calls = 1 then .discards else .runs)

def threeLoops : Options :=
  { Options.standard 1 with eventLoopPoolSize := 3, workerPoolSize := 1 }

def absentBindings : Bindings :=
  ⟨.portable, none, none, none, none, .named "files" true none, absent, .standard⟩

def trio : Engine :=
  let wanted := Engine.loopWanted threeLoops.maxEventLoopExecuteTime
  .unused default default threeLoops absentBindings none none (Engine.workersShape threeLoops)
    [⟨0, wanted 0, .runs⟩, ⟨1, wanted 1, .discards⟩, ⟨2, wanted 2, .runs⟩]
    [⟨3, Pool.wanted (Engine.workersShape threeLoops) 0, .runs⟩]

theorem started_trio :
    (Engine.start default default threeLoops absentBindings none none default).value = .ok trio :=
  rfl

/-- The first loop runs a job that panics, the second one has no thread, and a job goes straight to
the third one. Then somebody closes the runtime, but has not yet come to the first loop. -/
def mixed : List Turn :=
  [.taken .rotation ⟨0, true⟩ 0,
    .refused .rotation ⟨0, false⟩ (.failed (.loopExited "strand-event-loop-1")),
    .taken (.loop 2) ⟨0, false⟩ 2, .act (.site 0 (.serve (.received 0 ⟨0, true⟩))),
    .taken .rotation ⟨1, false⟩ 2, .taken .blocking ⟨0, false⟩ 3,
    .act (.site 0 (.serve (.finished 0 ⟨0, true⟩))), .taken .rotation ⟨1, false⟩ 0,
    .act (.call (.outside 0)), .act (.move 0),
    .refused .rotation ⟨0, false⟩ (.failed .runtimeClosed), .taken (.loop 0) ⟨2, false⟩ 0]

theorem run_mixed : ∃ rota, Run ⟨trio, .of trio⟩ mixed rota := by
  have acting {turns : List Turn} {rota : Rota} {act : Campus.Act} {after : Campus}
      (run : Run ⟨trio, .of trio⟩ turns rota) (other : ¬IsSubmission act)
      (step : Campus.Step rota.campus act after) :
      Run ⟨trio, .of trio⟩ (turns ++ [.act act]) ⟨rota.engine.showing after, after⟩ :=
    have shows := (keeps_of_start started_trio run).shows
    run.step (.act step other (shows.showing step) (Campus.names_showing shows step) rfl)
  have first := Execution.start.step (show Step ⟨trio, .of trio⟩ (.taken .rotation ⟨0, true⟩ 0) _ from
    .taken rfl (.submit rfl (.submit (.accept rfl) rfl rfl)) ⟨rfl, rfl, rfl⟩)
  have deserted := first.step (show Step _
    (.refused .rotation ⟨0, false⟩ (.failed (.loopExited "strand-event-loop-1"))) _ from
    .refused rfl)
  have straight := deserted.step (show Step _ (.taken (.loop 2) ⟨0, false⟩ 2) _ from
    .taken rfl (.submit rfl (.submit (.accept rfl) rfl rfl)) ⟨rfl, rfl, rfl⟩)
  have received := acting straight id
    (show Campus.Step _ (.site 0 (.serve (.received 0 ⟨0, true⟩))) _ from
      .serve rfl (.receive rfl) nofun)
  have third := received.step (show Step _ (.taken .rotation ⟨1, false⟩ 2) _ from
    .taken rfl (.submit rfl (.submit (.accept rfl) rfl rfl)) ⟨rfl, rfl, rfl⟩)
  have worker := third.step (show Step _ (.taken .blocking ⟨0, false⟩ 3) _ from
    .taken rfl (.submit rfl (.submit (.accept rfl) rfl rfl)) ⟨rfl, rfl, rfl⟩)
  have panicked := acting worker id
    (show Campus.Step _ (.site 0 (.serve (.finished 0 ⟨0, true⟩))) _ from
      .serve rfl (.finish nofun rfl) fun _ _ _ => nofun)
  have again := panicked.step (show Step _ (.taken .rotation ⟨1, false⟩ 0) _ from
    .taken rfl (.submit rfl (.submit (.accept rfl) rfl rfl)) ⟨rfl, rfl, rfl⟩)
  have called := acting again id (show Campus.Step _ (.call (.outside 0)) _ from
    .call trivial nofun)
  have closed := acting called id (show Campus.Step _ (.move 0) _ from .first rfl rfl rfl)
  have barred := closed.step (show Step _
    (.refused .rotation ⟨0, false⟩ (.failed .runtimeClosed)) _ from .refused rfl)
  exact ⟨_, barred.step (show Step _ (.taken (.loop 0) ⟨2, false⟩ 0) _ from
    .taken rfl (.submit rfl (.submit (.accept rfl) rfl rfl)) ⟨rfl, rfl, rfl⟩)⟩

theorem loops_in_turn_mixed : ∃ rota,
    (Engine.start default default threeLoops absentBindings none none default).value = .ok trio
      ∧ trio.loops ≠ []
      ∧ Run ⟨trio, .of trio⟩ mixed rota
      ∧ InTurn trio mixed rota
      ∧ takenAt 0 mixed = [⟨0, true⟩, ⟨1, false⟩, ⟨2, false⟩]
      ∧ takenAt 1 mixed = []
      ∧ takenAt 2 mixed = [⟨0, false⟩, ⟨1, false⟩]
      ∧ finishedAt 0 mixed = [⟨0, true⟩] := by
  obtain ⟨rota, run⟩ := run_mixed
  exact ⟨rota, started_trio, nofun, run, loops_in_turn started_trio nofun run, rfl, rfl, rfl, rfl⟩

end Rota

end Reactor
