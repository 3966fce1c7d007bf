import Reactor.Proofs.Campus.Chores

/-!
Jobs for the event loops of a runtime that is in use. The loops take turns: each job that finds the
runtime open and names no loop goes to the next one, whether that loop takes it or not. What a loop
has taken it runs in that order, one job at a time, whatever becomes of the other loops.
-/

namespace Reactor

theorem EventLoop.submit_cases (loop : EventLoop) (job : Job) :
    (∃ line, loop.crew.line.submit job = .ok line
        ∧ loop.submit job = .ok { loop with crew := { loop.crew with line } })
      ∨ ∃ fault, loop.submit job = .error fault
        ∧ (fault = .loopStopped loop.name ∨ fault = .loopExited loop.name) := by
  unfold EventLoop.submit
  cases loop.crew.line.submit job with
  | ok line => exact Or.inl ⟨line, rfl, rfl⟩
  | error refusal =>
      cases refusal with
      | hungUp => exact Or.inr ⟨_, rfl, Or.inl rfl⟩
      | deserted => exact Or.inr ⟨_, rfl, Or.inr rfl⟩

namespace Engine

variable {engine next : Engine} {job : Job}

def names (engine : Engine) : List String := engine.loops.map (·.name)

theorem dispatch_closed (closed : engine.closed = true) (job : Job) :
    engine.dispatch job = (.error (.failed .runtimeClosed), engine) := by
  unfold dispatch
  rw [if_pos closed]

theorem dispatch_unclosed (opened : engine.closed = false) (job : Job) :
    engine.dispatch job
      = match submitTo { engine with nextLoop := engine.nextLoop + 1 } (engine.goal .rotation) job with
        | none => (.error (.panicked .noRemainder), { engine with nextLoop := engine.nextLoop + 1 })
        | some (.error fault) =>
            (.error (.failed fault), { engine with nextLoop := engine.nextLoop + 1 })
        | some (.ok next) => (.ok (engine.goal .rotation), next) := by
  have shut : ¬engine.closed = true := by
    rw [opened]
    exact Bool.false_ne_true
  unfold dispatch
  rw [if_neg shut]
  rfl

theorem dispatch_open {loop : EventLoop} (opened : engine.closed = false)
    (present : engine.loops[engine.goal .rotation]? = some loop) (job : Job) :
    engine.dispatch job
      = match loop.submit job with
        | .error fault => (.error (.failed fault), { engine with nextLoop := engine.nextLoop + 1 })
        | .ok changed =>
            (.ok (engine.goal .rotation),
              { engine with
                nextLoop := engine.nextLoop + 1
                loops := engine.loops.set (engine.goal .rotation) changed }) := by
  rw [dispatch_unclosed opened]
  unfold submitTo
  dsimp only
  rw [present, Option.map_some]
  cases loop.submit job <;> rfl

theorem dispatch_admits {loop : EventLoop} (opened : engine.closed = false)
    (present : engine.loops[engine.goal .rotation]? = some loop) (job : Job) :
    (engine.dispatch job).1 ≠ .error (.failed .runtimeClosed) := by
  rw [dispatch_open opened present]
  rcases loop.submit_cases job with ⟨_, _, accepted⟩ | ⟨fault, refused, named⟩
  · rw [accepted]
    exact nofun
  · rw [refused]
    rcases named with rfl | rfl
    · exact nofun
    · exact nofun

theorem names_set {index : Nat} {loop changed : EventLoop}
    (present : engine.loops[index]? = some loop) (same : changed.name = loop.name) :
    (engine.loops.set index changed).map (·.name) = engine.names := by
  have here : engine.names[index]? = some changed.name := by
    rw [names, List.getElem?_map, present, same]
    rfl
  obtain ⟨within, found⟩ := List.getElem?_eq_some_iff.mp here
  rw [List.map_set, ← found]
  exact List.set_getElem_self within

theorem names_submitTo {index : Nat} (submitted : engine.submitTo index job = some (.ok next)) :
    next.names = engine.names ∧ next.nextLoop = engine.nextLoop := by
  obtain ⟨loop, present, taken⟩ := Option.map_eq_some_iff.mp submitted
  rcases loop.submit_cases job with ⟨line, _, accepted⟩ | ⟨fault, refused, _⟩
  · rw [accepted] at taken
    cases taken
    exact ⟨names_set present rfl, rfl⟩
  · rw [refused] at taken
    cases taken

theorem names_submit
    (submitted : (engine.workers.submit job).map (fun workers => { engine with workers }) = .ok next) :
    next.names = engine.names ∧ next.nextLoop = engine.nextLoop := by
  cases taken : engine.workers.submit job with
  | error fault =>
      rw [taken] at submitted
      cases submitted
  | ok workers =>
      rw [taken] at submitted
      cases submitted
      exact ⟨rfl, rfl⟩

theorem names_executeBlocking (submitted : engine.executeBlocking job = .ok next) :
    next.names = engine.names ∧ next.nextLoop = engine.nextLoop := by
  unfold executeBlocking at submitted
  by_cases closed : engine.closed = true
  · rw [if_pos closed] at submitted
    cases submitted
  · rw [if_neg closed] at submitted
    exact names_submit submitted

/-- Whether a job that came in like this, and was answered so, has had a turn of the rotation. -/
def turns : Entrance → Except (Halt SubmitFault) Unit → Bool
  | .rotation, .error (.failed .runtimeClosed) => false
  | .rotation, _ => true
  | .loop _, _ | .blocking, _ | .pool, _ => false

theorem dispatch_moves (engine : Engine) (job : Job) :
    (engine.dispatch job).2.names = engine.names
      ∧ (engine.dispatch job).2.nextLoop
        = if turns .rotation ((engine.dispatch job).1.map fun _ => ()) then engine.nextLoop + 1
          else engine.nextLoop := by
  cases closed : engine.closed with
  | true =>
      rw [dispatch_closed closed]
      exact ⟨rfl, rfl⟩
  | false =>
      cases present : engine.loops[engine.goal .rotation]? with
      | none =>
          rw [dispatch_unclosed closed, submitTo, present]
          exact ⟨rfl, rfl⟩
      | some loop =>
          rw [dispatch_open closed present]
          rcases loop.submit_cases job with ⟨line, _, accepted⟩ | ⟨fault, refused, named⟩
          · rw [accepted]
            exact ⟨names_set present rfl, rfl⟩
          · rw [refused]
            rcases named with rfl | rfl
            · exact ⟨rfl, rfl⟩
            · exact ⟨rfl, rfl⟩

/-- No other job than the one that has its turn moves the rotation on, and no loop is renamed. -/
theorem offer_moves {entrance : Entrance} {answer : Except (Halt SubmitFault) Unit}
    (offered : engine.offer job entrance = some (answer, next)) :
    next.names = engine.names
      ∧ next.nextLoop = if turns entrance answer then engine.nextLoop + 1 else engine.nextLoop := by
  cases entrance with
  | rotation =>
      cases offered
      exact engine.dispatch_moves job
  | loop index =>
      obtain ⟨outcome, submitted, same⟩ := Option.map_eq_some_iff.mp offered
      rcases outcome_of_settled same with ⟨_, _, rfl⟩ | ⟨_, rfl⟩
      · exact ⟨rfl, rfl⟩
      · exact names_submitTo submitted
  | blocking =>
      rcases outcome_of_settled (Option.some.inj offered) with ⟨_, _, rfl⟩ | ⟨_, done⟩
      · exact ⟨rfl, rfl⟩
      · exact names_executeBlocking done
  | pool =>
      rcases outcome_of_settled (Option.some.inj offered) with ⟨_, _, rfl⟩ | ⟨_, done⟩
      · exact ⟨rfl, rfl⟩
      · exact names_submit done

theorem names_stopLoops (watch : Watch) (actor : Actor) (loops : List EventLoop) :
    (stopLoops watch actor loops).value.2.1.map (·.name) = loops.map (·.name) := by
  induction loops generalizing watch with
  | nil => rfl
  | cons loop loops ih => exact congrArg (loop.name :: ·) (ih (loop.stop watch actor).value.2.2)

theorem names_closeBy (engine : Engine) (actor : Actor) :
    (engine.closeBy actor).value.2.names = engine.names
      ∧ (engine.closeBy actor).value.2.nextLoop = engine.nextLoop := by
  cases closed : engine.closed with
  | true =>
      unfold closeBy
      rw [if_pos closed]
      exact ⟨rfl, rfl⟩
  | false =>
      obtain ⟨files, value⟩ := value_closeBy closed actor
      rw [value]
      exact ⟨names_stopLoops _ _ _, rfl⟩

def showing (engine : Engine) (campus : Campus) : Engine :=
  { engine with
    loops := List.zipWith (fun loop post => { loop with crew := post.2.crew }) engine.loops
      campus.crews
    workers :=
      { engine.workers with
        crew := (campus.crews[engine.loops.length]?.map (·.2.crew)).getD engine.workers.crew }
    closed := campus.closed
    watchdogClosed := campus.lookout.stopping }

theorem length_crews (engine : Engine) : engine.crews.length = engine.loops.length + 1 := by
  simp [crews]

theorem crews_loop {index : Nat} (within : index < engine.loops.length) :
    engine.crews[index]? = engine.loops[index]?.map fun loop => (.loop, loop.crew) := by
  unfold crews
  rw [List.getElem?_append_left (by simpa using within), List.getElem?_map]

theorem crews_pool (engine : Engine) :
    engine.crews[engine.loops.length]? = some (.pool, engine.workers.crew) := by
  unfold crews
  rw [List.getElem?_append_right (by simp), List.length_map, Nat.sub_self]
  rfl

end Engine

namespace Campus

variable {campus after : Campus} {engine next : Engine}

theorem Shows.length (shows : campus.Shows engine) :
    campus.crews.length = engine.loops.length + 1 := by
  have same := congrArg List.length shows.crews
  rw [List.length_map] at same
  exact same.trans engine.length_crews

theorem accepted_step {crew : Nat} {job : Job}
    (step : Step campus (.site crew (.submit (.accepted job))) after) :
    ∃ kind site line, campus.crews[crew]? = some (kind, site)
      ∧ site.crew.line.submit job = .ok line
      ∧ after = campus.put crew kind { site.withLine line with offers := site.offers + 1 } := by
  cases step with
  | stop _ _ _ _ onward _ => rcases onward with same | same <;> cases same
  | submit present siteStep =>
      cases siteStep with
      | submit lineStep _ _ =>
          cases lineStep with
          | accept taken => exact ⟨_, _, _, present, taken, rfl⟩

theorem Shows.crew_eq (shows : campus.Shows engine) {crew home : Nat} {job : Job}
    (step : Step campus (.site crew (.submit (.accepted job))) after) (shown : after.Shows next)
    (admits : engine.Admits next home job) : crew = home := by
  obtain ⟨_, _, _, _, alters⟩ := admits
  obtain ⟨kind, site, line, present, taken, rfl⟩ := accepted_step step
  obtain ⟨_, _, rfl⟩ := Line.submit_eq_ok_iff.mp taken
  by_contra different
  -- Elsewhere the runtime has kept its crews, but here one job more is in the line.
  have later := shown.crew_at crew
  rw [alters.crews, List.getElem?_set_ne (Ne.symm different), shows.crew_at, present,
    put_at present, if_pos rfl] at later
  have queues := congrArg (Option.map fun post => post.2.line.queue.length) later
  simp [Site.withLine] at queues

theorem kinds_step {act : Act} (step : Step campus act after) {crew : Nat} {kind : CrewKind}
    {site : Site} (present : after.crews[crew]? = some (kind, site)) :
    ∃ before, campus.crews[crew]? = some (kind, before) := by
  rcases crew_step step present with ⟨_, before, _, found, _⟩ | ⟨_, found⟩
  · exact ⟨before, found⟩
  · exact ⟨site, found⟩

theorem Shows.kind_loop (shows : campus.Shows engine) {crew : Nat} {kind : CrewKind} {site : Site}
    (present : campus.crews[crew]? = some (kind, site)) (within : crew < engine.loops.length) :
    ∃ loop, engine.loops[crew]? = some loop ∧ kind = .loop ∧ site.crew = loop.crew := by
  have same := shows.crew_at crew
  rw [Engine.crews_loop within, present, List.getElem?_eq_getElem within] at same
  obtain ⟨rfl, crews⟩ := Prod.mk.inj (Option.some.inj same)
  exact ⟨_, List.getElem?_eq_getElem within, rfl, crews.symm⟩

theorem Shows.kind_pool (shows : campus.Shows engine) {kind : CrewKind} {site : Site}
    (present : campus.crews[engine.loops.length]? = some (kind, site)) : kind = .pool := by
  have same := shows.crew_at engine.loops.length
  rw [Engine.crews_pool, present] at same
  exact (Prod.mk.inj (Option.some.inj same)).1.symm

/-- Whatever becomes of a campus, some runtime shows it, with the loops and the rotation as they
were. -/
theorem Shows.showing (shows : campus.Shows engine) {act : Act} (step : Step campus act after) :
    after.Shows (engine.showing after) where
  crews := by
    have length : after.crews.length = engine.loops.length + 1 :=
      (length_crews_step step).trans shows.length
    have loops : (engine.showing after).loops.length = engine.loops.length := by
      simp [Engine.showing, length]
    apply List.ext_getElem?
    intro crew
    change _ = (engine.showing after).crews[crew]?
    rw [List.getElem?_map]
    cases present : after.crews[crew]? with
    | none =>
        have outside := List.getElem?_eq_none_iff.mp present
        refine (List.getElem?_eq_none_iff.mpr ?_).symm
        rw [Engine.length_crews, loops, ← length]
        exact outside
    | some post =>
        obtain ⟨kind, site⟩ := post
        obtain ⟨inside, _⟩ := List.getElem?_eq_some_iff.mp present
        obtain ⟨before, found⟩ := kinds_step step present
        rcases Nat.lt_or_eq_of_le (Nat.le_of_lt_succ (length ▸ inside)) with within | rfl
        · obtain ⟨loop, listed, rfl, _⟩ := shows.kind_loop found within
          rw [Engine.crews_loop (loops ▸ within), Engine.showing, List.getElem?_zipWith, listed,
            present]
          rfl
        · have last := shows.kind_pool found
          have pool := (engine.showing after).crews_pool
          rw [loops] at pool
          rw [pool, Engine.showing, present, last]
          rfl
  closed := rfl
  stopping := rfl

theorem names_showing (shows : campus.Shows engine) {act : Act} (step : Step campus act after) :
    (engine.showing after).names = engine.names := by
  have length : after.crews.length = engine.loops.length + 1 :=
    (length_crews_step step).trans shows.length
  refine List.ext_getElem (by simp [Engine.names, Engine.showing, length]) fun index _ _ => ?_
  simp [Engine.names, Engine.showing]

end Campus

/-! ### Runtimes in use -/

/-- A runtime in use, as its callers see it, and its campus, as its threads and the calls that close
it do. A job on a thread that relays its task closes the runtime as somebody from outside. -/
structure Rota where
  engine : Engine
  campus : Campus

namespace Rota

inductive Turn where
  | taken (entrance : Engine.Entrance) (job : Job) (crew : Nat)
  | refused (entrance : Engine.Entrance) (job : Job) (halt : Halt SubmitFault)
  | act (act : Campus.Act)

namespace Turn

/-- What the campus sees of it. -/
def act? : Turn → Option Campus.Act
  | taken _ job crew => some (.site crew (.submit (.accepted job)))
  | refused _ _ _ => none
  | act done => some done

def rotates : Turn → Bool
  | taken entrance _ _ => Engine.turns entrance (.ok ())
  | refused entrance _ halt => Engine.turns entrance (.error halt)
  | act _ => false

def taken? (crew : Nat) : Turn → Option Job
  | taken _ job home => if home = crew then some job else none
  | refused _ _ _ | act _ => none

end Turn

def IsSubmission : Campus.Act → Prop
  | .site _ (.submit _) => True
  | _ => False

/-- Beside its crews, all that a step on the campus leaves alone is the rotation and the names. -/
inductive Step : Rota → Turn → Rota → Prop where
  | taken {rota : Rota} {entrance : Engine.Entrance} {job : Job} {next : Engine} {crew : Nat}
      {campus : Campus} :
      rota.engine.offer job entrance = some (.ok (), next) →
        Campus.Step rota.campus (.site crew (.submit (.accepted job))) campus →
        campus.Shows next →
        Step rota (.taken entrance job crew) ⟨next, campus⟩
  | refused {rota : Rota} {entrance : Engine.Entrance} {job : Job} {next : Engine}
      {halt : Halt SubmitFault} :
      rota.engine.offer job entrance = some (.error halt, next) →
        Step rota (.refused entrance job halt) ⟨next, rota.campus⟩
  | act {rota : Rota} {act : Campus.Act} {next : Engine} {campus : Campus} :
      Campus.Step rota.campus act campus → ¬IsSubmission act → campus.Shows next →
        next.names = rota.engine.names → next.nextLoop = rota.engine.nextLoop →
        Step rota (.act act) ⟨next, campus⟩

abbrev Run : Rota → List Turn → Rota → Prop := Execution Step

def actsOf (turns : List Turn) : List Campus.Act := turns.filterMap Turn.act?

def rotations (turns : List Turn) : Nat := turns.countP Turn.rotates

def takenAt (crew : Nat) (turns : List Turn) : List Job := turns.filterMap (Turn.taken? crew)

/-- The crew that a job comes to, after so many turns of the rotation over that many loops. -/
def placeOf (loops turns : Nat) : Engine.Entrance → Nat
  | .rotation => turns % 2 ^ 64 % loops
  | .loop index => index
  | .blocking | .pool => loops

/-! ### What every run keeps -/

variable {start rota next : Rota} {turns : List Turn} {turn : Turn}

theorem actsOf_concat (turns : List Turn) (turn : Turn) :
    actsOf (turns ++ [turn]) = actsOf turns ++ turn.act?.toList := by
  cases found : turn.act? <;> simp [actsOf, found]

theorem takenAt_concat (crew : Nat) (turns : List Turn) (turn : Turn) :
    takenAt crew (turns ++ [turn]) = takenAt crew turns ++ (turn.taken? crew).toList := by
  cases found : turn.taken? crew <;> simp [takenAt, found]

theorem rotations_concat (turns : List Turn) (turn : Turn) :
    rotations (turns ++ [turn]) = rotations turns + if turn.rotates then 1 else 0 := by
  unfold rotations
  rw [List.countP_append, List.countP_singleton]

structure Keeps (engine : Engine) (turns : List Turn) (rota : Rota) : Prop where
  run : Campus.Run (.of engine) (actsOf turns) rota.campus
  shows : rota.campus.Shows rota.engine
  names : rota.engine.names = engine.names
  position : rota.engine.nextLoop = UInt64.ofNat (rotations turns)
  jobs : ∀ crew, acceptedIn (Site.historyOf (Campus.actsAt crew (actsOf turns)))
    = takenAt crew turns

theorem accepted_concat (crew : Nat) (turns : List Turn) (turn : Turn) :
    acceptedIn (Site.historyOf (Campus.actsAt crew (actsOf (turns ++ [turn]))))
      = acceptedIn (Site.historyOf (Campus.actsAt crew (actsOf turns)))
        ++ acceptedIn (Site.historyOf (Campus.actsAt crew turn.act?.toList)) := by
  simp only [actsOf_concat, Campus.actsAt, Site.historyOf, acceptedIn, List.filterMap_append]

theorem accepted_of_taken (crew home : Nat) (job : Job) :
    acceptedIn (Site.historyOf (Campus.actsAt crew [.site home (.submit (.accepted job))]))
      = (if home = crew then some job else none).toList := by
  by_cases here : home = crew
  · simp [Campus.actsAt, Campus.Act.at?, here, Site.historyOf, Site.Act.happening?, acceptedIn,
      Happening.accepted?]
  · simp [Campus.actsAt, Campus.Act.at?, here, Site.historyOf, acceptedIn]

/-- Only submissions bring jobs in. -/
theorem accepted_of_act {campus after : Campus} {act : Campus.Act}
    (step : Campus.Step campus act after) (other : ¬IsSubmission act) (crew : Nat) :
    acceptedIn (Site.historyOf (Campus.actsAt crew [act])) = [] := by
  have here {home : Nat} {seen : Site.Act}
      (place : act.at? crew = if home = crew then some seen else none)
      (silent : seen.happening?.bind Happening.accepted? = none) :
      acceptedIn (Site.historyOf (Campus.actsAt crew [act])) = [] := by
    unfold Campus.actsAt
    rw [List.filterMap_cons, List.filterMap_nil, place]
    by_cases same : home = crew
    · rw [if_pos same]
      cases happened : seen.happening? with
      | none => simp [Site.historyOf, happened, acceptedIn]
      | some happening =>
          rw [happened, Option.bind_some] at silent
          simp [Site.historyOf, happened, acceptedIn, silent]
    · rw [if_neg same]
      rfl
  cases step with
  | submit _ _ => exact absurd trivial other
  | serve _ siteStep _ =>
      cases siteStep with
      | receive _ | finish _ _ | leave _ => exact here rfl rfl
  | enter _ _ _ _ => exact here rfl rfl
  | stop _ _ _ _ onward _ =>
      rcases onward with rfl | rfl
      · exact here rfl rfl
      · exact here rfl rfl
  | join _ _ _ _ _ _ => exact here rfl rfl
  | call _ _ | first _ _ _ | late _ _ _ | leave _ _ _ _ _ | signal _ _ | collect _ _ _
  | bare _ _ _ | meet _ _ _ | part _ _ | hear _ | heard _ _ _ | exit _ _ => rfl

theorem keeps_step {engine : Engine} (keeps : Keeps engine turns rota)
    (step : Step rota turn next) : Keeps engine (turns ++ [turn]) next := by
  have onward {now : Engine}
      (moved : now.nextLoop = if turn.rotates then rota.engine.nextLoop + 1 else rota.engine.nextLoop) :
      now.nextLoop = UInt64.ofNat (rotations (turns ++ [turn])) := by
    rw [moved, rotations_concat, keeps.position]
    cases turn.rotates with
    | true => exact (UInt64.ofNat_add _ 1).symm
    | false => rfl
  cases step with
  | taken offered campusStep shown =>
      obtain ⟨names, position⟩ := Engine.offer_moves offered
      refine ⟨?_, shown, names.trans keeps.names, onward position, fun crew => ?_⟩
      · rw [actsOf_concat]
        exact keeps.run.step campusStep
      · rw [accepted_concat, takenAt_concat, keeps.jobs]
        exact congrArg _ (accepted_of_taken crew _ _)
  | refused offered =>
      obtain ⟨names, position⟩ := Engine.offer_moves offered
      refine ⟨?_, ?_, names.trans keeps.names, onward position, fun crew => ?_⟩
      · rw [actsOf_concat]
        exact (List.append_nil _).symm ▸ keeps.run
      · rcases Engine.offer_cases offered with ⟨_, _, stays⟩ | ⟨impossible, _⟩
        · exact keeps.shows.stays stays
        · cases impossible
      · rw [accepted_concat, takenAt_concat, keeps.jobs]
        rfl
  | act campusStep other shown names position =>
      refine ⟨?_, shown, names.trans keeps.names, onward position, fun crew => ?_⟩
      · rw [actsOf_concat]
        exact keeps.run.step campusStep
      · rw [accepted_concat, takenAt_concat, keeps.jobs]
        exact congrArg _ (accepted_of_act campusStep other crew)

theorem keeps_run {engine : Engine} (first : engine.nextLoop = 0)
    (run : Run ⟨engine, .of engine⟩ turns rota) : Keeps engine turns rota := by
  induction run with
  | start => exact ⟨.start, Campus.shows_of engine, rfl, first, fun _ => rfl⟩
  | step _ step ih => exact keeps_step ih step

/-! ### The loop whose turn it is -/

theorem Keeps.length {engine : Engine} (keeps : Keeps engine turns rota) :
    rota.engine.loops.length = engine.loops.length := by
  have same := congrArg List.length keeps.names
  simpa [Engine.names] using same

theorem Keeps.word {engine : Engine} (keeps : Keeps engine turns rota) :
    rota.engine.nextLoop.toNat = rotations turns % 2 ^ 64 := by
  rw [keeps.position]
  exact UInt64.toNat_ofNat'

theorem Keeps.goal {engine : Engine} (keeps : Keeps engine turns rota)
    (entrance : Engine.Entrance) :
    rota.engine.goal entrance = placeOf engine.loops.length (rotations turns) entrance := by
  cases entrance with
  | rotation =>
      change rota.engine.nextLoop.toNat % rota.engine.loops.length = _
      rw [keeps.word, keeps.length]
      rfl
  | loop index => rfl
  | blocking | pool => exact keeps.length

theorem Keeps.placed {engine : Engine} (keeps : Keeps engine turns rota)
    {entrance : Engine.Entrance} {job : Job} {crew : Nat}
    (step : Step rota (.taken entrance job crew) next) :
    crew = placeOf engine.loops.length (rotations turns) entrance := by
  cases step with
  | taken offered campusStep shown =>
      rcases Engine.offer_cases offered with ⟨_, impossible, _⟩ | ⟨_, admits⟩
      · cases impossible
      · exact (keeps.shows.crew_eq campusStep shown admits).trans (keeps.goal entrance)

theorem Keeps.loop_next {engine : Engine} (keeps : Keeps engine turns rota)
    (looped : engine.loops ≠ []) :
    ∃ loop, rota.engine.loops[rota.engine.goal .rotation]? = some loop := by
  have inside : rota.engine.goal .rotation < rota.engine.loops.length := by
    refine Nat.mod_lt _ ?_
    rw [keeps.length]
    exact List.length_pos_iff.mpr looped
  exact ⟨_, List.getElem?_eq_getElem inside⟩

theorem Keeps.name_at {engine : Engine} (keeps : Keeps engine turns rota) {index : Nat}
    {loop : EventLoop} (present : rota.engine.loops[index]? = some loop) :
    engine.names[index]? = some loop.name := by
  rw [← keeps.names, Engine.names, List.getElem?_map, present]
  rfl

theorem Keeps.refused {engine : Engine} (keeps : Keeps engine turns rota)
    (looped : engine.loops ≠ []) {job : Job} {halt : Halt SubmitFault}
    (step : Step rota (.refused .rotation job halt) next) :
    halt = .failed .runtimeClosed
      ∨ ∃ name, engine.names[placeOf engine.loops.length (rotations turns) .rotation]? = some name
        ∧ (halt = .failed (.loopStopped name) ∨ halt = .failed (.loopExited name)) := by
  obtain ⟨loop, present⟩ := keeps.loop_next looped
  cases step with
  | refused offered =>
      have answer : (rota.engine.dispatch job).1.map (fun _ => ()) = .error halt :=
        congrArg Prod.fst (Option.some.inj offered)
      cases closed : rota.engine.closed with
      | true =>
          rw [Engine.dispatch_closed closed] at answer
          exact Or.inl (Except.error.inj answer).symm
      | false =>
          rw [Engine.dispatch_open closed present] at answer
          rcases loop.submit_cases job with ⟨_, _, accepted⟩ | ⟨fault, refused, named⟩
          · rw [accepted] at answer
            cases answer
          · rw [refused] at answer
            refine Or.inr ⟨loop.name, keeps.goal .rotation ▸ keeps.name_at present, ?_⟩
            rw [← Except.error.inj answer]
            exact named.imp (congrArg Halt.failed) (congrArg Halt.failed)

theorem offer_isSome (engine : Engine) {entrance : Engine.Entrance}
    (there : ∀ index, entrance = .loop index → index < engine.loops.length) (job : Job) :
    ∃ answer next, engine.offer job entrance = some (answer, next) := by
  cases entrance with
  | rotation | blocking | pool => exact ⟨_, _, rfl⟩
  | loop index =>
      have present := List.getElem?_eq_getElem (there index rfl)
      unfold Engine.offer Engine.submitTo
      dsimp only
      rw [present]
      exact ⟨_, _, rfl⟩

theorem Keeps.can_offer {engine : Engine} (keeps : Keeps engine turns rota)
    (looped : engine.loops ≠ []) {entrance : Engine.Entrance}
    (there : ∀ index, entrance = .loop index → index < engine.loops.length) (panics : Bool) :
    ∃ ticket next,
      Step rota (.taken entrance ⟨ticket, panics⟩
          (placeOf engine.loops.length (rotations turns) entrance)) next
        ∨ ∃ halt, Step rota (.refused entrance ⟨ticket, panics⟩ halt) next := by
  have within : rota.engine.goal entrance < rota.campus.crews.length := by
    rw [keeps.shows.length]
    cases entrance with
    | rotation =>
        obtain ⟨_, present⟩ := keeps.loop_next looped
        exact Nat.lt_succ_of_lt (List.getElem?_eq_some_iff.mp present).1
    | loop index => exact Nat.lt_succ_of_lt (keeps.length ▸ there index rfl)
    | blocking | pool => exact Nat.lt_succ_self _
  rcases found : rota.campus.crews[rota.engine.goal entrance] with ⟨kind, site⟩
  have present : rota.campus.crews[rota.engine.goal entrance]? = some (kind, site) := by
    rw [List.getElem?_eq_getElem within, found]
  obtain ⟨answer, now, offered⟩ :=
    offer_isSome rota.engine (keeps.length.symm ▸ there) ⟨site.offers, panics⟩
  rcases Engine.offer_cases offered with ⟨halt, rfl, _⟩ | ⟨rfl, admits⟩
  · exact ⟨_, _, Or.inr ⟨halt, .refused offered⟩⟩
  · obtain ⟨shown, old, line, accepted, alters⟩ := admits
    have same := (keeps.shows.crew_at _).symm.trans alters.found
    rw [present] at same
    cases same
    have step : Campus.Step rota.campus
        (.site (rota.engine.goal entrance) (.submit (.accepted ⟨site.offers, panics⟩)))
        (rota.campus.put (rota.engine.goal entrance) kind
          { site.withLine line with offers := site.offers + 1 }) :=
      .submit present (.submit (.accept accepted) rfl rfl)
    rw [← keeps.goal]
    exact ⟨_, _, Or.inl (.taken offered step (keeps.shows.put alters rfl))⟩

theorem Keeps.can_act {engine : Engine} (keeps : Keeps engine turns rota) {act : Campus.Act}
    {after : Campus} (step : Campus.Step rota.campus act after) (other : ¬IsSubmission act) :
    ∃ now, Step rota (.act act) ⟨now, after⟩ :=
  ⟨rota.engine.showing after,
    .act step other (keeps.shows.showing step) (Campus.names_showing keeps.shows step) rfl⟩

end Rota

end Reactor
