import Reactor.Proofs.Campus.Orderly
import Reactor.Proofs.Crew.Stopping

/-!
Closing a runtime at one go. Where no other call is under way, a call runs from its beginning to its
return: the threads that it waits for end their jobs and serve what is left in the lines, and the
campus then shows the runtime that the call leaves behind.
-/

namespace Reactor

namespace Site

variable {kind : CrewKind} {start site next : Site}

def halted (site : Site) (actor : Actor) (caller : Option Nat) : Site :=
  site.calling (site.crew.halted actor) caller (.returned true)

theorem uncalled_step {act : Act} (step : Step kind site act next) (uncalled : next.closings = []) :
    site.closings = [] ∧ next.crew.line.accepting = site.crew.line.accepting := by
  cases step with
  | submit lineStep offered _ =>
      refine ⟨uncalled, Line.accepting_step lineStep ?_⟩
      rintro rfl
      cases offered
  | receive received => exact ⟨uncalled, Line.accepting_step (.receive received) nofun⟩
  | finish _ finished => exact ⟨uncalled, Line.accepting_step (.finish finished) nofun⟩
  | leave left => exact ⟨uncalled, Line.accepting_step (.leave left) nofun⟩
  | call _ => simp at uncalled
  | hangUp present _ _ | late present _ _ _ | take present _ _ | bare present _ _
  | join present _ _ | settle present _ =>
      have none : site.closings = [] := by simpa [moved, withLine] using uncalled
      rw [none] at present
      cases present

/-- Before the first closing call a crew goes on to accept jobs. -/
theorem uncalled_run {acts : List Act} (run : Run kind start acts site)
    (uncalled : site.closings = []) :
    site.crew.line.accepting = start.crew.line.accepting := by
  induction run with
  | start => rfl
  | step _ step ih =>
      obtain ⟨none, same⟩ := uncalled_step step uncalled
      exact same.trans (ih none)

end Site

namespace Pool

theorem value_shutdown {pool : Pool} (held : pool.crew.held = true)
    (accepting : pool.crew.line.accepting = true) (watch : Watch) (actor : Actor) :
    (pool.shutdown watch actor).value.2.1.crew = pool.crew.halted actor := by
  unfold shutdown
  rw [if_neg (by rw [accepting]; exact Bool.true_eq_false.mp)]
  exact (Crew.value_stop_held watch actor _ held).2

end Pool

namespace Engine

theorem value_stopLoops {loops : List EventLoop}
    (held : ∀ loop ∈ loops, loop.crew.held = true) (watch : Watch) (actor : Actor) :
    (stopLoops watch actor loops).value.2.1.map (·.crew) = loops.map (·.crew.halted actor) := by
  induction loops generalizing watch with
  | nil => rfl
  | cons loop loops ih =>
      have first : (loop.stop watch actor).value.2.1.crew = loop.crew.halted actor :=
        (Crew.value_stop_held watch actor _ (held loop List.mem_cons_self)).2
      have others := ih (fun other listed => held other (List.mem_cons_of_mem _ listed))
        (loop.stop watch actor).value.2.2
      exact congrArg₂ List.cons first others

end Engine

namespace Campus

variable {campus : Campus}

theorem put_put (crew : Nat) (kind : CrewKind) (site changed : Site) :
    (campus.put crew kind site).put crew kind changed = campus.put crew kind changed := by
  simp [put]

theorem put_self {crew : Nat} {kind : CrewKind} {site : Site}
    (present : campus.crews[crew]? = some (kind, site)) : campus.put crew kind site = campus := by
  obtain ⟨within, same⟩ := List.getElem?_eq_some_iff.mp present
  simp [put, ← same]

theorem serve_run {crew : Nat} {kind : CrewKind} {first last : Site} {acts : List Site.Act}
    (served : Site.Run kind first acts last)
    (serves : ∀ act ∈ acts, ∃ happening, act = .serve happening)
    (present : campus.crews[crew]? = some (kind, first))
    (done : ∀ place, first.Free place → campus.Done (.member crew place)) :
    Run campus (acts.map (.site crew)) (campus.put crew kind last)
      ∧ last.closings = first.closings := by
  induction served with
  | start =>
      rw [put_self present]
      exact ⟨.start, rfl⟩
  | @step acts site next act _ step ih =>
      obtain ⟨run, same⟩ := ih fun act listed => serves act (List.mem_append_left _ listed)
      obtain ⟨happening, rfl⟩ := serves act (by simp)
      have here : (campus.put crew kind site).crews[crew]? = some (kind, site) := by
        rw [put_at present, if_pos rfl]
      have free : ∀ place job, happening = .finished place job →
          (campus.put crew kind site).Done (.member crew place) := by
        rintro place job rfl
        cases step with
        | finish free _ =>
            apply done
            unfold Site.Free
            rw [← same]
            exact free
      have further := run.step (.serve here step free)
      rw [put_put] at further
      constructor
      · rw [List.map_append]
        exact further
      · exact (Site.closings_serve step).trans same

/-! ### A call stops a crew -/

def halting (campus : Campus) (number : Nat) (quitting : Quitting) (crew : Nat) (kind : CrewKind)
    (site : Site) (now : Crew) (stage : ClosingStage) : Campus :=
  (campus.put crew kind (site.calling now (quitting.caller.within crew) stage)).moved number
    quitting (.within crew site.closings.length)

section Stopping

variable {number crew : Nat} {quitting : Quitting} {kind : CrewKind} {site : Site} {actor : Actor}

theorem put_halting (old new : Crew) (stage next : ClosingStage) :
    (campus.halting number quitting crew kind site old stage).put crew kind
        (site.calling new (quitting.caller.within crew) next)
      = campus.halting number quitting crew kind site new next :=
  congrArg (fun crews : Campus => crews.moved number quitting (.within crew site.closings.length))
    (put_put crew kind _ _)

theorem moved_halting (now : Crew) (stage : ClosingStage) (next : QuitStage) :
    (campus.halting number quitting crew kind site now stage).moved number
        { quitting with stage := .within crew site.closings.length } next
      = (campus.put crew kind (site.calling now (quitting.caller.within crew) stage)).moved number
        quitting next := by
  simp [halting, moved]

theorem halting_quitting (found : campus.quittings[number]? = some quitting) (now : Crew)
    (stage : ClosingStage) :
    (campus.halting number quitting crew kind site now stage).quittings[number]?
      = some { quitting with stage := .within crew site.closings.length } := by
  unfold halting
  rw [moved_at (show (campus.put _ _ _).quittings[number]? = some quitting from found), if_pos rfl]

theorem halting_crew (present : campus.crews[crew]? = some (kind, site)) (now : Crew)
    (stage : ClosingStage) :
    (campus.halting number quitting crew kind site now stage).crews[crew]?
      = some (kind, site.calling now (quitting.caller.within crew) stage) :=
  (put_at present _ crew).trans (if_pos rfl)

/-- The call goes on, where it waits for no thread. -/
theorem halting_step (found : campus.quittings[number]? = some quitting)
    (present : campus.crews[crew]? = some (kind, site)) {act : Site.Act} {old new : Crew}
    {stage next : ClosingStage}
    (step : Site.Step kind (site.calling old (quitting.caller.within crew) stage) act
      ((site.calling new (quitting.caller.within crew) stage).moved site.closings.length
        ⟨quitting.caller.within crew, stage⟩ next))
    (onward : act = .hangUp site.closings.length ∨ act = .proceed site.closings.length)
    (idle : ∀ place left, stage ≠ .joining (place :: left)) :
    Step (campus.halting number quitting crew kind site old stage) (.site crew act)
      (campus.halting number quitting crew kind site new next) := by
  have unkept : ∀ waiting place left,
      (site.calling old (quitting.caller.within crew) stage).closings[site.closings.length]?
        = some waiting → waiting.stage ≠ .joining (place :: left) := by
    intro waiting place left here
    cases (Site.closings_calling _ _ _ _).symm.trans here
    exact idle place left
  have further := Step.stop (halting_quitting found old stage) rfl (halting_crew present old stage)
    step onward unkept
  rw [Site.moved_calling, put_halting] at further
  exact further

theorem hangUp_run (found : campus.quittings[number]? = some quitting)
    (before : quitting.stage = .before crew)
    (present : campus.crews[crew]? = some (kind, site))
    (ready : Site.Ready kind site actor (quitting.caller.within crew))
    (accepting : site.crew.line.accepting = true)
    (done : ∀ place, quitting.caller ≠ .member crew place → campus.Done (.member crew place)) :
    ∃ acts, Run campus acts
      (campus.halting number quitting crew kind site
        (site.crew.settled .empty actor) .hungUp) := by
  let caller := quitting.caller.within crew
  let closed := site.crew.hungUp
  let settled := site.crew.settled .empty actor
  have entered : Step campus (.site crew (.call caller))
      (campus.halting number quitting crew kind site site.crew .begun) :=
    .enter found before present
      (.call fun thread calls => ⟨ready.working thread calls, ready.free thread⟩)
  have hungUp : Step (campus.halting number quitting crew kind site site.crew .begun)
      (.site crew (.hangUp site.closings.length))
      (campus.halting number quitting crew kind site closed .hungUp) :=
    halting_step found present
      (.hangUp (Site.closings_calling _ _ _ _) rfl fun _ => accepting) (.inl rfl) nofun
  have free : ∀ place, (site.calling closed caller .hungUp).Free place →
      (campus.halting number quitting crew kind site closed .hungUp).Done (.member crew place) := by
    intro place unkept other listed same
    -- The caller's own job goes on, as the call at the site has not returned.
    have elsewhere : quitting.caller ≠ .member crew place := by
      intro own
      have calls : caller = some place := by simp [caller, own, Party.within]
      obtain ⟨_, returned⟩ := unkept ⟨caller, .hungUp⟩ (by simp [Site.calling]) calls
      cases returned
    rcases List.mem_or_eq_of_mem_set listed with old | rfl
    · exact done place elsewhere other old same
    · exact absurd same elsewhere
  obtain ⟨history, serving, _, _⟩ :=
    ready.vacate_run .empty (site.crew.nodup_others actor) fun _ => id
  have served : Run (campus.halting number quitting crew kind site closed .hungUp)
      ((history.map .serve).map (.site crew))
      (campus.halting number quitting crew kind site settled .hungUp) := by
    rw [← put_halting closed settled .hungUp .hungUp]
    exact (serve_run serving (by simp) (halting_crew present closed .hungUp) free).1
  exact ⟨_, ((Execution.start.step entered).step hungUp).append served⟩

theorem join_run (found : campus.quittings[number]? = some quitting)
    (present : campus.crews[crew]? = some (kind, site)) (now : Crew) {left : List Nat}
    (gone : ∀ place ∈ left, now.line.posts[place]? = some .gone) :
    ∃ acts, Run (campus.halting number quitting crew kind site now (.joining left)) acts
      (campus.halting number quitting crew kind site now (.joining [])) := by
  induction left with
  | nil => exact ⟨[], .start⟩
  | cons place left ih =>
      have here := Site.closings_calling site now (quitting.caller.within crew)
        (.joining (place :: left))
      have step := Step.join (halting_quitting found now _) rfl (halting_crew present now _) here
        rfl (.join here rfl (gone place List.mem_cons_self))
      rw [Site.moved_calling, put_halting] at step
      obtain ⟨acts, run⟩ := ih fun other listed => gone other (List.mem_cons_of_mem _ listed)
      exact ⟨_, (Execution.start.step step).append run⟩

theorem stop_run (found : campus.quittings[number]? = some quitting)
    (before : quitting.stage = .before crew)
    (present : campus.crews[crew]? = some (kind, site))
    (ready : Site.Ready kind site actor (quitting.caller.within crew))
    (accepting : site.crew.line.accepting = true)
    (done : ∀ place, quitting.caller ≠ .member crew place → campus.Done (.member crew place)) :
    ∃ acts, Run campus acts
      ((campus.put crew kind (site.halted actor (quitting.caller.within crew))).moved number quitting
        (.before (crew + 1))) := by
  let caller := quitting.caller.within crew
  let closing := site.closings.length
  let halted := site.crew.halted actor
  let served := site.crew.settled .empty actor
  let left := (site.calling served caller .hungUp).others caller
  obtain ⟨acts, hungUp⟩ := hangUp_run found before present ready accepting done
  have taken : Step (campus.halting number quitting crew kind site served .hungUp)
      (.site crew (.proceed closing))
      (campus.halting number quitting crew kind site halted (.joining left)) :=
    halting_step found present
      (Site.take_step kind .empty actor caller (ready.sound.manned accepting)) (.inr rfl) nofun
  obtain ⟨joins, joined⟩ := join_run found present halted (ready.gone_others .empty)
  have returned : Step (campus.halting number quitting crew kind site halted (.joining []))
      (.site crew (.proceed closing))
      (campus.halting number quitting crew kind site halted (.returned true)) :=
    halting_step found present (.settle (Site.closings_calling _ _ _ _) rfl) (.inr rfl) nofun
  have onward := Step.leave (halting_quitting found halted (.returned true)) rfl
    (halting_crew present halted (.returned true)) (Site.closings_calling _ _ _ _) rfl
  rw [moved_halting] at onward
  exact ⟨_, hungUp.append ((Execution.start.step taken).append
    (joined.append ((Execution.start.step returned).step onward)))⟩

end Stopping

/-! ### Who acts -/

def threadAt? (campus : Campus) (crew place : Nat) : Option RuntimeThread :=
  campus.crews[crew]?.bind (·.2.crew.threads[place]?)

def Distinct (campus : Campus) : Prop :=
  ∀ (crew other place far : Nat) (thread fellow : RuntimeThread),
    campus.threadAt? crew place = some thread → campus.threadAt? other far = some fellow →
      thread.key = fellow.key → crew = other ∧ place = far

def actorOf (campus : Campus) : Party → Actor
  | .outside _ => .caller
  | .member crew place =>
      match campus.threadAt? crew place with
      | some thread => .thread thread.key
      | none => .caller
  | .watchdog => .watchdog

theorem threadAt?_eq {crew : Nat} {kind : CrewKind} {site : Site}
    (present : campus.crews[crew]? = some (kind, site)) (place : Nat) :
    campus.threadAt? crew place = site.crew.threads[place]? := by
  unfold threadAt?
  rw [present]
  rfl

theorem threadAt?_run {start : Campus} {acts : List Act} (run : Run start acts campus)
    {crew place : Nat} {thread : RuntimeThread}
    (present : campus.threadAt? crew place = some thread) :
    start.threadAt? crew place = some thread := by
  obtain ⟨⟨kind, site⟩, here, found⟩ := Option.bind_eq_some_iff.mp present
  obtain ⟨first, began, crewRun⟩ := crew_run run here
  rw [threadAt?_eq began, ← Site.threads_run crewRun]
  exact found

theorem Distinct.run {start : Campus} (distinct : start.Distinct) {acts : List Act}
    (run : Run start acts campus) : campus.Distinct :=
  fun crew other place far thread fellow present found =>
    distinct crew other place far thread fellow (threadAt?_run run present) (threadAt?_run run found)

theorem acts_actorOf (distinct : campus.Distinct) {party : Party}
    (manned : ∀ crew place, party = .member crew place →
      ∃ thread, campus.threadAt? crew place = some thread)
    {crew : Nat} {kind : CrewKind} {site : Site}
    (present : campus.crews[crew]? = some (kind, site)) :
    site.crew.Acts (campus.actorOf party) (party.within crew) := by
  intro place thread found
  rw [← threadAt?_eq present] at found
  cases party with
  | outside _ | watchdog => exact ⟨nofun, nofun⟩
  | member home there =>
      obtain ⟨acting, here⟩ := manned home there rfl
      unfold actorOf
      simp only [here]
      constructor
      · intro same
        obtain ⟨rfl, rfl⟩ := distinct _ _ _ _ _ _ here found (Actor.thread.inj same)
        exact if_pos rfl
      · intro within
        cases Party.within_eq_some within
        cases here.symm.trans found
        rfl

/-- Every loop has one thread, and the crew of the workers comes last. -/
theorem threadAt?_unused {host : Host} {files : FileTree} {options : Options} {bindings : Bindings}
    {cluster : Option ClusterBinding} {handler : Option BlockedHandler} {shape : PoolShape}
    {loops workers : List RuntimeThread} {crew place : Nat} {thread : RuntimeThread}
    (found : (of (Engine.unused host files options bindings cluster handler shape loops
      workers)).threadAt? crew place = some thread) :
    (crew < loops.length ∧ place = 0 ∨ crew = loops.length)
      ∧ (loops ++ workers)[crew + place]? = some thread := by
  let engine := Engine.unused host files options bindings cluster handler shape loops workers
  obtain ⟨⟨kind, site⟩, present, here⟩ := Option.bind_eq_some_iff.mp found
  have count : (engine.loops.map fun loop => (CrewKind.loop, (⟨loop.crew, 0, []⟩ : Site))).length
      = loops.length := by
    rw [List.length_map]
    exact length_itemsFrom Engine.freshLoop 0 loops
  rcases Nat.lt_trichotomy crew loops.length with before | rfl | beyond
  · have looped : (of engine).crews[crew]? = some (.loop, .create [loops[crew]]) := by
      refine (List.getElem?_append_left (count ▸ before)).trans ?_
      rw [List.getElem?_map]
      change ((itemsFrom Engine.freshLoop 0 loops)[crew]?).map _ = _
      rw [getElem?_itemsFrom, List.getElem?_eq_getElem before]
      rfl
    cases looped.symm.trans present
    obtain ⟨within, same⟩ := List.getElem?_eq_some_iff.mp here
    obtain rfl : place = 0 := Nat.lt_one_iff.mp within
    refine ⟨.inl ⟨before, rfl⟩, ?_⟩
    rw [Nat.add_zero, List.getElem?_append_left before, List.getElem?_eq_getElem before]
    exact congrArg some same
  · have pooled : (of engine).crews[loops.length]? = some (.pool, .create workers) := by
      rw [← count]
      exact List.getElem?_concat_length
    cases pooled.symm.trans present
    refine ⟨.inr rfl, ?_⟩
    rw [List.getElem?_append_right (Nat.le_add_right _ _), Nat.add_sub_cancel_left]
    exact here
  · have within : crew < (of engine).crews.length := (List.getElem?_eq_some_iff.mp present).1
    have whole : (of engine).crews.length = loops.length + 1 := by
      rw [← count]
      exact List.length_append
    rw [whole] at within
    omega

/-- The threads of a runtime are numbered in the order of its crews. -/
theorem distinct_of_start {host : Host} {files : FileTree} {options : Options} {bindings : Bindings}
    {cluster : Option ClusterBinding} {handler : Option BlockedHandler} {took : Span}
    {engine : Engine}
    (started : (Engine.start host files options bindings cluster handler took).value = .ok engine) :
    (of engine).Distinct := by
  obtain ⟨shape, loops, workers, made, rfl, _⟩ := Engine.made_of_start started
  intro crew other place far thread fellow here there same
  obtain ⟨position, present⟩ := threadAt?_unused here
  obtain ⟨otherPosition, found⟩ := threadAt?_unused there
  rw [made.key present, made.key found] at same
  omega

/-! ### A call while no other is under way -/

/-- A party may call, and no call is under way. -/
structure Quiet (campus : Campus) (party : Party) : Prop where
  atWork : campus.AtWork party
  returned : ∀ quitting ∈ campus.quittings, quitting.stage.isReturned = true
  unheard : campus.lookout.post = .hearing → party = .watchdog

theorem Quiet.call_step {party : Party} (quiet : campus.Quiet party) :
    Step campus (.call party)
      { campus with quittings := campus.quittings ++ [⟨party, .begun⟩] } :=
  .call quiet.atWork fun quitting listed _ => .inr (quiet.returned quitting listed)

/-- Every crew accepts jobs, and can be stopped by a call of the party. -/
def Closable (campus : Campus) (party : Party) : Prop :=
  ∀ (crew : Nat) (kind : CrewKind) (site : Site), campus.crews[crew]? = some (kind, site) →
    Site.Ready kind site (campus.actorOf party) (party.within crew)
      ∧ site.crew.line.accepting = true

theorem closable_of_quiet {host : Host} {files : FileTree} {options : Options} {bindings : Bindings}
    {cluster : Option ClusterBinding} {handler : Option BlockedHandler} {took : Span}
    {engine : Engine}
    (started : (Engine.start host files options bindings cluster handler took).value = .ok engine)
    (faithful : bindings.threadFactory.RunsTasks) {acts : List Act}
    (run : Run (of engine) acts campus) {party : Party} (quiet : campus.Quiet party)
    (opened : campus.closed = false) : campus.Closable party := by
  have manned : ∀ crew place, party = .member crew place →
      ∃ thread, campus.threadAt? crew place = some thread := by
    rintro crew place rfl
    obtain ⟨kind, site, job, present, running⟩ := quiet.atWork
    obtain ⟨first, began, crewRun⟩ := crew_run run present
    obtain ⟨threads, rfl, _⟩ := crews_of_start started faithful began
    have within : place < site.crew.threads.length := by
      rw [Site.staffed_run crewRun]
      exact (List.getElem?_eq_some_iff.mp running).1
    rw [threadAt?_eq present]
    exact ⟨_, List.getElem?_eq_getElem within⟩
  intro crew kind site present
  have sound := sound_run (sound_of (opened_of_start started)) run
  obtain ⟨first, began, crewRun⟩ := crew_run run present
  obtain ⟨threads, rfl, serving⟩ := crews_of_start started faithful began
  have uncalled := sound.fresh opened crew kind site present
  have known : site.crew.Acts (campus.actorOf party) (party.within crew) :=
    acts_actorOf ((distinct_of_start started).run run) manned present
  constructor
  · refine Site.ready_of_run serving crewRun known (fun place calls => ?_) fun place closing listed => ?_
    · have working := quiet.atWork
      rw [Party.within_eq_some calls] at working
      obtain ⟨_, _, job, found, running⟩ := working
      cases present.symm.trans found
      exact ⟨job, running⟩
    · rw [uncalled] at listed
      cases listed
  · exact Site.uncalled_run crewRun uncalled

/-- The campus once a call of the party has stopped so many crews, with what has become of the
watchdog and of the call. -/
def cleared (campus : Campus) (party : Party) (count : Nat) (lookout : Lookout)
    (stage : QuitStage) : Campus where
  crews := campus.crews.mapIdx fun crew (kind, site) =>
    (kind, if crew < count then site.halted (campus.actorOf party) (party.within crew) else site)
  lookout := lookout
  closed := true
  quittings := campus.quittings ++ [⟨party, stage⟩]

section Clearing

variable {party : Party}

theorem cleared_crew (count : Nat) (lookout : Lookout) (stage : QuitStage) (crew : Nat) :
    (campus.cleared party count lookout stage).crews[crew]?
      = campus.crews[crew]?.map fun (kind, site) =>
        (kind,
          if crew < count then site.halted (campus.actorOf party) (party.within crew) else site) := by
  simp [cleared]

theorem cleared_quitting (count : Nat) (lookout : Lookout) (stage : QuitStage) :
    (campus.cleared party count lookout stage).quittings[campus.quittings.length]?
      = some ⟨party, stage⟩ :=
  List.getElem?_concat_length

theorem moved_cleared (count : Nat) (lookout : Lookout) (stage next : QuitStage) :
    (campus.cleared party count lookout stage).moved campus.quittings.length ⟨party, stage⟩ next
      = campus.cleared party count lookout next := by
  simp [moved, cleared]

theorem crews_cleared_zero (lookout : Lookout) (stage : QuitStage) :
    (campus.cleared party 0 lookout stage).crews = campus.crews := by
  apply List.ext_getElem?
  intro crew
  rw [cleared_crew]
  cases campus.crews[crew]? <;> simp

theorem crews_cleared_succ {count : Nat} {kind : CrewKind} {site : Site}
    (present : campus.crews[count]? = some (kind, site)) (lookout : Lookout)
    (stage next : QuitStage) :
    (campus.cleared party count lookout stage).crews.set count
        (kind, site.halted (campus.actorOf party) (party.within count))
      = (campus.cleared party (count + 1) lookout next).crews := by
  obtain ⟨within, _⟩ := List.getElem?_eq_some_iff.mp present
  apply List.ext_getElem?
  intro crew
  rw [List.getElem?_set, cleared_crew, cleared_crew]
  by_cases same : count = crew
  · subst crew
    have inside : count < (campus.cleared party count lookout stage).crews.length := by
      simpa [cleared] using within
    rw [if_pos rfl, if_pos inside, present]
    simp
  · have order : crew < count + 1 ↔ crew < count := by omega
    rw [if_neg same]
    simp only [order]

theorem begin_run (quiet : campus.Quiet party) (opened : campus.closed = false) :
    ∃ acts, Run campus acts (campus.cleared party 0 campus.lookout (.before 0)) := by
  let begun : Campus := { campus with quittings := campus.quittings ++ [⟨party, .begun⟩] }
  have first : Step begun (.move campus.quittings.length) _ :=
    .first List.getElem?_concat_length rfl opened
  have crews : (campus.cleared party 0 campus.lookout (.before 0)).crews = campus.crews :=
    crews_cleared_zero campus.lookout (.before 0)
  have same : ({ begun with closed := true } : Campus).moved campus.quittings.length
      ⟨party, .begun⟩ (.before 0) = campus.cleared party 0 campus.lookout (.before 0) :=
    congrArg₂ (fun crews quittings => Campus.mk crews campus.lookout true quittings) crews.symm
      (by simp [begun])
  rw [same] at first
  exact ⟨_, (Execution.start.step quiet.call_step).step first⟩

theorem cleared_run (quiet : campus.Quiet party) (opened : campus.closed = false)
    (ready : campus.Closable party)
    {count : Nat} (within : count ≤ campus.crews.length) :
    ∃ acts, Run campus acts (campus.cleared party count campus.lookout (.before count)) := by
  induction count with
  | zero => exact begin_run quiet opened
  | succ count ih =>
      obtain ⟨acts, run⟩ := ih (by omega)
      obtain ⟨⟨kind, site⟩, here⟩ : ∃ post, campus.crews[count]? = some post :=
        ⟨_, List.getElem?_eq_getElem within⟩
      obtain ⟨readied, accepting⟩ := ready count kind site here
      let now := campus.cleared party count campus.lookout (.before count)
      have present : now.crews[count]? = some (kind, site) := by
        rw [cleared_crew, here]
        simp
      have done : ∀ place, party ≠ .member count place → now.Done (.member count place) := by
        intro place elsewhere quitting listed same
        rcases List.mem_append.mp listed with old | new
        · exact quiet.returned quitting old
        · cases List.mem_singleton.mp new
          exact absurd same elsewhere
      obtain ⟨more, stopped⟩ :=
        stop_run (cleared_quitting count campus.lookout _) rfl present readied accepting done
      let halted := site.halted (campus.actorOf party) (party.within count)
      have same : (now.put count kind halted).moved campus.quittings.length
          ⟨party, .before count⟩ (.before (count + 1))
            = campus.cleared party (count + 1) campus.lookout (.before (count + 1)) :=
        congrArg₂ (fun crews quittings => Campus.mk crews campus.lookout true quittings)
          (crews_cleared_succ here campus.lookout (.before count) (.before (count + 1)))
          (by simp [now, put, cleared])
      rw [same] at stopped
      exact ⟨_, run.append stopped⟩

/-- A call that has stopped every crew meets the watchdog, unless it is made there, and returns. -/
theorem return_run (quiet : campus.Quiet party) :
    ∃ acts lookout, lookout.stopping = true
      ∧ (lookout.post = .hearing → campus.lookout.post = .hearing)
      ∧ Run
        (campus.cleared party campus.crews.length campus.lookout (.before campus.crews.length)) acts
        (campus.cleared party campus.crews.length lookout (.returned true)) := by
  let now (lookout : Lookout) (stage : QuitStage) : Campus :=
    campus.cleared party campus.crews.length lookout stage
  have onward {before after : Lookout} {old new : QuitStage} {act : Act}
      (step : Step (now before old) act
        ((now after old).moved campus.quittings.length ⟨party, old⟩ new)) :
      Step (now before old) act (now after new) := by
    rw [moved_cleared] at step
    exact step
  have here (lookout : Lookout) (stage : QuitStage) :
      (now lookout stage).quittings[campus.quittings.length]? = some ⟨party, stage⟩ :=
    cleared_quitting _ _ _
  let told : Lookout := { campus.lookout with stopping := true }
  have signal : Step (now campus.lookout (.before campus.crews.length)) (.move _)
      (now told .signalled) :=
    onward (.signal (here _ _) (by simp [now, cleared]))
  have part (lookout : Lookout) :
      Step (now lookout .parting) (.move _) (now lookout (.returned true)) :=
    onward (.part (here _ _) rfl)
  cases held : campus.lookout.held with
  | false =>
      have bare : Step (now told .signalled) (.move _) (now told .parting) :=
        onward (.bare (here _ _) rfl held)
      exact ⟨_, told, rfl, id, ((Execution.start.step signal).step bare).step (part told)⟩
  | true =>
      let left : Lookout := { told with held := false }
      have collect : Step (now told .signalled) (.move _)
          (now left (if party = .watchdog then .parting else .awaiting)) :=
        onward (.collect (here _ _) rfl held)
      have asked := (Execution.start.step signal).step collect
      by_cases own : party = .watchdog
      · rw [if_pos own] at asked
        exact ⟨_, left, rfl, id, asked.step (part left)⟩
      · rw [if_neg own] at asked
        have meet (lookout : Lookout) (gone : lookout.post = .gone) :
            Step (now lookout .awaiting) (.meet _) (now lookout .parting) :=
          onward (.meet (here _ _) rfl gone)
        cases post : campus.lookout.post with
        | hearing => exact absurd (quiet.unheard post) own
        | gone =>
            refine ⟨_, left, rfl, fun heard => ?_, (asked.step (meet left post)).step (part left)⟩
            exact post.symm.trans heard
        | sleeping =>
            have exit : Step (now left .awaiting) (.watch .gone)
                (now { left with post := .gone } .awaiting) :=
              .exit post rfl
            refine ⟨_, _, rfl, fun heard => ?_, ((asked.step exit).step (meet _ rfl)).step (part _)⟩
            cases heard

end Clearing

/-! ### What becomes of the runtime -/

/-- The campus shows the crews of the runtime, its watchdog, and whether it is closed. -/
structure Shows (campus : Campus) (engine : Engine) : Prop where
  crews : campus.crews.map (fun post => (post.1, post.2.crew))
    = engine.loops.map (fun loop => (.loop, loop.crew)) ++ [(.pool, engine.workers.crew)]
  closed : campus.closed = engine.closed
  stopping : campus.lookout.stopping = engine.watchdogClosed

theorem shows_of (engine : Engine) : (of engine).Shows engine := by
  constructor
  · simp [of]
  · rfl
  · cases stopped : engine.watchdogClosed <;> simp [of, stopped]

section Closing

variable {engine : Engine} {party : Party}

theorem crews_cleared (lookout : Lookout) (stage : QuitStage) :
    (campus.cleared party campus.crews.length lookout stage).crews.map
        (fun post => (post.1, post.2.crew))
      = (campus.crews.map (fun post => (post.1, post.2.crew))).map
        fun post => (post.1, post.2.halted (campus.actorOf party)) := by
  apply List.ext_getElem?
  intro crew
  rw [List.getElem?_map, cleared_crew, List.map_map, List.getElem?_map]
  cases present : campus.crews[crew]? with
  | none => rfl
  | some post =>
      obtain ⟨within, _⟩ := List.getElem?_eq_some_iff.mp present
      simp [within, Site.halted, Site.calling]

theorem shows_cleared (shows : campus.Shows engine) (opened : engine.closed = false)
    (ready : campus.Closable party)
    {lookout : Lookout} (stopping : lookout.stopping = true) (stage : QuitStage) :
    (campus.cleared party campus.crews.length lookout stage).Shows
      (engine.closeBy (campus.actorOf party)).value.2 := by
  have known {kind : CrewKind} {shown : Crew}
      (listed : (kind, shown) ∈ engine.loops.map (fun loop => (CrewKind.loop, loop.crew))
        ++ [(.pool, engine.workers.crew)]) :
      shown.held = true ∧ shown.line.accepting = true := by
    rw [← shows.crews] at listed
    obtain ⟨⟨here, site⟩, member, same⟩ := List.mem_map.mp listed
    obtain ⟨crew, present⟩ := List.mem_iff_getElem?.mp member
    cases same
    obtain ⟨readied, accepting⟩ := ready crew here site present
    exact ⟨readied.sound.manned accepting, accepting⟩
  obtain ⟨files, value⟩ := Engine.value_closeBy opened (campus.actorOf party)
  have loops := Engine.value_stopLoops (fun loop listed => (known (List.mem_append_left _
    (List.mem_map_of_mem listed))).1) engine.workshop.watch (campus.actorOf party)
  have pool := known (List.mem_append_right _ (List.mem_singleton_self _))
  rw [value]
  constructor
  case crews =>
    have paired := congrArg (List.map (CrewKind.loop, ·)) loops
    rw [List.map_map, List.map_map] at paired
    rw [crews_cleared, shows.crews, List.map_append, List.map_map]
    exact congrArg₂ (fun loops crew => loops ++ [(CrewKind.pool, crew)]) paired.symm
      (Pool.value_shutdown pool.1 pool.2 _ _).symm
  case closed => rfl
  case stopping => exact stopping

end Closing

/-- The call of a party has returned; nobody has offered a job meanwhile, and the watchdog has
begun no handler. -/
structure Leaves (campus : Campus) (party : Party) (decisive : Bool) (after : Campus) : Prop where
  quittings : after.quittings = campus.quittings ++ [⟨party, .returned decisive⟩]
  offers : after.crews.map (·.2.offers) = campus.crews.map (·.2.offers)
  unheard : after.lookout.post = .hearing → campus.lookout.post = .hearing

theorem leaves_cleared (party : Party) {lookout : Lookout}
    (unheard : lookout.post = .hearing → campus.lookout.post = .hearing) :
    campus.Leaves party true
      (campus.cleared party campus.crews.length lookout (.returned true)) where
  quittings := rfl
  offers := by
    apply List.ext_getElem?
    intro crew
    rw [List.getElem?_map, cleared_crew, Option.map_map, List.getElem?_map]
    congr 1
    funext ⟨kind, site⟩
    by_cases stopped : crew < campus.crews.length <;> simp [stopped, Site.halted, Site.calling]
  unheard := unheard

/-- To close a runtime is a run of its campus from any moment at which no call is under way, busy as
its threads may be, and the decisive call where the runtime is open. -/
theorem closeBy_run {host : Host} {files : FileTree} {options : Options} {bindings : Bindings}
    {cluster : Option ClusterBinding} {handler : Option BlockedHandler} {took : Span}
    {engine : Engine}
    (started : (Engine.start host files options bindings cluster handler took).value = .ok engine)
    (faithful : bindings.threadFactory.RunsTasks) {acts : List Act}
    (run : Run (of engine) acts campus) {now : Engine} (shows : campus.Shows now) {party : Party}
    (quiet : campus.Quiet party) :
    ∃ later after, Run campus later after
      ∧ after.Shows (now.closeBy (campus.actorOf party)).value.2
      ∧ campus.Leaves party (!now.closed) after := by
  cases closed : now.closed with
  | true =>
      let begun : Campus := { campus with quittings := campus.quittings ++ [⟨party, .begun⟩] }
      have late : Step begun (.move campus.quittings.length) _ :=
        .late List.getElem?_concat_length rfl (shows.closed.trans closed)
      refine ⟨_, _, (Execution.start.step quiet.call_step).step late, ?_, ?_, rfl, id⟩
      · unfold Engine.closeBy
        rw [if_pos closed]
        exact ⟨shows.crews, shows.closed, shows.stopping⟩
      · simp [begun, moved]
  | false =>
      have opened := shows.closed.trans closed
      have ready := closable_of_quiet started faithful run quiet opened
      obtain ⟨first, cleared⟩ := cleared_run quiet opened ready (Nat.le_refl _)
      obtain ⟨last, lookout, stopping, unheard, returned⟩ := return_run quiet
      exact ⟨_, _, cleared.append returned, shows_cleared shows closed ready stopping _,
        leaves_cleared party unheard⟩

end Campus

end Reactor
