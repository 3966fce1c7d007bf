import Reactor.Pool
import Reactor.Proofs.Crew.Closing
import Reactor.Proofs.Crew.Serving

/-!
What pools and event loops do when they are called is a run of their sites. A submission is one
step; and to stop, from outside or from the job of a thread, is a closing call from its beginning
to its return, with the jobs of the line served in between.
-/

namespace Reactor

namespace Crew

def hungUp (crew : Crew) : Crew := { crew with line := crew.line.hangUp }

/-- The crew that was stopped while it held its threads, which are let go. -/
def halted (crew : Crew) (actor : Actor) : Crew :=
  { crew with
    held := false, line := (crew.line.hangUp.finishAll (crew.others actor)).serve.2.dismiss }

/-- The crew that has hung up, once those that were not acting have ended their jobs, served the
line and left. -/
def settled (crew : Crew) (watch : Watch) (actor : Actor) : Crew :=
  (crew.hungUp.vacate watch (crew.others actor)).value.2.1

theorem settled_eq (crew : Crew) (watch : Watch) (actor : Actor) :
    crew.settled watch actor = { crew.halted actor with held := crew.held } :=
  (crew.hungUp.value_vacate watch (crew.others_within actor)).2

theorem released_settled (crew : Crew) (watch : Watch) (actor : Actor) :
    { crew.settled watch actor with held := false } = crew.halted actor := by
  rw [settled_eq]
  rfl

theorem length_posts_halted (crew : Crew) (actor : Actor) :
    (crew.halted actor).line.posts.length = crew.line.posts.length := by
  change (Line.dismiss _).posts.length = _
  rw [Line.length_posts_dismiss, Line.posts_serve, Line.length_posts_finishAll]
  rfl

/-- What the actor is to the crew: its thread in that place, or nobody of its own. -/
def Acts (crew : Crew) (actor : Actor) (caller : Option Nat) : Prop :=
  ∀ (place : Nat) (thread : RuntimeThread), crew.threads[place]? = some thread →
    (actor = .thread thread.key ↔ caller = some place)

theorem Acts.mem_others {crew : Crew} {actor : Actor} {caller : Option Nat}
    (acts : crew.Acts actor caller) {place : Nat} :
    place ∈ crew.others actor ↔ place < crew.threads.length ∧ caller ≠ some place := by
  rw [Crew.mem_others]
  constructor
  · rintro ⟨thread, present, elsewhere⟩
    exact ⟨(List.getElem?_eq_some_iff.mp present).1,
      fun calls => elsewhere ((acts place thread present).mpr calls)⟩
  · rintro ⟨within, elsewhere⟩
    have present := List.getElem?_eq_getElem within
    exact ⟨_, present, fun own => elsewhere ((acts place _ present).mp own)⟩

theorem nodup_others (crew : Crew) (actor : Actor) : (crew.others actor).Nodup :=
  List.Pairwise.filter _ List.nodup_range

end Crew

namespace Site

/-! ### Closing calls -/

/-- The site while one more closing call is under way. -/
def calling (site : Site) (crew : Crew) (caller : Option Nat) (stage : ClosingStage) : Site :=
  ⟨crew, site.offers, site.closings ++ [⟨caller, stage⟩]⟩

theorem closings_calling (site : Site) (crew : Crew) (caller : Option Nat) (stage : ClosingStage) :
    (site.calling crew caller stage).closings[site.closings.length]? = some ⟨caller, stage⟩ := by
  simp [calling]

theorem moved_calling (site : Site) (crew : Crew) (caller : Option Nat)
    (stage next : ClosingStage) :
    (site.calling crew caller stage).moved site.closings.length ⟨caller, stage⟩ next
      = site.calling crew caller next := by
  simp [calling, moved]

theorem join_run (kind : CrewKind) (site : Site) (crew : Crew) (caller : Option Nat)
    {left : List Nat} (gone : ∀ thread ∈ left, crew.line.posts[thread]? = some .gone) :
    ∃ acts, historyOf acts = []
      ∧ Run kind (site.calling crew caller (.joining left)) acts
        (site.calling crew caller (.returned true)) := by
  let number := site.closings.length
  induction left with
  | nil =>
      have step : Step kind (site.calling crew caller (.joining [])) (.proceed number) _ :=
        .settle (closings_calling _ _ _ _) rfl
      rw [moved_calling] at step
      exact ⟨[.proceed number], rfl, Execution.start.step step⟩
  | cons thread left ih =>
      have step : Step kind (site.calling crew caller (.joining (thread :: left)))
          (.proceed number) _ :=
        .join (closings_calling _ _ _ _) rfl (gone thread List.mem_cons_self)
      rw [moved_calling] at step
      obtain ⟨acts, silent, run⟩ := ih fun other present => gone other (List.mem_cons_of_mem _ present)
      exact ⟨.proceed number :: acts, silent, (Execution.start.step step).append run⟩

/-- Somebody is about to stop a crew, from outside or from one of its jobs, and every call that its
jobs have made has returned. -/
structure Ready (kind : CrewKind) (site : Site) (actor : Actor) (caller : Option Nat) : Prop where
  sound : Sound kind site
  staffed : site.crew.threads.length = site.crew.line.posts.length
  acts : site.crew.Acts actor caller
  working : ∀ thread, caller = some thread → ∃ job, site.crew.line.posts[thread]? = some (.running job)
  free : ∀ thread, site.Free thread

section Stopping

variable {kind : CrewKind} {site : Site} {actor : Actor} {caller : Option Nat}

theorem Ready.gone (ready : Ready kind site actor caller) {thread : Nat}
    (within : thread < site.crew.line.posts.length) (elsewhere : caller ≠ some thread) :
    (site.crew.halted actor).line.posts[thread]? = some .gone := by
  refine Line.gone_dismiss (Line.accepting_finishAll _ _) ?_ fun job running => ?_
  · rw [Line.length_posts_finishAll]
    exact within
  · have ends : thread ∈ site.crew.others actor :=
      ready.acts.mem_others.mpr ⟨ready.staffed ▸ within, elsewhere⟩
    rw [Line.post_finishAll, if_pos ends] at running
    obtain ⟨post, _, freed⟩ := Option.map_eq_some_iff.mp running
    cases post <;> cases freed

/-- Once a call has hung up, some threads that are not acting end their jobs, and those that wait
serve the line. -/
theorem Ready.vacate_run (ready : Ready kind site actor caller) (watch : Watch)
    {places : List Nat} (once : places.Nodup)
    (others : ∀ place ∈ places, place ∈ site.crew.others actor) :
    let vacated := (site.crew.hungUp.vacate watch places).value
    ∃ history, Run kind (site.calling site.crew.hungUp caller .hungUp) (history.map .serve)
        (site.calling vacated.2.1 caller .hungUp)
      ∧ (receivedIn history).map (·.2) = vacated.1
      ∧ finishedIn history = site.crew.line.running places ++ receivedIn history := by
  have free : ∀ thread : Nat,
      thread ∈ places ∨ site.crew.line.posts[thread]? = some .waiting →
        (site.calling site.crew.hungUp caller .hungUp).Free thread := by
    intro thread serves closing present calls
    rcases List.mem_append.mp present with old | new
    · exact ready.free thread closing old calls
    · -- The acting thread neither waits nor is among those that end their jobs.
      cases List.mem_singleton.mp new
      obtain ⟨job, running⟩ := ready.working thread calls
      rcases serves with ends | waiting
      · exact absurd calls (ready.acts.mem_others.mp (others thread ends)).2
      · rw [running] at waiting
        cases waiting
  exact Site.vacate_run kind (site.calling site.crew.hungUp caller .hungUp) watch once
    (fun place listed => site.crew.others_within actor place (others place listed)) free

theorem Ready.closed_run (ready : Ready kind site actor caller) (watch : Watch)
    {places : List Nat} (once : places.Nodup)
    (others : ∀ place ∈ places, place ∈ site.crew.others actor)
    (first : kind = .pool → site.crew.line.accepting = true) :
    let vacated := (site.crew.hungUp.vacate watch places).value
    ∃ acts history, historyOf acts = .hungUp :: history
      ∧ Run kind site acts (site.calling vacated.2.1 caller .hungUp)
      ∧ (receivedIn history).map (·.2) = vacated.1
      ∧ finishedIn history = site.crew.line.running places ++ receivedIn history := by
  have called : Step kind site (.call caller) (site.calling site.crew caller .begun) :=
    .call fun thread calls => ⟨ready.working thread calls, ready.free thread⟩
  have hungUp : Step kind (site.calling site.crew caller .begun) (.hangUp site.closings.length)
      ((site.calling site.crew.hungUp caller .begun).moved site.closings.length ⟨caller, .begun⟩
        .hungUp) :=
    .hangUp (closings_calling _ _ _ _) rfl first
  rw [moved_calling] at hungUp
  obtain ⟨history, served, received, finished⟩ := ready.vacate_run watch once others
  refine ⟨[.call caller, .hangUp site.closings.length] ++ history.map .serve, history, ?_,
    ((Execution.start.step called).step hungUp).append served, received, finished⟩
  exact congrArg (Happening.hungUp :: ·) (historyOf_serve history)

/-- The jobs that end before a stop returns, beside those that it still takes from the line. -/
def ending (site : Site) (actor : Actor) : List (Nat × Job) :=
  if site.crew.held then site.crew.line.running (site.crew.others actor) else []

/-- The threads that a call takes have left, as it takes them once they have served the line. -/
theorem Ready.gone_others (ready : Ready kind site actor caller) (watch : Watch) :
    ∀ thread ∈ (site.calling (site.crew.settled watch actor) caller .hungUp).others caller,
      (site.crew.halted actor).line.posts[thread]? = some .gone := by
  intro thread present
  obtain ⟨within, elsewhere⟩ := mem_others.mp present
  refine ready.gone ?_ elsewhere
  rw [← site.crew.length_posts_halted actor, ← site.crew.released_settled watch actor]
  exact within

theorem take_step (kind : CrewKind) (watch : Watch) (actor : Actor) (caller : Option Nat)
    (held : site.crew.held = true) :
    Step kind (site.calling (site.crew.settled watch actor) caller .hungUp)
      (.proceed site.closings.length)
      ((site.calling (site.crew.halted actor) caller .hungUp).moved site.closings.length
        ⟨caller, .hungUp⟩
        (.joining ((site.calling (site.crew.settled watch actor) caller .hungUp).others caller))) := by
  have kept : (site.crew.settled watch actor).held = true :=
    (congrArg Crew.held (site.crew.settled_eq watch actor)).trans held
  rw [← site.crew.released_settled watch actor]
  exact .take (closings_calling _ _ _ _) rfl kept

theorem Ready.taken_run (ready : Ready kind site actor caller) (watch : Watch)
    (held : site.crew.held = true) :
    ∃ acts, historyOf acts = []
      ∧ Run kind (site.calling (site.crew.settled watch actor) caller .hungUp) acts
        (site.calling (site.crew.halted actor) caller (.returned true)) := by
  have taken := take_step kind watch actor caller held
  rw [moved_calling] at taken
  obtain ⟨joins, silent, joined⟩ :=
    join_run kind site (site.crew.halted actor) caller (ready.gone_others watch)
  exact ⟨.proceed site.closings.length :: joins, silent, (Execution.start.step taken).append joined⟩

/-- A call that finds no threads held returns at once. Only an event loop comes to that. -/
theorem Ready.bare_run (ready : Ready kind site actor caller) (watch : Watch)
    (held : site.crew.held = false) (first : kind = .pool → site.crew.line.accepting = true) :
    let settled := (site.crew.hungUp.vacate watch []).value.2.1
    ∃ acts, historyOf acts = []
      ∧ Run kind (site.calling settled caller .hungUp) acts
        (site.calling settled caller (.returned false)) := by
  intro settled
  cases kind with
  | pool =>
      have manned := ready.sound.manned (first rfl)
      rw [held] at manned
      cases manned
  | loop =>
      have returned : Step .loop (site.calling settled caller .hungUp)
          (.proceed site.closings.length)
          ((site.calling settled caller .hungUp).moved site.closings.length ⟨caller, .hungUp⟩
            (.returned false)) :=
        .bare (closings_calling _ _ _ _) rfl held
      rw [moved_calling] at returned
      exact ⟨_, rfl, Execution.start.step returned⟩

/-- Stopping a crew is a closing call from its beginning to its return. It is the decisive one if
it finds the threads held. -/
theorem Ready.stop_run (ready : Ready kind site actor caller) (watch : Watch)
    (abnormal : String → Told Unit) (first : kind = .pool → site.crew.line.accepting = true) :
    let stopped := (site.crew.stop watch actor abnormal).value
    ∃ acts, Run kind site acts (site.calling stopped.2.1 caller (.returned site.crew.held))
      ∧ (receivedIn (historyOf acts)).map (·.2) = stopped.1
      ∧ finishedIn (historyOf acts) = site.ending actor ++ receivedIn (historyOf acts) := by
  intro stopped
  have seen {acts last : List Act} {history : List (Happening Job)}
      (told : historyOf acts = .hungUp :: history) (silent : historyOf last = []) :
      historyOf (acts ++ last) = .hungUp :: history := by
    rw [historyOf_append, told, silent, List.append_nil]
  cases held : site.crew.held with
  | true =>
      obtain ⟨acts, history, told, run, received, finished⟩ :=
        ready.closed_run watch (site.crew.nodup_others actor) (fun _ => id) first
      obtain ⟨last, silent, returned⟩ := ready.taken_run watch held
      obtain ⟨jobs, crew⟩ := Crew.value_stop_held watch actor abnormal held
      refine ⟨acts ++ last, ?_, ?_, ?_⟩
      · rw [crew]
        exact run.append returned
      · rw [seen told silent, jobs]
        exact received.trans (site.crew.hungUp.value_vacate watch (site.crew.others_within actor)).1
      · rw [seen told silent, ending, if_pos held]
        exact finished
  | false =>
      obtain ⟨acts, history, told, run, received, finished⟩ :=
        ready.closed_run watch List.nodup_nil nofun first
      obtain ⟨last, silent, returned⟩ := ready.bare_run watch held first
      have bare : site.crew.stop watch actor abnormal = site.crew.hungUp.vacate watch [] :=
        Crew.value_stop_bare watch actor abnormal held
      refine ⟨acts ++ last, ?_, ?_, ?_⟩
      · unfold stopped
        rw [bare]
        exact run.append returned
      · unfold stopped
        rw [seen told silent, bare]
        exact received
      · rw [seen told silent, ending, held]
        exact finished

end Stopping

theorem threads_step {kind : CrewKind} {site next : Site} {act : Act}
    (step : Step kind site act next) : next.crew.threads = site.crew.threads := by
  cases step <;> rfl

theorem threads_run {kind : CrewKind} {start site : Site} {acts : List Act}
    (run : Run kind start acts site) : site.crew.threads = start.crew.threads := by
  induction run with
  | start => rfl
  | step _ step ih => exact (threads_step step).trans ih

theorem staffed_run {kind : CrewKind} {threads : List RuntimeThread} {acts : List Act} {site : Site}
    (run : Run kind (create threads) acts site) :
    site.crew.threads.length = site.crew.line.posts.length := by
  rw [threads_run run, Line.length_posts_run (line_run run)]
  exact (List.length_map _).symm

/-- At any moment of a run at which no job has a call open, the crew may be stopped from outside or
from one of its jobs. -/
theorem ready_of_run {kind : CrewKind} {threads : List RuntimeThread} {acts : List Act}
    {site : Site} {actor : Actor} {caller : Option Nat}
    (serving : ∀ thread ∈ threads, thread.runsTask = true)
    (run : Run kind (create threads) acts site) (known : site.crew.Acts actor caller)
    (working : ∀ thread, caller = some thread →
      ∃ job, site.crew.line.posts[thread]? = some (.running job))
    (free : ∀ thread, site.Free thread) : Ready kind site actor caller where
  sound := sound_run (sound_create serving kind) run
  staffed := staffed_run run
  acts := known
  working := working
  free := free

end Site

/-! ### Pools and event loops -/

open Site

namespace Pool

variable {pool : Pool} {offers : Nat} {closings : List Closing}

theorem submit_step {job : Job} (ticket : job.ticket = offers) :
    match pool.submit job with
    | .ok next =>
      Site.Step .pool ⟨pool.crew, offers, closings⟩ (.submit (.accepted job))
        ⟨next.crew, offers + 1, closings⟩
    | .error _ =>
      Site.Step .pool ⟨pool.crew, offers, closings⟩ (.submit (.refused job))
        ⟨pool.crew, offers + 1, closings⟩ := by
  unfold submit
  cases outcome : pool.crew.line.submit job with
  | ok line => exact .submit (.accept outcome) rfl ticket
  | error refusal =>
      cases refusal <;> exact .submit (.refuse outcome) rfl ticket

/-- To shut a pool down is a closing call, and the decisive one if the pool was open. -/
theorem shutdown_run {actor : Actor} {caller : Option Nat}
    (ready : Ready .pool ⟨pool.crew, offers, closings⟩ actor caller) (watch : Watch) :
    let site : Site := ⟨pool.crew, offers, closings⟩
    let stopped := (pool.shutdown watch actor).value
    ∃ acts, Site.Run .pool site acts
        ⟨stopped.2.1.crew, offers, closings ++ [⟨caller, .returned pool.crew.line.accepting⟩]⟩
      ∧ (receivedIn (historyOf acts)).map (·.2) = stopped.1
      ∧ finishedIn (historyOf acts)
        = (if pool.crew.line.accepting then site.ending actor else [])
          ++ receivedIn (historyOf acts) := by
  intro site stopped
  cases accepting : pool.crew.line.accepting with
  | false =>
      have untouched : stopped = ([], pool, watch) := by
        unfold stopped shutdown
        rw [if_pos accepting]
        rfl
      rw [untouched]
      have called : Site.Step .pool site (.call caller) (site.calling pool.crew caller .begun) :=
        .call fun thread calls => ⟨ready.working thread calls, ready.free thread⟩
      have late : Site.Step .pool (site.calling pool.crew caller .begun) (.proceed closings.length)
          ((site.calling pool.crew caller .begun).moved closings.length ⟨caller, .begun⟩
            (.returned false)) :=
        .late (closings_calling site _ _ _) rfl rfl accepting
      rw [moved_calling site] at late
      exact ⟨[.call caller, .proceed closings.length], (Execution.start.step called).step late, rfl, rfl⟩
  | true =>
      let abnormal (report : String) : Told Unit :=
        Told.log actor .warn .executor "Pool thread exited abnormally"
          [("pool", .shown pool.shape.name), ("error", .shown report)]
      have through : stopped.1 = (pool.crew.stop watch actor abnormal).value.1
          ∧ stopped.2.1.crew
            = (pool.crew.stop watch actor abnormal).value.2.1 := by
        unfold stopped shutdown
        rw [if_neg (by rw [accepting]; exact Bool.true_eq_false.mp)]
        exact ⟨rfl, rfl⟩
      have held : pool.crew.held = true := ready.sound.manned accepting
      obtain ⟨acts, run, received, finished⟩ := ready.stop_run watch abnormal fun _ => accepting
      rw [through.1, through.2]
      exact ⟨acts, held ▸ run, received, finished⟩

/-- A pool that was open and is shut down from outside has no thread left, busy as it may have been. -/
theorem gone_shutdown (ready : Ready .pool ⟨pool.crew, offers, closings⟩ .caller none)
    (accepting : pool.crew.line.accepting = true) (watch : Watch) :
    ∀ post ∈ (pool.shutdown watch .caller).value.2.1.crew.line.posts, post = .gone := by
  obtain ⟨acts, run, _, _⟩ := shutdown_run ready watch
  rw [accepting] at run
  exact (sound_run ready.sound run).gone (List.mem_append_right _ (List.mem_singleton_self _))

end Pool

namespace EventLoop

variable {loop : EventLoop} {offers : Nat} {closings : List Closing}

theorem submit_step {job : Job} (ticket : job.ticket = offers) :
    match loop.submit job with
    | .ok next =>
      Site.Step .loop ⟨loop.crew, offers, closings⟩ (.submit (.accepted job))
        ⟨next.crew, offers + 1, closings⟩
    | .error _ =>
      Site.Step .loop ⟨loop.crew, offers, closings⟩ (.submit (.refused job))
        ⟨loop.crew, offers + 1, closings⟩ := by
  unfold submit
  cases outcome : loop.crew.line.submit job with
  | ok line => exact .submit (.accept outcome) rfl ticket
  | error refusal =>
      cases refusal <;> exact .submit (.refuse outcome) rfl ticket

/-- To stop a loop is a closing call, and the decisive one if the loop still had its thread. -/
theorem stop_run {actor : Actor} {caller : Option Nat}
    (ready : Ready .loop ⟨loop.crew, offers, closings⟩ actor caller) (watch : Watch) :
    let site : Site := ⟨loop.crew, offers, closings⟩
    let stopped := (loop.stop watch actor).value
    ∃ acts, Site.Run .loop site acts
        ⟨stopped.2.1.crew, offers, closings ++ [⟨caller, .returned loop.crew.held⟩]⟩
      ∧ (receivedIn (historyOf acts)).map (·.2) = stopped.1
      ∧ finishedIn (historyOf acts) = site.ending actor ++ receivedIn (historyOf acts) :=
  ready.stop_run watch _ fun impossible => by cases impossible

theorem gone_stop (ready : Ready .loop ⟨loop.crew, offers, closings⟩ .caller none)
    (held : loop.crew.held = true) (watch : Watch) :
    ∀ post ∈ (loop.stop watch .caller).value.2.1.crew.line.posts, post = .gone := by
  obtain ⟨acts, run, _, _⟩ := stop_run ready watch
  rw [held] at run
  exact (sound_run ready.sound run).gone (List.mem_append_right _ (List.mem_singleton_self _))

end EventLoop

end Reactor
