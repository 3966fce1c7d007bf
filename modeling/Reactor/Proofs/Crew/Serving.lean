import Reactor.Crew
import Reactor.Proofs.Crew.Site

/-!
What the threads of a crew do between its calls is a run of its site. To receive a job and to
finish it is one step each; to end the jobs that run, to serve the line and to leave takes one step
after the other. A thread whose job has a closing call open goes on with the job, so those that
serve are free.
-/

namespace Reactor

def Post.job? {J : Type} : Post J → Option J
  | .running job => some job
  | _ => none

namespace Line

variable {J : Type}

/-- One thread receives the jobs, and finishes each before the next. -/
def servings (thread : Nat) (jobs : List J) : List (Happening J) :=
  jobs.flatMap fun job => [.received thread job, .finished thread job]

theorem assigned_servings (thread : Nat) (jobs : List J) :
    receivedIn (servings thread jobs) = jobs.map (thread, ·)
      ∧ finishedIn (servings thread jobs) = jobs.map (thread, ·) := by
  induction jobs with
  | nil => exact ⟨rfl, rfl⟩
  | cons job jobs ih => exact ⟨congrArg _ ih.1, congrArg _ ih.2⟩

theorem servings_run {line : Line J} {thread : Nat}
    (waiting : line.posts[thread]? = some .waiting) :
    Run line (servings thread line.queue) { line with queue := [] } := by
  generalize queued : line.queue = jobs
  induction jobs generalizing line with
  | nil =>
      cases line
      cases queued
      exact .start
  | cons job jobs ih =>
      let busy : Line J := { line with queue := jobs, posts := line.posts.set thread (.running job) }
      let next : Line J := { line with queue := jobs }
      have received : Step line (.received thread job) busy :=
        .receive (receive_eq_some_iff.mpr ⟨waiting, jobs, queued, rfl⟩)
      have restored : next = { busy with posts := busy.posts.set thread .waiting } := by
        obtain ⟨within, post⟩ := List.getElem?_eq_some_iff.mp waiting
        simp only [next, busy, List.set_set, ← post, List.set_getElem_self]
      have finished : Step busy (.finished thread job) next :=
        .finish (finish_eq_some_iff.mpr
          ⟨(post_set (.running job) waiting thread).trans (if_pos rfl), restored⟩)
      have rest : Run next (servings thread jobs) { next with queue := [] } := ih waiting rfl
      exact ((Execution.start.step received).step finished).append rest

/-- The jobs that run in those places, each with its thread. -/
def running (line : Line J) (places : List Nat) : List (Nat × J) :=
  places.filterMap fun place => (line.posts[place]?.bind Post.job?).map (place, ·)

def endings (ended : List (Nat × J)) : List (Happening J) :=
  ended.map fun (thread, job) => .finished thread job

theorem assigned_endings (ended : List (Nat × J)) :
    receivedIn (endings ended) = [] ∧ finishedIn (endings ended) = ended := by
  induction ended with
  | nil => exact ⟨rfl, rfl⟩
  | cons first ended ih => exact ⟨ih.1, congrArg (first :: ·) ih.2⟩

theorem job_finish (line : Line J) (place : Nat) :
    (line.finish place).map (·.1) = line.posts[place]?.bind Post.job? := by
  unfold finish
  cases line.posts[place]? with
  | none => rfl
  | some post => cases post <;> rfl

theorem finishAll_run {line : Line J} {places : List Nat} (once : places.Nodup) :
    Run line (endings (line.running places)) (line.finishAll places) := by
  induction places generalizing line with
  | nil => exact .start
  | cons place places ih =>
      obtain ⟨elsewhere, others⟩ := List.nodup_cons.mp once
      have rest := @ih (line.finishAt place) others
      have same : (line.finishAt place).running places = line.running places := by
        refine List.filterMap_congr fun other listed => ?_
        rw [post_finishAt, if_neg]
        rintro rfl
        exact elsewhere listed
      have here := line.job_finish place
      rw [same] at rest
      change Run line _ ((line.finishAt place).finishAll places)
      unfold running
      rw [List.filterMap_cons, ← here]
      cases finished : line.finish place with
      | none =>
          have idle : line.finishAt place = line := by
            unfold finishAt
            rw [finished]
            rfl
          rw [idle] at rest ⊢
          exact rest
      | some ended =>
          have ending : Step line (.finished place ended.1) (line.finishAt place) := by
            unfold finishAt
            rw [finished]
            exact .finish finished
          exact (Execution.start.step ending).append rest

/-- The threads behind some others leave one by one, if they wait. -/
theorem leavings_run {line : Line J} (closed : line.accepting = false) (empty : line.queue = [])
    {before after : List (Post J)} (posts : line.posts = before ++ after) :
    ∃ threads : List Nat, Run line (threads.map .exited)
      { line with posts := before ++ after.map fun post => if post.isWaiting then .gone else post } := by
  -- On the threads that are still to be looked at; those before them stay as they are.
  induction after generalizing line before with
  | nil =>
      refine ⟨[], ?_⟩
      rw [List.map_nil, List.map_nil, ← posts]
      exact .start
  | cons post after ih =>
      have stays (same : (if post.isWaiting then .gone else post) = post) :
          ∃ threads : List Nat, Run line (threads.map .exited)
            { line with posts :=
                before ++ (post :: after).map fun post => if post.isWaiting then .gone else post } := by
        have split : line.posts = (before ++ [post]) ++ after := by
          rw [posts, List.append_assoc, List.singleton_append]
        obtain ⟨threads, run⟩ := ih closed empty split
        rw [List.append_assoc, List.singleton_append] at run
        rw [List.map_cons, same]
        exact ⟨threads, run⟩
      cases post with
      | running _ | gone => exact stays rfl
      | waiting =>
          have waiting : line.posts[before.length]? = some .waiting := by
            rw [posts, List.getElem?_append_right (Nat.le_refl _), Nat.sub_self]
            rfl
          let next : Line J := { line with posts := before ++ .gone :: after }
          have left : Step line (.exited before.length) next := by
            refine .leave (leave_eq_some_iff.mpr ⟨closed, waiting, empty, ?_⟩)
            rw [posts, List.set_append_right _ _ (Nat.le_refl _), Nat.sub_self]
            rfl
          have split : next.posts = (before ++ [.gone]) ++ after := by
            rw [List.append_assoc, List.singleton_append]
          obtain ⟨threads, run⟩ := ih (show next.accepting = false from closed) empty split
          rw [List.append_assoc, List.singleton_append] at run
          exact ⟨before.length :: threads, (Execution.start.step left).append run⟩

theorem dismiss_run (line : Line J) :
    ∃ threads : List Nat, Run line (threads.map .exited) line.dismiss := by
  unfold dismiss
  split
  · rename_i closed empty
    exact leavings_run closed empty (List.nil_append line.posts).symm
  · exact ⟨[], .start⟩

theorem length_posts_finishAll (line : Line J) (places : List Nat) :
    (line.finishAll places).posts.length = line.posts.length := by
  unfold finishAll
  induction places generalizing line with
  | nil => rfl
  | cons place places ih =>
      rw [List.foldl_cons, ih]
      unfold finishAt finish
      split
      · exact List.length_set
      · rfl

theorem length_posts_dismiss (line : Line J) : line.dismiss.posts.length = line.posts.length := by
  unfold dismiss
  split
  · exact List.length_map _
  · rfl

/-- Once a line that accepts no more has been served, a thread that runs no job has left. -/
theorem gone_dismiss {line : Line J} (closed : line.accepting = false) {thread : Nat}
    (within : thread < line.posts.length)
    (idle : ∀ job, line.posts[thread]? ≠ some (.running job)) :
    line.serve.2.dismiss.posts[thread]? = some .gone := by
  have dismissed {served : Line J} (posts : served.posts = line.posts)
      (gone : line.posts[thread]? = some .gone) : served.dismiss.posts[thread]? = some .gone := by
    unfold dismiss
    split
    · simp [posts, gone, Post.isWaiting]
    · rw [posts]
      exact gone
  cases post : line.posts[thread]? with
  | none => exact absurd within (Nat.not_lt.mpr (List.getElem?_eq_none_iff.mp post))
  | some doing =>
      cases doing with
      | running job => exact absurd post (idle job)
      | gone => exact dismissed line.posts_serve post
      | waiting =>
          rcases line.serve_cases with ⟨_, _, served⟩ | ⟨none, _⟩
          · rw [served]
            unfold dismiss
            rw [closed]
            simp [post, Post.isWaiting]
          · exact absurd post (none thread)

theorem running_step {line next : Line J} {happening : Happening J}
    (step : Step line happening next) {thread : Nat} {job : J}
    (running : line.posts[thread]? = some (.running job)) :
    next.posts[thread]? = some (.running job) ∨ happening = .finished thread job := by
  have kept {other : Nat} {new : Post J} (present : line.posts[other]? = some .waiting) :
      (line.posts.set other new)[thread]? = some (.running job) := by
    rw [post_set new present, if_neg]
    · exact running
    · rintro rfl
      rw [running] at present
      cases present
  cases step with
  | accept accepted =>
      obtain ⟨_, _, rfl⟩ := submit_eq_ok_iff.mp accepted
      exact Or.inl running
  | refuse _ | hangUp => exact Or.inl running
  | receive received =>
      obtain ⟨waiting, _, _, rfl⟩ := receive_eq_some_iff.mp received
      exact Or.inl (kept waiting)
  | leave left =>
      obtain ⟨_, waiting, _, rfl⟩ := leave_eq_some_iff.mp left
      exact Or.inl (kept waiting)
  | @finish _ other _ finished =>
      obtain ⟨atOther, rfl⟩ := finish_eq_some_iff.mp finished
      by_cases same : other = thread
      · subst other
        rw [running] at atOther
        cases atOther
        exact Or.inr rfl
      · refine Or.inl ?_
        rw [post_set .waiting atOther, if_neg same]
        exact running

end Line

namespace Site

/-! ### Work at the line -/

theorem historyOf_serve (history : List (Happening Job)) :
    historyOf (history.map .serve) = history := by
  simp [historyOf, List.filterMap_map, Function.comp_def, Act.happening?]

/-- What the threads of a site do while no job of theirs has a call open. -/
def Calm (site : Site) : Happening Job → Prop
  | .received _ _ | .exited _ => True
  | .finished thread _ => site.Free thread
  | _ => False

theorem run_of_line {site : Site} {history : List (Happening Job)} {line : Line Job}
    (kind : CrewKind) (run : Line.Run site.crew.line history line)
    (calm : ∀ happening ∈ history, site.Calm happening) :
    Run kind site (history.map .serve) (site.withLine line) := by
  induction run with
  | start => exact .start
  | @step history line next happening _ step ih =>
      rw [List.map_append, List.map_singleton]
      have last := calm happening (List.mem_append_right _ (List.mem_singleton_self _))
      have earlier := ih fun other present => calm other (List.mem_append_left _ present)
      refine earlier.step ?_
      cases step with
      | receive received => exact .receive received
      | finish finished => exact .finish last finished
      | leave left => exact .leave left
      | accept _ | refuse _ | hangUp => exact last.elim

theorem receive_step (kind : CrewKind) {site : Site} {watch after : Watch} {now index : Nat}
    {job : Job} {crew : Crew} (received : site.crew.receive watch now index = some (job, crew, after)) :
    Step kind site (.serve (.received index job)) { site with crew } := by
  unfold Crew.receive at received
  obtain ⟨thread, _, received⟩ := Option.bind_eq_some_iff.mp received
  obtain ⟨⟨_, line⟩, taken, received⟩ := Option.bind_eq_some_iff.mp received
  cases received
  exact .receive taken

theorem finish_step (kind : CrewKind) {site : Site} (watch : Watch) {index : Nat} {job : Job}
    (staffed : site.crew.threads.length = site.crew.line.posts.length) (free : site.Free index)
    (running : site.crew.line.posts[index]? = some (.running job)) :
    Step kind site (.serve (.finished index job))
      { site with crew := (site.crew.finish watch index).value.1 } := by
  obtain ⟨within, _⟩ := List.getElem?_eq_some_iff.mp running
  have present := List.getElem?_eq_getElem (staffed.symm ▸ within)
  have finished : site.crew.line.finish index = some (job, _) :=
    Line.finish_eq_some_iff.mpr ⟨running, rfl⟩
  unfold Crew.finish
  rw [present, finished]
  exact .finish free finished

/-- The waiting threads serve the line, each job from its receipt to its end, and leave. -/
theorem settle_run (kind : CrewKind) (site : Site) (watch : Watch)
    (free : ∀ thread : Nat, site.crew.line.posts[thread]? = some .waiting → site.Free thread) :
    ∃ history,
      Run kind site (history.map .serve) { site with crew := (site.crew.settle watch).value.2.1 }
        ∧ (receivedIn history).map (·.2) = (site.crew.settle watch).value.1
        ∧ finishedIn history = receivedIn history := by
  obtain ⟨jobs, crew⟩ := site.crew.value_settle watch
  rw [jobs, crew]
  obtain ⟨threads, leavings⟩ := site.crew.line.serve.2.dismiss_run
  have leaving : receivedIn (threads.map .exited : List (Happening Job)) = []
      ∧ finishedIn (threads.map .exited : List (Happening Job)) = [] := by
    constructor <;> simp [receivedIn, finishedIn, Happening.received?, Happening.finished?]
  have calm : ∀ happening ∈ threads.map .exited, site.Calm happening := by
    intro happening present
    obtain ⟨thread, _, rfl⟩ := List.mem_map.mp present
    exact trivial
  rcases site.crew.line.serve_cases with ⟨thread, waiting, served⟩ | ⟨_, idle⟩
  · rw [served] at leavings ⊢
    let history := Line.servings thread site.crew.line.queue
    obtain ⟨received, finished⟩ := Line.assigned_servings thread site.crew.line.queue
    refine ⟨history ++ threads.map .exited, ?_, ?_, ?_⟩
    · refine run_of_line kind ((Line.servings_run waiting).append leavings) fun happening present => ?_
      rcases List.mem_append.mp present with serving | left
      · obtain ⟨job, _, event⟩ := List.mem_flatMap.mp serving
        simp only [List.mem_cons, List.not_mem_nil, or_false] at event
        rcases event with rfl | rfl
        · exact trivial
        · exact free thread waiting
      · exact calm happening left
    · rw [receivedIn_append, received, leaving.1, List.append_nil, List.map_map]
      exact List.map_id _
    · rw [receivedIn_append, finishedIn_append, received, finished, leaving.1, leaving.2]
  · rw [idle] at leavings ⊢
    refine ⟨threads.map .exited, run_of_line kind leavings calm, ?_, ?_⟩
    · rw [leaving.1]
      rfl
    · rw [leaving.1, leaving.2]

/-- Threads end their jobs, and then the line is served and left. -/
theorem vacate_run (kind : CrewKind) (site : Site) (watch : Watch) {places : List Nat}
    (once : places.Nodup) (present : ∀ place ∈ places, place < site.crew.threads.length)
    (free : ∀ thread : Nat, thread ∈ places ∨ site.crew.line.posts[thread]? = some .waiting →
      site.Free thread) :
    ∃ history,
      Run kind site (history.map .serve)
          { site with crew := (site.crew.vacate watch places).value.2.1 }
        ∧ (receivedIn history).map (·.2) = (site.crew.vacate watch places).value.1
        ∧ finishedIn history = site.crew.line.running places ++ receivedIn history := by
  let line := site.crew.line.finishAll places
  let left := (site.crew.finishAll watch places).value.2
  have finished : (site.crew.finishAll watch places).value.1 = { site.crew with line } :=
    site.crew.value_finishAll watch present
  have vacated : (site.crew.vacate watch places).value
      = (Crew.settle { site.crew with line } left).value := by
    rw [← finished]
    rfl
  have among : ∀ ended ∈ site.crew.line.running places, ended.1 ∈ places := by
    intro ended listed
    obtain ⟨place, here, found⟩ := List.mem_filterMap.mp listed
    obtain ⟨job, _, rfl⟩ := Option.map_eq_some_iff.mp found
    exact here
  have ending : Run kind site ((Line.endings (site.crew.line.running places)).map .serve)
      (site.withLine line) := by
    refine run_of_line kind (Line.finishAll_run once) fun happening listed => ?_
    obtain ⟨ended, here, rfl⟩ := List.mem_map.mp listed
    exact free ended.1 (.inl (among ended here))
  obtain ⟨history, serving, served, done⟩ :=
    settle_run kind (site.withLine line) left fun thread waiting => by
      refine free thread ?_
      change line.posts[thread]? = some .waiting at waiting
      rw [Line.post_finishAll] at waiting
      by_cases here : thread ∈ places
      · exact .inl here
      · rw [if_neg here] at waiting
        exact .inr waiting
  obtain ⟨none, all⟩ := Line.assigned_endings (site.crew.line.running places)
  refine ⟨Line.endings (site.crew.line.running places) ++ history, ?_, ?_, ?_⟩
  · rw [List.map_append, vacated]
    exact ending.append serving
  · rw [receivedIn_append, none, vacated]
    exact served
  · rw [receivedIn_append, finishedIn_append, none, all, done]
    rfl

end Site

end Reactor
