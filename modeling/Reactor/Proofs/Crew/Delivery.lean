import Mathlib.Data.List.Nodup
import Reactor.Proofs.Crew.Progress

/-!
What a crew does with the jobs it is given, over every run. Each accepted job is received by one
thread, in the order of acceptance, and is finished there once; a refused job is never received;
no thread leaves while a job may still need it. Closing loses none of this: a decisive call that
returns outside the crew finds every accepted job finished and every thread gone.
-/

namespace Reactor

structure Numbered (history : List (Happening Job)) (offers : Nat) : Prop where
  distinct : ((acceptedIn history).map (·.ticket)).Nodup
  apart : ∀ job ∈ acceptedIn history, ∀ other ∈ refusedIn history, job.ticket ≠ other.ticket
  accepted : ∀ job ∈ acceptedIn history, job.ticket < offers
  refused : ∀ job ∈ refusedIn history, job.ticket < offers

theorem numbered_nil : Numbered [] 0 where
  distinct := List.nodup_nil
  apart _ impossible := by cases impossible
  accepted _ impossible := by cases impossible
  refused _ impossible := by cases impossible

theorem Numbered.submit {history : List (Happening Job)} {offers : Nat}
    (numbered : Numbered history offers) {happening : Happening Job} {job : Job}
    (offered : happening.offered? = some job) (ticket : job.ticket = offers) :
    Numbered (history ++ [happening]) (offers + 1) := by
  have acceptedBefore : ∀ other ∈ acceptedIn history, other.ticket < offers + 1 :=
    fun other present => Nat.lt_succ_of_lt (numbered.accepted other present)
  have refusedBefore : ∀ other ∈ refusedIn history, other.ticket < offers + 1 :=
    fun other present => Nat.lt_succ_of_lt (numbered.refused other present)
  have last : job.ticket < offers + 1 := by omega
  cases happening with
  | received _ _ | finished _ _ | exited _ | hungUp => cases offered
  | accepted submitted =>
      cases offered
      have accepted : acceptedIn (history ++ [.accepted job]) = acceptedIn history ++ [job] :=
        acceptedIn_concat history _
      have refused : refusedIn (history ++ [.accepted job]) = refusedIn history := by
        rw [refusedIn_concat]
        exact List.append_nil _
      constructor
      · rw [accepted, List.map_append, List.nodup_append]
        refine ⟨numbered.distinct, List.nodup_singleton _, ?_⟩
        intro first firstPresent second secondPresent same
        obtain ⟨other, present, rfl⟩ := List.mem_map.mp firstPresent
        have before := numbered.accepted other present
        rw [List.map_singleton, List.mem_singleton] at secondPresent
        omega
      · intro first firstPresent second secondPresent same
        rw [accepted, List.mem_append, List.mem_singleton] at firstPresent
        rw [refused] at secondPresent
        rcases firstPresent with early | rfl
        · exact numbered.apart first early second secondPresent same
        · have before := numbered.refused second secondPresent
          omega
      · intro other present
        rw [accepted, List.mem_append, List.mem_singleton] at present
        rcases present with early | rfl
        · exact acceptedBefore other early
        · exact last
      · rw [refused]
        exact refusedBefore
  | refused submitted =>
      cases offered
      have accepted : acceptedIn (history ++ [.refused job]) = acceptedIn history := by
        rw [acceptedIn_concat]
        exact List.append_nil _
      have refused : refusedIn (history ++ [.refused job]) = refusedIn history ++ [job] :=
        refusedIn_concat history _
      constructor
      · rw [accepted]
        exact numbered.distinct
      · intro first firstPresent second secondPresent same
        rw [accepted] at firstPresent
        rw [refused, List.mem_append, List.mem_singleton] at secondPresent
        rcases secondPresent with early | rfl
        · exact numbered.apart first firstPresent second early same
        · have before := numbered.accepted first firstPresent
          omega
      · rw [accepted]
        exact acceptedBefore
      · intro other present
        rw [refused, List.mem_append, List.mem_singleton] at present
        rcases present with early | rfl
        · exact refusedBefore other early
        · exact last

theorem Numbered.other {history : List (Happening Job)} {offers : Nat}
    (numbered : Numbered history offers) {happening : Happening Job}
    (silent : happening.offered? = none) : Numbered (history ++ [happening]) offers := by
  have accepted : acceptedIn (history ++ [happening]) = acceptedIn history := by
    rw [acceptedIn_concat]
    cases happening with
    | accepted _ | refused _ => cases silent
    | received _ _ | finished _ _ | exited _ | hungUp => exact List.append_nil _
  have refused : refusedIn (history ++ [happening]) = refusedIn history := by
    rw [refusedIn_concat]
    cases happening with
    | accepted _ | refused _ => cases silent
    | received _ _ | finished _ _ | exited _ | hungUp => exact List.append_nil _
  constructor
  · rw [accepted]
    exact numbered.distinct
  · rw [accepted, refused]
    exact numbered.apart
  · rw [accepted]
    exact numbered.accepted
  · rw [refused]
    exact numbered.refused

theorem finished_perm_received {J : Type} [DecidableEq J] {history : List (Happening J)}
    {line : Line J} (ended : line.Ended history)
    (idle : ∀ thread, Line.runningAt line.posts thread = []) :
    (finishedIn history).Perm (receivedIn history) := by
  rw [List.perm_iff_count]
  intro assigned
  obtain ⟨thread, job⟩ := assigned
  have same := ended thread
  rw [idle thread, List.append_nil] at same
  rw [← count_jobsOf, ← count_jobsOf, same]

/-- No job is finished more often than it was received. -/
theorem finished_subperm_received {J : Type} [DecidableEq J] {history : List (Happening J)}
    {line : Line J} (ended : line.Ended history) :
    (finishedIn history).Subperm (receivedIn history) := by
  rw [List.subperm_ext_iff]
  intro assigned _
  obtain ⟨thread, job⟩ := assigned
  rw [← count_jobsOf, ← count_jobsOf, ended thread, List.count_append]
  exact Nat.le_add_right _ _

namespace Site

theorem numbered_run {kind : CrewKind} {threads : List RuntimeThread} {site : Site}
    {acts : List Act} (run : Run kind (create threads) acts site) :
    Numbered (historyOf acts) site.offers := by
  induction run with
  | start => exact numbered_nil
  | step _ step ih =>
      rw [historyOf_concat]
      cases step with
      | submit _ offered ticket => exact ih.submit offered ticket
      | receive _ | finish _ _ | leave _ | hangUp _ _ _ => exact ih.other rfl
      | call _ | late _ _ _ _ | take _ _ _ | bare _ _ _ | join _ _ _ | settle _ _ =>
          change Numbered (historyOf _ ++ []) _
          rw [List.append_nil]
          exact ih

theorem inOrder_run {start line : Line Job} {history : List (Happening Job)}
    (empty : start.queue = []) (run : Line.Run start history line) : line.InOrder history := by
  induction run with
  | start => exact empty.symm
  | step _ step ih => exact Line.inOrder_step ih step

theorem ended_run {start line : Line Job} {history : List (Happening Job)}
    (idle : ∀ thread, Line.runningAt start.posts thread = [])
    (run : Line.Run start history line) : line.Ended history := by
  induction run with
  | start => exact fun thread => (idle thread).symm
  | step _ step ih => exact Line.ended_step ih step

/-! ### What becomes of the jobs -/

/-- What the jobs and the threads of a crew have come to after a history. -/
structure Delivers (kind : CrewKind) (history : List (Happening Job)) (site : Site) : Prop where
  distinct : ((acceptedIn history).map (·.ticket)).Nodup
  inOrder : acceptedIn history = (receivedIn history).map (·.2) ++ site.crew.line.queue
  once : ((receivedIn history).map (·.2)).Nodup ∧ ((finishedIn history).map (·.2)).Nodup
  -- A thread has finished what it received, in that order, but the job it runs.
  ended : ∀ thread, jobsOf thread (receivedIn history)
    = jobsOf thread (finishedIn history) ++ Line.runningAt site.crew.line.posts thread
  unrun : ∀ job ∈ refusedIn history, ∀ thread, (thread, job) ∉ receivedIn history
  -- A thread has exited only once no job is there and none can come.
  staying : ∀ thread : Nat, site.crew.line.posts[thread]? = some .gone →
    site.crew.line.accepting = false ∧ site.crew.line.queue = []
  surviving : ∀ thread job next, Step kind site (.serve (.finished thread job)) next →
    next.crew.line.posts[thread]? = some .waiting
  -- A decisive call that has returned outside leaves nothing behind.
  closed : ⟨none, .returned true⟩ ∈ site.closings →
    ((finishedIn history).map (·.2)).Perm (acceptedIn history)
      ∧ ∀ post ∈ site.crew.line.posts, post = .gone
  -- A decisive call that has returned on a thread leaves that thread and its job.
  closedWithin : ∀ caller, ⟨some caller, .returned true⟩ ∈ site.closings →
    site.crew.line.accepting = false
      ∧ ∀ thread < site.crew.line.posts.length, thread ≠ caller →
        site.crew.line.posts[thread]? = some .gone
  finite : ∀ act next, act.isOwn = true → Step kind site act next → next.work < site.work
  -- Once it takes none any more, every accepted job has been finished, every closing call has
  -- returned, and the threads have exited if there was one.
  live : Resting kind site →
    ((finishedIn history).map (·.2)).Perm (acceptedIn history)
      ∧ (∀ closing ∈ site.closings, ∃ decisive, closing.stage = .returned decisive)
      ∧ (site.crew.line.accepting = false → ∀ post ∈ site.crew.line.posts, post = .gone)

theorem finished_perm_accepted {history : List (Happening Job)} {line : Line Job}
    (inOrder : line.InOrder history) (ended : line.Ended history) (empty : line.queue = [])
    (idle : ∀ thread, Line.runningAt line.posts thread = []) :
    ((finishedIn history).map (·.2)).Perm (acceptedIn history) := by
  have whole : acceptedIn history = (receivedIn history).map (·.2) := by
    rw [inOrder, empty, List.append_nil]
  rw [whole]
  exact (finished_perm_received ended idle).map _

theorem runningAt_eq_nil {posts : List (Post Job)} {thread : Nat}
    (idle : ∀ job, posts[thread]? ≠ some (.running job)) : Line.runningAt posts thread = [] := by
  unfold Line.runningAt
  split
  · rename_i job running
    exact absurd running (idle job)
  · rfl

/-- Of a pool or a loop whose threads run what they are given, over every run. -/
theorem delivers_of_run (kind : CrewKind) (threads : List RuntimeThread) (crewed : threads ≠ [])
    (serving : ∀ thread ∈ threads, thread.conduct = .runs ∨ thread.conduct = .panicsAtExit)
    {acts : List Act} {site : Site} (run : Run kind (create threads) acts site) :
    Delivers kind (historyOf acts) site := by
  have runsTask : ∀ thread ∈ threads, thread.runsTask = true := by
    intro thread present
    unfold RuntimeThread.runsTask
    rcases serving thread present with runs | panics
    · rw [runs]
      rfl
    · rw [panics]
      rfl
  have waiting : ∀ thread, Line.runningAt (create threads).crew.line.posts thread = [] := by
    intro thread
    refine runningAt_eq_nil fun job running => ?_
    obtain ⟨worker, present, post⟩ := List.mem_map.mp (List.mem_of_getElem? running)
    rw [if_pos (runsTask worker present)] at post
    cases post
  have sound : Sound kind site := sound_run (sound_create runsTask kind) run
  have numbered := numbered_run run
  have inOrder : site.crew.line.InOrder (historyOf acts) := inOrder_run rfl (line_run run)
  have ended : site.crew.line.Ended (historyOf acts) := ended_run waiting (line_run run)
  have received : ∀ pair ∈ receivedIn (historyOf acts), pair.2 ∈ acceptedIn (historyOf acts) := by
    intro pair present
    rw [inOrder]
    exact List.mem_append_left _ (List.mem_map_of_mem present)
  have manned : site.crew.line.posts ≠ [] := by
    have length := Line.length_posts_run (line_run run)
    intro none
    rw [none] at length
    change 0 = (threads.map _).length at length
    rw [List.length_map] at length
    exact crewed (List.length_eq_zero_iff.mp length.symm)
  refine
    { distinct := numbered.distinct
      inOrder
      once := ?once
      ended
      unrun := ?unrun
      staying := sound.staying
      surviving := ?surviving
      closed := ?closed
      closedWithin := ?closedWithin
      finite := fun act next own step => work_lt step own
      live := ?live }
  case once =>
    -- Accepted jobs differ in their tickets, and the received ones are the first of them.
    have acceptedOnce := List.Nodup.of_map _ numbered.distinct
    rw [inOrder] at acceptedOnce
    have receivedOnce := (List.nodup_append.mp acceptedOnce).1
    obtain ⟨part, same, within⟩ := finished_subperm_received ended
    exact ⟨receivedOnce, (same.map _).nodup_iff.mp ((within.map _).nodup receivedOnce)⟩
  case unrun =>
    intro job refused thread present
    exact numbered.apart job (received _ present) job refused rfl
  case surviving =>
    intro thread job next step
    cases step with
    | finish _ finished =>
        obtain ⟨running, rfl⟩ := Line.finish_eq_some_iff.mp finished
        exact (Line.post_set .waiting running thread).trans (if_pos rfl)
  case closed =>
    intro present
    have gone : ∀ post ∈ site.crew.line.posts, post = .gone := sound.gone present
    have idle : ∀ thread, Line.runningAt site.crew.line.posts thread = [] := by
      intro thread
      refine runningAt_eq_nil fun job running => ?_
      cases gone _ (List.mem_of_getElem? running)
    obtain ⟨post, member⟩ := List.exists_mem_of_ne_nil _ manned
    obtain ⟨thread, found⟩ := List.mem_iff_getElem?.mp member
    rw [gone post member] at found
    exact ⟨finished_perm_accepted inOrder ended (sound.staying thread found).2 idle, gone⟩
  case closedWithin =>
    intro caller present
    obtain ⟨number, atNumber⟩ := List.mem_iff_getElem?.mp present
    have fits := sound.fits number _ atNumber
    refine ⟨?_, fun thread within other => ?_⟩
    · have shut := fits.shut (by intro equal; cases equal)
      simpa using shut
    · exact fits.joined [] rfl thread within (fun same => other (Option.some.inj same).symm)
        List.not_mem_nil
  case live =>
    intro resting
    have empty := resting.queue sound manned
    have idle : ∀ thread, Line.runningAt site.crew.line.posts thread = [] := fun thread =>
      runningAt_eq_nil (resting.not_running (resting.free sound thread))
    exact ⟨finished_perm_accepted inOrder ended empty idle,
      fun closing present => resting.returned sound present, resting.gone sound⟩

def pair : List RuntimeThread :=
  [⟨0, .worker "strand-worker-0" none, .runs⟩, ⟨1, .worker "strand-worker-1" none, .panicsAtExit⟩]

/-- A job is received, then the pool is closed from outside; a second submission comes too late,
the job panics, and both threads leave. -/
def panicWhileClosing : List Act :=
  [.submit (.accepted ⟨0, true⟩), .serve (.received 1 ⟨0, true⟩), .call none, .hangUp 0,
    .submit (.refused ⟨1, false⟩), .serve (.exited 0), .proceed 0, .proceed 0,
    .serve (.finished 1 ⟨0, true⟩), .serve (.exited 1), .proceed 0, .proceed 0]

theorem run_panicWhileClosing :
    ∃ site, Run .pool (create pair) panicWhileClosing site
      ∧ site.closings = [⟨none, .returned true⟩] := by
  have accepted := Execution.step (.start : Run .pool (create pair) [] _)
    (show Step _ _ (.submit (.accepted ⟨0, true⟩)) _ from .submit (.accept rfl) rfl rfl)
  have received := accepted.step
    (show Step _ _ (.serve (.received 1 ⟨0, true⟩)) _ from .receive rfl)
  have called := received.step
    (show Step _ _ (.call none) _ from .call fun _ impossible => by cases impossible)
  have closed := called.step (show Step _ _ (.hangUp 0) _ from .hangUp rfl rfl fun _ => rfl)
  have refused := closed.step
    (show Step _ _ (.submit (.refused ⟨1, false⟩)) _ from .submit (.refuse rfl) rfl rfl)
  have left := refused.step (show Step _ _ (.serve (.exited 0)) _ from .leave rfl)
  have taken := left.step (show Step _ _ (.proceed 0) _ from .take rfl rfl rfl)
  have met := taken.step (show Step _ _ (.proceed 0) _ from .join rfl rfl rfl)
  have free : ∀ closing ∈ [Closing.mk none (.joining [1])], closing.caller = some 1 →
      ∃ decisive, closing.stage = .returned decisive := by decide
  have finished := met.step
    (show Step _ _ (.serve (.finished 1 ⟨0, true⟩)) _ from .finish free rfl)
  have gone := finished.step (show Step _ _ (.serve (.exited 1)) _ from .leave rfl)
  have all := gone.step (show Step _ _ (.proceed 0) _ from .join rfl rfl rfl)
  exact ⟨_, all.step (show Step _ _ (.proceed 0) _ from .settle rfl rfl), rfl⟩

theorem delivers_of_run_panicWhileClosing :
    ∃ site, Run .pool (create pair) panicWhileClosing site
      ∧ ⟨none, .returned true⟩ ∈ site.closings
      ∧ ((finishedIn (historyOf panicWhileClosing)).map (·.2)).Perm [⟨0, true⟩]
      ∧ (∀ thread, (thread, ⟨1, false⟩) ∉ receivedIn (historyOf panicWhileClosing))
      ∧ ∀ post ∈ site.crew.line.posts, post = .gone := by
  obtain ⟨site, run, closings⟩ := run_panicWhileClosing
  have delivers := delivers_of_run .pool pair (by decide) (by decide) run
  have returned : ⟨none, .returned true⟩ ∈ site.closings := by
    rw [closings]
    exact List.mem_singleton_self _
  obtain ⟨finished, gone⟩ := delivers.closed returned
  exact ⟨site, run, returned, finished, delivers.unrun ⟨1, false⟩ (by decide), gone⟩

end Site

end Reactor
