import Mathlib.Data.List.Count
import Mathlib.Data.List.Perm.Basic
import Reactor.Line
import Reactor.Proofs.Execution

/-!
The steps of a line, in any order: submissions, threads that receive, finish and leave, and the
hang-up. Every step keeps three facts on the history so far and the line it led to: accepted jobs
are the received ones followed by those in the queue, a thread has finished what it received but
the job it runs, and no thread has left a line that may still have work for it.
-/

namespace Reactor

inductive Happening (J : Type) where
  | accepted (job : J)
  | refused (job : J)
  | received (thread : Nat) (job : J)
  | finished (thread : Nat) (job : J)
  | exited (thread : Nat)
  | hungUp

namespace Happening

variable {J : Type}

def accepted? : Happening J → Option J
  | accepted job => some job
  | _ => none

def refused? : Happening J → Option J
  | refused job => some job
  | _ => none

def received? : Happening J → Option (Nat × J)
  | received thread job => some (thread, job)
  | _ => none

def finished? : Happening J → Option (Nat × J)
  | finished thread job => some (thread, job)
  | _ => none

end Happening

section History

variable {J : Type}

def acceptedIn (history : List (Happening J)) : List J := history.filterMap Happening.accepted?

def refusedIn (history : List (Happening J)) : List J := history.filterMap Happening.refused?

def receivedIn (history : List (Happening J)) : List (Nat × J) :=
  history.filterMap Happening.received?

def finishedIn (history : List (Happening J)) : List (Nat × J) :=
  history.filterMap Happening.finished?

def jobsOf (thread : Nat) (assigned : List (Nat × J)) : List J :=
  assigned.filterMap fun (other, job) => if other = thread then some job else none

theorem acceptedIn_concat (history : List (Happening J)) (last : Happening J) :
    acceptedIn (history ++ [last]) = acceptedIn history ++ last.accepted?.toList := by
  cases found : last.accepted? <;> simp [acceptedIn, found]

theorem refusedIn_concat (history : List (Happening J)) (last : Happening J) :
    refusedIn (history ++ [last]) = refusedIn history ++ last.refused?.toList := by
  cases found : last.refused? <;> simp [refusedIn, found]

theorem receivedIn_append (earlier later : List (Happening J)) :
    receivedIn (earlier ++ later) = receivedIn earlier ++ receivedIn later :=
  List.filterMap_append

theorem finishedIn_append (earlier later : List (Happening J)) :
    finishedIn (earlier ++ later) = finishedIn earlier ++ finishedIn later :=
  List.filterMap_append

theorem receivedIn_concat (history : List (Happening J)) (last : Happening J) :
    receivedIn (history ++ [last]) = receivedIn history ++ last.received?.toList := by
  cases found : last.received? <;> simp [receivedIn, found]

theorem finishedIn_concat (history : List (Happening J)) (last : Happening J) :
    finishedIn (history ++ [last]) = finishedIn history ++ last.finished?.toList := by
  cases found : last.finished? <;> simp [finishedIn, found]

theorem jobsOf_concat (thread other : Nat) (assigned : List (Nat × J)) (job : J) :
    jobsOf thread (assigned ++ [(other, job)])
      = jobsOf thread assigned ++ if other = thread then [job] else [] := by
  by_cases same : other = thread <;> simp [jobsOf, same]

theorem count_jobsOf [DecidableEq J] (thread : Nat) (job : J) (assigned : List (Nat × J)) :
    (jobsOf thread assigned).count job = assigned.count (thread, job) := by
  induction assigned with
  | nil => rfl
  | cons first rest ih =>
      obtain ⟨other, otherJob⟩ := first
      by_cases same : other = thread
      · subst other
        have unfolded : jobsOf thread ((thread, otherJob) :: rest)
            = otherJob :: jobsOf thread rest := by simp [jobsOf]
        rw [unfolded, List.count_cons, List.count_cons, ih]
        simp
      · have unfolded : jobsOf thread ((other, otherJob) :: rest) = jobsOf thread rest := by
          simp [jobsOf, same]
        have different : ((other, otherJob) == (thread, job)) = false := by
          simp [same]
        rw [unfolded, List.count_cons, ih, different]
        rfl

end History

/-! ### Steps and runs -/

namespace Line

variable {J : Type}

/-- One step of a line. A submission is accepted or refused at once. -/
inductive Step : Line J → Happening J → Line J → Prop where
  | accept {line next : Line J} {job : J} :
      line.submit job = .ok next → Step line (.accepted job) next
  | refuse {line : Line J} {job : J} {refusal : Refusal} :
      line.submit job = .error refusal → Step line (.refused job) line
  | receive {line next : Line J} {thread : Nat} {job : J} :
      line.receive thread = some (job, next) → Step line (.received thread job) next
  | finish {line next : Line J} {thread : Nat} {job : J} :
      line.finish thread = some (job, next) → Step line (.finished thread job) next
  | leave {line next : Line J} {thread : Nat} :
      line.leave thread = some next → Step line (.exited thread) next
  | hangUp {line : Line J} : Step line .hungUp line.hangUp

abbrev Run : Line J → List (Happening J) → Line J → Prop := Execution Step

/-- The job that a thread runs, if it runs one. -/
def runningAt (posts : List (Post J)) (thread : Nat) : List J :=
  match posts[thread]? with
  | some (.running job) => [job]
  | _ => []

theorem runningAt_waiting {posts : List (Post J)} {thread : Nat}
    (waiting : posts[thread]? = some .waiting) : runningAt posts thread = [] := by
  simp only [runningAt, waiting]

theorem runningAt_running {posts : List (Post J)} {thread : Nat} {job : J}
    (running : posts[thread]? = some (.running job)) : runningAt posts thread = [job] := by
  simp only [runningAt, running]

theorem runningAt_gone {posts : List (Post J)} {thread : Nat}
    (gone : posts[thread]? = some .gone) : runningAt posts thread = [] := by
  simp only [runningAt, gone]

theorem post_set {posts : List (Post J)} {thread : Nat} {old : Post J} (new : Post J)
    (present : posts[thread]? = some old) (other : Nat) :
    (posts.set thread new)[other]? = if thread = other then some new else posts[other]? := by
  by_cases same : thread = other
  · subst other
    obtain ⟨within, _⟩ := List.getElem?_eq_some_iff.mp present
    rw [if_pos rfl, List.getElem?_set_self within]
  · rw [if_neg same, List.getElem?_set_ne same]

theorem runningAt_set_ne {posts : List (Post J)} {thread other : Nat} (new : Post J)
    (different : thread ≠ other) : runningAt (posts.set thread new) other = runningAt posts other := by
  unfold runningAt
  rw [List.getElem?_set_ne different]

/-! ### What a history has to do with the line it led to -/

/-- Jobs are received in the order in which they were accepted, and the others still queue. -/
def InOrder (history : List (Happening J)) (line : Line J) : Prop :=
  acceptedIn history = (receivedIn history).map (·.2) ++ line.queue

theorem inOrder_step {history : List (Happening J)} {line next : Line J}
    {happening : Happening J} (before : InOrder history line) (step : Step line happening next) :
    InOrder (history ++ [happening]) next := by
  unfold InOrder at before ⊢
  rw [acceptedIn_concat, receivedIn_concat, before]
  cases step with
  | accept accepted =>
      obtain ⟨_, _, rfl⟩ := submit_eq_ok_iff.mp accepted
      simp [Happening.accepted?, Happening.received?]
  | receive received =>
      obtain ⟨_, queue, found, rfl⟩ := receive_eq_some_iff.mp received
      simp [Happening.accepted?, Happening.received?, found]
  | finish finished =>
      obtain ⟨_, rfl⟩ := finish_eq_some_iff.mp finished
      simp [Happening.accepted?, Happening.received?]
  | leave left =>
      obtain ⟨_, _, _, rfl⟩ := leave_eq_some_iff.mp left
      simp [Happening.accepted?, Happening.received?]
  | refuse _ | hangUp => simp [Happening.accepted?, Happening.received?, hangUp]

/-- A thread has finished what it received, in that order, but the job it runs. -/
def Ended (history : List (Happening J)) (line : Line J) : Prop :=
  ∀ thread, jobsOf thread (receivedIn history)
    = jobsOf thread (finishedIn history) ++ runningAt line.posts thread

theorem ended_step {history : List (Happening J)} {line next : Line J}
    {happening : Happening J} (before : Ended history line) (step : Step line happening next) :
    Ended (history ++ [happening]) next := by
  intro other
  have earlier := before other
  rw [receivedIn_concat, finishedIn_concat]
  cases step with
  | accept accepted =>
      obtain ⟨_, _, rfl⟩ := submit_eq_ok_iff.mp accepted
      simpa [Happening.received?, Happening.finished?] using earlier
  | refuse _ => simpa [Happening.received?, Happening.finished?] using earlier
  | hangUp => simpa [Happening.received?, Happening.finished?, hangUp] using earlier
  | @receive _ thread job received =>
      obtain ⟨waiting, queue, _, rfl⟩ := receive_eq_some_iff.mp received
      change jobsOf other (receivedIn history ++ [(thread, job)])
        = jobsOf other (finishedIn history ++ []) ++ runningAt (line.posts.set thread _) other
      rw [jobsOf_concat, List.append_nil, earlier]
      by_cases same : thread = other
      · subst other
        have now := (post_set (.running job) waiting thread).trans (if_pos rfl)
        rw [if_pos rfl, runningAt_running now, runningAt_waiting waiting, List.append_nil]
      · rw [if_neg same, runningAt_set_ne _ same, List.append_nil]
  | @finish _ thread job finished =>
      obtain ⟨running, rfl⟩ := finish_eq_some_iff.mp finished
      change jobsOf other (receivedIn history ++ [])
        = jobsOf other (finishedIn history ++ [(thread, job)])
          ++ runningAt (line.posts.set thread _) other
      rw [jobsOf_concat, List.append_nil, earlier]
      by_cases same : thread = other
      · subst other
        have now := (post_set .waiting running thread).trans (if_pos rfl)
        rw [if_pos rfl, runningAt_waiting now, runningAt_running running, List.append_nil]
      · rw [if_neg same, runningAt_set_ne _ same, List.append_nil]
  | @leave _ thread left =>
      obtain ⟨_, waiting, _, rfl⟩ := leave_eq_some_iff.mp left
      change jobsOf other (receivedIn history ++ [])
        = jobsOf other (finishedIn history ++ []) ++ runningAt (line.posts.set thread _) other
      rw [List.append_nil, List.append_nil, earlier]
      by_cases same : thread = other
      · subst other
        have now := (post_set .gone waiting thread).trans (if_pos rfl)
        rw [runningAt_gone now, runningAt_waiting waiting]
      · rw [runningAt_set_ne _ same]

/-- A thread has left only if the line accepts no more and is empty. -/
def Staying (line : Line J) : Prop :=
  ∀ thread : Nat, line.posts[thread]? = some .gone → line.accepting = false ∧ line.queue = []

theorem staying_step {line next : Line J} {happening : Happening J} (before : Staying line)
    (step : Step line happening next) : Staying next := by
  intro other gone
  cases step with
  | accept accepted =>
      obtain ⟨accepting, _, rfl⟩ := submit_eq_ok_iff.mp accepted
      have closed := (before other gone).1
      rw [accepting] at closed
      cases closed
  | refuse _ => exact before other gone
  | hangUp => exact ⟨rfl, (before other gone).2⟩
  | @receive _ thread job received =>
      obtain ⟨waiting, queue, found, rfl⟩ := receive_eq_some_iff.mp received
      have earlier := (post_set (.running job) waiting other).symm.trans gone
      by_cases same : thread = other
      · rw [if_pos same] at earlier
        cases earlier
      · rw [if_neg same] at earlier
        have empty := (before other earlier).2
        rw [found] at empty
        cases empty
  | @finish _ thread job finished =>
      obtain ⟨running, rfl⟩ := finish_eq_some_iff.mp finished
      have earlier := (post_set .waiting running other).symm.trans gone
      by_cases same : thread = other
      · rw [if_pos same] at earlier
        cases earlier
      · rw [if_neg same] at earlier
        exact before other earlier
  | leave left =>
      obtain ⟨closed, _, empty, rfl⟩ := leave_eq_some_iff.mp left
      exact ⟨closed, empty⟩

theorem gone_step {line next : Line J} {happening : Happening J}
    (step : Step line happening next) {thread : Nat} (gone : line.posts[thread]? = some .gone) :
    next.posts[thread]? = some .gone := by
  have kept {other : Nat} {old new : Post J} (present : line.posts[other]? = some old)
      (alive : old ≠ .gone) : (line.posts.set other new)[thread]? = some .gone := by
    rw [post_set new present, if_neg]
    · exact gone
    · rintro rfl
      rw [gone] at present
      exact alive (Option.some.inj present).symm
  cases step with
  | accept accepted =>
      obtain ⟨_, _, rfl⟩ := submit_eq_ok_iff.mp accepted
      exact gone
  | refuse _ | hangUp => exact gone
  | receive received =>
      obtain ⟨waiting, _, _, rfl⟩ := receive_eq_some_iff.mp received
      exact kept waiting (by intro equal; cases equal)
  | finish finished =>
      obtain ⟨running, rfl⟩ := finish_eq_some_iff.mp finished
      exact kept running (by intro equal; cases equal)
  | leave left =>
      obtain ⟨_, waiting, _, rfl⟩ := leave_eq_some_iff.mp left
      exact kept waiting (by intro equal; cases equal)

theorem length_posts_step {line next : Line J} {happening : Happening J}
    (step : Step line happening next) : next.posts.length = line.posts.length := by
  cases step with
  | accept accepted =>
      obtain ⟨_, _, rfl⟩ := submit_eq_ok_iff.mp accepted
      rfl
  | refuse _ | hangUp => rfl
  | receive received =>
      obtain ⟨_, _, _, rfl⟩ := receive_eq_some_iff.mp received
      exact List.length_set
  | finish finished =>
      obtain ⟨_, rfl⟩ := finish_eq_some_iff.mp finished
      exact List.length_set
  | leave left =>
      obtain ⟨_, _, _, rfl⟩ := leave_eq_some_iff.mp left
      exact List.length_set

theorem length_posts_run {start line : Line J} {history : List (Happening J)}
    (run : Run start history line) : line.posts.length = start.posts.length := by
  induction run with
  | start => rfl
  | step _ step ih => exact (length_posts_step step).trans ih

theorem accepting_step {line next : Line J} {happening : Happening J}
    (step : Step line happening next) (talking : happening ≠ .hungUp) :
    next.accepting = line.accepting := by
  cases step with
  | accept accepted =>
      obtain ⟨_, _, rfl⟩ := submit_eq_ok_iff.mp accepted
      rfl
  | refuse _ => rfl
  | hangUp => exact absurd rfl talking
  | receive received =>
      obtain ⟨_, _, _, rfl⟩ := receive_eq_some_iff.mp received
      rfl
  | finish finished =>
      obtain ⟨_, rfl⟩ := finish_eq_some_iff.mp finished
      rfl
  | leave left =>
      obtain ⟨_, _, _, rfl⟩ := leave_eq_some_iff.mp left
      rfl

end Line

end Reactor
