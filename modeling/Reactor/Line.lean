/-!
A line of jobs in front of the threads that serve it. Jobs are submitted at one end while the
line accepts them, and received at the other end by a thread that waits. A thread leaves only
when the line accepts no more and is empty.
-/

namespace Reactor

inductive Post (J : Type) where
  | waiting
  | running (job : J)
  | gone
deriving DecidableEq

namespace Post

variable {J : Type}

def isWaiting : Post J → Bool
  | .waiting => true
  | _ => false

def isGone : Post J → Bool
  | .gone => true
  | _ => false

/-- The post of a thread that is done with its job, if it had one. -/
def freed : Post J → Post J
  | .running _ => .waiting
  | post => post

@[simp] theorem freed_freed (post : Post J) : post.freed.freed = post.freed := by
  cases post <;> rfl

end Post

structure Line (J : Type) where
  accepting : Bool
  -- The jobs that were accepted and not yet received, oldest first.
  queue : List J
  posts : List (Post J)
deriving DecidableEq

/-- Why a job is refused: the line has been closed, or no thread is left. -/
inductive Refusal where
  | hungUp
  | deserted
deriving DecidableEq

namespace Line

variable {J : Type}

def submit (line : Line J) (job : J) : Except Refusal (Line J) :=
  if line.accepting = false then .error .hungUp
  else if line.posts.all (·.isGone) then .error .deserted
  else .ok { line with queue := line.queue ++ [job] }

theorem submit_eq_ok_iff {line next : Line J} {job : J} :
    line.submit job = .ok next ↔
      line.accepting = true ∧ (∃ post ∈ line.posts, post.isGone = false) ∧
        next = { line with queue := line.queue ++ [job] } := by
  unfold submit
  by_cases closed : line.accepting = false
  · simp [closed]
  · by_cases deserted : line.posts.all (·.isGone) = true
    · simp_all
    · have served : ∃ post ∈ line.posts, post.isGone = false := by
        simpa using deserted
      have accepting : line.accepting = true := by simpa using closed
      rw [if_neg closed, if_neg deserted]
      constructor
      · intro accepted
        exact ⟨accepting, served, (Except.ok.inj accepted).symm⟩
      · rintro ⟨_, _, rfl⟩
        rfl

def receive (line : Line J) (index : Nat) : Option (J × Line J) :=
  match line.posts[index]?, line.queue with
  | some .waiting, job :: queue =>
    some (job, { line with queue, posts := line.posts.set index (.running job) })
  | _, _ => none

theorem receive_eq_some_iff {line next : Line J} {index : Nat} {job : J} :
    line.receive index = some (job, next) ↔
      line.posts[index]? = some .waiting ∧
        ∃ queue, line.queue = job :: queue ∧
          next = { line with queue, posts := line.posts.set index (.running job) } := by
  unfold receive
  split
  · rename_i oldest queue waiting found
    simp only [waiting, found, Option.some.injEq, Prod.mk.injEq, true_and]
    constructor
    · rintro ⟨rfl, rfl⟩
      exact ⟨queue, rfl, rfl⟩
    · rintro ⟨other, same, rfl⟩
      obtain ⟨rfl, rfl⟩ := List.cons.inj same
      exact ⟨rfl, rfl⟩
  · rename_i unready
    constructor
    · intro impossible
      cases impossible
    · rintro ⟨waiting, queue, found, _⟩
      exact absurd found (unready job queue waiting)

def finish (line : Line J) (index : Nat) : Option (J × Line J) :=
  match line.posts[index]? with
  | some (.running job) => some (job, { line with posts := line.posts.set index .waiting })
  | _ => none

theorem finish_eq_some_iff {line next : Line J} {index : Nat} {job : J} :
    line.finish index = some (job, next) ↔
      line.posts[index]? = some (.running job) ∧
        next = { line with posts := line.posts.set index .waiting } := by
  unfold finish
  split
  · rename_i other running
    constructor
    · intro finished
      obtain ⟨rfl, rfl⟩ := Prod.mk.inj (Option.some.inj finished)
      exact ⟨running, rfl⟩
    · rintro ⟨same, rfl⟩
      rw [running] at same
      cases same
      rfl
  · rename_i idle
    constructor
    · intro impossible
      cases impossible
    · rintro ⟨running, _⟩
      exact absurd running (idle job)

def finishAt (line : Line J) (place : Nat) : Line J := (line.finish place).elim line (·.2)

def finishAll (line : Line J) (places : List Nat) : Line J := places.foldl finishAt line

@[simp] theorem accepting_finishAt (line : Line J) (place : Nat) :
    (line.finishAt place).accepting = line.accepting := by
  unfold finishAt finish
  split <;> rfl

theorem post_finishAt (line : Line J) (place index : Nat) :
    (line.finishAt place).posts[index]?
      = if index = place then line.posts[index]?.map Post.freed else line.posts[index]? := by
  unfold finishAt finish
  split
  · rename_i job running
    obtain ⟨within, _⟩ := List.getElem?_eq_some_iff.mp running
    change (line.posts.set place .waiting)[index]? = _
    by_cases same : index = place
    · subst index
      rw [if_pos rfl, List.getElem?_set_self within, running]
      rfl
    · rw [if_neg same, List.getElem?_set_ne (Ne.symm same)]
  · rename_i idle
    change line.posts[index]? = _
    by_cases same : index = place
    · subst index
      rw [if_pos rfl]
      cases found : line.posts[place]? with
      | none => rfl
      | some post =>
          cases post with
          | running job => exact absurd found (idle job)
          | waiting | gone => rfl
    · rw [if_neg same]

@[simp] theorem accepting_finishAll (line : Line J) (places : List Nat) :
    (line.finishAll places).accepting = line.accepting := by
  unfold finishAll
  induction places generalizing line with
  | nil => rfl
  | cons place places ih => rw [List.foldl_cons, ih, accepting_finishAt]

theorem post_finishAll (line : Line J) (places : List Nat) (index : Nat) :
    (line.finishAll places).posts[index]?
      = if index ∈ places then line.posts[index]?.map Post.freed else line.posts[index]? := by
  unfold finishAll
  induction places generalizing line with
  | nil => rfl
  | cons place places ih =>
      rw [List.foldl_cons, ih, post_finishAt]
      by_cases same : index = place
      · simp [same, Function.comp_def]
      · simp [same]

/-- A waiting thread exits, once no job is there and none can come. -/
def leave (line : Line J) (index : Nat) : Option (Line J) :=
  match line.accepting, line.posts[index]?, line.queue with
  | false, some .waiting, [] => some { line with posts := line.posts.set index .gone }
  | _, _, _ => none

theorem leave_eq_some_iff {line next : Line J} {index : Nat} :
    line.leave index = some next ↔
      line.accepting = false ∧ line.posts[index]? = some .waiting ∧ line.queue = [] ∧
        next = { line with posts := line.posts.set index .gone } := by
  unfold leave
  split
  · rename_i closed waiting empty
    constructor
    · intro left
      exact ⟨closed, waiting, empty, (Option.some.inj left).symm⟩
    · rintro ⟨_, _, _, rfl⟩
      rfl
  · rename_i busy
    constructor
    · intro impossible
      cases impossible
    · rintro ⟨closed, waiting, empty, _⟩
      exact absurd empty (busy closed waiting)

def hangUp (line : Line J) : Line J := { line with accepting := false }

def firstWaiting? (line : Line J) : Option Nat :=
  line.posts.findIdx? (·.isWaiting)

/-- The waiting threads serve the line until it is empty; the jobs come in their order. -/
def serve (line : Line J) : List J × Line J :=
  if line.posts.any (·.isWaiting) then (line.queue, { line with queue := [] }) else ([], line)

theorem serve_cases (line : Line J) :
    (∃ thread : Nat, line.posts[thread]? = some .waiting
        ∧ line.serve = (line.queue, { line with queue := [] }))
      ∨ ((∀ thread : Nat, line.posts[thread]? ≠ some .waiting) ∧ line.serve = ([], line)) := by
  unfold serve
  by_cases waits : line.posts.any (·.isWaiting) = true
  · obtain ⟨post, present, waiting⟩ := List.any_eq_true.mp waits
    obtain ⟨thread, atThread⟩ := List.mem_iff_getElem?.mp present
    cases post with
    | waiting => exact Or.inl ⟨thread, atThread, if_pos waits⟩
    | running _ | gone => cases waiting
  · refine Or.inr ⟨fun thread atThread => waits ?_, if_neg waits⟩
    exact List.any_eq_true.mpr ⟨_, List.mem_of_getElem? atThread, rfl⟩

theorem posts_serve (line : Line J) : line.serve.2.posts = line.posts := by
  rcases line.serve_cases with ⟨_, _, served⟩ | ⟨_, idle⟩
  · rw [served]
  · rw [idle]

def dismiss (line : Line J) : Line J :=
  match line.accepting, line.queue with
  | false, [] =>
    { line with posts := line.posts.map fun post => if post.isWaiting then .gone else post }
  | _, _ => line

theorem running_dismiss {line : Line J} {thread : Nat} {job : J} :
    line.dismiss.posts[thread]? = some (.running job)
      ↔ line.posts[thread]? = some (.running job) := by
  unfold dismiss
  split
  · rw [List.getElem?_map]
    cases line.posts[thread]? with
    | none => rfl
    | some post => cases post <;> simp [Post.isWaiting]
  · rfl

end Line

end Reactor
