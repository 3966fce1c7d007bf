import Reactor.Pool
import Reactor.Proofs.Crew.Serving
import Reactor.Proofs.Workshop

/-!
Crews that hold their threads. As long as a crew works it holds its threads and its line takes
jobs; once it has been stopped from outside it does neither, and its threads have been waited for
in their order. Work at the line brings in no job but the one submitted.
-/

namespace Reactor

open Told

namespace Line

variable {J : Type} {line next : Line J} {job : J}

def jobs (line : Line J) : List J := line.queue ++ line.posts.filterMap Post.job?

theorem mem_jobs : job ∈ line.jobs ↔ job ∈ line.queue ∨ .running job ∈ line.posts := by
  unfold jobs
  rw [List.mem_append, List.mem_filterMap]
  refine or_congr_right ⟨?_, fun present => ⟨_, present, rfl⟩⟩
  rintro ⟨post, present, running⟩
  cases post with
  | running other =>
      cases running
      exact present
  | waiting | gone => cases running

theorem jobs_submit {new : J} (accepted : line.submit new = .ok next) (present : job ∈ next.jobs) :
    job = new ∨ job ∈ line.jobs := by
  obtain ⟨_, _, rfl⟩ := submit_eq_ok_iff.mp accepted
  rw [mem_jobs] at present ⊢
  rcases present with queued | running
  · rcases List.mem_append.mp queued with old | latest
    · exact Or.inr (Or.inl old)
    · exact Or.inl (List.mem_singleton.mp latest)
  · exact Or.inr (Or.inr running)

theorem jobs_receive {taken : J} {index : Nat} (received : line.receive index = some (taken, next))
    (present : job ∈ next.jobs) : job ∈ line.jobs := by
  obtain ⟨_, queue, found, rfl⟩ := receive_eq_some_iff.mp received
  rw [mem_jobs, found] at *
  rcases present with queued | running
  · exact Or.inl (List.mem_cons_of_mem _ queued)
  · rcases List.mem_or_eq_of_mem_set running with old | latest
    · exact Or.inr old
    · cases latest
      exact Or.inl List.mem_cons_self

theorem jobs_finish {done : J} {index : Nat} (finished : line.finish index = some (done, next))
    (present : job ∈ next.jobs) : job ∈ line.jobs := by
  obtain ⟨_, rfl⟩ := finish_eq_some_iff.mp finished
  rw [mem_jobs] at *
  rcases present with queued | running
  · exact Or.inl queued
  · rcases List.mem_or_eq_of_mem_set running with old | latest
    · exact Or.inr old
    · cases latest

theorem jobs_finishAll {places : List Nat} (present : job ∈ (line.finishAll places).jobs) :
    job ∈ line.jobs := by
  unfold finishAll at present
  induction places generalizing line with
  | nil => exact present
  | cons place places ih =>
      rw [List.foldl_cons] at present
      have before := ih present
      unfold finishAt at before
      cases finished : line.finish place with
      | none =>
          rw [finished] at before
          exact before
      | some ended =>
          rw [finished] at before
          exact jobs_finish finished before

theorem jobs_serve (present : job ∈ line.serve.2.jobs) : job ∈ line.jobs := by
  rcases line.serve_cases with ⟨_, _, served⟩ | ⟨_, idle⟩
  · rw [served, mem_jobs] at present
    rcases present with queued | running
    · cases queued
    · exact mem_jobs.mpr (Or.inr running)
  · rw [idle] at present
    exact present

theorem jobs_dismiss (present : job ∈ line.dismiss.jobs) : job ∈ line.jobs := by
  unfold dismiss at present
  split at present
  · rw [mem_jobs] at *
    refine Or.imp_right (fun running => ?_) present
    obtain ⟨post, old, same⟩ := List.mem_map.mp running
    cases post with
    | running _ => exact same ▸ old
    | waiting | gone => cases same
  · exact present

theorem accepting_serve (line : Line J) : line.serve.2.accepting = line.accepting := by
  unfold serve
  split <;> rfl

theorem accepting_dismiss (line : Line J) : line.dismiss.accepting = line.accepting := by
  unfold dismiss
  split <;> rfl

end Line

/-! ### What becomes of a crew -/

namespace Crew

/-- Whether a crew holds its threads and takes jobs. -/
structure AtWork (crew : Crew) (working : Bool) : Prop where
  held : crew.held = working
  accepting : crew.line.accepting = working

/-- The crew goes on as it was, with no other jobs than before and the ones brought in. -/
structure Continues (crew next : Crew) (brought : List Job) : Prop where
  threads : next.threads = crew.threads
  held : next.held = crew.held
  accepting : next.line.accepting = crew.line.accepting
  jobs : ∀ job ∈ next.line.jobs, job ∈ brought ∨ job ∈ crew.line.jobs

/-- The crew works no more, and has no other jobs than before. -/
structure Ceases (crew next : Crew) : Prop where
  threads : next.threads = crew.threads
  idle : next.AtWork false
  jobs : ∀ job ∈ next.line.jobs, job ∈ crew.line.jobs

variable {crew next : Crew}

theorem atWork_create (threads : List RuntimeThread) : (create threads).AtWork true := ⟨rfl, rfl⟩

theorem jobs_create (threads : List RuntimeThread) : (create threads).line.jobs = [] := by
  change ([] : List Job) ++ List.filterMap Post.job? (threads.map _) = []
  rw [List.nil_append, List.filterMap_map, List.filterMap_eq_nil_iff]
  intro thread _
  cases runs : thread.runsTask <;> simp [Post.job?, runs]

theorem Continues.atWork {brought : List Job} {working : Bool}
    (continues : crew.Continues next brought) (atWork : crew.AtWork working) :
    next.AtWork working :=
  ⟨continues.held.trans atWork.held, continues.accepting.trans atWork.accepting⟩

theorem continues_submit {line : Line Job} {job : Job} (accepted : crew.line.submit job = .ok line) :
    crew.Continues { crew with line } [job] where
  threads := rfl
  held := rfl
  accepting := by
    obtain ⟨_, _, rfl⟩ := Line.submit_eq_ok_iff.mp accepted
    rfl
  jobs other present := by
    rcases Line.jobs_submit accepted present with rfl | old
    · exact Or.inl (List.mem_singleton_self _)
    · exact Or.inr old

theorem continues_receive {watch left : Watch} {now index : Nat} {job : Job}
    (received : crew.receive watch now index = some (job, next, left)) :
    crew.Continues next [] := by
  unfold receive at received
  obtain ⟨thread, _, received⟩ := Option.bind_eq_some_iff.mp received
  obtain ⟨⟨taken, line⟩, took, received⟩ := Option.bind_eq_some_iff.mp received
  cases received
  refine ⟨rfl, rfl, ?_, fun _ present => Or.inr (Line.jobs_receive took present)⟩
  obtain ⟨_, queue, _, rfl⟩ := Line.receive_eq_some_iff.mp took
  rfl

theorem continues_finish (crew : Crew) (watch : Watch) (index : Nat) :
    crew.Continues (crew.finish watch index).value.1 [] := by
  unfold finish
  split
  · rename_i thread job line _ finished
    refine ⟨rfl, rfl, ?_, fun _ present => Or.inr (Line.jobs_finish finished present)⟩
    obtain ⟨_, rfl⟩ := Line.finish_eq_some_iff.mp finished
    rfl
  · exact ⟨rfl, rfl, rfl, fun _ => Or.inr⟩

theorem ceases_stop (crew : Crew) (watch : Watch) (abnormal : String → Told Unit) :
    crew.Ceases (crew.stop watch .caller abnormal).value.2.1 := by
  have hungUp {line : Line Job} (closed : line.accepting = false) :
      line.serve.2.dismiss.accepting = false := by
    rw [Line.accepting_dismiss, Line.accepting_serve]
    exact closed
  have kept {line : Line Job} {job : Job} (present : job ∈ line.serve.2.dismiss.jobs) :
      job ∈ line.jobs := Line.jobs_serve (Line.jobs_dismiss present)
  cases held : crew.held with
  | false =>
      rw [value_stop_bare watch .caller abnormal held, (value_settle _ watch).2]
      exact ⟨rfl, ⟨held, hungUp rfl⟩, fun _ => kept⟩
  | true =>
      rw [(value_stop_held watch .caller abnormal held).2]
      refine ⟨rfl, ⟨rfl, hungUp (Line.accepting_finishAll _ _)⟩, fun job present => ?_⟩
      have before : job ∈ crew.line.hangUp.jobs := Line.jobs_finishAll (kept present)
      exact before

theorem stop_yields (crew : Crew) (watch : Watch) (abnormal : String → Told Unit)
    (quiet : ∀ report, (abnormal report).entries.filterMap Entry.doing? = []) :
    (crew.stop watch .caller abnormal).Yields Entry.doing?
      (crew.stop watch .caller abnormal).value
      (if crew.held then farewells crew.threads else []) := by
  refine ⟨rfl, (read_stop (fun _ _ => rfl) crew watch quiet).trans ?_⟩
  cases crew.held with
  | false => rfl
  | true => exact congrFun List.filterMap_eq_map crew.threads

end Crew

end Reactor
