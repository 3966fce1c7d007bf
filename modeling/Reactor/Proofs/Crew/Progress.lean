import Mathlib
import Reactor.Proofs.Crew.Closing

/-!
A crew left to itself comes to rest. Each of its own steps uses up some of the work at the site,
so only finitely many follow one another without a further call; and when none is possible any
more, no job is left, no thread runs one, and every closing call has returned. In particular a
call that waits for threads never waits for one that waits for it.
-/

namespace Reactor

def Post.load {J : Type} : Post J → Nat
  | .waiting => 1
  | .running _ => 2
  | .gone => 0

/-- The steps that a closing call has ahead, at a crew of that many threads. -/
def Closing.load (threads : Nat) (closing : Closing) : Nat :=
  match closing.stage with
  | .begun => threads + 3
  | .hungUp => threads + 2
  | .joining left => left.length + 1
  | .returned _ => 0

namespace Line

variable {J : Type}

def work (line : Line J) : Nat := 2 * line.queue.length + (line.posts.map Post.load).sum

theorem sum_map_set {α : Type} (weight : α → Nat) {items : List α} {index : Nat} {old : α}
    (new : α) (present : items[index]? = some old) :
    ((items.set index new).map weight).sum + weight old = (items.map weight).sum + weight new := by
  induction items generalizing index with
  | nil => cases present
  | cons first rest ih =>
      cases index with
      | zero =>
          cases present
          simp only [List.set_cons_zero, List.map_cons, List.sum_cons]
          omega
      | succ index =>
          have atIndex : rest[index]? = some old := present
          have later := ih atIndex
          simp only [List.set_cons_succ, List.map_cons, List.sum_cons]
          omega

theorem work_receive {line next : Line J} {thread : Nat} {job : J}
    (received : line.receive thread = some (job, next)) : next.work < line.work := by
  obtain ⟨waiting, queue, found, rfl⟩ := receive_eq_some_iff.mp received
  have posts := sum_map_set Post.load (.running job) waiting
  unfold work
  rw [found]
  simp only [Post.load, List.length_cons] at posts ⊢
  omega

theorem work_finish {line next : Line J} {thread : Nat} {job : J}
    (finished : line.finish thread = some (job, next)) : next.work < line.work := by
  obtain ⟨running, rfl⟩ := finish_eq_some_iff.mp finished
  have posts := sum_map_set Post.load .waiting running
  unfold work
  simp only [Post.load] at posts ⊢
  omega

theorem work_leave {line next : Line J} {thread : Nat} (left : line.leave thread = some next) :
    next.work < line.work := by
  obtain ⟨_, waiting, _, rfl⟩ := leave_eq_some_iff.mp left
  have posts := sum_map_set Post.load .gone waiting
  unfold work
  simp only [Post.load] at posts ⊢
  omega

end Line

namespace Site

def work (site : Site) : Nat :=
  site.crew.line.work
    + (site.closings.map (Closing.load site.crew.line.posts.length)).sum

theorem work_moved (site : Site) {number : Nat} {closing : Closing} {stage : ClosingStage}
    (present : site.closings[number]? = some closing)
    (less : Closing.load site.crew.line.posts.length { closing with stage }
      < closing.load site.crew.line.posts.length) :
    (site.moved number closing stage).work < site.work := by
  have closings := Line.sum_map_set (Closing.load site.crew.line.posts.length)
    { closing with stage } present
  change site.crew.line.work
      + ((site.closings.set number { closing with stage }).map
          (Closing.load site.crew.line.posts.length)).sum < site.crew.line.work + _
  omega

theorem work_withLine {site : Site} {line : Line Job}
    (posts : line.posts.length = site.crew.line.posts.length)
    (less : line.work < site.crew.line.work) : (site.withLine line).work < site.work := by
  change line.work + (site.closings.map (Closing.load line.posts.length)).sum
    < site.crew.line.work + _
  rw [posts]
  omega

/-- Every step of the crew's own uses up work. -/
theorem work_lt {kind : CrewKind} {site next : Site} {act : Act} (step : Step kind site act next)
    (own : act.isOwn = true) : next.work < site.work := by
  cases step with
  | submit _ _ _ => cases own
  | call _ => cases own
  | receive received =>
      exact work_withLine (Line.length_posts_step (.receive received)) (Line.work_receive received)
  | finish _ finished =>
      exact work_withLine (Line.length_posts_step (.finish finished)) (Line.work_finish finished)
  | leave left =>
      exact work_withLine (Line.length_posts_step (.leave left)) (Line.work_leave left)
  | @hangUp number closing present begun _ =>
      have less : Closing.load site.crew.line.posts.length { closing with stage := .hungUp }
          < closing.load site.crew.line.posts.length := by
        simp only [Closing.load, begun]
        omega
      exact work_moved site present less
  | late present begun _ _ =>
      refine work_moved _ present ?_
      simp only [Closing.load, begun]
      omega
  | @take number closing present hungUp _ =>
      have fewer : (site.others closing.caller).length ≤ site.crew.line.posts.length := by
        have filtered := List.length_filter_le (fun thread => closing.caller ≠ some thread)
          (List.range site.crew.line.posts.length)
        rw [List.length_range] at filtered
        exact filtered
      have less : Closing.load site.crew.line.posts.length
            { closing with stage := .joining (site.others closing.caller) }
          < closing.load site.crew.line.posts.length := by
        simp only [Closing.load, hungUp]
        omega
      exact work_moved site present less
  | bare present hungUp _ =>
      refine work_moved _ present ?_
      cases kind <;>
        · simp only [Closing.load, hungUp, List.length_nil]
          omega
  | join present joining _ =>
      refine work_moved _ present ?_
      simp only [Closing.load, joining, List.length_cons]
      omega
  | settle present joining =>
      refine work_moved _ present ?_
      simp only [Closing.load, joining]
      omega

/-! ### Rest -/

/-- No step of the crew's own is possible. -/
def Resting (kind : CrewKind) (site : Site) : Prop :=
  ∀ act next, act.isOwn = true → ¬Step kind site act next

section Rest

variable {kind : CrewKind} {site : Site}

theorem Resting.closing (resting : Resting kind site) {number : Nat} {closing : Closing}
    (present : site.closings[number]? = some closing) :
    (∃ decisive, closing.stage = .returned decisive)
      ∨ ∃ thread left, closing.stage = .joining (thread :: left)
        ∧ site.crew.line.posts[thread]? ≠ some .gone := by
  cases stage : closing.stage with
  | returned decisive => exact Or.inl ⟨decisive, rfl⟩
  | hungUp =>
      cases held : site.crew.held with
      | true => exact absurd (.take present stage held) (resting _ _ rfl)
      | false => exact absurd (.bare present stage held) (resting _ _ rfl)
  | begun =>
      by_cases late : kind = .pool ∧ site.crew.line.accepting = false
      · exact absurd (.late present stage late.1 late.2) (resting _ _ rfl)
      · refine absurd (.hangUp present stage fun pool => ?_) (resting _ _ rfl)
        simpa [pool] using late
  | joining left =>
      cases left with
      | nil => exact absurd (.settle present stage) (resting _ _ rfl)
      | cons thread left =>
          refine Or.inr ⟨thread, left, rfl, fun gone => ?_⟩
          exact absurd (.join present stage gone) (resting _ _ rfl)

theorem Resting.not_waiting (resting : Resting kind site)
    (useful : site.crew.line.queue ≠ [] ∨ site.crew.line.accepting = false) (thread : Nat) :
    site.crew.line.posts[thread]? ≠ some .waiting := by
  intro waiting
  cases found : site.crew.line.queue with
  | cons job queue =>
      have received := Line.receive_eq_some_iff.mpr ⟨waiting, queue, found, rfl⟩
      exact resting _ _ rfl (.receive received)
  | nil =>
      have closed := useful.resolve_left (not_not_intro found)
      have left := Line.leave_eq_some_iff.mpr ⟨closed, waiting, found, rfl⟩
      exact resting _ _ rfl (.leave left)

theorem Resting.not_running (resting : Resting kind site) {thread : Nat} (free : site.Free thread)
    (job : Job) : site.crew.line.posts[thread]? ≠ some (.running job) := by
  intro running
  have finished := Line.finish_eq_some_iff.mpr ⟨running, rfl⟩
  exact resting _ _ rfl (.finish free finished)

/-- At rest every closing call has returned: the one that could still wait would wait for a
thread that itself waits in another such call, and there is no other one. -/
theorem Resting.returned (resting : Resting kind site) (sound : Sound kind site)
    {closing : Closing} (present : closing ∈ site.closings) :
    ∃ decisive, closing.stage = .returned decisive := by
  obtain ⟨number, atNumber⟩ := List.mem_iff_getElem?.mp present
  rcases resting.closing atNumber with returned | ⟨thread, left, joining, alive⟩
  · exact returned
  have fits := sound.fits number closing atNumber
  have waits : closing.left? = some (thread :: left) := by
    rw [Closing.left?, joining]
  have ahead := fits.ahead _ waits thread List.mem_cons_self
  have shut : site.crew.line.accepting = false := by
    have further := fits.shut (by rw [joining]; intro equal; cases equal)
    simpa using further
  exfalso
  cases post : site.crew.line.posts[thread]? with
  | none => exact absurd ahead.1 (Nat.not_lt.mpr (List.getElem?_eq_none_iff.mp post))
  | some doing =>
      cases doing with
      | waiting => exact resting.not_waiting (Or.inr shut) thread post
      | gone => exact alive post
      | running job =>
          refine resting.not_running ?_ job post
          intro other otherPresent caller
          obtain ⟨otherNumber, atOther⟩ := List.mem_iff_getElem?.mp otherPresent
          rcases resting.closing atOther with returned | ⟨target, further, otherJoining, _⟩
          · exact returned
          have same : otherNumber = number := by
            refine sound.single otherNumber number other closing atOther atNumber ?_ ?_
            · unfold Closing.decides
              rw [otherJoining]
              cases kind <;> rfl
            · unfold Closing.decides
              rw [joining]
              cases kind <;> rfl
          rw [same, atNumber] at atOther
          cases atOther
          exact absurd caller ahead.2

theorem Resting.free (resting : Resting kind site) (sound : Sound kind site) (thread : Nat) :
    site.Free thread :=
  fun _ present _ => resting.returned sound present

theorem Resting.queue (resting : Resting kind site) (sound : Sound kind site)
    (crewed : site.crew.line.posts ≠ []) : site.crew.line.queue = [] := by
  by_contra pending
  obtain ⟨post, posts, found⟩ := List.exists_cons_of_ne_nil crewed
  have first : site.crew.line.posts[0]? = some post := by
    rw [found]
    rfl
  cases post with
  | waiting => exact resting.not_waiting (Or.inl pending) 0 first
  | running job => exact resting.not_running (resting.free sound 0) job first
  | gone => exact pending (sound.staying 0 first).2

/-- At rest a crew that was hung up has lost all of its threads. -/
theorem Resting.gone (resting : Resting kind site) (sound : Sound kind site)
    (closed : site.crew.line.accepting = false) (post : Post Job)
    (present : post ∈ site.crew.line.posts) : post = .gone := by
  obtain ⟨thread, atThread⟩ := List.mem_iff_getElem?.mp present
  cases post with
  | waiting => exact absurd atThread (resting.not_waiting (Or.inr closed) thread)
  | running job => exact absurd atThread (resting.not_running (resting.free sound thread) job)
  | gone => rfl

end Rest

end Site

end Reactor
