import Reactor.Proofs.Crew.Delivery

/-!
Lines that one thread serves, as the line of an event loop is. The thread runs the jobs that were
accepted one at a time and in that order; whether it will ever run any depends on whether it is
there at all, and a line whose thread has left holds no job.
-/

namespace Reactor

namespace Line

variable {J : Type} {line next : Line J} {history : List (Happening J)} {happening : Happening J}

/-- What the only thread of a line has made of the jobs that were accepted: it has finished some in
that order, it may run the one behind them, and the others queue. -/
structure Serial (history : List (Happening J)) (line : Line J) : Prop where
  alone : ∃ post, line.posts = [post]
  inTurn : acceptedIn history
    = (finishedIn history).map (·.2) ++ (runningAt line.posts 0 ++ line.queue)
  left : line.posts = [.gone] → line.queue = []

theorem post_alone {post found : Post J} {thread : Nat} (present : [post][thread]? = some found) :
    thread = 0 ∧ post = found := by
  cases thread with
  | zero => exact ⟨rfl, Option.some.inj present⟩
  | succ _ => cases present

theorem serial_step (serial : Serial history line) (step : Step line happening next) :
    Serial (history ++ [happening]) next := by
  obtain ⟨⟨post, alone⟩, inTurn, left⟩ := serial
  rw [alone] at inTurn left
  cases step with
  | accept accepted =>
      obtain ⟨_, ⟨other, present, stays⟩, rfl⟩ := submit_eq_ok_iff.mp accepted
      rw [alone, List.mem_singleton] at present
      subst other
      refine ⟨⟨post, alone⟩, ?_, fun gone => ?_⟩
      · rw [acceptedIn_concat, finishedIn_concat, inTurn, alone]
        simp [Happening.accepted?, Happening.finished?]
      · rw [alone] at gone
        cases gone
        cases stays
  | refuse _ | hangUp =>
      refine ⟨⟨post, alone⟩, ?_, fun gone => left (alone ▸ gone)⟩
      rw [acceptedIn_concat, finishedIn_concat, inTurn, ← alone]
      simp [Happening.accepted?, Happening.finished?, hangUp]
  | @receive _ _ job received =>
      obtain ⟨waiting, queue, found, rfl⟩ := receive_eq_some_iff.mp received
      rw [alone] at waiting
      obtain ⟨rfl, rfl⟩ := post_alone waiting
      refine ⟨⟨.running job, ?_⟩, ?_, ?_⟩
      · rw [alone]
        rfl
      · rw [acceptedIn_concat, finishedIn_concat, inTurn, alone, found]
        simp [Happening.accepted?, Happening.finished?, runningAt]
      · rw [alone]
        intro gone
        cases gone
  | finish finished =>
      obtain ⟨running, rfl⟩ := finish_eq_some_iff.mp finished
      rw [alone] at running
      obtain ⟨rfl, rfl⟩ := post_alone running
      refine ⟨⟨.waiting, ?_⟩, ?_, ?_⟩
      · rw [alone]
        rfl
      · rw [acceptedIn_concat, finishedIn_concat, inTurn, alone]
        simp [Happening.accepted?, Happening.finished?, runningAt]
      · rw [alone]
        intro gone
        cases gone
  | leave gone =>
      obtain ⟨_, waiting, empty, rfl⟩ := leave_eq_some_iff.mp gone
      rw [alone] at waiting
      obtain ⟨rfl, rfl⟩ := post_alone waiting
      refine ⟨⟨.gone, ?_⟩, ?_, fun _ => empty⟩
      · rw [alone]
        rfl
      · rw [acceptedIn_concat, finishedIn_concat, inTurn, alone, empty]
        simp [Happening.accepted?, Happening.finished?, runningAt]

theorem serial_run {start : Line J} (serial : Serial [] start) (run : Run start history line) :
    Serial history line := by
  induction run with
  | start => exact serial
  | step _ step ih => exact serial_step ih step

theorem submit_gone (gone : line.posts = [.gone]) (job : J) :
    ∃ refusal, line.submit job = .error refusal := by
  unfold submit
  by_cases shut : line.accepting = false
  · exact ⟨_, if_pos shut⟩
  · rw [if_neg shut, gone]
    exact ⟨_, rfl⟩

theorem receive_alone {job : J} {queue : List J} (waiting : line.posts = [.waiting])
    (found : line.queue = job :: queue) : ∃ next, line.receive 0 = some (job, next) :=
  ⟨_, receive_eq_some_iff.mpr ⟨by rw [waiting]; rfl, queue, found, rfl⟩⟩

theorem finish_alone {job : J} (serial : Serial history line)
    (finished : line.finish 0 = some (job, next)) : next.posts = [.waiting] := by
  obtain ⟨post, alone⟩ := serial.alone
  obtain ⟨_, rfl⟩ := finish_eq_some_iff.mp finished
  rw [alone]
  rfl

theorem Serial.finished (serial : Serial history line) (idle : runningAt line.posts 0 = [])
    (empty : line.queue = []) : acceptedIn history = (finishedIn history).map (·.2) := by
  rw [serial.inTurn, idle, empty]
  exact List.append_nil _

theorem runningAt_create (threads : List RuntimeThread) (place : Nat) :
    runningAt (Crew.create threads).line.posts place = [] := by
  refine Site.runningAt_eq_nil fun job running => ?_
  obtain ⟨thread, _, post⟩ := List.mem_map.mp (List.mem_of_getElem? running)
  cases runs : thread.runsTask with
  | true =>
      rw [if_pos runs] at post
      cases post
  | false =>
      rw [if_neg (by rw [runs]; exact Bool.false_ne_true)] at post
      cases post

theorem serial_create (thread : RuntimeThread) : Serial [] (Crew.create [thread]).line where
  alone := ⟨_, rfl⟩
  inTurn := by
    rw [runningAt_create]
    rfl
  left _ := rfl

end Line

end Reactor
