import Mathlib.Logic.Relation
import Reactor.Engine
import Reactor.Proofs.Crew.Serving
import Reactor.Proofs.Thread.Units

/-!
Crews at work under watch. Beside the crew and the watch a shift keeps, for each place, a diary:
the bodies of the jobs that the thread there took, and the steps of its monitor in time. A job
does with the monitor whatever its body says, units inside units and panics among them; meanwhile
others submit, stop the crew, or let go of monitors. A thread that runs no job has a clear
monitor, so that no pass of the watchdog reports it.
-/

namespace Reactor

theorem jobSteps_concat (jobs : List (List Activity)) (body : List Activity) :
    jobSteps (jobs ++ [body]) = jobSteps jobs ++ Activity.jobUnit body := by
  induction jobs with
  | nil =>
      rw [List.nil_append, jobSteps_cons]
      exact List.append_nil _
  | cons first jobs ih => rw [List.cons_append, jobSteps_cons, jobSteps_cons, ih, List.append_assoc]

/-- What a thread has done: the bodies of the jobs it took, and the steps of its monitor. -/
structure Diary where
  jobs : List (List Activity)
  steps : List (Nat × Step)

namespace Diary

def blank : Diary := ⟨[], []⟩

def taken (diary : Diary) : List Step := diary.steps.map (·.2)

def note (diary : Diary) (now : Nat) (step : Step) : Diary :=
  { diary with steps := diary.steps ++ [(now, step)] }

def noteJob (diary : Diary) (now : Nat) (body : List Activity) : Diary :=
  ⟨diary.jobs ++ [body], diary.steps ++ [(now, .begin)]⟩

@[simp] theorem taken_noteJob (diary : Diary) (now : Nat) (body : List Activity) :
    (diary.noteJob now body).taken = diary.taken ++ [.begin] := List.map_append

end Diary

/-- A monitor takes a step. -/
def Watch.take (watch : Watch) (now key : Nat) : Step → Watch
  | .begin => watch.begin now key
  | .finish => watch.finish key
  | .look => watch

theorem Watch.monitor?_take (watch : Watch) (now key other : Nat) (step : Step) :
    (watch.take now key step).monitor? other
      = if other = key then (watch.monitor? other).map (·.apply now step)
        else watch.monitor? other := by
  cases step with
  | begin => exact watch.monitor?_begin now key other
  | finish => exact watch.monitor?_finish key other
  | look =>
      change watch.monitor? other = _
      split
      · cases watch.monitor? other <;> rfl
      · rfl

structure Shift where
  crew : Crew
  watch : Watch
  diaries : Nat → Diary

namespace Shift

def create (threads : List RuntimeThread) (watch : Watch) : Shift :=
  ⟨.create threads, watch, fun _ => .blank⟩

def write (shift : Shift) (place : Nat) (diary : Diary) (other : Nat) : Diary :=
  if other = place then diary else shift.diaries other

def Busy (shift : Shift) (place : Nat) : Prop :=
  ∃ job, shift.crew.line.posts[place]? = some (.running job)

inductive Step : Shift → Shift → Prop where
  | submit {shift : Shift} {job : Job} {line : Line Job} :
      shift.crew.line.submit job = .ok line →
        Step shift { shift with crew := { shift.crew with line } }
  | receive {shift : Shift} {now place : Nat} {job : Job} {body : List Activity} {crew : Crew}
      {watch : Watch} :
      shift.crew.receive shift.watch now place = some (job, crew, watch) →
        job.panics = (Activity.stepsOfAll body).2 →
        Step shift ⟨crew, watch, shift.write place ((shift.diaries place).noteJob now body)⟩
  -- The job goes on: its own unit stays open.
  | work {shift : Shift} {now place : Nat} {thread : RuntimeThread} {step : Reactor.Step} :
      shift.crew.threads[place]? = some thread → shift.Busy place →
        ((shift.diaries place).note now step).taken <+: jobSteps (shift.diaries place).jobs →
        0 < depth ((shift.diaries place).note now step).taken →
        Step shift
          ⟨shift.crew,
            if thread.conduct = .relays then shift.watch else shift.watch.take now thread.key step,
            shift.write place ((shift.diaries place).note now step)⟩
  | finish {shift : Shift} {now place : Nat} {thread : RuntimeThread} :
      shift.crew.threads[place]? = some thread → shift.Busy place →
        ((shift.diaries place).note now .finish).taken = jobSteps (shift.diaries place).jobs →
        Step shift
          ⟨(shift.crew.finish shift.watch place).value.1,
            (shift.crew.finish shift.watch place).value.2,
            shift.write place ((shift.diaries place).note now .finish)⟩
  | settle {shift : Shift} :
      Step shift
        { shift with
          crew := (shift.crew.settle shift.watch).value.2.1
          watch := (shift.crew.settle shift.watch).value.2.2 }
  | stop {shift : Shift} (actor : Actor) (abnormal : String → Told Unit) :
      Step shift
        { shift with
          crew := (shift.crew.stop shift.watch actor abnormal).value.2.1
          watch := (shift.crew.stop shift.watch actor abnormal).value.2.2 }
  -- Others make threads, register, pass, and let go of monitors.
  | elsewhere {shift : Shift} {watch : Watch} :
      (∀ thread ∈ shift.crew.threads, ∀ monitor, watch.monitor? thread.key = some monitor →
        shift.watch.monitor? thread.key = some monitor) →
        Step shift { shift with watch }

abbrev Run : Shift → Shift → Prop := Relation.ReflTransGen Step

/-- The monitor of a thread is what its diary says, and the diary has an open unit exactly while
the thread is inside a job. -/
structure Faithful (thread : RuntimeThread) (diary : Diary) (busy : Prop) (monitor : Monitor) :
    Prop where
  followed : monitor = (Monitor.idle thread.descriptor).follow diary.steps
  begun : diary.taken <+: jobSteps diary.jobs
  idle : ¬busy → diary.taken = jobSteps diary.jobs
  inside : busy → 0 < depth diary.taken

/-- Every thread that runs its jobs itself has a faithful diary, as long as its monitor lives. -/
def Sound (shift : Shift) : Prop :=
  ∀ (place : Nat) (thread : RuntimeThread), shift.crew.threads[place]? = some thread →
    thread.conduct ≠ .relays → ∀ monitor, shift.watch.monitor? thread.key = some monitor →
      Faithful thread (shift.diaries place) (shift.Busy place) monitor

def Distinct (shift : Shift) : Prop :=
  ∀ (first second : Nat) (one other : RuntimeThread), shift.crew.threads[first]? = some one →
    shift.crew.threads[second]? = some other → one.key = other.key → first = second

variable {shift next : Shift}

theorem Faithful.congr {thread : RuntimeThread} {diary : Diary} {busy still : Prop}
    {monitor : Monitor} (faithful : Faithful thread diary busy monitor) (same : still ↔ busy) :
    Faithful thread diary still monitor where
  followed := faithful.followed
  begun := faithful.begun
  idle free := faithful.idle fun busy => free (same.mpr busy)
  inside still := faithful.inside (same.mp still)

/-- Where nobody's diary changes, no job begins or ends and monitors at most disappear. -/
theorem Sound.mono (sound : shift.Sound) (threads : next.crew.threads = shift.crew.threads)
    (diaries : next.diaries = shift.diaries)
    (alive : ∀ thread ∈ shift.crew.threads, ∀ monitor,
      next.watch.monitor? thread.key = some monitor →
        shift.watch.monitor? thread.key = some monitor)
    (busy : ∀ (place : Nat) (thread : RuntimeThread) (monitor : Monitor),
      shift.crew.threads[place]? = some thread →
      next.watch.monitor? thread.key = some monitor → (next.Busy place ↔ shift.Busy place)) :
    next.Sound := by
  intro place thread present own monitor living
  rw [threads] at present
  have before := alive thread (List.mem_of_getElem? present) monitor living
  rw [diaries]
  exact (sound place thread present own monitor before).congr
    (busy place thread monitor present living)

/-- Where one thread acts, only its own place has to be looked at. -/
theorem Sound.act (sound : shift.Sound) (distinct : shift.Distinct) {place : Nat}
    {thread : RuntimeThread} {diary : Diary} {crew : Crew} {watch : Watch}
    (present : shift.crew.threads[place]? = some thread)
    (threads : crew.threads = shift.crew.threads)
    (posts : ∀ other, place ≠ other → crew.line.posts[other]? = shift.crew.line.posts[other]?)
    (monitors : ∀ key, key ≠ thread.key → watch.monitor? key = shift.watch.monitor? key)
    (here : thread.conduct ≠ .relays → ∀ monitor, watch.monitor? thread.key = some monitor →
      Faithful thread diary (∃ job, crew.line.posts[place]? = some (.running job)) monitor) :
    Sound ⟨crew, watch, shift.write place diary⟩ := by
  intro other worker found own monitor alive
  change crew.threads[other]? = some worker at found
  change Faithful worker (if other = place then diary else shift.diaries other) _ monitor
  rw [threads] at found
  by_cases same : other = place
  · subst other
    rw [present] at found
    cases found
    rw [if_pos rfl]
    exact here own monitor alive
  · rw [if_neg same]
    have foreign : worker.key ≠ thread.key :=
      fun equal => same (distinct other place worker thread found present equal)
    change watch.monitor? worker.key = some monitor at alive
    rw [monitors worker.key foreign] at alive
    refine (sound other worker found own monitor alive).congr ?_
    unfold Busy
    rw [posts other fun equal => same equal.symm]

/-! ### One step, and any number of steps -/

theorem Sound.receive (sound : shift.Sound) (distinct : shift.Distinct) {now place : Nat} {job : Job}
    {crew : Crew} {watch : Watch} (body : List Activity)
    (received : shift.crew.receive shift.watch now place = some (job, crew, watch)) :
    Sound ⟨crew, watch, shift.write place ((shift.diaries place).noteJob now body)⟩ := by
  obtain ⟨thread, line, present, took, rfl, rfl⟩ := Crew.receive_eq_some received
  obtain ⟨waiting, queue, _, rfl⟩ := Line.receive_eq_some_iff.mp took
  refine sound.act distinct present rfl (fun other elsewhere => ?_) (fun key foreign => ?_) ?_
  · exact List.getElem?_set_ne elsewhere
  · split
    · rfl
    · rw [Watch.monitor?_begin, if_neg foreign]
  · intro own monitor alive
    rw [if_neg own, Watch.monitor?_begin, if_pos rfl, Option.map_eq_some_iff] at alive
    obtain ⟨before, living, rfl⟩ := alive
    have faithful := sound place thread present own before living
    have finished := faithful.idle fun ⟨_, running⟩ => by
      rw [waiting] at running
      cases running
    have opened : (shift.diaries place).taken ++ [.begin]
        <+: jobSteps ((shift.diaries place).jobs ++ [body]) := by
      rw [finished, jobSteps_concat, List.prefix_append_right_inj]
      exact List.prefix_append [Reactor.Step.begin] _
    refine ⟨?_, by rwa [Diary.taken_noteJob], fun idle => ?_, fun _ => ?_⟩
    · change before.begin now = Monitor.follow _ ((shift.diaries place).steps ++ [(now, .begin)])
      rw [Monitor.follow_concat, ← faithful.followed]
      rfl
    · obtain ⟨within, _⟩ := List.getElem?_eq_some_iff.mp waiting
      exact absurd ⟨job, List.getElem?_set_self within⟩ idle
    · rw [Diary.taken_noteJob, depth_append, finished, (nested_jobSteps _).closes]
      decide

theorem Sound.work (sound : shift.Sound) (distinct : shift.Distinct) {now place : Nat}
    {thread : RuntimeThread} {step : Reactor.Step} (present : shift.crew.threads[place]? = some thread)
    (busy : shift.Busy place)
    (begun : ((shift.diaries place).note now step).taken <+: jobSteps (shift.diaries place).jobs)
    (opened : 0 < depth ((shift.diaries place).note now step).taken) :
    Sound
      ⟨shift.crew,
        if thread.conduct = .relays then shift.watch else shift.watch.take now thread.key step,
        shift.write place ((shift.diaries place).note now step)⟩ := by
  refine sound.act distinct present rfl (fun _ _ => rfl) (fun key foreign => ?_) ?_
  · split
    · rfl
    · rw [Watch.monitor?_take, if_neg foreign]
  · intro own monitor alive
    rw [if_neg own, Watch.monitor?_take, if_pos rfl, Option.map_eq_some_iff] at alive
    obtain ⟨before, living, rfl⟩ := alive
    have faithful := sound place thread present own before living
    refine ⟨?_, begun, fun idle => absurd busy idle, fun _ => opened⟩
    change before.apply now step = Monitor.follow _ ((shift.diaries place).steps ++ [(now, step)])
    rw [Monitor.follow_concat, ← faithful.followed]

theorem Sound.finish (sound : shift.Sound) (distinct : shift.Distinct) {now place : Nat}
    {thread : RuntimeThread} (present : shift.crew.threads[place]? = some thread)
    (busy : shift.Busy place)
    (ended : ((shift.diaries place).note now .finish).taken = jobSteps (shift.diaries place).jobs) :
    Sound
      ⟨(shift.crew.finish shift.watch place).value.1, (shift.crew.finish shift.watch place).value.2,
        shift.write place ((shift.diaries place).note now .finish)⟩ := by
  obtain ⟨job, running⟩ := busy
  have finished := Line.finish_eq_some_iff.mpr ⟨running, rfl⟩
  rw [Crew.value_finish shift.watch present finished]
  refine sound.act distinct present rfl (fun other elsewhere => ?_) (fun key foreign => ?_) ?_
  · exact List.getElem?_set_ne elsewhere
  · dsimp only
    split
    · rfl
    · rw [Watch.monitor?_finish, if_neg foreign]
  · intro own monitor alive
    dsimp only at alive
    rw [if_neg own, Watch.monitor?_finish, if_pos rfl, Option.map_eq_some_iff] at alive
    obtain ⟨before, living, rfl⟩ := alive
    have faithful := sound place thread present own before living
    refine ⟨?_, ended ▸ List.prefix_rfl, fun _ => ended, fun ⟨_, impossible⟩ => ?_⟩
    · change before.finish = Monitor.follow _ ((shift.diaries place).steps ++ [(now, .finish)])
      rw [Monitor.follow_concat, ← faithful.followed]
      rfl
    · obtain ⟨within, _⟩ := List.getElem?_eq_some_iff.mp running
      dsimp only at impossible
      rw [List.getElem?_set_self within] at impossible
      cases impossible

theorem threads_step (step : Step shift next) : next.crew.threads = shift.crew.threads := by
  cases step with
  | submit _ | work _ _ _ _ | settle | elsewhere _ => rfl
  | receive received _ =>
      obtain ⟨_, _, _, _, rfl, _⟩ := Crew.receive_eq_some received
      rfl
  | finish present busy _ =>
      obtain ⟨job, running⟩ := busy
      rw [Crew.value_finish shift.watch present (Line.finish_eq_some_iff.mpr ⟨running, rfl⟩)]
  | stop actor abnormal => exact Crew.threads_stop shift.crew shift.watch actor abnormal

theorem sound_step (sound : shift.Sound) (distinct : shift.Distinct) (step : Step shift next) :
    next.Sound := by
  cases step with
  | submit accepted =>
      refine sound.mono rfl rfl (fun _ _ _ => id) fun place _ _ _ _ => ?_
      obtain ⟨_, _, rfl⟩ := Line.submit_eq_ok_iff.mp accepted
      rfl
  | receive received _ => exact sound.receive distinct _ received
  | work present busy begun opened => exact sound.work distinct present busy begun opened
  | finish present busy ended => exact sound.finish distinct present busy ended
  | settle =>
      refine sound.mono rfl rfl (fun _ _ _ => (Crew.sheds_settle _ _).monitor?) fun _ _ _ _ _ => ?_
      refine exists_congr fun job => ?_
      rw [(Crew.value_settle shift.crew shift.watch).2]
      exact Line.running_dismiss.trans (by rw [Line.posts_serve])
  | stop actor abnormal =>
      refine sound.mono (Crew.threads_stop ..) rfl
        (fun _ _ _ => (Crew.sheds_stop ..).monitor?) fun place thread monitor present alive => ?_
      exact exists_congr fun job => Crew.running_stop present alive
  | elsewhere alive => exact sound.mono rfl rfl alive fun _ _ _ _ _ => Iff.rfl

theorem distinct_of_nodup {threads : List RuntimeThread} (different : (threads.map (·.key)).Nodup)
    (same : shift.crew.threads = threads) : shift.Distinct := by
  intro first second one other found again equal
  rw [same] at found again
  have within : first < (threads.map (·.key)).length := by
    rw [List.length_map]
    exact (List.getElem?_eq_some_iff.mp found).1
  refine (List.getElem?_inj within different).mp ?_
  rw [List.getElem?_map, List.getElem?_map, found, again, Option.map_some, Option.map_some, equal]

variable {threads : List RuntimeThread} {watch : Watch}

theorem threads_run (run : Run (create threads watch) shift) : shift.crew.threads = threads := by
  induction run with
  | refl => rfl
  | tail _ step ih => exact (threads_step step).trans ih

theorem sound_create (fresh : ∀ thread ∈ threads, ∀ monitor,
      watch.monitor? thread.key = some monitor → monitor = .idle thread.descriptor) :
    (create threads watch).Sound := by
  intro place thread present _ monitor alive
  refine ⟨fresh thread (List.mem_of_getElem? present) monitor alive, List.nil_prefix,
    fun _ => rfl, ?_⟩
  rintro ⟨job, running⟩
  change threads[place]? = some thread at present
  change (threads.map _)[place]? = _ at running
  rw [List.getElem?_map, present, Option.map_some] at running
  split at running <;> cases running

theorem sound_run (different : (threads.map (·.key)).Nodup)
    (fresh : ∀ thread ∈ threads, ∀ monitor,
      watch.monitor? thread.key = some monitor → monitor = .idle thread.descriptor)
    (run : Run (create threads watch) shift) : shift.Sound := by
  induction run with
  | refl => exact sound_create fresh
  | tail earlier step ih =>
      exact sound_step ih (distinct_of_nodup different (threads_run earlier)) step

/-- A thread that is inside no job has a clear monitor, whatever its jobs have done and however
they ended; a pass finds the same as if the thread had never been registered. -/
theorem idle_unreported (different : (threads.map (·.key)).Nodup)
    (fresh : ∀ thread ∈ threads, ∀ monitor,
      watch.monitor? thread.key = some monitor → monitor = .idle thread.descriptor)
    (run : Run (create threads watch) shift) {place : Nat} {thread : RuntimeThread}
    (present : threads[place]? = some thread) (own : thread.conduct ≠ .relays)
    {monitor : Monitor} (alive : shift.watch.monitor? thread.key = some monitor) :
    (shift.Busy place ↔ 0 < depth (shift.diaries place).taken)
      ∧ (¬shift.Busy place →
          (shift.diaries place).taken = jobSteps (shift.diaries place).jobs
            ∧ monitor.mark = none
            ∧ ∀ now, monitor.executingFor now = none
              ∧ (∀ (watchdog : Watchdog) (actor : Actor), watchdog.watch = shift.watch →
                  (watchdog.check now actor).value.1
                    = (Watchdog.check { watchdog with watch := shift.watch.strike thread.key }
                        now actor).value.1)
              ∧ ∀ (engine : Engine) (actor : Actor), engine.workshop.watch = shift.watch →
                  (engine.check now actor).value.1
                    = (Engine.check
                        { engine with
                          workshop :=
                            { engine.workshop with watch := shift.watch.strike thread.key } }
                        now actor).value.1) := by
  have sound := sound_run different fresh run
  have kept := threads_run run
  have faithful := sound place thread (kept ▸ present) own monitor alive
  have closed : ¬shift.Busy place → depth (shift.diaries place).taken = 0 := by
    intro idle
    rw [faithful.idle idle]
    exact (nested_jobSteps _).closes
  refine ⟨⟨faithful.inside, fun opened => ?_⟩, fun idle => ?_⟩
  · by_contra idle
    exact absurd (closed idle) (Int.ne_of_gt opened)
  have clear : monitor.mark = none := by
    rw [faithful.followed]
    exact Monitor.mark_of_closed rfl (nested_jobSteps (shift.diaries place).jobs)
      faithful.begun (closed idle)
  have resting : ∀ now, monitor.executingFor now = none := by
    intro now
    unfold Monitor.executingFor
    rw [clear, Option.map_none]
  have silent : ∀ now, (shift.watch.strike thread.key).violations now
      = shift.watch.violations now := by
    refine fun now => Watch.violations_strike fun other living => ?_
    rw [alive] at living
    cases living
    rw [Option.eq_none_iff_forall_ne_some]
    intro report reported
    obtain ⟨_, _, _, executing, _⟩ := Monitor.violation_eq_some_iff.mp reported
    rw [resting now] at executing
    cases executing
  refine ⟨faithful.idle idle, clear, fun now => ⟨resting now, ?_, ?_⟩⟩
  · intro watchdog actor watched
    rw [Watchdog.reports_check, Watchdog.reports_check, watched]
    exact (silent now).symm
  · intro engine actor watched
    rw [Engine.reports_check, Engine.reports_check, watched]
    exact (silent now).symm

/-- A job begins a unit of its own, which gives up; the job gives up with it. Then the thread
waits for the next job. -/
theorem idle_unreported_troubled :
    let thread : RuntimeThread := ⟨0, ⟨"pool-0", .worker, some ⟨5⟩⟩, .runs⟩
    let watch := (Watch.empty.adopt 0 (.idle thread.descriptor)).register 0
    ∃ shift, Run (create [thread] watch) shift
      ∧ (shift.diaries 0).taken = [.begin, .begin, .finish, .finish]
      ∧ (shift.diaries 0).jobs = [[.unit [.panic]]]
      ∧ ∃ monitor, shift.watch.monitor? 0 = some monitor ∧ monitor.mark = none := by
  intro thread watch
  have submitted := Relation.ReflTransGen.single (@Step.submit (create [thread] watch) ⟨0, true⟩ _ rfl)
  have received := submitted.tail (@Step.receive _ 1 0 _ [.unit [.panic]] _ _ rfl rfl)
  have began := received.tail
    (@Step.work _ 2 0 thread .begin rfl ⟨_, rfl⟩ (by decide) (by decide))
  have ended := began.tail
    (@Step.work _ 3 0 thread .finish rfl ⟨_, rfl⟩ (by decide) (by decide))
  have finished := ended.tail (@Step.finish _ 4 0 thread rfl ⟨_, rfl⟩ (by decide))
  have fresh : ∀ other ∈ [thread], ∀ monitor, watch.monitor? other.key = some monitor →
      monitor = .idle other.descriptor := by
    intro other present monitor alive
    rw [List.mem_singleton.mp present] at alive ⊢
    exact (Option.some.inj alive).symm
  have present : [thread][0]? = some thread := rfl
  have shown := idle_unreported (by decide) fresh finished present (by decide) rfl
  refine ⟨_, finished, rfl, rfl, _, rfl, (shown.2 ?_).2.1⟩
  rintro ⟨job, running⟩
  cases running

end Shift

end Reactor
