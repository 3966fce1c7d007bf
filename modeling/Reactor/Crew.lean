import Reactor.Line
import Reactor.Workshop

/-!
A crew: the threads that serve one line of jobs. Every job is one unit of work on the monitor of
the thread that runs it, and a job that panics ends neither its thread nor the line. Stopping a
crew closes its line, lets the jobs in it be served, and waits for every thread but the one that
stops it.
-/

namespace Reactor

structure Job where
  ticket : Nat
  panics : Bool
deriving DecidableEq, Inhabited

structure Crew where
  threads : List RuntimeThread
  -- Whether the threads are held, to be waited for later.
  held : Bool
  line : Line Job

namespace Crew

def create (threads : List RuntimeThread) : Crew where
  threads
  held := true
  line := ⟨true, [], threads.map fun thread => if thread.runsTask then .waiting else .gone⟩

def handles (crew : Crew) : Nat := if crew.held then crew.threads.length else 0

/-- Whether jobs of the thread see its monitor. -/
private def monitored (thread : RuntimeThread) : Bool := thread.conduct != .relays

private def tellPanic (thread : RuntimeThread) (job : Job) : Told Unit :=
  if job.panics then
    Told.log (.thread thread.key) .warn .executor "Job panicked; pool thread keeps running"
      [("thread", .shown (if monitored thread then thread.descriptor.name else "<unnamed>"))]
  else
    pure ()

def receive (crew : Crew) (watch : Watch) (now index : Nat) : Option (Job × Crew × Watch) := do
  let thread ← crew.threads[index]?
  let (job, line) ← crew.line.receive index
  let watch := if monitored thread then watch.begin now thread.key else watch
  return (job, { crew with line }, watch)

def finish (crew : Crew) (watch : Watch) (index : Nat) : Told (Crew × Watch) :=
  match crew.threads[index]?, crew.line.finish index with
  | some thread, some (job, line) => do
    tellPanic thread job
    let watch := if monitored thread then watch.finish thread.key else watch
    return ({ crew with line }, watch)
  | _, _ => return (crew, watch)

def look (crew : Crew) (watch : Watch) (index : Nat) : Option Look :=
  crew.threads[index]?.map fun thread => thread.look (watch.isMarked thread.key)

/-- Threads that have exited keep their monitor only while they are held. -/
private def bury (crew : Crew) (watch : Watch) : Watch :=
  if crew.held then
    watch
  else
    (crew.threads.zip crew.line.posts).foldl
      (fun watch (thread, post) => if post.isGone then watch.forget thread.key else watch) watch

private def tellServed (thread : Option RuntimeThread) : List Job → Told Unit
  | [] => pure ()
  | job :: jobs => do
    match thread with
    | some thread => tellPanic thread job
    | none => pure ()
    tellServed thread jobs

/-- The waiting threads serve the line, and exit if it accepts no more. Gives the jobs served. -/
def settle (crew : Crew) (watch : Watch) : Told (List Job × Crew × Watch) := do
  let server := crew.line.firstWaiting?.bind (crew.threads[·]?)
  let (jobs, line) := crew.line.serve
  tellServed server jobs
  let crew := { crew with line := line.dismiss }
  return (jobs, crew, bury crew watch)

/-- The threads in those places end their jobs, one after the other. -/
def finishAll (crew : Crew) (watch : Watch) : List Nat → Told (Crew × Watch)
  | [] => return (crew, watch)
  | place :: places => do
    let (crew, watch) ← crew.finish watch place
    crew.finishAll watch places

def vacate (crew : Crew) (watch : Watch) (places : List Nat) : Told (List Job × Crew × Watch) := do
  let (crew, watch) ← crew.finishAll watch places
  crew.settle watch

/-- The places of the threads that are not acting. -/
def others (crew : Crew) (actor : Actor) : List Nat :=
  (List.range crew.threads.length).filter fun place =>
    crew.threads[place]?.any fun thread => actor ≠ .thread thread.key

private def joinOthers (actor : Actor) (abnormal : String → Told Unit) (watch : Watch) :
    List RuntimeThread → Told Watch
  | [] => return watch
  | thread :: threads => do
    if actor = .thread thread.key then
      Told.deed (.released thread.key)
      joinOthers actor abnormal watch threads
    else
      Told.deed (.joined thread.key)
      match thread.exitReport false with
      | some report => abnormal report
      | none => pure ()
      joinOthers actor abnormal (watch.forget thread.key) threads

/-- Closes the line and waits for the threads, unless that has been done. Those that are not acting
end their jobs and serve what is in the line before they exit. -/
def stop (crew : Crew) (watch : Watch) (actor : Actor) (abnormal : String → Told Unit) :
    Told (List Job × Crew × Watch) := do
  let closed := { crew with line := crew.line.hangUp }
  if crew.held then
    let (jobs, crew, watch) ← closed.vacate watch (crew.others actor)
    let watch ← joinOthers actor abnormal watch crew.threads
    return (jobs, { crew with held := false }, watch)
  else
    closed.settle watch

theorem mem_others {crew : Crew} {actor : Actor} {place : Nat} :
    place ∈ crew.others actor
      ↔ ∃ thread, crew.threads[place]? = some thread ∧ actor ≠ .thread thread.key := by
  simp only [others, List.mem_filter, List.mem_range, Option.any_eq_true, decide_eq_true_eq]
  constructor
  · rintro ⟨_, thread, present, elsewhere⟩
    exact ⟨thread, present, elsewhere⟩
  · rintro ⟨thread, present, elsewhere⟩
    exact ⟨(List.getElem?_eq_some_iff.mp present).1, thread, present, elsewhere⟩

theorem others_within (crew : Crew) (actor : Actor) :
    ∀ place ∈ crew.others actor, place < crew.threads.length := by
  intro place listed
  obtain ⟨thread, present, _⟩ := mem_others.mp listed
  exact (List.getElem?_eq_some_iff.mp present).1

theorem value_settle (crew : Crew) (watch : Watch) :
    (crew.settle watch).value.1 = crew.line.serve.1
      ∧ (crew.settle watch).value.2.1 = { crew with line := crew.line.serve.2.dismiss } :=
  ⟨rfl, rfl⟩

theorem receive_eq_some {crew next : Crew} {watch after : Watch} {now index : Nat} {job : Job}
    (received : crew.receive watch now index = some (job, next, after)) :
    ∃ thread line, crew.threads[index]? = some thread
      ∧ crew.line.receive index = some (job, line) ∧ next = { crew with line }
      ∧ after = if thread.conduct = .relays then watch else watch.begin now thread.key := by
  unfold receive at received
  obtain ⟨thread, present, received⟩ := Option.bind_eq_some_iff.mp received
  obtain ⟨⟨taken, line⟩, took, received⟩ := Option.bind_eq_some_iff.mp received
  cases received
  refine ⟨thread, line, present, took, rfl, ?_⟩
  by_cases relays : thread.conduct = .relays <;> simp [monitored, relays]

theorem value_finish {crew : Crew} {index : Nat} {thread : RuntimeThread} {job : Job}
    {line : Line Job} (watch : Watch) (present : crew.threads[index]? = some thread)
    (finished : crew.line.finish index = some (job, line)) :
    (crew.finish watch index).value
      = ({ crew with line },
        if thread.conduct = .relays then watch else watch.finish thread.key) := by
  unfold finish
  rw [present, finished]
  by_cases relays : thread.conduct = .relays <;> simp [monitored, relays]

/-- A thread that is done with its job has at most finished a unit on its own monitor. -/
theorem finish_cases {crew : Crew} {index : Nat} {thread : RuntimeThread} (watch : Watch)
    (present : crew.threads[index]? = some thread) :
    (crew.finish watch index).value.1 = { crew with line := crew.line.finishAt index }
      ∧ ((crew.finish watch index).value.2 = watch
        ∨ (crew.finish watch index).value.2 = watch.finish thread.key) := by
  cases finished : crew.line.finish index with
  | none =>
      unfold finish Line.finishAt
      rw [present, finished]
      exact ⟨rfl, Or.inl rfl⟩
  | some ended =>
      unfold Line.finishAt
      rw [value_finish watch present finished, finished]
      refine ⟨rfl, ?_⟩
      by_cases relays : thread.conduct = .relays
      · exact Or.inl (if_pos relays)
      · exact Or.inr (if_neg relays)

theorem value_finishAll (crew : Crew) {places : List Nat} (watch : Watch)
    (present : ∀ place ∈ places, place < crew.threads.length) :
    (crew.finishAll watch places).value.1
      = { crew with line := crew.line.finishAll places } := by
  induction places generalizing crew watch with
  | nil => rfl
  | cons place places ih =>
      have here := List.getElem?_eq_getElem (present place List.mem_cons_self)
      have first := (finish_cases watch here).1
      change ((crew.finish watch place).value.1.finishAll _ places).value.1 = _
      rw [first]
      exact ih _ _ fun other later => present other (List.mem_cons_of_mem place later)

theorem forget_finishAll {crew : Crew} {places lost : List Nat} (watch : Watch)
    (covered : ∀ place ∈ places, ∃ thread, crew.threads[place]? = some thread ∧ thread.key ∈ lost) :
    lost.foldl Watch.forget (crew.finishAll watch places).value.2 = lost.foldl Watch.forget watch := by
  induction places generalizing crew watch with
  | nil => rfl
  | cons place places ih =>
      obtain ⟨thread, present, listed⟩ := covered place List.mem_cons_self
      obtain ⟨line, monitor⟩ := finish_cases watch present
      change lost.foldl Watch.forget
        ((crew.finish watch place).value.1.finishAll (crew.finish watch place).value.2 places).value.2
          = _
      rw [line]
      refine (@ih { crew with line := crew.line.finishAt place } _
        fun other later => covered other (List.mem_cons_of_mem place later)).trans ?_
      rcases monitor with same | finished
      · rw [same]
      · rw [finished, Watch.foldl_forget_finish watch listed]

theorem value_vacate (crew : Crew) {places : List Nat} (watch : Watch)
    (present : ∀ place ∈ places, place < crew.threads.length) :
    let line := crew.line.finishAll places
    (crew.vacate watch places).value.1 = line.serve.1
      ∧ (crew.vacate watch places).value.2.1 = { crew with line := line.serve.2.dismiss } := by
  have finished := crew.value_finishAll watch present
  exact ⟨congrArg (·.line.serve.1) finished,
    congrArg (fun crew => { crew with line := crew.line.serve.2.dismiss }) finished⟩

theorem threads_hangUp_vacate (crew : Crew) (watch : Watch) (actor : Actor) :
    (vacate { crew with line := crew.line.hangUp } watch (crew.others actor)).value.2.1.threads
      = crew.threads :=
  congrArg (·.threads)
    (value_vacate { crew with line := crew.line.hangUp } watch (crew.others_within actor)).2

/-! ### What stopping makes of a crew -/

/-- A crew that holds its threads lets them go once the others have ended their jobs, served the
line and exited. -/
theorem value_stop_held {crew : Crew} (watch : Watch) (actor : Actor)
    (abnormal : String → Told Unit) (held : crew.held = true) :
    let line := crew.line.hangUp.finishAll (crew.others actor)
    (crew.stop watch actor abnormal).value.1 = line.serve.1
      ∧ (crew.stop watch actor abnormal).value.2.1
        = { crew with held := false, line := line.serve.2.dismiss } := by
  obtain ⟨jobs, after⟩ := value_vacate { crew with line := crew.line.hangUp } watch
    (crew.others_within actor)
  unfold stop
  rw [if_pos held]
  exact ⟨jobs, congrArg (fun crew => { crew with held := false }) after⟩

theorem value_stop_bare {crew : Crew} (watch : Watch) (actor : Actor)
    (abnormal : String → Told Unit) (bare : crew.held = false) :
    crew.stop watch actor abnormal = settle { crew with line := crew.line.hangUp } watch :=
  if_neg (by rw [bare]; exact Bool.false_ne_true)

theorem threads_stop (crew : Crew) (watch : Watch) (actor : Actor)
    (abnormal : String → Told Unit) :
    (crew.stop watch actor abnormal).value.2.1.threads = crew.threads := by
  cases held : crew.held with
  | false =>
      rw [value_stop_bare watch actor abnormal held]
      rfl
  | true => rw [(value_stop_held watch actor abnormal held).2]

private theorem sheds_bury (crew : Crew) (watch : Watch) : watch.Sheds (bury crew watch) := by
  unfold bury
  split
  · exact .refl watch
  · generalize crew.threads.zip crew.line.posts = places
    induction places generalizing watch with
    | nil => exact .refl watch
    | cons place places ih =>
        refine Watch.Sheds.trans ?_ (ih _)
        change watch.Sheds (if place.2.isGone then _ else _)
        split
        · exact watch.sheds_forget place.1.key
        · exact .refl watch

theorem sheds_settle (crew : Crew) (watch : Watch) : watch.Sheds (crew.settle watch).value.2.2 :=
  sheds_bury _ watch

/-- The keys of the threads that a stop waits for. -/
private def joinedKeys (crew : Crew) (actor : Actor) : List Nat :=
  (crew.threads.filter fun thread => actor ≠ .thread thread.key).map (·.key)

private theorem mem_joinedKeys {crew : Crew} {actor : Actor} {thread : RuntimeThread}
    (present : thread ∈ crew.threads) (elsewhere : actor ≠ .thread thread.key) :
    thread.key ∈ joinedKeys crew actor :=
  List.mem_map_of_mem (List.mem_filter.mpr ⟨present, decide_eq_true elsewhere⟩)

private theorem value_joinOthers (actor : Actor) (abnormal : String → Told Unit) (watch : Watch)
    (threads : List RuntimeThread) :
    (joinOthers actor abnormal watch threads).value
      = ((threads.filter fun thread => actor ≠ .thread thread.key).map (·.key)).foldl Watch.forget
        watch := by
  induction threads generalizing watch with
  | nil => rfl
  | cons thread threads ih =>
      rw [joinOthers]
      by_cases acts : actor = .thread thread.key
      · rw [if_pos acts, List.filter_cons_of_neg (by simp [acts])]
        exact ih watch
      · rw [if_neg acts, List.filter_cons_of_pos (by simp [acts]), List.map_cons, List.foldl_cons,
          ← ih]
        dsimp only
        cases thread.exitReport false <;> rfl

private theorem watch_stop_held {crew : Crew} (watch : Watch) (actor : Actor)
    (abnormal : String → Told Unit) (held : crew.held = true) :
    (crew.stop watch actor abnormal).value.2.2
      = (joinedKeys crew actor).foldl Watch.forget watch := by
  let closed : Crew := { crew with line := crew.line.hangUp }
  have finished := closed.value_finishAll watch (crew.others_within actor)
  have unburied : (closed.vacate watch (crew.others actor)).value.2.2
      = (closed.finishAll watch (crew.others actor)).value.2 :=
    if_pos ((congrArg Crew.held finished).trans held)
  unfold stop
  rw [if_pos held]
  simp only [Told.value_bind, Told.value_pure]
  rw [value_joinOthers, unburied, threads_hangUp_vacate]
  refine forget_finishAll watch fun place listed => ?_
  obtain ⟨thread, present, elsewhere⟩ := mem_others.mp listed
  exact ⟨thread, present, mem_joinedKeys (List.mem_of_getElem? present) elsewhere⟩

theorem sheds_stop (crew : Crew) (watch : Watch) (actor : Actor) (abnormal : String → Told Unit) :
    watch.Sheds (crew.stop watch actor abnormal).value.2.2 := by
  cases held : crew.held with
  | false =>
      rw [value_stop_bare watch actor abnormal held]
      exact sheds_settle _ watch
  | true => exact ⟨_, watch_stop_held watch actor abnormal held⟩

/-- Stopped by nobody of its own, a crew that holds its threads leaves none of them under watch. -/
theorem watch_stop {crew : Crew} {actor : Actor} (watch : Watch) (abnormal : String → Told Unit)
    (held : crew.held = true)
    (outside : ∀ thread ∈ crew.threads, actor ≠ .thread thread.key) :
    (crew.stop watch actor abnormal).value.2.2
      = crew.threads.foldl (fun watch thread => watch.forget thread.key) watch := by
  have all : crew.threads.filter (fun thread => actor ≠ .thread thread.key) = crew.threads :=
    List.filter_eq_self.mpr fun thread present => decide_eq_true (outside thread present)
  rw [watch_stop_held watch actor abnormal held, joinedKeys, all, List.foldl_map]

/-- A thread whose monitor is left when its crew has been stopped runs what it ran before. -/
theorem running_stop {crew : Crew} {watch : Watch} {actor : Actor} {abnormal : String → Told Unit}
    {index : Nat} {thread : RuntimeThread} {monitor : Monitor} {job : Job}
    (present : crew.threads[index]? = some thread)
    (alive : (crew.stop watch actor abnormal).value.2.2.monitor? thread.key = some monitor) :
    (crew.stop watch actor abnormal).value.2.1.line.posts[index]? = some (.running job)
      ↔ crew.line.posts[index]? = some (.running job) := by
  cases held : crew.held with
  | false =>
      rw [value_stop_bare watch actor abnormal held, (value_settle _ watch).2, Line.running_dismiss,
        Line.posts_serve]
      rfl
  | true =>
      rw [watch_stop_held watch actor abnormal held, Watch.monitor?_foldl_forget] at alive
      have acts : index ∉ crew.others actor := by
        intro listed
        obtain ⟨other, found, elsewhere⟩ := mem_others.mp listed
        cases present.symm.trans found
        rw [if_pos (mem_joinedKeys (List.mem_of_getElem? present) elsewhere)] at alive
        cases alive
      rw [(value_stop_held watch actor abnormal held).2, Line.running_dismiss, Line.posts_serve,
        Line.post_finishAll, if_neg acts]
      rfl

/-! ### What a reading of the journal sees that looks past the log -/

section Reading

variable {α : Type} {read : Entry → Option α} (unlogged : ∀ actor event, read (.log actor event) = none)

private theorem read_joinOthers {actor : Actor} {abnormal : String → Told Unit} (watch : Watch)
    (quiet : ∀ report, (abnormal report).entries.filterMap read = [])
    (threads : List RuntimeThread) (outside : ∀ thread ∈ threads, actor ≠ .thread thread.key) :
    (joinOthers actor abnormal watch threads).entries.filterMap read
      = threads.filterMap fun thread => read (.deed (.joined thread.key)) := by
  induction threads generalizing watch with
  | nil => rfl
  | cons thread threads ih =>
      let rest := joinOthers actor abnormal (watch.forget thread.key) threads
      have joined : (joinOthers actor abnormal watch (thread :: threads)).entries
          = .deed (.joined thread.key)
            :: (((thread.exitReport false).elim [] fun report => (abnormal report).entries)
              ++ rest.entries) := by
        unfold joinOthers
        rw [if_neg (outside thread List.mem_cons_self)]
        dsimp only
        cases thread.exitReport false <;> rfl
      have reported : ((thread.exitReport false).elim []
          fun report => (abnormal report).entries).filterMap read = [] := by
        cases thread.exitReport false with
        | none => rfl
        | some report => exact quiet report
      rw [joined, List.filterMap_cons, List.filterMap_cons, List.filterMap_append, reported,
        ih _ fun other later => outside other (List.mem_cons_of_mem thread later)]
      rfl

include unlogged

private theorem read_tellPanic (thread : RuntimeThread) (job : Job) :
    (tellPanic thread job).entries.filterMap read = [] := by
  unfold tellPanic
  split
  · simp [unlogged]
  · rfl

private theorem read_tellServed (thread : Option RuntimeThread) (jobs : List Job) :
    (tellServed thread jobs).entries.filterMap read = [] := by
  induction jobs with
  | nil => rfl
  | cons job jobs ih =>
      cases thread with
      | none => exact ih
      | some thread =>
          change ((tellPanic thread job).entries ++ (tellServed (some thread) jobs).entries).filterMap
            read = []
          rw [List.filterMap_append, read_tellPanic unlogged, ih, List.append_nil]

theorem read_finish (crew : Crew) (watch : Watch) (index : Nat) :
    (crew.finish watch index).entries.filterMap read = [] := by
  unfold finish
  split
  · rw [Told.entries_bind, List.filterMap_append, read_tellPanic unlogged]
    rfl
  · rfl

theorem read_finishAll (crew : Crew) (watch : Watch) (places : List Nat) :
    (crew.finishAll watch places).entries.filterMap read = [] := by
  induction places generalizing crew watch with
  | nil => rfl
  | cons place places ih =>
      rw [finishAll, Told.entries_bind, List.filterMap_append, read_finish unlogged]
      exact ih _ _

theorem read_settle (crew : Crew) (watch : Watch) :
    (crew.settle watch).entries.filterMap read = [] := by
  change ((tellServed _ _).entries ++ []).filterMap read = []
  rw [List.append_nil, read_tellServed unlogged]

theorem read_vacate (crew : Crew) (watch : Watch) (places : List Nat) :
    (crew.vacate watch places).entries.filterMap read = [] := by
  rw [vacate, Told.entries_bind, List.filterMap_append, read_finishAll unlogged]
  exact read_settle unlogged _ _

theorem read_stop_outside (crew : Crew) (watch : Watch) {actor : Actor}
    {abnormal : String → Told Unit}
    (quiet : ∀ report, (abnormal report).entries.filterMap read = [])
    (outside : ∀ thread ∈ crew.threads, actor ≠ .thread thread.key) :
    (crew.stop watch actor abnormal).entries.filterMap read
      = if crew.held then crew.threads.filterMap fun thread => read (.deed (.joined thread.key))
        else [] := by
  cases held : crew.held with
  | false =>
      rw [value_stop_bare watch actor abnormal held]
      exact read_settle unlogged _ _
  | true =>
      unfold stop
      rw [if_pos held, if_pos rfl, Told.entries_bind, List.filterMap_append, read_vacate unlogged,
        List.nil_append, Told.entries_bind, List.filterMap_append, read_joinOthers _ quiet,
        threads_hangUp_vacate]
      · exact List.append_nil _
      · rw [threads_hangUp_vacate]
        exact outside

theorem read_stop (crew : Crew) (watch : Watch) {abnormal : String → Told Unit}
    (quiet : ∀ report, (abnormal report).entries.filterMap read = []) :
    (crew.stop watch .caller abnormal).entries.filterMap read
      = if crew.held then crew.threads.filterMap fun thread => read (.deed (.joined thread.key))
        else [] :=
  read_stop_outside unlogged crew watch quiet fun _ _ => nofun

end Reading

section Telling

variable {allowed : Entry → Prop} (deeds : ∀ deed, allowed (.deed deed))
  (logs : ∀ actor event, event.target = .executor → allowed (.log actor event))

include logs in
private theorem of_mem_tellPanic (thread : RuntimeThread) (job : Job) :
    ∀ entry ∈ (tellPanic thread job).entries, allowed entry := by
  intro entry present
  unfold tellPanic at present
  split at present
  · cases List.mem_singleton.mp present
    exact logs _ _ rfl
  · cases present

include logs in
private theorem of_mem_tellServed (thread : Option RuntimeThread) (jobs : List Job) :
    ∀ entry ∈ (tellServed thread jobs).entries, allowed entry := by
  induction jobs with
  | nil =>
      intro entry impossible
      cases impossible
  | cons job jobs ih =>
      cases thread with
      | none => exact ih
      | some thread =>
          intro entry present
          change entry ∈ (tellPanic thread job).entries ++ (tellServed (some thread) jobs).entries
            at present
          rcases List.mem_append.mp present with panicked | later
          · exact of_mem_tellPanic logs thread job entry panicked
          · exact ih entry later

include logs in
private theorem of_mem_finish (crew : Crew) (watch : Watch) (index : Nat) :
    ∀ entry ∈ (crew.finish watch index).entries, allowed entry := by
  intro entry present
  unfold finish at present
  split at present
  · rw [Told.entries_bind] at present
    rcases List.mem_append.mp present with panicked | impossible
    · exact of_mem_tellPanic logs _ _ entry panicked
    · cases impossible
  · cases present

include logs in
private theorem of_mem_finishAll (crew : Crew) (watch : Watch) (places : List Nat) :
    ∀ entry ∈ (crew.finishAll watch places).entries, allowed entry := by
  induction places generalizing crew watch with
  | nil =>
      intro entry impossible
      cases impossible
  | cons place places ih =>
      intro entry present
      rw [finishAll, Told.entries_bind] at present
      rcases List.mem_append.mp present with now | later
      · exact of_mem_finish logs crew watch place entry now
      · exact ih _ _ entry later

include logs in
private theorem of_mem_settle (crew : Crew) (watch : Watch) :
    ∀ entry ∈ (crew.settle watch).entries, allowed entry := by
  intro entry present
  rw [settle, Told.entries_bind] at present
  rcases List.mem_append.mp present with served | impossible
  · exact of_mem_tellServed logs _ _ entry served
  · cases impossible

include deeds in
private theorem of_mem_joinOthers {actor : Actor} {abnormal : String → Told Unit}
    (quiet : ∀ report, ∀ entry ∈ (abnormal report).entries, allowed entry) (watch : Watch)
    (threads : List RuntimeThread) :
    ∀ entry ∈ (joinOthers actor abnormal watch threads).entries, allowed entry := by
  induction threads generalizing watch with
  | nil =>
      intro entry impossible
      cases impossible
  | cons thread threads ih =>
      intro entry present
      unfold joinOthers at present
      split at present
      · rcases List.mem_cons.mp present with rfl | later
        · exact deeds _
        · exact ih watch entry later
      · rcases List.mem_cons.mp present with rfl | later
        · exact deeds _
        · cases ending : thread.exitReport false with
          | none =>
              rw [ending] at later
              exact ih _ entry later
          | some report =>
              rw [ending] at later
              change entry ∈ (abnormal report).entries
                ++ (joinOthers actor abnormal (watch.forget thread.key) threads).entries at later
              rcases List.mem_append.mp later with reported | last
              · exact quiet report entry reported
              · exact ih _ entry last

include deeds logs in
theorem of_mem_stop (crew : Crew) (watch : Watch) (actor : Actor) {abnormal : String → Told Unit}
    (quiet : ∀ report, ∀ entry ∈ (abnormal report).entries, allowed entry) :
    ∀ entry ∈ (crew.stop watch actor abnormal).entries, allowed entry := by
  intro entry present
  unfold stop at present
  split at present
  · rw [Told.entries_bind, vacate, Told.entries_bind] at present
    rcases List.mem_append.mp present with vacating | joining
    · rcases List.mem_append.mp vacating with finishing | settling
      · exact of_mem_finishAll logs _ _ _ entry finishing
      · exact of_mem_settle logs _ _ entry settling
    · rcases List.mem_append.mp joining with joined | impossible
      · exact of_mem_joinOthers deeds quiet _ _ entry joined
      · cases impossible
  · exact of_mem_settle logs _ _ entry present

end Telling

def occupy (crew : Crew) (watch : Watch) (now : Nat) : Option (Nat × Look × Crew × Watch) := do
  let index ← crew.line.firstWaiting?
  let (_, crew, watch) ← crew.receive watch now index
  let look ← crew.look watch index
  return (index, look, crew, watch)

/-- Threads take jobs until no job or no waiting thread is left; `fuel` is the number of jobs. -/
def occupyAll (crew : Crew) (watch : Watch) (now : Nat) :
    Nat → List (Nat × Look) × Crew × Watch
  | 0 => ([], crew, watch)
  | fuel + 1 =>
    match crew.occupy watch now with
    | none => ([], crew, watch)
    | some (index, look, crew, watch) =>
      let (others, crew, watch) := crew.occupyAll watch now fuel
      ((index, look) :: others, crew, watch)

end Crew

end Reactor
