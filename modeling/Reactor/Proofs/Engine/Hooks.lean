import Reactor.Proofs.Engine.Ending
import Reactor.Proofs.Engine.Passes
import Reactor.Proofs.Engine.Release

/-!
The hooks of the metrics over the whole course of a runtime. Besides its use from outside, threads
and pools are made through it, passes of the watchdog hand over their reports, at one go or with
other things in between, and a closing may take its time. The metrics hear of the start first and
of the end at most once. Threads that are made and reports that are handed over they hear of
whenever that happens, also once they have heard of the end.
-/

namespace Reactor

open Told

structure Course where
  life : Life
  -- Who is closing the runtime, from when it is seen to be closed until all parts were told.
  closing : Option Actor
  passes : List (List BlockedThread)

inductive Move where
  | use (use : Use)
  | beginClose (actor : Actor)
  | endClose
  | drop
  | thread (asked : Descriptor)
  | pool (name : String) (size : Nat)
  | pass (now : Nat) (actor : Actor)
  -- A pass begins: its reports are drawn up, and handed over one after the other.
  | look (now : Nat)
  | hear (number : Nat) (actor : Actor)
  | elsewhere (watch : Watch)

namespace Course

def begin (engine : Engine) : Course := ⟨Life.begin engine, none, []⟩

def withEngine (course : Course) (engine : Engine) : Course :=
  { course with life := { course.life with engine } }

def move (course : Course) : Move → Told Course
  | .use use => do return { course with life := ← course.life.use use }
  | .beginClose actor =>
      if course.life.engine.closed then
        return course
      else
        return { course.withEngine { course.life.engine with closed := true } with
          closing := some actor }
  | .endClose =>
      match course.closing with
      | none => return course
      | some actor => do
          -- Past its first test a closing does not look at the flag, which is set by now.
          let (_, engine) ← { course.life.engine with closed := false }.closeBy actor
          return { course.withEngine engine with closing := none }
  | .drop => do return course.withEngine (← course.life.engine.drop)
  | .thread asked => do
      let (_, workshop) ← course.life.engine.workshop.newThread asked
      return course.withEngine { course.life.engine with workshop }
  | .pool name size => do
      let (_, engine) ← course.life.engine.newExecutor name size
      return course.withEngine engine
  | .pass now actor => do
      let (_, _, engine) ← course.life.engine.pass now actor
      return course.withEngine engine
  | .look now =>
      let engine := course.life.engine
      let watch := engine.workshop.watch.prune
      return { course.withEngine { engine with workshop := { engine.workshop with watch } } with
        passes := course.passes ++ [watch.violations now] }
  | .hear number actor =>
      match course.passes[number]? with
      | some (report :: reports) => do
          let engine := course.life.engine
          let (panic, engine) ← engine.audience.hear
            (fun engine => Prod.snd <$> engine.closeBy actor) actor engine report
          let left := if panic.isSome then [] else reports
          return { course.withEngine engine with passes := course.passes.set number left }
      | _ => return course
  | .elsewhere watch =>
      let engine := course.life.engine
      return course.withEngine { engine with workshop := { engine.workshop with watch } }

def follow (course : Course) : List Move → Told Course
  | [] => return course
  | move :: moves => do (← course.move move).follow moves

def occasions (course : Course) : Move → List Entry
  | .thread asked => course.life.engine.workshop.births [asked]
  | .pool name size =>
      course.life.engine.workshop.births
        ((course.life.engine.newExecutor name size).entries.filterMap Entry.request?)
  | .pass now _ =>
      let engine := course.life.engine
      (engine.audience.heard (engine.workshop.watch.violations now)).flatMap fun report =>
        hooks engine.metrics (.blockedThread report)
  | .hear number _ =>
      match course.passes[number]? with
      | some (report :: _) => hooks course.life.engine.metrics (.blockedThread report)
      | _ => []
  | _ => []

def occasionsAlong (course : Course) : List Move → List Entry
  | [] => []
  | move :: moves => course.occasions move ++ (course.move move).value.occasionsAlong moves

/-! ### One move -/

/-- Whoever is closing the runtime has made it seen to be closed. -/
def Orderly (course : Course) : Prop :=
  course.closing.isSome = true → course.life.engine.closed = true

/-- What the metrics are still to hear of the end, from whoever is closing the runtime already or
from who will. -/
def ending (course : Course) : List Entry :=
  course.life.engine.ending
    ++ if course.closing.isSome then hooks course.life.engine.metrics .close else []

/-- What a move, or a run of them, does with the runtime and tells its metrics. -/
structure Goes (course : Course) (told : Told Course) (occasions : List Entry) : Prop where
  akin : course.life.engine.Akin told.value.life.engine
  stays : course.life.engine.closed = true → told.value.life.engine.closed = true
  orderly : told.value.Orderly
  milestones : told.entries.filterMap Entry.milestone? ++ told.value.ending = course.ending
  occasions : told.entries.filterMap Entry.occasion? = occasions

variable {course : Course}

theorem Goes.of_ends (orderly : course.Orderly) {told : Told Course} {occasions : List Entry}
    (ends : course.life.engine.Ends told.value.life.engine
      (told.entries.filterMap Entry.milestone?))
    (occasional : told.entries.filterMap Entry.occasion? = occasions)
    (same : told.value.closing = course.closing) : course.Goes told occasions where
  akin := ends.akin
  stays := ends.stays
  orderly closes := ends.stays (orderly (same ▸ closes))
  milestones := by
    unfold ending
    rw [same, ends.akin.metrics, ← List.append_assoc, ends.told]
  occasions := occasional

theorem Goes.of_part (orderly : course.Orderly) {α : Type} {part : Told α} {rest : α → Course}
    {occasions : List Entry}
    (ends : course.life.engine.Ends (rest part.value).life.engine
      (part.entries.filterMap Entry.milestone?))
    (occasional : part.entries.filterMap Entry.occasion? = occasions)
    (same : (rest part.value).closing = course.closing) :
    course.Goes (part >>= fun value => pure (rest value)) occasions := by
  have silent : (part >>= fun value => pure (rest value)).entries = part.entries :=
    List.append_nil _
  refine .of_ends orderly ?_ ?_ same
  · rw [silent]
    exact ends
  · rw [silent]
    exact occasional

theorem Goes.quiet (orderly : course.Orderly) {next : Course}
    (akin : course.life.engine.Akin next.life.engine)
    (closed : next.life.engine.closed = course.life.engine.closed)
    (same : next.closing = course.closing) : course.Goes (pure next) [] :=
  .of_ends orderly (.of_same akin closed) rfl same

theorem beginClose_goes (orderly : course.Orderly) (actor : Actor) :
    course.Goes (course.move (.beginClose actor)) [] := by
  unfold move
  dsimp only
  cases closed : course.life.engine.closed with
  | true => exact .quiet orderly (.refl _) rfl rfl
  | false =>
      have nobody : course.closing.isSome = false := by
        cases closing : course.closing.isSome with
        | false => rfl
        | true => exact (orderly closing).symm.trans closed
      refine ⟨⟨rfl, rfl, rfl⟩, fun _ => rfl, fun _ => rfl, ?_, rfl⟩
      unfold ending
      rw [Engine.ending_open closed, nobody]
      exact (List.append_nil _).symm

theorem endClose_goes (orderly : course.Orderly) : course.Goes (course.move .endClose) [] := by
  unfold move
  dsimp only
  cases closing : course.closing with
  | none => exact .quiet orderly (.refl _) rfl rfl
  | some actor =>
      let engine := { course.life.engine with closed := false }
      obtain ⟨ends, closed⟩ := engine.closeBy_ends actor
      obtain ⟨tells, unheard⟩ := ends.parts
      have shut : course.life.engine.closed = true := orderly (by rw [closing]; rfl)
      refine ⟨⟨ends.akin.metrics, ends.akin.factory, ends.akin.listener⟩, fun _ => closed,
        fun impossible => ?_, ?_, ?_⟩
      · cases impossible
      · change ((engine.closeBy actor).entries ++ []).filterMap Entry.milestone?
            ++ ((engine.closeBy actor).value.2.ending ++ []) = course.ending
        rw [List.append_nil, List.append_nil, tells.told, ending, Engine.ending_closed shut, closing]
        rfl
      · change ((engine.closeBy actor).entries ++ []).filterMap Entry.occasion? = []
        rw [List.append_nil]
        exact unheard

theorem milestone_announcement (audience : Audience) (actor : Actor) (report : BlockedThread) :
    (audience.announcement actor report).filterMap Entry.milestone? = [] := by
  obtain ⟨warningTime, metrics, handler⟩ := audience
  cases metrics <;> cases handler <;> rfl

theorem occasion_announcement (audience : Audience) (actor : Actor) (report : BlockedThread) :
    (audience.announcement actor report).filterMap Entry.occasion?
      = hooks audience.metrics (.blockedThread report) := by
  obtain ⟨warningTime, metrics, handler⟩ := audience
  cases metrics <;> cases handler <;> rfl

theorem closeFrom_parts (actor : Actor) (engine : Engine) :
    let told := Prod.snd <$> engine.closeBy actor
    engine.Ends told.value (told.entries.filterMap Entry.milestone?)
      ∧ told.entries.filterMap Entry.occasion? = [] := by
  intro told
  rw [Told.entries_map]
  exact (engine.closeBy_ends actor).1.parts

theorem pass_goes (orderly : course.Orderly) (now : Nat) (actor : Actor) :
    course.Goes (course.move (.pass now actor)) (course.occasions (.pass now actor)) := by
  let engine := course.life.engine
  let watch := engine.workshop.watch.prune
  let seen : Engine := { engine with workshop := { engine.workshop with watch } }
  let handing := engine.audience.hearAll (fun engine => Prod.snd <$> engine.closeBy actor) actor
    seen (watch.violations now)
  have told : (engine.pass now actor).entries = handing.entries := List.append_nil _
  have pruned : engine.Ends seen [] := .of_same ⟨rfl, rfl, rfl⟩ rfl
  have ends : seen.Ends handing.value.2 (handing.entries.filterMap Entry.milestone?) :=
    Audience.hearAll_relates Engine.Ends.refl Engine.Ends.trans
      (fun state => (closeFrom_parts actor state).1)
      (milestone_announcement engine.audience actor) seen _
  change course.Goes
    (engine.pass now actor >>= fun passed => pure (course.withEngine passed.2.2)) _
  refine .of_part orderly ?_ ?_ rfl
  · rw [told]
    exact pruned.trans ends
  · rw [told, Audience.read_hearAll fun state => (closeFrom_parts actor state).2,
      List.filterMap_flatMap]
    change _ = (engine.audience.heard (engine.workshop.watch.violations now)).flatMap _
    rw [← engine.workshop.watch.violations_prune now]
    exact congrArg (fun told => List.flatMap told _)
      (funext (occasion_announcement engine.audience actor))

theorem look_goes (orderly : course.Orderly) (now : Nat) :
    course.Goes (course.move (.look now)) [] :=
  .quiet orderly ⟨rfl, rfl, rfl⟩ rfl rfl

theorem hear_goes (orderly : course.Orderly) (number : Nat) (actor : Actor) :
    course.Goes (course.move (.hear number actor)) (course.occasions (.hear number actor)) := by
  unfold move occasions
  dsimp only
  split
  · rename_i report reports _
    let engine := course.life.engine
    refine .of_part orderly ?_ ?_ rfl
    · exact Audience.hear_relates Engine.Ends.refl (fun state => (closeFrom_parts actor state).1)
        (milestone_announcement engine.audience actor) engine report
    · rw [Audience.read_hear fun state => (closeFrom_parts actor state).2]
      exact occasion_announcement engine.audience actor report
  · exact .quiet orderly (.refl _) rfl rfl

theorem thread_goes (orderly : course.Orderly) (asked : Descriptor) :
    course.Goes (course.move (.thread asked)) (course.occasions (.thread asked)) := by
  have accounts := course.life.engine.workshop.newThread_accounts asked
  obtain ⟨silent, heard⟩ := accounts.parts
  rw [Workshop.request_newThread] at heard
  change course.Goes
    (course.life.engine.workshop.newThread asked >>= fun made =>
      pure (course.withEngine { course.life.engine with workshop := made.2 })) _
  refine .of_part orderly ?_ heard rfl
  rw [silent]
  exact .of_same ⟨rfl, accounts.factory, accounts.metrics⟩ rfl

theorem pool_goes (orderly : course.Orderly) (name : String) (size : Nat) :
    course.Goes (course.move (.pool name size)) (course.occasions (.pool name size)) := by
  obtain ⟨accounts, closed, metrics⟩ := course.life.engine.newExecutor_accounts name size
  obtain ⟨silent, heard⟩ := accounts.parts
  change course.Goes
    (course.life.engine.newExecutor name size >>= fun made => pure (course.withEngine made.2)) _
  refine .of_part orderly ?_ heard rfl
  rw [silent]
  exact .of_same ⟨metrics, accounts.factory, accounts.metrics⟩ closed

/-- A move tells the metrics what they are to hear of threads and reports, and of the end nothing
or all that they were still to hear. -/
theorem move_goes (orderly : course.Orderly) (move : Move) :
    course.Goes (course.move move) (course.occasions move) := by
  cases move with
  | use use =>
      obtain ⟨ends, unheard⟩ := (course.life.use_ends use).parts
      exact .of_part orderly ends unheard rfl
  | drop =>
      obtain ⟨ends, unheard⟩ := course.life.engine.drop_ends.parts
      exact .of_part orderly ends unheard rfl
  | beginClose actor => exact beginClose_goes orderly actor
  | endClose => exact endClose_goes orderly
  | thread asked => exact thread_goes orderly asked
  | pool name size => exact pool_goes orderly name size
  | pass now actor => exact pass_goes orderly now actor
  | look now => exact look_goes orderly now
  | hear number actor => exact hear_goes orderly number actor
  | elsewhere watch => exact .quiet orderly ⟨rfl, rfl, rfl⟩ rfl rfl

/-! ### Whole courses -/

theorem follow_goes (orderly : course.Orderly) (moves : List Move) :
    course.Goes (course.follow moves) (course.occasionsAlong moves) := by
  induction moves generalizing course with
  | nil => exact .quiet orderly (.refl _) rfl rfl
  | cons move moves ih =>
      have first := move_goes orderly move
      have rest := ih first.orderly
      refine ⟨first.akin.trans rest.akin, rest.stays ∘ first.stays, rest.orderly, ?_, ?_⟩
      · rw [follow, Told.entries_bind, Told.value_bind, List.filterMap_append, List.append_assoc,
          rest.milestones, first.milestones]
      · rw [follow, Told.entries_bind, List.filterMap_append, first.occasions, rest.occasions]
        rfl

/-! ### The end -/

/-- The runtime is closed, and nobody is still at it. -/
def ended (course : Course) : Bool := course.life.engine.closed && course.closing.isNone

theorem ending_eq (orderly : course.Orderly) :
    course.ending = if course.ended then [] else hooks course.life.engine.metrics .close := by
  unfold ending ended Engine.ending
  cases closing : course.closing with
  | none => cases course.life.engine.closed <;> exact List.append_nil _
  | some actor =>
      rw [orderly (by rw [closing]; rfl)]
      rfl

theorem orderly_begin (engine : Engine) : (begin engine).Orderly := by
  intro impossible
  cases impossible

theorem hook_eq_occasion {entries : List Entry}
    (quiet : entries.filterMap Entry.milestone? = []) :
    entries.filterMap Entry.hook? = entries.filterMap Entry.occasion? := by
  refine List.filterMap_congr fun entry present => ?_
  have passed := List.filterMap_eq_nil_iff.mp quiet entry present
  cases entry with
  | log _ _ | deed _ => rfl
  | call request =>
      cases request with
      | metrics sink hook =>
          cases hook with
          | threadCreated _ | blockedThread _ => rfl
          | runtimeStarted _ | close => cases passed
      | _ => rfl

/-- Once a runtime has ended, its metrics hear of threads and reports only. -/
theorem hooks_ended (orderly : course.Orderly) (ended : course.ended = true) (moves : List Move) :
    (course.follow moves).entries.filterMap Entry.hook? = course.occasionsAlong moves := by
  have goes := follow_goes orderly moves
  have nothing := goes.milestones
  rw [ending_eq orderly, if_pos ended] at nothing
  rw [hook_eq_occasion (List.append_eq_nil_iff.mp nothing).1, goes.occasions]

theorem milestones_start {options : Options} {bindings : Bindings} {cluster : Option ClusterBinding}
    {took : Span} {shape : PoolShape} {loops workers : List RuntimeThread} {told : List Entry}
    (begun : told.filterMap Entry.doing?
      = Engine.toldAtSuccess options bindings cluster took shape loops workers) :
    told.filterMap Entry.milestone? = hooks bindings.metrics (.runtimeStarted took) := by
  have created : (Engine.crewsCreated options bindings.executorFactory
      (Workshop.create bindings.threadFactory bindings.metrics) shape loops workers).filterMap
        Entry.milestone? = [] :=
    List.filterMap_eq_nil_iff.mpr fun entry present =>
      Entry.IsMaking.unread (Engine.crewsCreated_making _ _ _ _ _ _ entry present)
        (fun _ _ => rfl) (fun _ _ => rfl) fun _ _ => rfl
  have met : (Engine.introductions cluster).filterMap Entry.milestone? = [] := by
    cases cluster <;> rfl
  rw [← filterMap_doing fun _ _ => rfl, begun, Engine.toldAtSuccess, List.filterMap_cons,
    List.filterMap_append, List.filterMap_append, created, met]
  cases bindings.metrics <;> rfl

theorem nothing_after {metrics : Option MetricsSink} {took : Span} {ended : Bool} {sink : MetricsSink}
    {before after : List Entry}
    (same : before ++ .call (.metrics sink .close) :: after
      = hooks metrics (.runtimeStarted took) ++ if ended then hooks metrics .close else []) :
    after = [] := by
  cases metrics with
  | none => cases ended <;> cases before <;> cases same
  | some bound =>
      cases before with
      | nil => cases same
      | cons first before =>
          have rest := (List.cons.inj same).2
          cases ended with
          | false => cases before <;> cases rest
          | true =>
              cases before with
              | nil => exact (List.cons.inj rest).2
              | cons second before => cases before <;> cases (List.cons.inj rest).2

/-- Over the whole course of a runtime its metrics hear of the start first and of the end at most
once, when the runtime is closed and all parts were told, and of neither afterwards. Of threads made
through the runtime, with the bound factory, and of reports handed over they hear as these come, and
once the runtime has ended of nothing else. -/
theorem end_heard_once {host : Host} {files : FileTree} {options : Options} {bindings : Bindings}
    {cluster : Option ClusterBinding} {handler : Option BlockedHandler} {took : Span}
    {engine : Engine}
    (started : (Engine.start host files options bindings cluster handler took).value = .ok engine)
    (moves : List Move) :
    let begun := Engine.start host files options bindings cluster handler took
    let told := (begin engine).follow moves
    let course := told.value
    (begun.entries ++ told.entries).filterMap Entry.milestone?
        = hooks bindings.metrics (.runtimeStarted took)
          ++ (if course.ended then hooks bindings.metrics .close else [])
      ∧ (∀ before sink after,
          begun.entries ++ told.entries = before ++ .call (.metrics sink .close) :: after →
          after.filterMap Entry.milestone? = [])
      ∧ told.entries.filterMap Entry.occasion? = (begin engine).occasionsAlong moves
      ∧ (course.life.engine.metrics = bindings.metrics
        ∧ course.life.engine.workshop.metrics = bindings.metrics
        ∧ course.life.engine.workshop.factory = bindings.threadFactory)
      ∧ (course.ended = true → ∀ later,
          (course.follow later).entries.filterMap Entry.hook? = course.occasionsAlong later) := by
  intro begun told course
  obtain ⟨shape, loops, workers, _, same, yields⟩ := Engine.made_of_start started
  have unused : (begin engine).ending = hooks bindings.metrics .close := by
    rw [same]
    exact List.append_nil _
  have bound : engine.metrics = bindings.metrics ∧ engine.workshop.metrics = bindings.metrics
      ∧ engine.workshop.factory = bindings.threadFactory := by
    rw [same]
    exact ⟨rfl, rfl, rfl⟩
  have goes := follow_goes (orderly_begin engine) moves
  have metrics : course.life.engine.metrics = bindings.metrics := goes.akin.metrics.trans bound.1
  have tells : told.entries.filterMap Entry.milestone?
      = if course.ended then hooks bindings.metrics .close else [] := by
    have whole := goes.milestones
    rw [unused, ending_eq goes.orderly, metrics] at whole
    change (_ ++ if course.ended then [] else hooks bindings.metrics .close) = _ at whole
    cases ended : course.ended with
    | true =>
        rw [ended] at whole
        exact (List.append_nil _).symm.trans whole
    | false =>
        rw [ended] at whole
        exact List.append_left_eq_self.mp whole
  have all : (begun.entries ++ told.entries).filterMap Entry.milestone?
      = hooks bindings.metrics (.runtimeStarted took)
        ++ (if course.ended then hooks bindings.metrics .close else []) := by
    rw [List.filterMap_append, milestones_start yields.2, tells]
  refine ⟨all, fun before sink after split => ?_, goes.occasions, ?_, ?_⟩
  · rw [split, List.filterMap_append] at all
    exact nothing_after all
  · exact ⟨metrics, goes.akin.listener.trans bound.2.1, goes.akin.factory.trans bound.2.2⟩
  · exact fun ended later => hooks_ended goes.orderly ended later

def late : Descriptor := ⟨"late", .worker, none⟩

def later : Descriptor := ⟨"later", .worker, none⟩

def troubledMoves : List Move :=
  [.thread late, .use (.submit .rotation true), .beginClose (.thread 0), .use .close, .thread later,
    .endClose, .use .shutdown, .use (.poll 0), .pool "spare" 1, .drop]

theorem end_heard_once_troubled :
    let begun := Engine.start default default Engine.small Life.brittle
      (some ⟨Life.hesitant, .roundRobin, .fresh⟩) none default
    let told := (begin Life.troubled).follow troubledMoves
    (begun.entries ++ told.entries).filterMap Entry.milestone?
        = [.call (.metrics .counters (.runtimeStarted default)), .call (.metrics .counters .close)]
      ∧ told.entries.filterMap Entry.occasion?
        = [late, later, ⟨"spare-0", .worker, some (.ofSeconds 60)⟩].map fun given =>
          .call (.metrics .counters (.threadCreated given)) := by
  intro begun told
  obtain ⟨milestones, _, occasions, _⟩ := end_heard_once Life.started_troubled troubledMoves
  exact ⟨milestones, occasions⟩

/-- The same runtime outside any cluster, with a handler that closes it. -/
def alarmed : Engine := { Life.troubled with cluster := none, handler := some fun _ => .closes }

def alarm : List Move :=
  [.use (.submit .rotation false), .use (.submit .rotation false), .use (.receive (.loop 0) 0),
    .use (.receive (.loop 1) 0), .pass 3000000000 .watchdog]

/-- A thread that is made after the end is heard of, and so is the rest of the pass in which the
handler closed the runtime. -/
theorem hooks_after_end :
    let heard (course : Told Course) := course.entries.filterMap Entry.hook?
    let report (name : String) : BlockedThread := ⟨name, .eventLoop, .ofSeconds 2, .ofSeconds 3⟩
    (Engine.start default default Engine.small Life.brittle
        (some ⟨Life.hesitant, .roundRobin, .fresh⟩) none default).value = .ok Life.troubled
      ∧ heard ((begin Life.troubled).follow [.use .close, .thread late])
        = [.call (.metrics .counters .close), .call (.metrics .counters (.threadCreated late))]
      ∧ (Engine.start default default Engine.small Life.brittle none (some fun _ => .closes)
        default).value = .ok alarmed
      ∧ heard ((begin alarmed).follow alarm)
        = [.call (.metrics .counters (.blockedThread (report "strand-event-loop-0"))),
          .call (.metrics .counters .close),
          .call (.metrics .counters (.blockedThread (report "strand-event-loop-1")))] :=
  ⟨rfl, rfl, rfl, rfl⟩

end Course

end Reactor
