import Reactor.Proofs.Engine.Dues

/-!
The threads of a runtime, under watch and counted. Over the start of a runtime and everything that is
done with it afterwards, the metrics hear of each thread that the bound factory makes, once and as
the factory described it, and each of them is registered with the watchdog once. The built-in counters
hold the number of what they heard of since they were last reset, as a 64-bit word.
-/

namespace Reactor

open Told

def MetricsHook.created? : MetricsHook → Option Descriptor
  | .threadCreated given => some given
  | _ => none

def MetricsHook.report? : MetricsHook → Option BlockedThread
  | .blockedThread report => some report
  | _ => none

def Entry.counted? {α : Type} (part : MetricsHook → Option α) : Entry → Option α
  | .call (.metrics .counters hook) => part hook
  | _ => none

def Entry.created? : Entry → Option Descriptor := Entry.counted? (·.created?)

def Entry.report? : Entry → Option BlockedThread := Entry.counted? (·.report?)

namespace Counters

def threads (counters : Counters) : Role → UInt64
  | .eventLoop => counters.eventLoopThreads
  | .worker => counters.workerThreads

def reports (counters : Counters) : Role → UInt64
  | .eventLoop => counters.blockedEventLoopReports
  | .worker => counters.blockedWorkerReports

theorem after_append (counters : Counters) (first second : List Entry) :
    counters.after (first ++ second) = (counters.after first).after second :=
  List.foldl_append

/-- A field that goes up by one at each hook that counts holds the number of them. -/
theorem count_after {α : Type} {part : MetricsHook → Option α} {counts : α → Bool}
    (field : Counters → UInt64)
    (step : ∀ counters hook,
      field (counters.absorb hook) = field counters + if (part hook).any counts then 1 else 0)
    (counters : Counters) (entries : List Entry) :
    field (counters.after entries)
      = field counters + UInt64.ofNat ((entries.filterMap (Entry.counted? part)).countP counts) := by
  have one (counters : Counters) (entry : Entry) : field (counters.after [entry])
      = field counters + if (entry.counted? part).any counts then 1 else 0 := by
    cases entry with
    | log _ _ | deed _ => exact (UInt64.add_zero _).symm
    | call request =>
        cases request with
        | metrics sink hook =>
            cases sink with
            | counters => exact step counters hook
            | named _ _ => exact (UInt64.add_zero _).symm
        | _ => exact (UInt64.add_zero _).symm
  -- Over the entries, at any value of the counters: the first entry changes what they start from.
  induction entries generalizing counters with
  | nil => exact (UInt64.add_zero _).symm
  | cons entry entries ih =>
      have split : counters.after (entry :: entries) = (counters.after [entry]).after entries := rfl
      rw [split, ih, one, UInt64.add_assoc]
      congr 1
      cases seen : entry.counted? part with
      | none => simp [seen]
      | some item =>
          rw [List.filterMap_cons_some seen, List.countP_cons, UInt64.ofNat_add, UInt64.add_comm]
          cases counted : counts item <;> simp [counted]

theorem threads_after (counters : Counters) (entries : List Entry) (role : Role) :
    (counters.after entries).threads role = counters.threads role
      + UInt64.ofNat ((entries.filterMap Entry.created?).countP (·.role = role)) := by
  apply count_after (·.threads role)
  intro counters hook
  cases hook with
  | threadCreated given =>
      cases same : given.role <;> cases role
        <;> simp [absorb, threads, MetricsHook.created?, same]
  | blockedThread report =>
      cases same : report.role <;> cases role
        <;> simp [absorb, threads, MetricsHook.created?, same]
  | runtimeStarted _ | close => cases role <;> simp [absorb, threads, MetricsHook.created?]

theorem reports_after (counters : Counters) (entries : List Entry) (role : Role) :
    (counters.after entries).reports role = counters.reports role
      + UInt64.ofNat ((entries.filterMap Entry.report?).countP (·.role = role)) := by
  apply count_after (·.reports role)
  intro counters hook
  cases hook with
  | threadCreated given =>
      cases same : given.role <;> cases role
        <;> simp [absorb, reports, MetricsHook.report?, same]
  | blockedThread report =>
      cases same : report.role <;> cases role
        <;> simp [absorb, reports, MetricsHook.report?, same]
  | runtimeStarted _ | close => cases role <;> simp [absorb, reports, MetricsHook.report?]

end Counters

/-! ### One move -/

def heardOf (metrics : Option MetricsSink) (threads : List RuntimeThread) : List Entry :=
  threads.flatMap fun thread => hooks metrics (.threadCreated thread.descriptor)

theorem Entry.seesEnd_request : Entry.SeesEnd Entry.request? :=
  ⟨⟨fun _ _ => rfl, fun _ => rfl, fun _ => rfl⟩, fun _ _ => rfl, fun _ => rfl⟩

theorem Entry.seesEnd_birth : Entry.SeesEnd Entry.birth? :=
  ⟨⟨fun _ _ => rfl, fun _ => rfl, fun _ => rfl⟩, fun _ _ => rfl, fun _ => rfl⟩

theorem Engine.unborn_closingCalls (engine : Engine) :
    engine.closingCalls.filterMap Entry.request? = []
      ∧ engine.closingCalls.filterMap Entry.birth? = [] := by
  unfold closingCalls hooks
  cases engine.tracer <;> cases engine.metrics <;> exact ⟨rfl, rfl⟩

namespace Course

def workshop (course : Course) : Workshop := course.life.engine.workshop

/-- The threads made at the requests of an operation are registered and heard of, each once and in
their order; nobody else is, and nobody is registered again. -/
structure Enrols (course : Course) (told : Told Course) : Prop where
  born : told.entries.filterMap Entry.birth?
    = course.workshop.births (told.entries.filterMap Entry.request?)
  roster : ∃ kept, kept.Sublist course.workshop.watch.roster
    ∧ told.value.workshop.watch.roster = kept ++ (course.workshop.factory.makings
      course.workshop.calls (told.entries.filterMap Entry.request?)).map (·.key)
  records : ∀ asked, course.workshop.Records asked →
    told.value.workshop.Records (asked ++ told.entries.filterMap Entry.request?)

variable {course : Course}

theorem Enrols.of_staffs {α : Type} {part : Told α} {rest : α → Course}
    (staffs : course.workshop.Staffs part (rest part.value).workshop) :
    course.Enrols (part >>= fun value => pure (rest value)) := by
  have silent : (part >>= fun value => pure (rest value)).entries = part.entries :=
    List.append_nil _
  constructor
  · rw [silent]
    exact staffs.born
  · rw [silent]
    exact ⟨_, List.Sublist.refl _, staffs.roster⟩
  · intro asked recorded
    rw [silent]
    exact staffs.records asked recorded

theorem move_unread {α : Type} {read : Entry → Option α} (sees : Entry.SeesEnd read)
    (unseen : course.life.engine.closingCalls.filterMap read = []) (orderly : course.Orderly)
    {move : Move} (calm : course.Calm move) : (course.move move).entries.filterMap read = [] := by
  have paid := (move_pays sees orderly calm).paid
  -- What such a move could say would be owed since before, and nothing of that kind is.
  rw [owed_eq orderly, unseen, ite_self] at paid
  exact (List.append_eq_nil_iff.mp paid).1

theorem Enrols.of_calm (orderly : course.Orderly) {move : Move} (calm : course.Calm move) :
    course.Enrols (course.move move) := by
  obtain ⟨unasked, unborn⟩ := course.life.engine.unborn_closingCalls
  have noRequest := move_unread Entry.seesEnd_request unasked orderly calm
  have noBirth := move_unread Entry.seesEnd_birth unborn orderly calm
  have remains := (move_pays Entry.seesEnd_request orderly calm).remains
  constructor
  · rw [noRequest, noBirth]
    rfl
  · rw [noRequest]
    exact ⟨_, remains.thins.roster, (List.append_nil _).symm⟩
  · intro asked recorded
    rw [noRequest, List.append_nil]
    exact recorded.thins remains.akin.factory remains.calls remains.thins

/-- The watch is never put in the place of another one. -/
def Fair (course : Course) : Move → Prop
  | .elsewhere watch => course.workshop.watch.Thins watch
  | _ => True

theorem move_enrols (orderly : course.Orderly) {move : Move} (fair : course.Fair move) :
    course.Enrols (course.move move) := by
  cases move with
  | thread asked => exact .of_staffs (course.workshop.newThread_enrols asked).staffs
  | pool name size => exact .of_staffs (course.life.engine.newExecutor_enrols name size).staffs
  | elsewhere watch => exact .of_calm orderly fair
  | _ =>
      apply Enrols.of_calm orderly
      trivial

/-- The reports that a move hands over. -/
def handedOver (course : Course) : Move → List BlockedThread
  | .pass now _ =>
      course.life.engine.audience.heard (course.workshop.watch.violations now)
  | .hear number _ =>
      match course.passes[number]? with
      | some (report :: _) => [report]
      | _ => []
  | _ => []

theorem report_occasions (metered : course.life.engine.metrics = some .counters) (move : Move) :
    (course.occasions move).filterMap Entry.report? = course.handedOver move := by
  have reported (report : BlockedThread) :
      (hooks course.life.engine.metrics (.blockedThread report)).filterMap Entry.report?
        = [report] := by
    rw [metered]
    rfl
  have unborn (asked : List Descriptor) :
      (course.workshop.births asked).filterMap Entry.report? = [] := by
    apply Workshop.unread_births
    intro sink given
    cases sink <;> rfl
  cases move with
  | thread asked => exact unborn _
  | pool name size => exact unborn _
  | pass now actor =>
      change (((course.life.engine.audience.heard _).flatMap _).filterMap _) = _
      rw [List.filterMap_flatMap]
      simp only [reported]
      exact List.flatMap_singleton' _
  | hear number actor =>
      unfold occasions handedOver
      dsimp only
      rcases course.passes[number]? with _ | _ | ⟨report, reports⟩
      · rfl
      · rfl
      · exact reported report
  | _ => rfl

theorem report_move (orderly : course.Orderly)
    (metered : course.life.engine.metrics = some .counters) (move : Move) :
    (course.move move).entries.filterMap Entry.report? = course.handedOver move := by
  have through : (fun entry : Entry => entry.occasion?.bind Entry.report?) = Entry.report? := by
    funext entry
    cases entry with
    | log _ _ | deed _ => rfl
    | call request =>
        cases request with
        | metrics sink hook => cases sink <;> cases hook <;> rfl
        | _ => rfl
  rw [← report_occasions metered, ← (move_goes orderly move).occasions, List.filterMap_filterMap,
    through]

end Course

/-! ### The books -/

/-- What is done with a runtime and its counters; whoever does it puts nobody under watch but through
the runtime. -/
inductive Affair where
  | own (move : Move) (within : ∀ watch, move ≠ .elsewhere watch)
  | begin (now key : Nat)
  | finish (key : Nat)
  | forget (key : Nat)
  | reset

def Affair.move? (watch : Watch) : Affair → Option Move
  | .own move _ => some move
  | .begin now key => some (.elsewhere (watch.begin now key))
  | .finish key => some (.elsewhere (watch.finish key))
  | .forget key => some (.elsewhere (watch.forget key))
  | .reset => none

structure Books where
  course : Course
  counters : Counters
  page : List Entry
  reports : List BlockedThread

namespace Books

def opened (told : List Entry) (engine : Engine) : Books :=
  ⟨.begin engine, Counters.zero.after told, told, []⟩

def attend (books : Books) (affair : Affair) : Told Books :=
  match affair.move? books.course.workshop.watch with
  | none => return { books with counters := .zero, page := [], reports := [] }
  | some move =>
      let told := books.course.move move
      { entries := told.entries
        value :=
          { course := told.value
            counters := books.counters.after told.entries
            page := books.page ++ told.entries
            reports := books.reports ++ books.course.handedOver move } }

def follow (books : Books) : List Affair → Told Books
  | [] => return books
  | affair :: affairs => do (← books.attend affair).follow affairs

structure Kept (bindings : Bindings) (asked : List Descriptor) (books : Books) : Prop where
  orderly : books.course.Orderly
  metrics : books.course.life.engine.metrics = bindings.metrics
  factory : books.course.workshop.factory = bindings.threadFactory
  listener : books.course.workshop.metrics = bindings.metrics
  records : books.course.workshop.Records asked
  counted : books.counters = Counters.zero.after books.page
  reported : bindings.metrics = some .counters → books.page.filterMap Entry.report? = books.reports

structure Keeps (bindings : Bindings) (asked : List Descriptor) (told : Told Books) : Prop where
  kept : told.value.Kept bindings (asked ++ told.entries.filterMap Entry.request?)
  born : told.entries.filterMap Entry.birth?
    = heardOf bindings.metrics (bindings.threadFactory.makings asked.length
      (told.entries.filterMap Entry.request?))

end Books

theorem Affair.fair {course : Course} {affair : Affair} {move : Move}
    (does : affair.move? course.workshop.watch = some move) : course.Fair move := by
  cases affair with
  | own given within =>
      cases does
      cases move with
      | elsewhere watch => exact absurd rfl (within watch)
      | _ => trivial
  | begin now key =>
      cases does
      exact Watch.thins_begin _ now key
  | finish key =>
      cases does
      exact Watch.thins_finish _ key
  | forget key =>
      cases does
      exact Watch.thins_forget _ key
  | reset => cases does

namespace Books

variable {bindings : Bindings} {asked : List Descriptor} {books : Books}

theorem attend_keeps (kept : books.Kept bindings asked) (affair : Affair) :
    Keeps bindings asked (books.attend affair) := by
  unfold attend
  split
  · constructor
    · rw [Told.entries_pure, List.filterMap_nil, List.append_nil]
      exact { kept with counted := rfl, reported := fun _ => rfl }
    · rfl
  · rename_i move does
    have enrols := Course.move_enrols kept.orderly (Affair.fair does)
    have goes := Course.move_goes kept.orderly move
    constructor
    · constructor
      · exact goes.orderly
      · exact goes.akin.metrics.trans kept.metrics
      · exact goes.akin.factory.trans kept.factory
      · exact goes.akin.listener.trans kept.listener
      · exact enrols.records asked kept.records
      · dsimp only
        rw [kept.counted, Counters.after_append]
      · intro bound
        dsimp only
        rw [List.filterMap_append, kept.reported bound,
          Course.report_move kept.orderly (kept.metrics.trans bound)]
    · rw [enrols.born, Workshop.births, kept.listener, kept.factory, kept.records.calls]
      rfl

theorem follow_keeps (kept : books.Kept bindings asked) (affairs : List Affair) :
    Keeps bindings asked (books.follow affairs) := by
  induction affairs generalizing books asked with
  | nil =>
      constructor
      · rw [follow, Told.entries_pure, List.filterMap_nil, List.append_nil]
        exact kept
      · rfl
  | cons affair affairs ih =>
      have first := attend_keeps kept affair
      have rest := ih first.kept
      constructor
      · rw [follow, Told.entries_bind, List.filterMap_append, ← List.append_assoc]
        exact rest.kept
      · rw [follow, Told.entries_bind, List.filterMap_append, List.filterMap_append, first.born,
          rest.born, ThreadFactory.makings_append, List.length_append]
        exact List.flatMap_append.symm

/-- Behind those who are still on the roster come the threads made meanwhile, and nobody else. -/
theorem attend_registers (kept : books.Kept bindings asked) (affair : Affair) :
    let told := books.attend affair
    ∃ earlier, earlier.Sublist books.course.workshop.watch.roster
      ∧ told.value.course.workshop.watch.roster = earlier
        ++ (bindings.threadFactory.makings asked.length
          (told.entries.filterMap Entry.request?)).map (·.key) := by
  intro told
  unfold told attend
  split
  · exact ⟨_, List.Sublist.refl _, (List.append_nil _).symm⟩
  · rename_i move does
    rw [← kept.factory, ← kept.records.calls]
    exact (Course.move_enrols kept.orderly (Affair.fair does)).roster

theorem page_attend (books : Books) (affair : Affair) :
    (books.attend affair).value.page <:+ books.page ++ (books.attend affair).entries := by
  unfold attend
  split
  · exact List.nil_suffix
  · exact List.suffix_refl _

theorem page_follow (books : Books) (affairs : List Affair) :
    (books.follow affairs).value.page <:+ books.page ++ (books.follow affairs).entries := by
  induction affairs generalizing books with
  | nil =>
      rw [follow, Told.entries_pure, List.append_nil]
      exact List.suffix_refl _
  | cons affair affairs ih =>
      obtain ⟨torn, first⟩ := page_attend books affair
      have rest := ih (books.attend affair).value
      rw [follow, Told.entries_bind, Told.value_bind, ← List.append_assoc, ← first,
        List.append_assoc]
      exact List.suffix_append_of_suffix rest

end Books

/-! ### Threads and reports accounted for -/

def Bindings.made (bindings : Bindings) (journal : List Entry) : List RuntimeThread :=
  bindings.threadFactory.makings 0 (journal.filterMap Entry.request?)

/-- The metrics heard of the threads made, each once and in their order, and nobody else is under
watch. -/
structure Accounted (bindings : Bindings) (journal : List Entry) (watch : Watch) : Prop where
  heard : journal.filterMap Entry.birth? = heardOf bindings.metrics (bindings.made journal)
  distinct : ((bindings.made journal).map (·.key)).Nodup
  covers : watch.Covers (bindings.made journal)
  watched : watch.watched = (bindings.made journal).countP fun thread => watch.isAlive thread.key

/-- The counters hold, as words, the number of threads of each role that they were told of, and that
of these reports. -/
structure Counters.Tallies (counters : Counters) (page : List Entry)
    (reports : List BlockedThread) : Prop where
  threads : ∀ role, counters.threads role
    = UInt64.ofNat ((page.filterMap Entry.created?).countP (·.role = role))
  reports : ∀ role, counters.reports role = UInt64.ofNat (reports.countP (·.role = role))

variable {bindings : Bindings} {journal : List Entry}

theorem Accounted.of_records {workshop : Workshop}
    (heard : journal.filterMap Entry.birth? = heardOf bindings.metrics (bindings.made journal))
    (factory : workshop.factory = bindings.threadFactory)
    (records : workshop.Records (journal.filterMap Entry.request?)) :
    Accounted bindings journal workshop.watch := by
  have covers : workshop.watch.Covers (bindings.made journal) := by
    unfold Bindings.made
    rw [← factory]
    exact records.covers
  constructor
  · exact heard
  · exact (bindings.threadFactory.keys_makings 0 _).nodup List.nodup_range'
  · exact covers
  · unfold Watch.watched
    rw [covers.counted, ← List.countP_eq_length_filter, List.countP_map]
    rfl

theorem Counters.tallies_after {page : List Entry} {reports : List BlockedThread}
    (reported : page.filterMap Entry.report? = reports) :
    (zero.after page).Tallies page reports := by
  constructor
  · intro role
    rw [threads_after]
    cases role <;> exact UInt64.zero_add _
  · intro role
    rw [reports_after, reported]
    cases role <;> exact UInt64.zero_add _

namespace Engine

theorem reports_start (host : Host) (files : FileTree) (options : Options) (bindings : Bindings)
    (cluster : Option ClusterBinding) (handler : Option BlockedHandler) (took : Span) :
    (start host files options bindings cluster handler took).entries.filterMap Entry.report?
      = [] := by
  apply List.filterMap_eq_nil_iff.mpr
  have unreported : ∀ entry : Entry, entry.IsRoutine → entry.report? = none := by
    intro entry routine
    rcases routine with making | stopping
    · exact making.unread (fun _ _ => rfl) (fun _ _ => rfl) fun sink _ => by cases sink <;> rfl
    · cases stopping <;> rfl
  exact start_only unreported (fun _ => rfl) (fun _ _ => rfl) (fun sink => by cases sink <;> rfl)
    host files options bindings cluster handler

end Engine

namespace Books

theorem kept_opened {host : Host} {files : FileTree} {options : Options} {bindings : Bindings}
    {cluster : Option ClusterBinding} {handler : Option BlockedHandler} {took : Span}
    {engine : Engine}
    (started : (Engine.start host files options bindings cluster handler took).value = .ok engine) :
    let told := (Engine.start host files options bindings cluster handler took).entries
    (opened told engine).Kept bindings (told.filterMap Entry.request?) := by
  intro told
  have staffs := Engine.start_staffs host files options bindings cluster handler took
  dsimp only at staffs
  rw [started] at staffs
  obtain ⟨_, _, _, _, same, _⟩ := Engine.made_of_start started
  constructor
  · exact Course.orderly_begin engine
  · rw [same]
    rfl
  · exact staffs.factory
  · exact staffs.metrics
  · exact staffs.records [] (Workshop.records_create _ _)
  · rfl
  · intro _
    exact Engine.reports_start host files options bindings cluster handler took

/-- Over the start of a runtime, also a start that fails, and all that is done with it later, the
metrics hear of each thread that the bound factory makes, once, in their order and as the factory
described it. Each of them is registered once, when it is made, and nobody else is ever under watch.
The built-in counters hold, as words, the threads and the reports of each role that they were told
of since they were last reset. -/
theorem threads_watched_and_counted (host : Host) (files : FileTree) (options : Options)
    (bindings : Bindings) (cluster : Option ClusterBinding) (handler : Option BlockedHandler)
    (took : Span) :
    let begun := Engine.start host files options bindings cluster handler took
    let left := (Engine.workshopLeft begun.value).watch
    (Accounted bindings begun.entries left
        ∧ left.roster = (bindings.made begun.entries).map (·.key)
        ∧ (Counters.zero.after begun.entries).Tallies begun.entries [])
      ∧ ∀ engine, begun.value = .ok engine → ∀ affairs,
        let told := (opened begun.entries engine).follow affairs
        let books := told.value
        let watch := books.course.workshop.watch
        let journal := begun.entries ++ told.entries
        Accounted bindings journal watch
          ∧ (∀ affair,
            let next := books.attend affair
            ∃ earlier latest, earlier.Sublist watch.roster
              ∧ next.value.course.workshop.watch.roster = earlier ++ latest.map (·.key)
              ∧ bindings.made (journal ++ next.entries) = bindings.made journal ++ latest)
          ∧ (bindings.metrics = some .counters →
            books.page <:+ journal ∧ books.counters.Tallies books.page books.reports)
          ∧ ∀ now actor,
            (watch.violations now).findSome? books.course.life.engine.audience.objection? = none →
            books.course.handedOver (.pass now actor) = watch.violations now := by
  intro begun left
  have staffs := Engine.start_staffs host files options bindings cluster handler took
  have first : Accounted bindings begun.entries left := by
    apply Accounted.of_records staffs.born staffs.factory
    exact staffs.records [] (Workshop.records_create _ _)
  have tallies : (Counters.zero.after begun.entries).Tallies begun.entries [] :=
    Counters.tallies_after (Engine.reports_start host files options bindings cluster handler took)
  constructor
  · exact ⟨first, staffs.roster, tallies⟩
  · intro engine started affairs told books watch journal
    have opening := kept_opened started
    obtain ⟨kept, born⟩ := follow_keeps opening affairs
    have requests : journal.filterMap Entry.request?
        = begun.entries.filterMap Entry.request? ++ told.entries.filterMap Entry.request? :=
      List.filterMap_append
    -- The factory counts its calls on, so the threads made later are numbered from the start.
    have heard : journal.filterMap Entry.birth?
        = heardOf bindings.metrics (bindings.made journal) := by
      unfold Bindings.made
      rw [requests, ThreadFactory.makings_append, Nat.zero_add, List.filterMap_append, first.heard,
        born]
      exact List.flatMap_append.symm
    rw [← requests] at kept
    constructor
    · exact .of_records heard kept.factory kept.records
    · refine ⟨?_, ?_, ?_⟩
      · intro affair next
        obtain ⟨earlier, still, roster⟩ := attend_registers kept affair
        refine ⟨earlier, _, still, roster, ?_⟩
        unfold Bindings.made
        rw [List.filterMap_append, ThreadFactory.makings_append, Nat.zero_add]
      · intro counting
        constructor
        · exact page_follow _ affairs
        · rw [kept.counted]
          exact Counters.tallies_after (kept.reported counting)
      · intro now actor content
        exact Audience.heard_eq_self content

/-- A factory that fails at the fifth request, and puts down every other thread as a worker. -/
def fickle : ThreadFactory where
  name := some "fickle"
  answer calls asked :=
    if calls = 4 then .error "no fifth thread"
    else .ok (if calls % 2 = 1 then ⟨asked.name, .worker, none⟩ else asked, .runs)

def watchful : Descriptor := ⟨"watchful", .eventLoop, some (.ofSeconds 2)⟩

/-- A thread that cannot be made, a reset, two that can, and three seconds in a unit on the second. -/
def fickleAffairs : List Affair :=
  [.own (.thread watchful) fun _ => nofun, .reset, .own (.thread watchful) fun _ => nofun,
    .own (.thread watchful) fun _ => nofun, .begin 0 6,
    .own (.pass 3000000000 .watchdog) fun _ => nofun, .own .drop fun _ => nofun]

theorem threads_watched_and_counted_fickle :
    let begun := Engine.start default default Engine.small
      { Life.brittle with threadFactory := fickle } none none default
    ∃ engine, begun.value = .ok engine ∧
      let told := (opened begun.entries engine).follow fickleAffairs
      let books := told.value
      (begun.entries ++ told.entries).filterMap Entry.birth?
          = [⟨"strand-event-loop-0", .eventLoop, some (.ofSeconds 2)⟩,
            ⟨"strand-event-loop-1", .worker, none⟩,
            ⟨"strand-worker-0", .worker, some (.ofSeconds 60)⟩,
            ⟨"strand-worker-1", .worker, none⟩, ⟨"watchful", .worker, none⟩, watchful].map
              (fun given => .call (.metrics .counters (.threadCreated given)))
        ∧ books.course.workshop.watch.watched = 2
        ∧ (books.counters.threads .worker = 1 ∧ books.counters.threads .eventLoop = 1)
        ∧ (books.counters.reports .worker = 0 ∧ books.counters.reports .eventLoop = 1) := by
  intro begun
  obtain ⟨engine, started⟩ : ∃ engine, begun.value = .ok engine := ⟨_, rfl⟩
  obtain ⟨_, later⟩ := threads_watched_and_counted default default Engine.small
    { Life.brittle with threadFactory := fickle } none none default
  obtain ⟨accounted, _, counted, _⟩ := later engine started fickleAffairs
  obtain ⟨_, tallies⟩ := counted rfl
  cases started
  exact ⟨_, rfl, accounted.heard.trans rfl, accounted.watched.trans rfl,
    ⟨(tallies.threads .worker).trans rfl, (tallies.threads .eventLoop).trans rfl⟩,
    (tallies.reports .worker).trans rfl, (tallies.reports .eventLoop).trans rfl⟩

end Books

end Reactor
