import Reactor.Proofs.Engine.Dues
import Reactor.Proofs.Engine.Joining

/-!
Who is told that a runtime is over. A runtime that was started tells its resolver, its tracer and
its metrics, each once, whoever ends it, also when its joining fails or is given up. A start that
fails ends what it began and tells none of them.
-/

namespace Reactor

open Told

def Entry.notice? (entry : Entry) : Option Entry :=
  match entry with
  | .call (.closeResolver _) | .call (.closeTracer _) | .call (.metrics _ .close) => some entry
  | _ => none

theorem Entry.seesEnd_notice : Entry.SeesEnd Entry.notice? :=
  ⟨⟨fun _ _ => rfl, fun _ => rfl, fun _ => rfl⟩, fun _ _ => rfl, fun _ => rfl⟩

theorem Entry.IsRoutine.unnoticed (entry : Entry) (routine : entry.IsRoutine) :
    entry.notice? = none := by
  rcases routine with making | stopping
  · exact making.unread (fun _ _ => rfl) (fun _ _ => rfl) fun _ _ => rfl
  · exact Entry.seesEnd_notice.stopping entry stopping

theorem Entry.IsAsking.unnoticed {entry : Entry} (asking : entry.IsAsking) :
    entry.notice? = none := by
  cases entry with
  | log _ _ => rfl
  | deed _ => cases asking
  | call request =>
      cases request with
      | probe _ | activate _ _ => rfl
      | _ => cases asking

/-- What the parts of a runtime are to be told, each once. -/
def Bindings.notices (bindings : Bindings) : List Entry :=
  .call (.closeResolver bindings.fileResolver)
    :: (bindings.tracer.toList.map (fun tracer => .call (.closeTracer tracer))
      ++ hooks bindings.metrics .close)

theorem Bindings.notice_notices (bindings : Bindings) :
    bindings.notices.filterMap Entry.notice? = bindings.notices := by
  unfold notices hooks
  cases bindings.tracer <;> cases bindings.metrics <;> rfl

namespace Engine

section Start

variable (host : Host) (files : FileTree) (options : Options) (bindings : Bindings)
  (cluster : Option ClusterBinding) (handler : Option BlockedHandler) (took : Span)

/-- Whether it succeeds or fails, a start tells none of the parts that anything is over. -/
theorem start_unnoticed :
    (start host files options bindings cluster handler took).entries.filterMap Entry.notice?
      = [] := by
  apply List.filterMap_eq_nil_iff.mpr
  exact start_only Entry.IsRoutine.unnoticed (fun _ => rfl) (fun _ _ => rfl) (fun _ => rfl) host files
    options bindings cluster handler

end Start

variable {host : Host} {files : FileTree} {options : Options} {bindings : Bindings}
  {cluster : Option ClusterBinding} {handler : Option BlockedHandler} {took : Span} {engine : Engine}

theorem notices_of_start
    (started : (start host files options bindings cluster handler took).value = .ok engine) :
    engine.Sound ∧ engine.closed = false ∧ engine.closingCalls = bindings.notices := by
  obtain ⟨shape, loops, workers, _, rfl, _⟩ := made_of_start started
  exact ⟨sound_unused .., rfl, rfl⟩

/-! ### Ends -/

theorem closed_close (engine : Engine) : engine.close.value.closed = true :=
  (closeBy_pays Entry.seesParts_hook engine .caller).2

theorem closed_drop (engine : Engine) : engine.drop.value.closed = true := by
  have shut := engine.closed_close
  unfold drop
  simp only [Told.value_bind]
  split <;> exact shut

theorem notice_due (engine : Engine) :
    engine.due.filterMap Entry.notice? = engine.owed Entry.notice? := by
  have farewell (threads : List RuntimeThread) :
      (farewells threads).filterMap Entry.notice? = [] := by
    apply List.filterMap_eq_nil_iff.mpr
    intro entry present
    obtain ⟨thread, _, rfl⟩ := List.mem_map.mp present
    rfl
  have releases : engine.holdings.releases.filterMap Entry.notice?
      = engine.closingCalls.filterMap Entry.notice? := by
    have loops : engine.holdings.loops.flatMap
        (fun loop => (farewells loop.2).filterMap Entry.notice?) = [] :=
      List.flatMap_eq_nil_iff.mpr fun loop _ => farewell loop.2
    unfold Holdings.releases
    rw [List.filterMap_append, List.filterMap_append, List.filterMap_flatMap, loops, farewell]
    rfl
  unfold due owed
  rw [← releases]
  split <;> rfl

end Engine

namespace Course

open Engine

variable {engine : Engine}

theorem notices_follow {bindings : Bindings} (opened : engine.closed = false)
    (parts : engine.closingCalls = bindings.notices) (moves : List Move) :
    let told := (begin engine).follow moves
    told.entries.filterMap Entry.notice? = if told.value.ended then bindings.notices else [] := by
  intro told
  have orderly := (follow_goes (orderly_begin engine) moves).orderly
  have settles := follow_settles Entry.seesEnd_notice Entry.IsRoutine.unnoticed
    (orderly_begin engine) moves
  have owing : (begin engine).owed Entry.notice? = bindings.notices := by
    rw [owed_eq (orderly_begin engine)]
    unfold ended
    change (if engine.closed && true then _ else engine.closingCalls.filterMap _) = _
    rw [opened, parts]
    exact bindings.notice_notices
  have paid := settles.paid
  have kept : told.value.life.engine.closingCalls = bindings.notices := settles.parts.trans parts
  rw [owing, owed_eq orderly, kept, bindings.notice_notices] at paid
  cases ended : told.value.ended with
  | true =>
      rw [ended] at paid
      exact (List.append_nil _).symm.trans paid
  | false =>
      rw [ended] at paid
      exact List.append_left_eq_self.mp paid

/-- Unless somebody else is still at it, whoever closes the runtime or lets go of it has ended it. -/
theorem ended_of_closing {course : Course} (alone : course.closing = none) :
    (course.move (.use .close)).value.ended = true ∧ (course.move .drop).value.ended = true := by
  constructor
  · change (course.life.engine.close.value.closed && course.closing.isNone) = true
    rw [closed_close, alone]
    rfl
  · change (course.life.engine.drop.value.closed && course.closing.isNone) = true
    rw [closed_drop, alone]
    rfl

end Course

namespace Joining

open Engine

theorem notices_drive {engine : Engine} {bindings : Bindings} (sound : engine.Sound)
    (opened : engine.closed = false) (parts : engine.closingCalls = bindings.notices)
    (manager : ClusterManager) (polls : Nat) :
    (drive ⟨engine, manager, .fresh⟩ polls).entries.filterMap Entry.notice?
      = if Succeeds manager polls then [] else bindings.notices := by
  have asked : (if polls = 0 then [] else [.call (.joinCluster manager)]).filterMap Entry.notice?
      = [] := by
    split <;> rfl
  have due : engine.due.filterMap Entry.notice? = bindings.notices := by
    rw [notice_due, owed_open opened, parts, bindings.notice_notices]
  rw [((drive_yields sound manager polls).seenBy fun _ _ => rfl).2, List.filterMap_append, asked,
    List.nil_append]
  split
  · rfl
  · exact due

end Joining

namespace Assembly

open Engine

/-- A build that gets past the resolution tells no part that the runtime is over, and if the start
fails nobody ever is: what was started is stopped, and the parts stay as they are. A runtime that
was started tells its resolver, its tracer and its metrics once each over its whole course, when the
first closing of it has come to them, and so it does when its joining fails or is given up. -/
theorem parts_told_once {assembly prepared : Assembly} {clustered : Bool} {host : Host}
    {registry after : Registry} {bindings : Bindings} {cluster : Option ClusterBinding}
    (prepares : (assembly.prepare host registry).value = (.ok bindings, prepared, after))
    (joins : clusterOf bindings clustered = some cluster) (files : FileTree) (took : Span) :
    let building := assembly.launch clustered host files registry took
    let starting := start host files prepared.options bindings cluster prepared.blockedHandler took
    building.entries.filterMap Entry.notice? = []
      ∧ building.value.1 = starting.value.mapError (·.halt)
      ∧ ∀ engine, building.value.1 = .ok engine →
        (∀ moves,
          let told := (Course.begin engine).follow moves
          told.entries.filterMap Entry.notice?
              = (if told.value.ended then bindings.notices else [])
            ∧ (told.value.closing = none →
              (told.value.move (.use .close)).value.ended = true
                ∧ (told.value.move .drop).value.ended = true))
          ∧ ∀ manager polls, bindings.clusterManager = some manager →
            (Joining.drive ⟨engine, manager, .fresh⟩ polls).entries.filterMap Entry.notice?
              = if Joining.Succeeds manager polls then [] else bindings.notices := by
  intro building starting
  have yields := assembly.launch_yields clustered host files registry took prepares joins
  have answers : building.value.1 = starting.value.mapError (·.halt) :=
    congrArg Prod.fst yields.1
  have asking : (assembly.prepare host registry).entries.filterMap Entry.notice? = [] :=
    List.filterMap_eq_nil_iff.mpr fun entry present =>
      (assembly.prepare_asking host registry entry present).unnoticed
  constructor
  · rw [(yields.seenBy fun _ _ => rfl).2, List.filterMap_append, filterMap_doing fun _ _ => rfl,
      filterMap_doing fun _ _ => rfl, asking]
    exact start_unnoticed host files prepared.options bindings cluster prepared.blockedHandler took
  · constructor
    · exact answers
    · intro engine built
      have started : starting.value = .ok engine := by
        rw [built] at answers
        cases outcome : starting.value with
        | error aborted =>
            rw [outcome] at answers
            cases answers
        | ok given =>
            rw [outcome] at answers
            cases answers
            rfl
      obtain ⟨sound, opened, parts⟩ := notices_of_start started
      constructor
      · intro moves
        exact ⟨Course.notices_follow opened parts moves, Course.ended_of_closing⟩
      · intro manager polls _
        exact Joining.notices_drive sound opened parts manager polls

/-- An assembly with every part that hears of the end, on that factory. -/
def attended (factory : ThreadFactory) : Assembly :=
  [.metrics .counters, .tracer ⟨"spans"⟩, .fileResolver (.named "files" true none),
      .clusterManager Life.hesitant, .threadFactory factory].foldl set
    { create default with options := small }

def attendedNotices : List Entry :=
  [.call (.closeResolver (.named "files" true none)), .call (.closeTracer ⟨"spans"⟩),
    .call (.metrics .counters .close)]

def attendedMoves : List Move := [.beginClose (.thread 0), .use .close, .endClose, .drop]

theorem parts_told_once_attended :
    ∃ engine,
      ((attended .standard).launch true default default .empty default).value.1 = .ok engine
        ∧ ((Course.begin engine).follow attendedMoves).entries.filterMap Entry.notice?
          = attendedNotices
        ∧ (Joining.drive ⟨engine, Life.hesitant, .fresh⟩ 0).entries.filterMap Entry.notice?
          = attendedNotices := by
  obtain ⟨bindings, prepared, cluster, engine, prepares, joins, manager, parts, built, ended⟩ :
      ∃ bindings prepared cluster engine,
        ((attended .standard).prepare default .empty).value = (.ok bindings, prepared, .empty)
          ∧ clusterOf bindings true = some cluster
          ∧ bindings.clusterManager = some Life.hesitant
          ∧ bindings.notices = attendedNotices
          ∧ ((attended .standard).launch true default default .empty default).value.1 = .ok engine
          ∧ ((Course.begin engine).follow attendedMoves).value.ended = true :=
    ⟨_, _, _, _, rfl, rfl, rfl, rfl, rfl, rfl⟩
  obtain ⟨_, _, told⟩ := parts_told_once prepares joins default default
  obtain ⟨course, joining⟩ := told engine built
  have closed := (course attendedMoves).1
  rw [ended, if_pos rfl, parts] at closed
  have abandoned := joining Life.hesitant 0 manager
  rw [if_neg fun succeeds => Nat.not_lt_zero _ succeeds.1, parts] at abandoned
  exact ⟨engine, built, closed, abandoned⟩

def barren : ThreadFactory where
  name := some "barren"
  answer _ _ := .error "no thread for call 0"

/-- The very first thread cannot be made: the build fails, and none of the parts is told. -/
theorem failed_start_tells_nobody :
    ∃ bindings prepared,
      let building := (attended barren).launch false default default .empty default
      ((attended barren).prepare default .empty).value = (.ok bindings, prepared, .empty)
        ∧ bindings.notices = attendedNotices
        ∧ building.value.1
          = .error (.failed (.threadSpawn "strand-event-loop-0" "no thread for call 0"))
        ∧ building.entries.filterMap Entry.notice? = [] :=
  ⟨_, _, rfl, rfl, rfl, rfl⟩

end Assembly

end Reactor
