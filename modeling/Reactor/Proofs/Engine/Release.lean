import Reactor.Proofs.Engine.Life

/-!
What a runtime releases. Whatever is done with it from outside, over its whole life everything that
it holds is released once and in order: its loops, its workers, its watchdog, and then the parts
bound to it. That happens when it is first closed; afterwards it refuses every job.
-/

namespace Reactor

open Told

/-- What lets go of a part of a runtime: waiting for a thread or leaving it, stopping the watchdog,
and closing the resolver, the tracer or the metrics. -/
def Entry.release? (entry : Entry) : Option Entry :=
  match entry with
  | .log _ _ | .deed .watchdogStarted => none
  | .deed _ | .call (.closeResolver _) | .call (.closeTracer _) | .call (.metrics _ .close) =>
      some entry
  | .call _ => none

theorem Entry.unreleased_log (actor : Actor) (event : LogEvent) :
    (Entry.log actor event).release? = none := rfl

theorem Entry.IsMaking.unreleased {entry : Entry} (making : entry.IsMaking) :
    entry.release? = none :=
  making.unread (fun _ _ => rfl) (fun _ _ => rfl) fun _ _ => rfl

theorem Holdings.released_of_mem {holdings : Holdings} {entry : Entry}
    (present : entry ∈ holdings.releases) : entry.release? = some entry := by
  have farewell {threads : List RuntimeThread} (left : entry ∈ farewells threads) :
      entry.release? = some entry := by
    obtain ⟨thread, _, rfl⟩ := List.mem_map.mp left
    rfl
  rcases List.mem_append.mp present with threads | parts
  · rcases List.mem_append.mp threads with loop | worker
    · obtain ⟨_, _, left⟩ := List.mem_flatMap.mp loop
      exact farewell left
    · exact farewell worker
  · rcases List.mem_cons.mp parts with rfl | parts
    · rfl
    · rcases List.mem_cons.mp parts with rfl | parts
      · rfl
      · rcases List.mem_append.mp parts with traced | measured
        · obtain ⟨_, _, rfl⟩ := List.mem_map.mp traced
          rfl
        · obtain ⟨_, _, rfl⟩ := List.mem_map.mp measured
          rfl

/-- A reading of other things than releases sees nothing of what a close does. -/
theorem Engine.due_unseen {α : Type} {read : Entry → Option α}
    (blind : ∀ entry : Entry, entry.release? = some entry → read entry = none) (engine : Engine) :
    engine.due.filterMap read = [] := by
  unfold Engine.due
  split
  · rfl
  · exact List.filterMap_eq_nil_iff.mpr fun entry present =>
      blind entry (Holdings.released_of_mem present)

theorem Engine.due_release (engine : Engine) :
    engine.due.filterMap Entry.release? = engine.due := by
  unfold Engine.due
  split
  · rfl
  · refine (List.filterMap_congr fun entry present => ?_).trans List.filterMap_some
    exact Holdings.released_of_mem present

namespace Life

variable {life : Life} {holdings : Holdings}

theorem leaveCalls_release (life : Life) (use : Use) :
    (life.leaveCalls use).filterMap Entry.release? = [] := by
  cases use with
  | poll number =>
      change ((life.shutdowns[number]?.join).elim [] life.engine.leaveCalls).filterMap _ = []
      cases life.shutdowns[number]?.join with
      | none => rfl
      | some departure =>
          cases departure with
          | leaving manager polls => rfl
          | fresh =>
              change (life.engine.departs?.toList.map _).filterMap _ = []
              cases life.engine.departs? <;> rfl
  | _ => rfl

/-- What is released on the way from one moment to a later one. -/
def released (life next : Life) : List Entry := if next.engine.closed then life.engine.due else []

theorem use_releases (tidy : life.Tidy holdings) (use : Use) :
    (life.use use).entries.filterMap Entry.release? = life.released (life.use use).value := by
  obtain ⟨next, seen, yields, _, ends⟩ := use_yields tidy use
  have releases := yields.seenBy Entry.unreleased_log
  rw [List.filterMap_append, leaveCalls_release, List.nil_append] at releases
  rw [releases.1]
  refine releases.2.trans ?_
  unfold released
  rcases ends with ⟨shut, rfl⟩ | ⟨stays, rfl⟩
  · rw [shut, Engine.due_release]
    rfl
  · cases closed : next.engine.closed with
    | false => rfl
    | true =>
        rw [Engine.due_closed (stays.symm.trans closed)]
        rfl

theorem released_append {life between last : Life} (first : life.Tidy holdings)
    (second : between.Tidy holdings)
    (stays : life.engine.closed = true → between.engine.closed = true)
    (remains : between.engine.closed = true → last.engine.closed = true) :
    life.released between ++ between.released last = life.released last := by
  unfold released
  cases shut : between.engine.closed with
  | true =>
      rw [remains shut, Engine.due_closed shut]
      exact List.append_nil _
  | false =>
      have opened : life.engine.closed = false := by
        cases closed : life.engine.closed with
        | false => rfl
        | true => exact (stays closed).symm.trans shut
      have same : between.engine.due = life.engine.due := by
        rw [Engine.due_open shut, Engine.due_open opened, first.holdings, second.holdings]
      rw [same]
      rfl

theorem follow_releases (tidy : life.Tidy holdings) (uses : List Use) :
    (life.follow uses).entries.filterMap Entry.release? = life.released (life.follow uses).value := by
  -- What is due stays the same until the one use that closes does all of it.
  induction uses generalizing life with
  | nil =>
      change [] = if life.engine.closed then life.engine.due else []
      cases closed : life.engine.closed with
      | false => rfl
      | true => exact (Engine.due_closed closed).symm
  | cons use uses ih =>
      have between := tidy_use tidy use
      rw [follow, Told.entries_bind, List.filterMap_append, use_releases tidy use, ih between]
      exact released_append tidy between (closed_use tidy use) (closed_follow between uses)

end Life

/-! ### From the start to the end -/

namespace Engine

theorem threads_itemsFrom (index : Nat) (threads : List RuntimeThread) :
    (itemsFrom freshLoop index threads).flatMap (·.crew.threads) = threads := by
  induction threads generalizing index with
  | nil => rfl
  | cons thread rest ih =>
      rw [itemsFrom, List.flatMap_cons, ih]
      rfl

section Start

variable (host : Host) (files : FileTree) (options : Options) (bindings : Bindings)
  (cluster : Option ClusterBinding) (handler : Option BlockedHandler)
  (shape : PoolShape) (loops workers : List RuntimeThread)

def releasesOf (bindings : Bindings) (loops workers : List RuntimeThread) : List Entry :=
  farewells loops ++ farewells workers
    ++ .deed .watchdogStopped :: .call (.closeResolver bindings.fileResolver)
      :: (bindings.tracer.toList.map (fun tracer => .call (.closeTracer tracer))
        ++ hooks bindings.metrics .close)

theorem releases_unused :
    (unused host files options bindings cluster handler shape loops workers).holdings.releases
      = releasesOf bindings loops workers := by
  have threads : (itemsFrom freshLoop 0 loops).flatMap (fun loop => farewells loop.crew.threads)
      = farewells loops :=
    List.map_flatMap.symm.trans (congrArg farewells (threads_itemsFrom 0 loops))
  unfold Holdings.releases releasesOf holdings unused
  dsimp only
  rw [List.flatMap_map, threads]
  rfl

end Start

theorem releases_start {options : Options} {bindings : Bindings} {cluster : Option ClusterBinding}
    {took : Span} {shape : PoolShape} {loops workers : List RuntimeThread} {told : List Entry}
    (begun : told.filterMap Entry.doing?
      = toldAtSuccess options bindings cluster took shape loops workers) :
    told.filterMap Entry.release? = [] := by
  rw [← filterMap_doing Entry.unreleased_log, begun, List.filterMap_eq_nil_iff]
  intro entry present
  rcases List.mem_cons.mp present with rfl | later
  · rfl
  · rcases List.mem_append.mp later with created | told
    · exact (crewsCreated_making _ _ _ _ _ _ entry created).unreleased
    · rcases List.mem_append.mp told with met | heard
      · obtain ⟨binding, _, rfl⟩ := List.mem_map.mp met
        rfl
      · obtain ⟨sink, _, rfl⟩ := List.mem_map.mp heard
        rfl

end Engine

namespace Life

open Engine

/-- Over its whole life, from its start until it is let go of, a runtime waits for the threads of
its loops and of its workers in their order, each once, stops the watchdog, and closes the resolver,
the tracer and the metrics, whatever was done with it before and whatever they answer. All of that
happens when it is first closed; from then on it refuses every job, and no job that was refused
comes into any line. -/
theorem released_once {host : Host} {files : FileTree} {options : Options} {bindings : Bindings}
    {cluster : Option ClusterBinding} {handler : Option BlockedHandler} {took : Span}
    {engine : Engine}
    (started : (start host files options bindings cluster handler took).value = .ok engine)
    (uses : List Use) :
    let begun := start host files options bindings cluster handler took
    let told := (begin engine).follow uses
    let life := told.value
    let loops := engine.loops.flatMap (·.crew.threads)
    let workers := engine.workers.crew.threads
    (loops ++ workers).map (·.key) = List.range' 0 (loops.length + workers.length)
      ∧ (begun.entries ++ told.entries ++ life.engine.drop.entries).filterMap Entry.release?
        = releasesOf bindings loops workers
      ∧ told.entries.filterMap Entry.release?
        = (if life.engine.closed then releasesOf bindings loops workers else [])
      ∧ (.close ∈ uses → life.engine.closed = true)
      ∧ (life.engine.closed = true →
        (∀ later, (life.follow later).value.engine.closed = true)
          ∧ ∀ job entrance, life.engine.offer job entrance
            = (life.engine.refusal? entrance).map fun fault => (.error (.failed fault), life.engine))
      ∧ ∀ job ∈ life.refused, job ∉ life.engine.jobs := by
  intro begun told life
  obtain ⟨shape, loops, workers, made, rfl, yields⟩ := made_of_start started
  have tidy := tidy_begin host files options bindings cluster handler shape loops workers
  have later := tidy_follow tidy uses
  have released := follow_releases tidy uses
  have all := releases_unused host files options bindings cluster handler shape loops workers
  have due : (begin (unused host files options bindings cluster handler shape loops workers)).engine.due
      = releasesOf bindings loops workers := (due_open rfl).trans all
  unfold Life.released at released
  rw [due] at released
  intro loops' workers'
  have same : loops' = loops := threads_itemsFrom 0 loops
  rw [same]
  refine ⟨made.keys, ?_, released, closed_of_close tidy, fun closed => ⟨?_, ?_⟩, later.apart⟩
  · obtain ⟨gone, drops⟩ := drop_yields later.sound
    rw [List.filterMap_append, List.filterMap_append, releases_start yields.2,
      released, (drops.seenBy Entry.unreleased_log).2, due_release]
    cases closed : life.engine.closed with
    | true =>
        rw [due_closed closed]
        exact List.append_nil _
    | false =>
        rw [due_open closed, later.holdings]
        exact all
  · exact fun uses => closed_follow later uses closed
  · exact offer_closed later.sound closed

def touchy : ThreadFactory where
  name := some "touchy"
  answer calls asked := .ok (asked, if calls = 1 then .panicsAtExit else .runs)

def brittle : Bindings :=
  ⟨.portable, some .counters, some ⟨"spans"⟩, none, none, .named "files" true (some "disk gone"), touchy, .standard⟩

def hesitant : ClusterManager :=
  { name := "hive", nodes := ["n1"], joinPolls := 0, joinFailure := none, leavePolls := 1,
    leaveFailure := some "net split" }

def troubled : Engine :=
  unused default default small brittle (some ⟨hesitant, .roundRobin, .fresh⟩) none
    (workersShape small)
    [⟨0, loopWanted small.maxEventLoopExecuteTime 0, .runs⟩,
      ⟨1, loopWanted small.maxEventLoopExecuteTime 1, .panicsAtExit⟩]
    [⟨2, Pool.wanted (workersShape small) 0, .runs⟩, ⟨3, Pool.wanted (workersShape small) 1, .runs⟩]

def troubledUses : List Use :=
  [.submit .rotation false, .shutdown, .poll 0, .close, .submit .blocking false, .poll 0, .submit (.loop 1) true]

theorem started_troubled : (start default default small brittle (some ⟨hesitant, .roundRobin, .fresh⟩) none
    default).value = .ok troubled := by rfl

theorem released_once_troubled :
    let told := (begin troubled).follow troubledUses
    told.entries.filterMap Entry.release?
      = [.deed (.joined 0), .deed (.joined 1), .deed (.joined 2), .deed (.joined 3),
        .deed .watchdogStopped, .call (.closeResolver brittle.fileResolver),
        .call (.closeTracer ⟨"spans"⟩), .call (.metrics .counters .close)]
      ∧ told.value.refused = [⟨1, false⟩, ⟨2, true⟩] := by
  intro told
  obtain ⟨_, _, released, closes, _, _⟩ := released_once started_troubled troubledUses
  have closed := closes (by decide)
  rw [if_pos closed] at released
  exact ⟨released, rfl⟩

end Life

end Reactor
