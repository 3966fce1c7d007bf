import Reactor.Proofs.Journal
import Reactor.Workshop

/-!
Threads made one after the other, and threads waited for. A workshop that has made threads
watches exactly those, and forgets each one that it has waited for.
-/

namespace Reactor

open Told

def ThreadFactory.make? (factory : ThreadFactory) (calls : Nat) (asked : Descriptor) :
    Option RuntimeThread :=
  match factory.answer calls asked with
  | .error _ => none
  | .ok (given, conduct) =>
      if given.name.toList.contains '\x00' then none else some ⟨calls, given, conduct⟩

/-- The factory makes these threads at requests in a row, after so many earlier ones. -/
def ThreadFactory.Makes (factory : ThreadFactory) :
    Nat → List Descriptor → List RuntimeThread → Prop
  | _, [], [] => True
  | calls, asked :: others, thread :: threads =>
      factory.make? calls asked = some thread ∧ factory.Makes (calls + 1) others threads
  | _, _, _ => False

theorem ThreadFactory.key_of_make? {factory : ThreadFactory} {calls : Nat} {asked : Descriptor}
    {thread : RuntimeThread} (made : factory.make? calls asked = some thread) :
    thread.key = calls := by
  unfold make? at made
  split at made
  · cases made
  · split at made
    · cases made
    · rw [← Option.some.inj made]

theorem ThreadFactory.Makes.keys {factory : ThreadFactory} {calls : Nat}
    {asked : List Descriptor} {threads : List RuntimeThread}
    (makes : factory.Makes calls asked threads) :
    threads.map (·.key) = List.range' calls asked.length := by
  induction asked generalizing calls threads with
  | nil =>
      cases threads with
      | nil => rfl
      | cons _ _ => exact makes.elim
  | cons first rest ih =>
      cases threads with
      | nil => exact makes.elim
      | cons thread others =>
          rw [List.map_cons, key_of_make? makes.1, ih makes.2]
          rfl

theorem ThreadFactory.Makes.length {factory : ThreadFactory} {calls : Nat}
    {asked : List Descriptor} {threads : List RuntimeThread}
    (makes : factory.Makes calls asked threads) : threads.length = asked.length := by
  have keys := congrArg List.length makes.keys
  rw [List.length_map, List.length_range'] at keys
  exact keys

def RuntimeThread.Serves (thread : RuntimeThread) : Prop :=
  thread.conduct = .runs ∨ thread.conduct = .panicsAtExit

theorem RuntimeThread.Serves.runsTask {thread : RuntimeThread} (serves : thread.Serves) :
    thread.runsTask = true := by
  unfold RuntimeThread.runsTask
  rcases serves with runs | panics
  · rw [runs]
    rfl
  · rw [panics]
    rfl

def ThreadFactory.RunsTasks (factory : ThreadFactory) : Prop :=
  ∀ calls asked thread, factory.make? calls asked = some thread → thread.Serves

theorem ThreadFactory.runsTasks_standard : standard.RunsTasks := by
  intro calls asked thread made
  simp only [make?, standard] at made
  split at made
  · cases made
  · cases made
    exact Or.inl rfl

theorem ThreadFactory.Makes.serve {factory : ThreadFactory} {calls : Nat}
    {asked : List Descriptor} {threads : List RuntimeThread}
    (makes : factory.Makes calls asked threads) (faithful : factory.RunsTasks) :
    ∀ thread ∈ threads, thread.Serves := by
  induction asked generalizing calls threads with
  | nil =>
      cases threads with
      | nil => exact nofun
      | cons _ _ => exact makes.elim
  | cons first rest ih =>
      cases threads with
      | nil => exact makes.elim
      | cons thread others =>
          intro other present
          rcases List.mem_cons.mp present with rfl | later
          · exact faithful calls first other makes.1
          · exact ih makes.2 other later

def hooks (metrics : Option MetricsSink) (hook : MetricsHook) : List Entry :=
  metrics.toList.map fun sink => .call (.metrics sink hook)

/-- The requests for threads, each with what the metrics hear of the thread that was made. -/
def creations (factory : ThreadFactory) (metrics : Option MetricsSink) (asked : List Descriptor)
    (threads : List RuntimeThread) : List Entry :=
  (asked.zip threads).flatMap fun (descriptor, thread) =>
    .call (.newThread factory descriptor) :: hooks metrics (.threadCreated thread.descriptor)

theorem creations_cons (factory : ThreadFactory) (metrics : Option MetricsSink)
    (first : Descriptor) (asked : List Descriptor) (thread : RuntimeThread)
    (threads : List RuntimeThread) :
    creations factory metrics (first :: asked) (thread :: threads)
      = creations factory metrics [first] [thread] ++ creations factory metrics asked threads := by
  simp [creations]

def farewells (threads : List RuntimeThread) : List Entry :=
  threads.map fun thread => .deed (.joined thread.key)

/-! ### The watch over threads -/

namespace Watch

def enlist (watch : Watch) (thread : RuntimeThread) : Watch :=
  (watch.adopt thread.key (.idle thread.descriptor)).register thread.key

def enlistAll (watch : Watch) (threads : List RuntimeThread) : Watch :=
  threads.foldl enlist watch

def forgetAll (watch : Watch) (threads : List RuntimeThread) : Watch :=
  threads.foldl (fun watch thread => watch.forget thread.key) watch

theorem enlistAll_append (watch : Watch) (first second : List RuntimeThread) :
    watch.enlistAll (first ++ second) = (watch.enlistAll first).enlistAll second :=
  List.foldl_append

theorem forgetAll_append (watch : Watch) (first second : List RuntimeThread) :
    watch.forgetAll (first ++ second) = (watch.forgetAll first).forgetAll second :=
  List.foldl_append

theorem monitor?_enlistAll (watch : Watch) (threads : List RuntimeThread) {key : Nat}
    (foreign : key ∉ threads.map (·.key)) :
    (watch.enlistAll threads).monitor? key = watch.monitor? key := by
  induction threads generalizing watch with
  | nil => rfl
  | cons thread rest ih =>
      rw [List.map_cons, List.mem_cons, not_or] at foreign
      refine (ih (watch.enlist thread) foreign.2).trans ?_
      exact (watch.monitor?_adopt _ _ _).trans (if_neg foreign.1)

theorem enlistAll_eq (watch : Watch) (threads : List RuntimeThread) :
    watch.enlistAll threads
      = ⟨(threads.map fun thread => (thread.key, Monitor.idle thread.descriptor)).reverse
          ++ watch.monitors, watch.roster ++ threads.map (·.key)⟩ := by
  induction threads generalizing watch with
  | nil => simp [enlistAll]
  | cons thread rest ih =>
      refine (ih (watch.enlist thread)).trans ?_
      simp [enlist, adopt, register]

theorem monitor?_forgetAll (watch : Watch) (threads : List RuntimeThread) (key : Nat) :
    (watch.forgetAll threads).monitor? key
      = if key ∈ threads.map (·.key) then none else watch.monitor? key := by
  have same : watch.forgetAll threads = (threads.map (·.key)).foldl forget watch :=
    List.foldl_map.symm
  rw [same, monitor?_foldl_forget]

/-- Nothing is left under watch once the threads enlisted have been forgotten. -/
theorem monitor?_forgetAll_enlistAll {threads forgotten : List RuntimeThread}
    (all : ∀ thread ∈ threads, thread ∈ forgotten) (key : Nat) :
    ((empty.enlistAll threads).forgetAll forgotten).monitor? key = none := by
  rw [monitor?_forgetAll]
  by_cases known : key ∈ forgotten.map (·.key)
  · exact if_pos known
  · rw [if_neg known, monitor?_enlistAll]
    · rfl
    · intro present
      obtain ⟨thread, member, same⟩ := List.mem_map.mp present
      exact known (List.mem_map.mpr ⟨thread, all thread member, same⟩)

def covering (threads : List RuntimeThread) : Watch where
  monitors := (threads.map fun thread => (thread.key, Monitor.idle thread.descriptor)).reverse
  roster := threads.map (·.key)

theorem enlistAll_eq_covering (threads : List RuntimeThread) : empty.enlistAll threads = covering threads := by
  rw [enlistAll_eq]
  simp [covering, empty]

theorem isAlive_covering {threads : List RuntimeThread} {key : Nat}
    (present : key ∈ threads.map (·.key)) : (covering threads).isAlive key = true := by
  obtain ⟨thread, member, same⟩ := List.mem_map.mp present
  have listed : (thread.key, Monitor.idle thread.descriptor) ∈ (covering threads).monitors :=
    List.mem_reverse.mpr (List.mem_map_of_mem member)
  unfold isAlive monitor?
  rw [List.lookup_isSome_iff]
  exact ⟨_, listed, by simp [same]⟩

/-- Each of the threads is watched, once for each time it occurs. -/
theorem watched_covering (threads : List RuntimeThread) : (covering threads).watched = threads.length := by
  have all : (covering threads).roster.filter (covering threads).isAlive = (covering threads).roster :=
    List.filter_eq_self.mpr fun key => isAlive_covering
  unfold watched
  rw [all]
  exact List.length_map _

theorem watched_eq_zero {watch : Watch} (none : ∀ key, watch.monitor? key = none) :
    watch.watched = 0 := by
  unfold watched
  rw [List.length_eq_zero_iff, List.filter_eq_nil_iff]
  intro key _
  unfold isAlive
  rw [none key]
  exact Bool.false_ne_true

end Watch

/-! ### Making threads and waiting for them -/

theorem tellMetrics_yields (metrics : Option MetricsSink) (hook : MetricsHook) :
    (Workshop.tellMetrics metrics hook).Yields Entry.doing? () (hooks metrics hook) := by
  cases metrics with
  | none => exact yields_pure ()
  | some sink => exact yields_tell _

namespace Workshop

def enlistAll (workshop : Workshop) (threads : List RuntimeThread) : Workshop :=
  { workshop with
    calls := workshop.calls + threads.length
    watch := workshop.watch.enlistAll threads }

def forgetAll (workshop : Workshop) (threads : List RuntimeThread) : Workshop :=
  { workshop with watch := workshop.watch.forgetAll threads }

theorem enlistAll_cons (workshop : Workshop) (thread : RuntimeThread)
    (threads : List RuntimeThread) :
    workshop.enlistAll (thread :: threads) = (workshop.enlistAll [thread]).enlistAll threads := by
  unfold enlistAll
  rw [List.length_cons, Nat.add_comm threads.length 1, ← Nat.add_assoc]
  rfl

theorem newThread_made (workshop : Workshop) {asked : Descriptor} {thread : RuntimeThread}
    (made : workshop.factory.make? workshop.calls asked = some thread) :
    (workshop.newThread asked).Yields Entry.doing? (.ok thread, workshop.enlistAll [thread])
      (creations workshop.factory workshop.metrics [asked] [thread]) := by
  unfold ThreadFactory.make? at made
  unfold newThread
  have told : creations workshop.factory workshop.metrics [asked] [thread]
      = [.call (.newThread workshop.factory asked)]
        ++ hooks workshop.metrics (.threadCreated thread.descriptor) := by
    simp [creations]
  rw [told]
  refine (yields_tell _).bind ?_
  cases answer : workshop.factory.answer workshop.calls asked with
  | error reason =>
      rw [answer] at made
      cases made
  | ok reply =>
      obtain ⟨given, conduct⟩ := reply
      rw [answer] at made
      by_cases broken : given.name.toList.contains '\x00' = true
      · cases (if_pos broken).symm.trans made
      · cases (if_neg broken).symm.trans made
        refine yields_ite_neg broken ?_
        refine (yields_tell _).andThen ?_
        exact (tellMetrics_yields _ _).andLast (yields_pure _)

theorem newThread_failed (workshop : Workshop) {asked : Descriptor} {reason : String}
    (failed : workshop.factory.answer workshop.calls asked = .error reason) :
    (workshop.newThread asked).Yields Entry.doing?
      (.error (.failed reason), { workshop with calls := workshop.calls + 1 })
      [.call (.newThread workshop.factory asked)] := by
  unfold newThread
  rw [failed]
  exact (yields_tell _).andLast (yields_pure _)

theorem newThread_unmade (workshop : Workshop) {asked : Descriptor}
    (unmade : workshop.factory.make? workshop.calls asked = none) :
    ∃ halt, (workshop.newThread asked).Yields Entry.doing?
      (.error halt, { workshop with calls := workshop.calls + 1 })
      [.call (.newThread workshop.factory asked)] := by
  unfold ThreadFactory.make? at unmade
  unfold newThread
  cases answer : workshop.factory.answer workshop.calls asked with
  | error reason => exact ⟨_, (yields_tell _).andLast (yields_pure _)⟩
  | ok reply =>
      obtain ⟨given, conduct⟩ := reply
      rw [answer] at unmade
      by_cases broken : given.name.toList.contains '\x00' = true
      · exact ⟨_, (yields_tell _).andLast (yields_ite_pos broken (yields_pure _))⟩
      · cases (if_neg broken).symm.trans unmade

theorem newThread_refused (workshop : Workshop) {asked : Descriptor}
    (refused : workshop.factory.make? workshop.calls asked = none) :
    ∃ halt left, (workshop.newThread asked).value = (.error halt, left) := by
  obtain ⟨halt, value, _⟩ := workshop.newThread_unmade refused
  exact ⟨halt, _, value⟩

theorem joinAll_yields (workshop : Workshop) (threads : List RuntimeThread) :
    (workshop.joinAll threads).Yields Entry.doing? (workshop.forgetAll threads)
      (farewells threads) := by
  induction threads generalizing workshop with
  | nil => exact yields_pure workshop
  | cons thread rest ih =>
      have first : (workshop.join thread).Yields Entry.doing? (workshop.forgetAll [thread])
          [.deed (.joined thread.key)] := (yields_tell _).andLast (yields_pure _)
      exact first.bind (ih _)

end Workshop

def wantedFrom (wanted : Nat → Descriptor) (first count : Nat) : List Descriptor :=
  (List.range' first count).map wanted

theorem ThreadFactory.Makes.length_wantedFrom {factory : ThreadFactory} {calls first count : Nat}
    {wanted : Nat → Descriptor} {threads : List RuntimeThread}
    (makes : factory.Makes calls (wantedFrom wanted first count) threads) :
    threads.length = count := by
  rw [makes.length, wantedFrom, List.length_map, List.length_range']

def itemsFrom {B : Type} (item : Nat → RuntimeThread → B) : Nat → List RuntimeThread → List B
  | _, [] => []
  | index, thread :: threads => item index thread :: itemsFrom item (index + 1) threads

theorem length_itemsFrom {B : Type} (item : Nat → RuntimeThread → B) (index : Nat)
    (threads : List RuntimeThread) : (itemsFrom item index threads).length = threads.length := by
  induction threads generalizing index with
  | nil => rfl
  | cons thread rest ih => rw [itemsFrom, List.length_cons, List.length_cons, ih]

theorem mem_itemsFrom {B : Type} {item : Nat → RuntimeThread → B} {index : Nat}
    {threads : List RuntimeThread} {made : B} (present : made ∈ itemsFrom item index threads) :
    ∃ place, ∃ thread ∈ threads, made = item place thread := by
  induction threads generalizing index with
  | nil => cases present
  | cons thread rest ih =>
      rcases List.mem_cons.mp present with rfl | later
      · exact ⟨index, thread, List.mem_cons_self, rfl⟩
      · obtain ⟨place, other, listed, same⟩ := ih later
        exact ⟨place, other, List.mem_cons_of_mem _ listed, same⟩

theorem getElem?_itemsFrom {B : Type} (item : Nat → RuntimeThread → B) (first index : Nat)
    (threads : List RuntimeThread) :
    (itemsFrom item first threads)[index]? = threads[index]?.map (item (first + index)) := by
  induction threads generalizing first index with
  | nil => rfl
  | cons thread threads ih =>
      cases index with
      | zero => rfl
      | succ index =>
          have later := ih (first + 1) index
          rw [Nat.add_assoc, Nat.add_comm 1] at later
          exact later

theorem itemsFrom_thread (index : Nat) (threads : List RuntimeThread) :
    itemsFrom (fun _ thread => thread) index threads = threads := by
  induction threads generalizing index with
  | nil => rfl
  | cons thread rest ih => rw [itemsFrom, ih]

/-- A loop that asks for one thread after the other and makes an item of each, until it has as
many as it wants or a request fails. -/
structure AsksInTurn {B R : Type} (loop : Workshop → List B → Nat → Nat → Told R)
    (wanted : Nat → Descriptor) (item : Nat → RuntimeThread → B) (done : List B → Workshop → R)
    (stopped : List B → Nat → Halt String → Workshop → R) : Prop where
  zero : ∀ workshop made index, loop workshop made index 0 = pure (done made workshop)
  succ : ∀ workshop made index remaining,
    loop workshop made index (remaining + 1)
      = (do
          let (answer, workshop) ← workshop.newThread (wanted index)
          match answer with
          | .error halt => return stopped made index halt workshop
          | .ok thread => loop workshop (made ++ [item index thread]) (index + 1) remaining)

namespace AsksInTurn

variable {B R : Type} {loop : Workshop → List B → Nat → Nat → Told R}
  {wanted : Nat → Descriptor} {item : Nat → RuntimeThread → B} {done : List B → Workshop → R}
  {stopped : List B → Nat → Halt String → Workshop → R}

theorem after (asks : AsksInTurn loop wanted item done stopped) (workshop : Workshop)
    (made : List B) (rest : Nat) {threads : List RuntimeThread} {index count : Nat} {value : R}
    {seen : List Entry}
    (makes : workshop.factory.Makes workshop.calls (wantedFrom wanted index count) threads)
    (yields : (loop (workshop.enlistAll threads) (made ++ itemsFrom item index threads)
      (index + count) rest).Yields Entry.doing? value seen) :
    (loop workshop made index (count + rest)).Yields Entry.doing? value
      (creations workshop.factory workshop.metrics (wantedFrom wanted index count) threads
        ++ seen) := by
  induction count generalizing workshop made index threads with
  | zero =>
      cases threads with
      | cons _ _ => exact makes.elim
      | nil =>
          rw [itemsFrom, List.append_nil] at yields
          rw [Nat.zero_add]
          exact yields
  | succ count ih =>
      cases threads with
      | nil => exact makes.elim
      | cons thread others =>
          obtain ⟨first, later⟩ := makes
          have one := workshop.newThread_made first
          rw [itemsFrom, List.append_cons, Nat.add_comm count 1, ← Nat.add_assoc,
            Workshop.enlistAll_cons] at yields
          have further := ih (workshop.enlistAll [thread]) _ later yields
          change Yields _ (loop workshop made index (count + 1 + rest)) _
            (creations workshop.factory workshop.metrics
              (wanted index :: wantedFrom wanted (index + 1) count) (thread :: others) ++ seen)
          rw [creations_cons, List.append_assoc, Nat.add_right_comm, asks.succ]
          exact one.bind further

theorem complete (asks : AsksInTurn loop wanted item done stopped) (workshop : Workshop)
    {threads : List RuntimeThread} {count : Nat}
    (makes : workshop.factory.Makes workshop.calls (wantedFrom wanted 0 count) threads) :
    (loop workshop [] 0 count).Yields Entry.doing?
      (done (itemsFrom item 0 threads) (workshop.enlistAll threads))
      (creations workshop.factory workshop.metrics (wantedFrom wanted 0 count) threads) := by
  have last : (loop (workshop.enlistAll threads) ([] ++ itemsFrom item 0 threads) (0 + count)
      0).Yields Entry.doing? (done (itemsFrom item 0 threads) (workshop.enlistAll threads)) [] := by
    rw [asks.zero]
    exact yields_pure _
  have whole := asks.after workshop [] 0 makes last
  rw [List.append_nil] at whole
  exact whole

theorem outcome (asks : AsksInTurn loop wanted item done stopped) (workshop : Workshop)
    (made : List B) (index count : Nat) :
    (∃ threads,
        workshop.factory.Makes workshop.calls (wantedFrom wanted index count) threads
          ∧ (loop workshop made index count).Yields Entry.doing?
            (done (made ++ itemsFrom item index threads) (workshop.enlistAll threads))
            (creations workshop.factory workshop.metrics (wantedFrom wanted index count) threads))
      ∨ ∃ others place halt left,
        (loop workshop made index count).value = stopped others place halt left := by
  induction count generalizing workshop made index with
  | zero =>
      refine Or.inl ⟨[], trivial, ?_⟩
      rw [asks.zero, itemsFrom, List.append_nil]
      exact yields_pure _
  | succ count ih =>
      rw [asks.succ]
      cases first : workshop.factory.make? workshop.calls (wanted index) with
      | none =>
          obtain ⟨halt, left, refused⟩ := workshop.newThread_refused first
          refine Or.inr ⟨made, index, halt, left, ?_⟩
          rw [Told.value_bind, refused]
          rfl
      | some thread =>
          have one := workshop.newThread_made first
          rcases ih (workshop.enlistAll [thread]) (made ++ [item index thread]) (index + 1) with
            ⟨threads, makes, yields⟩ | ⟨others, place, halt, left, stops⟩
          · refine Or.inl ⟨thread :: threads, ⟨first, makes⟩, ?_⟩
            rw [List.append_assoc, ← Workshop.enlistAll_cons] at yields
            change Yields _ _ _ (creations workshop.factory workshop.metrics
              (wanted index :: wantedFrom wanted (index + 1) count) (thread :: threads))
            rw [creations_cons]
            exact one.bind yields
          · refine Or.inr ⟨others, place, halt, left, ?_⟩
            rw [Told.value_bind, one.1]
            exact stops

theorem failed (asks : AsksInTurn loop wanted item done stopped) (workshop : Workshop)
    {threads : List RuntimeThread} {index count : Nat} {reason : String} (within : index < count)
    (makes : workshop.factory.Makes workshop.calls (wantedFrom wanted 0 index) threads)
    (refused : workshop.factory.answer (workshop.calls + index) (wanted index)
      = .error reason) :
    (loop workshop [] 0 count).Yields Entry.doing?
      (stopped (itemsFrom item 0 threads) index (.failed reason)
        { workshop.enlistAll threads with calls := workshop.calls + index + 1 })
      (creations workshop.factory workshop.metrics (wantedFrom wanted 0 index) threads
        ++ [.call (.newThread workshop.factory (wanted index))]) := by
  obtain ⟨rest, rfl⟩ := Nat.exists_eq_add_of_lt within
  have length := makes.length_wantedFrom
  subst length
  refine asks.after workshop [] (rest + 1) makes ?_
  have last := (workshop.enlistAll threads).newThread_failed refused
  rw [Nat.zero_add, asks.succ]
  exact last.andLast (yields_pure _)

end AsksInTurn

end Reactor
