import Reactor.Proofs.Thread.Ledger
import Reactor.Proofs.Workshop

/-!
The threads that a watch is over. Each thread that is put under watch is registered once, behind
those before it. As long as nobody else is added, units begin and end, monitors go, and passes
forget the registrations of those that have gone; whoever is still there keeps descriptor and place.
-/

namespace Reactor

namespace Watch

structure Thins (watch after : Watch) : Prop where
  monitors : ∀ key monitor, after.monitor? key = some monitor →
    ∃ old, watch.monitor? key = some old ∧ monitor.descriptor = old.descriptor
  roster : after.roster.Sublist watch.roster
  counted : after.roster.filter after.isAlive = watch.roster.filter after.isAlive

variable {watch middle after : Watch}

theorem isAlive_iff {key : Nat} :
    watch.isAlive key = true ↔ ∃ monitor, watch.monitor? key = some monitor :=
  Option.isSome_iff_exists

theorem Thins.alive (thins : watch.Thins after) {key : Nat} (alive : after.isAlive key = true) :
    watch.isAlive key = true := by
  obtain ⟨monitor, shown⟩ := isAlive_iff.mp alive
  obtain ⟨old, known, _⟩ := thins.monitors key monitor shown
  exact isAlive_iff.mpr ⟨old, known⟩

theorem Thins.of_roster (same : after.roster = watch.roster)
    (monitors : ∀ key monitor, after.monitor? key = some monitor →
      ∃ old, watch.monitor? key = some old ∧ monitor.descriptor = old.descriptor) :
    watch.Thins after where
  monitors := monitors
  roster := by rw [same]
  counted := by rw [same]

theorem Thins.refl (watch : Watch) : watch.Thins watch := by
  apply Thins.of_roster rfl
  intro key monitor shown
  exact ⟨monitor, shown, rfl⟩

theorem Thins.trans (first : watch.Thins middle) (second : middle.Thins after) :
    watch.Thins after := by
  constructor
  · intro key monitor shown
    obtain ⟨between, known, same⟩ := second.monitors key monitor shown
    obtain ⟨old, before, equal⟩ := first.monitors key between known
    exact ⟨old, before, same.trans equal⟩
  · exact second.roster.trans first.roster
  · have early : (middle.roster.filter middle.isAlive).filter after.isAlive
        = middle.roster.filter after.isAlive :=
      filter_filter_of_imp (fun _ => second.alive) middle.roster
    rw [second.counted, ← early, first.counted]
    exact filter_filter_of_imp (fun _ => second.alive) watch.roster

theorem Thins.of_edit (edit : Monitor → Monitor) {changed : Nat}
    (same : after.roster = watch.roster)
    (keeps : ∀ monitor, (edit monitor).descriptor = monitor.descriptor)
    (edited : ∀ key, after.monitor? key
      = if key = changed then (watch.monitor? key).map edit else watch.monitor? key) :
    watch.Thins after := by
  apply Thins.of_roster same
  intro key monitor shown
  rw [edited] at shown
  by_cases here : key = changed
  · rw [if_pos here] at shown
    obtain ⟨old, known, rfl⟩ := Option.map_eq_some_iff.mp shown
    exact ⟨old, known, keeps old⟩
  · rw [if_neg here] at shown
    exact ⟨monitor, shown, rfl⟩

theorem thins_begin (watch : Watch) (now key : Nat) : watch.Thins (watch.begin now key) :=
  .of_edit (·.begin now) rfl (fun _ => rfl) (watch.monitor?_begin now key)

theorem thins_finish (watch : Watch) (key : Nat) : watch.Thins (watch.finish key) :=
  .of_edit (·.finish) rfl (fun _ => rfl) (watch.monitor?_finish key)

theorem Sheds.thins (sheds : watch.Sheds after) : watch.Thins after := by
  obtain ⟨lost, rfl⟩ := sheds
  apply Thins.of_roster (watch.roster_foldl_forget lost)
  intro key monitor shown
  rw [monitor?_foldl_forget] at shown
  by_cases gone : key ∈ lost
  · rw [if_pos gone] at shown
    cases shown
  · rw [if_neg gone] at shown
    exact ⟨monitor, shown, rfl⟩

theorem thins_forget (watch : Watch) (key : Nat) : watch.Thins (watch.forget key) :=
  (watch.sheds_forget key).thins

theorem thins_prune (watch : Watch) : watch.Thins watch.prune := by
  constructor
  · intro key monitor shown
    exact ⟨monitor, shown, rfl⟩
  · exact List.filter_sublist
  · exact filter_filter_of_imp (fun _ alive => alive) watch.roster

/-! ### Threads under watch -/

/-- Nobody else is under watch than these threads, under their own descriptors, and those of them
that are still there are registered once each, in their order. -/
structure Covers (watch : Watch) (threads : List RuntimeThread) : Prop where
  monitors : ∀ key monitor, watch.monitor? key = some monitor →
    ∃ thread ∈ threads, thread.key = key ∧ monitor.descriptor = thread.descriptor
  roster : watch.roster.Sublist (threads.map (·.key))
  counted : watch.roster.filter watch.isAlive = (threads.map (·.key)).filter watch.isAlive

variable {threads made : List RuntimeThread}

theorem covers_empty : empty.Covers [] := by
  constructor
  · intro key monitor impossible
    cases impossible
  · exact List.Sublist.refl []
  · rfl

theorem Covers.thins (covers : watch.Covers threads) (thins : watch.Thins after) :
    after.Covers threads := by
  have fewer : ∀ key, after.isAlive key = true → watch.isAlive key = true := fun _ => thins.alive
  constructor
  · intro key monitor shown
    obtain ⟨old, known, same⟩ := thins.monitors key monitor shown
    obtain ⟨thread, member, this, equal⟩ := covers.monitors key old known
    exact ⟨thread, member, this, same.trans equal⟩
  · exact thins.roster.trans covers.roster
  · rw [thins.counted, ← filter_filter_of_imp fewer, covers.counted, filter_filter_of_imp fewer]

theorem Covers.enlist (covers : watch.Covers threads) {thread : RuntimeThread}
    (fresh : thread.key ∉ threads.map (·.key)) : (watch.enlist thread).Covers (threads ++ [thread]) := by
  have monitor? (key : Nat) : (watch.enlist thread).monitor? key
      = if key = thread.key then some (.idle thread.descriptor) else watch.monitor? key :=
    watch.monitor?_adopt thread.key key _
  have alive : (watch.enlist thread).isAlive thread.key = true := by
    rw [isAlive_iff]
    exact ⟨_, (monitor? thread.key).trans (if_pos rfl)⟩
  have others {keys : List Nat} (listed : ∀ key ∈ keys, key ∈ threads.map (·.key)) :
      keys.filter (watch.enlist thread).isAlive = keys.filter watch.isAlive := by
    apply List.filter_congr
    intro key present
    have different : key ≠ thread.key := by
      intro same
      exact fresh (same ▸ listed key present)
    unfold isAlive
    rw [monitor?, if_neg different]
  constructor
  · intro key monitor shown
    rw [monitor?] at shown
    by_cases same : key = thread.key
    · rw [if_pos same] at shown
      cases shown
      exact ⟨thread, List.mem_append_right _ List.mem_cons_self, same.symm, rfl⟩
    · rw [if_neg same] at shown
      obtain ⟨given, member, rest⟩ := covers.monitors key monitor shown
      exact ⟨given, List.mem_append_left _ member, rest⟩
  · rw [List.map_append]
    exact covers.roster.append (List.Sublist.refl [thread.key])
  · change (watch.roster ++ [thread.key]).filter _ = _
    rw [List.map_append, List.filter_append, List.filter_append,
      others fun _ present => covers.roster.subset present, others fun _ present => present,
      covers.counted]
    rfl

theorem roster_forgetAll (watch : Watch) (threads : List RuntimeThread) :
    (watch.forgetAll threads).roster = watch.roster := by
  have same : watch.forgetAll threads = (threads.map (·.key)).foldl forget watch :=
    List.foldl_map.symm
  rw [same, roster_foldl_forget]

theorem isAlive_forgetAll (watch : Watch) (threads : List RuntimeThread) (key : Nat) :
    (watch.forgetAll threads).isAlive key
      = (watch.isAlive key && !decide (key ∈ threads.map (·.key))) := by
  unfold isAlive
  rw [monitor?_forgetAll]
  by_cases theirs : key ∈ threads.map (·.key)
  · simp [theirs]
  · simp [theirs]

theorem isAlive_enlistAll (watch : Watch) {thread : RuntimeThread} (listed : thread ∈ threads) :
    (watch.enlistAll threads).isAlive thread.key = true := by
  rw [enlistAll_eq]
  unfold isAlive monitor?
  rw [List.lookup_isSome_iff]
  refine ⟨(thread.key, .idle thread.descriptor), ?_, beq_self_eq_true _⟩
  exact List.mem_append_left _ (List.mem_reverse.mpr (List.mem_map_of_mem listed))

/-- Those who are let go leave gaps: the others are counted as before. -/
theorem Covers.watched_forgetAll (covers : watch.Covers made) (distinct : (made.map (·.key)).Nodup)
    (different : (threads.map (·.key)).Nodup)
    (alive : ∀ thread ∈ threads, watch.isAlive thread.key = true) :
    (watch.forgetAll threads).watched + threads.length = watch.watched := by
  let counted := watch.roster.filter watch.isAlive
  let theirs (key : Nat) : Bool := decide (key ∈ threads.map (·.key))
  have once : counted.Nodup := by
    unfold counted
    rw [covers.counted]
    exact distinct.filter _
  have known : ∀ key ∈ threads.map (·.key), key ∈ counted := by
    intro key present
    obtain ⟨thread, listed, rfl⟩ := List.mem_map.mp present
    obtain ⟨monitor, shown⟩ := isAlive_iff.mp (alive thread listed)
    obtain ⟨given, member, same, _⟩ := covers.monitors _ _ shown
    unfold counted
    rw [covers.counted]
    exact List.mem_filter.mpr ⟨List.mem_map.mpr ⟨given, member, same⟩, alive thread listed⟩
  have gone : (counted.filter theirs).length = threads.length := by
    have same : (counted.filter theirs).Perm (threads.map (·.key)) := by
      rw [List.perm_ext_iff_of_nodup (once.filter _) different]
      intro key
      rw [List.mem_filter]
      constructor
      · rintro ⟨_, present⟩
        exact of_decide_eq_true present
      · intro present
        exact ⟨known key present, decide_eq_true present⟩
    rw [same.length_eq, List.length_map]
  have left : (watch.forgetAll threads).roster.filter (watch.forgetAll threads).isAlive
      = counted.filter (!theirs ·) := by
    rw [roster_forgetAll, List.filter_filter]
    apply List.filter_congr
    intro key _
    rw [isAlive_forgetAll, Bool.and_comm]
  have parts := counted.length_eq_length_filter_add theirs
  unfold watched
  rw [left]
  change _ + threads.length = counted.length
  omega

/-- The same monitors are under watch and count in the same order. A registration that is left of a
monitor that has gone makes no difference. -/
structure Agrees (watch after : Watch) : Prop where
  monitors : ∀ key, after.monitor? key = watch.monitor? key
  counted : after.roster.filter after.isAlive = watch.roster.filter watch.isAlive

theorem Agrees.refl (watch : Watch) : watch.Agrees watch := ⟨fun _ => rfl, rfl⟩

theorem Agrees.watched (agrees : watch.Agrees after) : after.watched = watch.watched :=
  congrArg List.length agrees.counted

theorem Agrees.violations (agrees : watch.Agrees after) (now : Nat) :
    after.violations now = watch.violations now := by
  rw [← violations_prune after, ← violations_prune watch]
  unfold Watch.violations prune
  dsimp only
  rw [agrees.counted]
  apply List.filterMap_congr
  intro key _
  exact congrArg (Option.bind · _) (agrees.monitors key)

/-- Threads that were strangers, and are let go again, leave the watch as it was. -/
theorem agrees_enlistAll_forgetAll
    (strangers : ∀ thread ∈ threads, watch.monitor? thread.key = none) :
    watch.Agrees ((watch.enlistAll threads).forgetAll threads) := by
  let after := (watch.enlistAll threads).forgetAll threads
  have unknown : ∀ key ∈ threads.map (·.key), watch.monitor? key = none := by
    intro key present
    obtain ⟨thread, listed, rfl⟩ := List.mem_map.mp present
    exact strangers thread listed
  have monitors (key : Nat) : after.monitor? key = watch.monitor? key := by
    unfold after
    rw [monitor?_forgetAll]
    by_cases theirs : key ∈ threads.map (·.key)
    · rw [if_pos theirs, unknown key theirs]
    · rw [if_neg theirs, monitor?_enlistAll watch threads theirs]
  have alive : after.isAlive = watch.isAlive := by
    funext key
    exact congrArg Option.isSome (monitors key)
  have roster : after.roster = watch.roster ++ threads.map (·.key) := by
    unfold after
    rw [roster_forgetAll, enlistAll_eq]
  have uncounted : (threads.map (·.key)).filter watch.isAlive = [] := by
    apply List.filter_eq_nil_iff.mpr
    intro key present
    unfold isAlive
    rw [unknown key present]
    exact Bool.false_ne_true
  constructor
  · exact monitors
  · change after.roster.filter after.isAlive = _
    rw [alive, roster, List.filter_append, uncounted, List.append_nil]

end Watch

end Reactor
