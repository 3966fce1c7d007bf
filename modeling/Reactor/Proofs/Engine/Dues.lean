import Reactor.Proofs.Engine.Hooks

/-!
What is still owed over the course of a runtime. Whoever hears of the end of a runtime, and of none
of the threads made and the reports handed over before, hears of it from the one who closes the
runtime first, once that closing has come to its parts.
-/

namespace Reactor

open Told

variable {γ : Type} {read : Entry → Option γ}

/-- A reading that looks past the reports of the watchdog, too. -/
structure Entry.SeesEnd (read : Entry → Option γ) : Prop extends Entry.SeesParts read where
  unreported : ∀ sink report, read (.call (.metrics sink (.blockedThread report))) = none
  unhandled : ∀ report, read (.call (.handleBlocked report)) = none

theorem Entry.SeesEnd.announcement (sees : Entry.SeesEnd read) (audience : Audience) (actor : Actor)
    (report : BlockedThread) : (audience.announcement actor report).filterMap read = [] := by
  obtain ⟨warningTime, metrics, handler⟩ := audience
  unfold Audience.announcement hooks
  cases metrics <;> cases handler <;> simp [sees.unlogged, sees.unreported, sees.unhandled]

namespace Course

/-- What a reading is still to see of the end, from whoever is closing the runtime already or from
who will. -/
def owed (read : Entry → Option γ) (course : Course) : List γ :=
  course.life.engine.owed read
    ++ if course.closing.isSome then course.life.engine.closingCalls.filterMap read else []

/-- The parts are those they were, and what a reading saw is what is no longer owed. -/
structure Settles (read : Entry → Option γ) (course : Course) (told : Told Course) : Prop where
  parts : told.value.life.engine.closingCalls = course.life.engine.closingCalls
  paid : told.entries.filterMap read ++ told.value.owed read = course.owed read

structure Pays (read : Entry → Option γ) (course : Course) (told : Told Course) : Prop where
  remains : course.life.engine.Remains told.value.life.engine
  paid : told.entries.filterMap read ++ told.value.owed read = course.owed read

variable {course : Course}

theorem Pays.settles {told : Told Course} (pays : course.Pays read told) :
    course.Settles read told :=
  ⟨pays.remains.parts, pays.paid⟩

theorem Settles.of_part {α : Type} {part : Told α} {rest : α → Course} {seen : List γ}
    (told : part.entries.filterMap read = seen)
    (parts : (rest part.value).life.engine.closingCalls = course.life.engine.closingCalls)
    (paid : seen ++ (rest part.value).life.engine.owed read = course.life.engine.owed read)
    (same : (rest part.value).closing = course.closing) :
    course.Settles read (part >>= fun value => pure (rest value)) := by
  constructor
  · exact parts
  · change (part.entries ++ []).filterMap read ++ (rest part.value).owed read = course.owed read
    unfold owed
    rw [List.append_nil, told, same, parts, ← List.append_assoc, paid]

theorem Pays.of_part {α : Type} {part : Told α} {rest : α → Course}
    (pays : course.life.engine.Pays read (rest part.value).life.engine
      (part.entries.filterMap read))
    (same : (rest part.value).closing = course.closing) :
    course.Pays read (part >>= fun value => pure (rest value)) :=
  ⟨pays.remains, (Settles.of_part rfl pays.remains.parts pays.paid same).paid⟩

theorem Pays.quiet {next : Course} (remains : course.life.engine.Remains next.life.engine)
    (closed : next.life.engine.closed = course.life.engine.closed)
    (same : next.closing = course.closing) : course.Pays read (pure next) := by
  have pays : course.life.engine.Pays read next.life.engine [] := .of_same remains closed
  constructor
  · exact remains
  · change next.owed read = course.owed read
    unfold owed
    rw [same, remains.parts, ← pays.paid]
    rfl

def Calm (course : Course) : Move → Prop
  | .thread _ | .pool _ _ => False
  | .elsewhere watch => course.life.engine.workshop.watch.Thins watch
  | _ => True

theorem beginClose_pays (orderly : course.Orderly) (actor : Actor) :
    course.Pays read (course.move (.beginClose actor)) := by
  unfold move
  dsimp only
  cases closed : course.life.engine.closed with
  | true => exact .quiet (.refl _) rfl rfl
  | false =>
      have nobody : course.closing.isSome = false := by
        cases closing : course.closing.isSome with
        | false => rfl
        | true => exact (orderly closing).symm.trans closed
      constructor
      · exact ⟨⟨rfl, rfl, rfl⟩, rfl, rfl, .refl _⟩
      · unfold owed
        rw [Engine.owed_open closed, nobody]
        exact (List.append_nil _).symm

theorem endClose_pays (sees : Entry.SeesParts read) (orderly : course.Orderly) :
    course.Pays read (course.move .endClose) := by
  unfold move
  dsimp only
  cases closing : course.closing with
  | none => exact .quiet (.refl _) rfl rfl
  | some actor =>
      let engine := { course.life.engine with closed := false }
      obtain ⟨⟨remains, _, paid⟩, closed⟩ := Engine.closeBy_pays sees engine actor
      have shut : course.life.engine.closed = true := orderly (by rw [closing]; rfl)
      constructor
      · exact ⟨⟨remains.akin.metrics, remains.akin.factory, remains.akin.listener⟩, remains.parts,
          remains.calls, remains.thins⟩
      · change ((engine.closeBy actor).entries ++ []).filterMap read
            ++ ((engine.closeBy actor).value.2.owed read ++ []) = course.owed read
        rw [List.append_nil, List.append_nil, paid, owed, Engine.owed_closed shut, closing]
        rfl

theorem closeFrom_pays (sees : Entry.SeesParts read) (actor : Actor) (engine : Engine) :
    engine.Pays read (Prod.snd <$> engine.closeBy actor).value
      ((Prod.snd <$> engine.closeBy actor).entries.filterMap read) := by
  rw [Told.entries_map]
  exact (Engine.closeBy_pays sees engine actor).1

theorem pass_pays (sees : Entry.SeesEnd read) (course : Course) (now : Nat) (actor : Actor) :
    course.Pays read (course.move (.pass now actor)) := by
  let engine := course.life.engine
  let watch := engine.workshop.watch.prune
  let seen : Engine := { engine with workshop := { engine.workshop with watch } }
  let handing := engine.audience.hearAll (fun engine => Prod.snd <$> engine.closeBy actor) actor
    seen (watch.violations now)
  have told : (engine.pass now actor).entries = handing.entries := List.append_nil _
  have pruned : engine.Pays read seen [] :=
    .of_same ⟨⟨rfl, rfl, rfl⟩, rfl, rfl, engine.workshop.watch.thins_prune⟩ rfl
  have pays : seen.Pays read handing.value.2 (handing.entries.filterMap read) :=
    Audience.hearAll_relates Engine.Pays.refl Engine.Pays.trans
      (closeFrom_pays sees.toSeesParts actor) (sees.announcement engine.audience actor) seen _
  change course.Pays read
    (engine.pass now actor >>= fun passed => pure (course.withEngine passed.2.2))
  apply Pays.of_part
  · rw [told]
    exact pruned.trans pays
  · rfl

theorem hear_pays (sees : Entry.SeesEnd read) (course : Course) (number : Nat) (actor : Actor) :
    course.Pays read (course.move (.hear number actor)) := by
  unfold move
  dsimp only
  split
  · rename_i report reports _
    apply Pays.of_part
    · exact Audience.hear_relates Engine.Pays.refl (closeFrom_pays sees.toSeesParts actor)
        (sees.announcement course.life.engine.audience actor) course.life.engine report
    · rfl
  · exact .quiet (.refl _) rfl rfl

theorem move_pays (sees : Entry.SeesEnd read) (orderly : course.Orderly) {move : Move}
    (calm : course.Calm move) : course.Pays read (course.move move) := by
  cases move with
  | use use => exact .of_part (course.life.use_pays sees.toSeesParts use) rfl
  | drop => exact .of_part (Engine.drop_pays sees.toSeesParts course.life.engine) rfl
  | beginClose actor => exact beginClose_pays orderly actor
  | endClose => exact endClose_pays sees.toSeesParts orderly
  | thread asked => exact calm.elim
  | pool name size => exact calm.elim
  | pass now actor => exact pass_pays sees course now actor
  | look now =>
      exact .quiet ⟨⟨rfl, rfl, rfl⟩, rfl, rfl, Watch.thins_prune _⟩ rfl rfl
  | hear number actor => exact hear_pays sees course number actor
  | elsewhere watch => exact .quiet ⟨⟨rfl, rfl, rfl⟩, rfl, rfl, calm⟩ rfl rfl

/-- A reading that looks past all that is told of threads being made settles what is owed. -/
theorem move_settles (sees : Entry.SeesEnd read)
    (unmade : ∀ entry, entry.IsRoutine → read entry = none) (orderly : course.Orderly)
    (move : Move) : course.Settles read (course.move move) := by
  have unread {α : Type} {told : Told α} (routine : told.Only Entry.IsRoutine) :
      told.entries.filterMap read = [] :=
    List.filterMap_eq_nil_iff.mpr fun entry present => unmade entry (routine entry present)
  cases move with
  | thread asked =>
      have made := course.life.engine.workshop.newThread_enrols asked
      exact .of_part (unread made.routine) rfl rfl rfl
  | pool name size =>
      have made := course.life.engine.newExecutor_enrols name size
      exact .of_part (unread made.routine) rfl rfl rfl
  | elsewhere watch => exact ⟨rfl, rfl⟩
  | _ =>
      apply Pays.settles
      apply move_pays sees orderly
      trivial

theorem follow_settles (sees : Entry.SeesEnd read)
    (unmade : ∀ entry, entry.IsRoutine → read entry = none) (orderly : course.Orderly)
    (moves : List Move) : course.Settles read (course.follow moves) := by
  induction moves generalizing course with
  | nil => exact ⟨rfl, rfl⟩
  | cons move moves ih =>
      have first := move_settles sees unmade orderly move
      have rest := ih (move_goes orderly move).orderly
      constructor
      · exact rest.parts.trans first.parts
      · rw [follow, Told.entries_bind, Told.value_bind, List.filterMap_append, List.append_assoc,
          rest.paid, first.paid]

theorem owed_eq (orderly : course.Orderly) :
    course.owed read
      = if course.ended then [] else course.life.engine.closingCalls.filterMap read := by
  unfold owed ended Engine.owed
  cases closing : course.closing with
  | none => cases course.life.engine.closed <;> exact List.append_nil _
  | some actor =>
      rw [orderly (by rw [closing]; rfl)]
      rfl

end Course

end Reactor
