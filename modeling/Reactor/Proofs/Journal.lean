import Reactor.Journal

/-!
Journals read in part. A reading picks some entries out of a journal. `Told.Yields` gives the
value of an operation together with what a reading sees of it, and `Told.Only` says that an
operation tells of allowed entries alone; both pass through sequencing.
-/

namespace Reactor

namespace Told

variable {α β : Type} {allowed wider : Entry → Prop}

def Only (allowed : Entry → Prop) (told : Told α) : Prop :=
  ∀ entry ∈ told.entries, allowed entry

theorem only_pure (value : α) : Only allowed (pure value : Told α) := by
  intro entry present
  cases present

theorem only_tell {entry : Entry} (permitted : allowed entry) : Only allowed (tell entry) := by
  intro other present
  rw [entries_tell, List.mem_singleton] at present
  subst other
  exact permitted

theorem Only.bind {first : Told α} {next : α → Told β} (before : Only allowed first)
    (after : Only allowed (next first.value)) : Only allowed (first >>= next) := by
  intro entry present
  rw [entries_bind, List.mem_append] at present
  rcases present with early | late
  · exact before entry early
  · exact after entry late

theorem Only.map {told : Told α} (narrow : Only allowed told) (change : α → β) :
    Only allowed (change <$> told) := by
  intro entry present
  rw [entries_map] at present
  exact narrow entry present

theorem Only.mono {told : Told α} (narrow : Only allowed told)
    (weaker : ∀ entry, allowed entry → wider entry) : Only wider told :=
  fun entry present => weaker entry (narrow entry present)

end Told

namespace Told

variable {α β γ : Type} {read : Entry → Option γ}

/-- The operation ends in this value, and this is what the reading sees of it. -/
def Yields (read : Entry → Option γ) (told : Told α) (value : α) (seen : List γ) : Prop :=
  told.value = value ∧ told.entries.filterMap read = seen

theorem yields_pure (value : α) : (pure value : Told α).Yields read value [] := ⟨rfl, rfl⟩

theorem yields_tell (entry : Entry) : (tell entry).Yields read () (read entry).toList := by
  refine ⟨rfl, ?_⟩
  rw [entries_tell]
  cases found : read entry <;> simp [found]

theorem Yields.bind {first : Told α} {next : α → Told β} {value : α} {result : β}
    {seen later : List γ} (before : first.Yields read value seen)
    (after : (next value).Yields read result later) :
    (first >>= next).Yields read result (seen ++ later) := by
  obtain ⟨rfl, rfl⟩ := before
  obtain ⟨rfl, rfl⟩ := after
  exact ⟨rfl, List.filterMap_append⟩

theorem Yields.andThen {first : Told α} {next : α → Told β} {value : α} {result : β}
    {later : List γ} (before : first.Yields read value [])
    (after : (next value).Yields read result later) :
    (first >>= next).Yields read result later :=
  before.bind after

theorem Yields.andLast {first : Told α} {next : α → Told β} {value : α} {result : β}
    {seen : List γ} (before : first.Yields read value seen)
    (after : (next value).Yields read result []) :
    (first >>= next).Yields read result seen := by
  have whole := before.bind after
  rw [List.append_nil] at whole
  exact whole

theorem Yields.map {told : Told α} {value : α} {seen : List γ}
    (yields : told.Yields read value seen) (change : α → β) :
    (change <$> told).Yields read (change value) seen := by
  obtain ⟨rfl, rfl⟩ := yields
  exact ⟨rfl, by rw [entries_map]⟩

theorem Yields.of_eq {told : Told α} {value value' : α} {seen seen' : List γ}
    (yields : told.Yields read value seen) (sameValue : value = value')
    (sameSeen : seen = seen') : told.Yields read value' seen' := by
  subst value'
  subst seen'
  exact yields

theorem yields_ite_pos {condition : Prop} [Decidable condition] {first second : Told α}
    {value : α} {seen : List γ} (holds : condition) (yields : first.Yields read value seen) :
    (if condition then first else second).Yields read value seen := by
  rw [if_pos holds]
  exact yields

theorem yields_ite_neg {condition : Prop} [Decidable condition] {first second : Told α}
    {value : α} {seen : List γ} (fails : ¬condition) (yields : second.Yields read value seen) :
    (if condition then first else second).Yields read value seen := by
  rw [if_neg fails]
  exact yields

/-- Nothing is seen of what is told of unread entries alone. -/
theorem Only.yields {told : Told α} (unread : Only (fun entry => read entry = none) told) :
    told.Yields read told.value [] :=
  ⟨rfl, List.filterMap_eq_nil_iff.mpr unread⟩

end Told

def Entry.doing? : Entry → Option Entry
  | .log _ _ => none
  | entry => some entry

/-- A reading that looks past the log sees the same with the log left out. -/
theorem filterMap_doing {γ : Type} {read : Entry → Option γ}
    (unlogged : ∀ actor event, read (.log actor event) = none) (entries : List Entry) :
    (entries.filterMap Entry.doing?).filterMap read = entries.filterMap read := by
  have through : (fun entry : Entry => entry.doing?.bind read) = read := by
    funext entry
    cases entry with
    | log actor event => exact (unlogged actor event).symm
    | call _ | deed _ => rfl
  rw [List.filterMap_filterMap, through]

theorem Told.Yields.seenBy {α γ : Type} {read : Entry → Option γ} {told : Told α} {value : α}
    {seen : List Entry} (yields : told.Yields Entry.doing? value seen)
    (unlogged : ∀ actor event, read (.log actor event) = none) :
    told.Yields read value (seen.filterMap read) :=
  ⟨yields.1, (filterMap_doing unlogged told.entries).symm.trans (congrArg _ yields.2)⟩

/-- The provider that an entry activates, with what it was shown. -/
def Entry.activation? : Entry → Option (Provider × ActivationContext)
  | .call (.activate provider context) => some (provider, context)
  | _ => none

end Reactor
