import Reactor.Proofs.Workshop
import Reactor.Thread.Watchdog

/-!
How the reports of a pass are handed over. Each report is announced in full before the next one:
to the log, then to the metrics, then to the handler. A handler that gives up hears of no more
reports, and nobody else does; what a handler closes meanwhile announces nothing.
-/

namespace Reactor

open Told

/-- An announcement of a report: its log event, or one of the calls that hand it over. -/
def Entry.announcing? : Entry → Option Entry
  | .log actor event =>
      if event.target = .watchdog ∧ (event.fields.lookup "blocked_ms").isSome then
        some (.log actor event)
      else
        none
  | .call (.metrics sink (.blockedThread report)) => some (.call (.metrics sink (.blockedThread report)))
  | .call (.handleBlocked report) => some (.call (.handleBlocked report))
  | _ => none

theorem BlockedThread.level_event (report : BlockedThread) (warningTime : Span) :
    (report.event warningTime).level = if warningTime < report.blockedFor then .error else .warn := by
  unfold event
  split <;> rfl

namespace Audience

def objection? (audience : Audience) (report : BlockedThread) : Option Panic :=
  match audience.handler with
  | none => none
  | some handler =>
      match handler report with
      | .givesUp text => some (.handler text)
      | _ => none

def closesAt (audience : Audience) (report : BlockedThread) : Bool :=
  audience.handler.any fun handler => handler report = .closes

/-- The reports that are announced: all, or those up to the first at which the handler gives up. -/
def heard (audience : Audience) : List BlockedThread → List BlockedThread
  | [] => []
  | report :: reports =>
      report :: if (audience.objection? report).isSome then [] else audience.heard reports

def announcement (audience : Audience) (actor : Actor) (report : BlockedThread) : List Entry :=
  .log actor (report.event audience.warningTime) :: (hooks audience.metrics (.blockedThread report)
    ++ audience.handler.toList.map fun _ => .call (.handleBlocked report))

variable {audience : Audience} {actor : Actor}

theorem heard_eq_self {reports : List BlockedThread}
    (content : reports.findSome? audience.objection? = none) : audience.heard reports = reports := by
  induction reports with
  | nil => rfl
  | cons report reports ih =>
      rw [List.findSome?_cons] at content
      cases objects : audience.objection? report with
      | some panic =>
          rw [objects] at content
          cases content
      | none =>
          rw [objects] at content
          unfold heard
          rw [objects, ih content]
          rfl

variable {σ : Type} {close : σ → Told σ}

theorem hear_eq (audience : Audience) (close : σ → Told σ) (actor : Actor) (state : σ)
    (report : BlockedThread) :
    (audience.hear close actor state report).entries
        = audience.announcement actor report
          ++ (if audience.closesAt report then (close state).entries else [])
      ∧ (audience.hear close actor state report).value
        = (audience.objection? report,
          if audience.closesAt report then (close state).value else state) := by
  obtain ⟨warningTime, metrics, handler⟩ := audience
  have announced : (Workshop.tellMetrics metrics (.blockedThread report)).entries
      = hooks metrics (.blockedThread report) := by cases metrics <;> rfl
  unfold hear announcement objection? closesAt
  dsimp only
  cases handler with
  | none => simp [announced]
  | some handler => cases reaction : handler report <;> simp [announced, reaction]

theorem hearAll_objecting {report : BlockedThread} {panic : Panic}
    (objects : audience.objection? report = some panic) (state : σ) (reports : List BlockedThread) :
    audience.hearAll close actor state (report :: reports)
      = audience.hear close actor state report := by
  obtain ⟨_, ends⟩ := audience.hear_eq close actor state report
  rw [objects] at ends
  rw [hearAll]
  generalize audience.hear close actor state report = told at *
  obtain ⟨value, entries⟩ := told
  cases ends
  exact congrArg (Told.mk _) (List.append_nil _)

theorem hearAll_content {report : BlockedThread} (content : audience.objection? report = none)
    (state : σ) (reports : List BlockedThread) :
    audience.hearAll close actor state (report :: reports)
      = audience.hear close actor state report
        >>= fun outcome => audience.hearAll close actor outcome.2 reports := by
  obtain ⟨_, ends⟩ := audience.hear_eq close actor state report
  rw [content] at ends
  rw [hearAll]
  generalize audience.hear close actor state report = told at *
  obtain ⟨value, entries⟩ := told
  cases ends
  rfl

theorem objection_hearAll (state : σ) (reports : List BlockedThread) :
    (audience.hearAll close actor state reports).value.1
      = reports.findSome? audience.objection? := by
  induction reports generalizing state with
  | nil => rfl
  | cons report reports ih =>
      rw [List.findSome?_cons]
      cases objects : audience.objection? report with
      | some panic => rw [hearAll_objecting objects, (hear_eq audience close actor state report).2, objects]
      | none =>
          rw [hearAll_content objects, Told.value_bind]
          exact ih _

variable {γ : Type} {read : Entry → Option γ}

theorem hear_relates {related : σ → σ → List γ → Prop} (refl : ∀ state, related state state [])
    (closing : ∀ state,
      related state (close state).value ((close state).entries.filterMap read))
    (unannounced : ∀ report, (audience.announcement actor report).filterMap read = [])
    (state : σ) (report : BlockedThread) :
    related state (audience.hear close actor state report).value.2
      ((audience.hear close actor state report).entries.filterMap read) := by
  obtain ⟨told, ends⟩ := audience.hear_eq close actor state report
  rw [told, ends, List.filterMap_append, unannounced, List.nil_append]
  dsimp only
  split
  · exact closing state
  · exact refl state

/-- What holds of each closing and passes through sequencing holds of handing over reports, where
the reading sees none of the announcements. -/
theorem hearAll_relates {related : σ → σ → List γ → Prop} (refl : ∀ state, related state state [])
    (trans : ∀ {first middle last : σ} {seen later : List γ}, related first middle seen →
      related middle last later → related first last (seen ++ later))
    (closing : ∀ state,
      related state (close state).value ((close state).entries.filterMap read))
    (unannounced : ∀ report, (audience.announcement actor report).filterMap read = [])
    (state : σ) (reports : List BlockedThread) :
    related state (audience.hearAll close actor state reports).value.2
      ((audience.hearAll close actor state reports).entries.filterMap read) := by
  have once := hear_relates refl closing unannounced
  induction reports generalizing state with
  | nil => exact refl state
  | cons report reports ih =>
      cases objects : audience.objection? report with
      | some panic =>
          rw [hearAll_objecting objects]
          exact once state report
      | none =>
          rw [hearAll_content objects, Told.value_bind, Told.entries_bind, List.filterMap_append]
          exact trans (once state report) (ih _)

theorem hearAll_keeps (audience : Audience) (actor : Actor) {property : σ → Prop}
    (kept : ∀ state, property state → property (close state).value) {state : σ}
    (holds : property state) (reports : List BlockedThread) :
    property (audience.hearAll close actor state reports).value.2 := by
  have blind (entries : List Entry) : entries.filterMap (fun _ => (none : Option Unit)) = [] :=
    List.filterMap_eq_nil_iff.mpr fun _ _ => rfl
  have keeps := @hearAll_relates audience actor σ close Unit (fun _ => none)
    (fun before after _ => property before → property after) (fun _ => id)
    (fun first second => second ∘ first) kept (fun _ => blind _) state reports
  exact keeps holds

theorem read_hear (unseen : ∀ state, (close state).entries.filterMap read = []) (state : σ)
    (report : BlockedThread) :
    (audience.hear close actor state report).entries.filterMap read
      = (audience.announcement actor report).filterMap read := by
  rw [(hear_eq audience close actor state report).1, List.filterMap_append]
  split
  · rw [unseen, List.append_nil]
  · exact List.append_nil _

/-- A reading that sees nothing of a closing sees what was announced of the reports heard. -/
theorem read_hearAll (unseen : ∀ state, (close state).entries.filterMap read = []) (state : σ)
    (reports : List BlockedThread) :
    (audience.hearAll close actor state reports).entries.filterMap read
      = ((audience.heard reports).flatMap (audience.announcement actor)).filterMap read := by
  induction reports generalizing state with
  | nil => rfl
  | cons report reports ih =>
      rw [heard, List.flatMap_cons, List.filterMap_append]
      cases objects : audience.objection? report with
      | some panic =>
          rw [hearAll_objecting objects, read_hear unseen]
          exact (List.append_nil _).symm
      | none =>
          rw [hearAll_content objects, Told.entries_bind, List.filterMap_append, read_hear unseen, ih]
          rfl

/-- Announcements are read in full. -/
theorem announcing_announcement (audience : Audience) (actor : Actor)
    (reports : List BlockedThread) :
    (reports.flatMap (audience.announcement actor)).filterMap Entry.announcing?
      = reports.flatMap (audience.announcement actor) := by
  obtain ⟨warningTime, metrics, handler⟩ := audience
  induction reports with
  | nil => rfl
  | cons report reports ih =>
      rw [List.flatMap_cons, List.filterMap_append, ih]
      refine congrArg (· ++ _) ?_
      have event : Entry.announcing? (.log actor (report.event warningTime))
          = some (.log actor (report.event warningTime)) := by
        unfold BlockedThread.event
        split <;> rfl
      unfold announcement
      rw [List.filterMap_cons, event]
      cases metrics <;> cases handler <;> rfl

end Audience

end Reactor
