import Reactor.Crew
import Reactor.Proofs.Line

/-!
A crew at work among its callers, one step at a time and in any order. Submissions come from
anywhere; threads receive jobs, finish them, returned or panicked, and leave; and any number of
calls close the crew, from outside or from the jobs of its own threads. A closing call hangs up,
takes the threads, and waits for each of them but the one it runs on. Of several such calls one
is decisive: for a pool the one that hangs up, for an event loop the one that takes the thread.
-/

namespace Reactor

inductive CrewKind where
  | pool
  | loop
deriving DecidableEq

inductive ClosingStage where
  | begun
  | hungUp
  | joining (left : List Nat)
  | returned (decisive : Bool)
deriving DecidableEq

structure Closing where
  -- The thread of the crew whose job makes the call; none for a call from outside.
  caller : Option Nat
  stage : ClosingStage
deriving DecidableEq

structure Site where
  crew : Crew
  -- The number of submissions so far; it is the ticket of the next job.
  offers : Nat
  closings : List Closing

def Happening.offered? {J : Type} : Happening J → Option J
  | accepted job | refused job => some job
  | _ => none

namespace Site

def create (threads : List RuntimeThread) : Site := ⟨Crew.create threads, 0, []⟩

def withLine (site : Site) (line : Line Job) : Site := { site with crew := { site.crew with line } }

/-- The threads that a closing call waits for. -/
def others (site : Site) (caller : Option Nat) : List Nat :=
  (List.range site.crew.line.posts.length).filter fun thread => caller ≠ some thread

def moved (site : Site) (number : Nat) (closing : Closing) (stage : ClosingStage) : Site :=
  { site with closings := site.closings.set number { closing with stage } }

/-- Every closing call that the job of a thread has made has returned. -/
def Free (site : Site) (thread : Nat) : Prop :=
  ∀ closing ∈ site.closings, closing.caller = some thread →
    ∃ decisive, closing.stage = .returned decisive

inductive Act where
  | submit (happening : Happening Job)
  | serve (happening : Happening Job)
  | call (caller : Option Nat)
  | hangUp (number : Nat)
  | proceed (number : Nat)

namespace Act

def happening? : Act → Option (Happening Job)
  | submit happening | serve happening => some happening
  | hangUp _ => some .hungUp
  | call _ | proceed _ => none

/-- Whether the crew and its closing calls do it without anything from outside. -/
def isOwn : Act → Bool
  | submit _ | call _ => false
  | serve _ | hangUp _ | proceed _ => true

end Act

inductive Step (kind : CrewKind) : Site → Act → Site → Prop where
  | submit {site : Site} {happening : Happening Job} {line : Line Job} {job : Job} :
      site.crew.line.Step happening line → happening.offered? = some job →
        job.ticket = site.offers →
        Step kind site (.submit happening) { site.withLine line with offers := site.offers + 1 }
  | receive {site : Site} {line : Line Job} {thread : Nat} {job : Job} :
      site.crew.line.receive thread = some (job, line) →
        Step kind site (.serve (.received thread job)) (site.withLine line)
  | finish {site : Site} {line : Line Job} {thread : Nat} {job : Job} :
      site.Free thread → site.crew.line.finish thread = some (job, line) →
        Step kind site (.serve (.finished thread job)) (site.withLine line)
  | leave {site : Site} {line : Line Job} {thread : Nat} :
      site.crew.line.leave thread = some line →
        Step kind site (.serve (.exited thread)) (site.withLine line)
  | call {site : Site} {caller : Option Nat} :
      (∀ thread, caller = some thread →
        (∃ job, site.crew.line.posts[thread]? = some (.running job)) ∧ site.Free thread) →
        Step kind site (.call caller)
          { site with closings := site.closings ++ [⟨caller, .begun⟩] }
  -- Of a pool only the first call hangs up.
  | hangUp {site : Site} {number : Nat} {closing : Closing} :
      site.closings[number]? = some closing → closing.stage = .begun →
        (kind = .pool → site.crew.line.accepting = true) →
        Step kind site (.hangUp number)
          ((site.withLine site.crew.line.hangUp).moved number closing .hungUp)
  | late {site : Site} {number : Nat} {closing : Closing} :
      site.closings[number]? = some closing → closing.stage = .begun →
        kind = .pool → site.crew.line.accepting = false →
        Step kind site (.proceed number) (site.moved number closing (.returned false))
  | take {site : Site} {number : Nat} {closing : Closing} :
      site.closings[number]? = some closing → closing.stage = .hungUp →
        site.crew.held = true →
        Step kind site (.proceed number)
          ({ site with crew := { site.crew with held := false } }.moved number closing
            (.joining (site.others closing.caller)))
  -- The threads have been taken already: a loop leaves it at that, a pool waits for nobody.
  | bare {site : Site} {number : Nat} {closing : Closing} :
      site.closings[number]? = some closing → closing.stage = .hungUp →
        site.crew.held = false →
        Step kind site (.proceed number)
          (site.moved number closing
            (match kind with | .pool => .joining [] | .loop => .returned false))
  | join {site : Site} {number thread : Nat} {closing : Closing} {left : List Nat} :
      site.closings[number]? = some closing → closing.stage = .joining (thread :: left) →
        site.crew.line.posts[thread]? = some .gone →
        Step kind site (.proceed number) (site.moved number closing (.joining left))
  | settle {site : Site} {number : Nat} {closing : Closing} :
      site.closings[number]? = some closing → closing.stage = .joining [] →
        Step kind site (.proceed number) (site.moved number closing (.returned true))

abbrev Run (kind : CrewKind) : Site → List Act → Site → Prop := Execution (Step kind)

def historyOf (acts : List Act) : List (Happening Job) := acts.filterMap Act.happening?

theorem historyOf_append (acts later : List Act) :
    historyOf (acts ++ later) = historyOf acts ++ historyOf later :=
  List.filterMap_append

theorem historyOf_concat (acts : List Act) (act : Act) :
    historyOf (acts ++ [act]) = historyOf acts ++ act.happening?.toList := by
  cases found : act.happening? <;> simp [historyOf, found]

/-- A step of a site is a step of its line, or leaves the line alone. -/
theorem line_step {kind : CrewKind} {site next : Site} {act : Act} (step : Step kind site act next) :
    (∃ happening, act.happening? = some happening
        ∧ site.crew.line.Step happening next.crew.line)
      ∨ (act.happening? = none ∧ next.crew.line = site.crew.line) := by
  cases step with
  | submit lineStep _ _ => exact Or.inl ⟨_, rfl, lineStep⟩
  | receive received => exact Or.inl ⟨_, rfl, .receive received⟩
  | finish _ finished => exact Or.inl ⟨_, rfl, .finish finished⟩
  | leave left => exact Or.inl ⟨_, rfl, .leave left⟩
  | hangUp _ _ _ => exact Or.inl ⟨_, rfl, .hangUp⟩
  | call _ | late _ _ _ _ | take _ _ _ | bare _ _ _ | join _ _ _ | settle _ _ =>
      exact Or.inr ⟨rfl, rfl⟩

/-- The line of a site has its own run below the run of the site. -/
theorem line_run {kind : CrewKind} {start site : Site} {acts : List Act}
    (run : Run kind start acts site) :
    Line.Run start.crew.line (historyOf acts) site.crew.line := by
  induction run with
  | start => exact .start
  | step _ step ih =>
      rw [historyOf_concat]
      rcases line_step step with ⟨happening, seen, lineStep⟩ | ⟨unseen, same⟩
      · rw [seen]
        exact .step ih lineStep
      · rw [unseen, same, Option.toList_none, List.append_nil]
        exact ih

end Site

end Reactor
