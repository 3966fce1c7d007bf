import Mathlib.Data.List.Induction

/-!
Executions of a system that moves by labelled steps: any number of steps one after the other, with what
was done in that order. Two runs in a row are one, and a run stops wherever it is cut.
-/

namespace Reactor

inductive Execution {S A : Type} (Step : S → A → S → Prop) (start : S) : List A → S → Prop where
  | start : Execution Step start [] start
  | step {acts : List A} {state next : S} {act : A} :
      Execution Step start acts state → Step state act next → Execution Step start (acts ++ [act]) next

namespace Execution

variable {S A : Type} {Step : S → A → S → Prop} {start middle state : S}

theorem append {first second : List A} (before : Execution Step start first middle)
    (after : Execution Step middle second state) : Execution Step start (first ++ second) state := by
  induction after with
  | start =>
      rw [List.append_nil]
      exact before
  | step _ step ih =>
      rw [← List.append_assoc]
      exact ih.step step

theorem last {acts : List A} {act : A} (run : Execution Step start (acts ++ [act]) state) :
    ∃ earlier, Execution Step start acts earlier ∧ Step earlier act state := by
  generalize same : acts ++ [act] = all at run
  cases run with
  | start => simp at same
  | step earlier step =>
      obtain ⟨rfl, single⟩ := List.append_inj' same rfl
      cases single
      exact ⟨_, earlier, step⟩

theorem step_between {before after : List A} {act : A}
    (run : Execution Step start (before ++ act :: after) state) :
    ∃ earlier later, Execution Step start before earlier ∧ Step earlier act later := by
  induction after using List.reverseRecOn generalizing state with
  | nil =>
      obtain ⟨earlier, first, step⟩ := run.last
      exact ⟨earlier, state, first, step⟩
  | append_singleton after last ih =>
      rw [← List.cons_append, ← List.append_assoc] at run
      obtain ⟨earlier, first, _⟩ := run.last
      exact ih first

end Execution

end Reactor
