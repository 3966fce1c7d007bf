import Reactor.Pool
import Reactor.Proofs.Workshop

/-!
The start of a pool. It asks for its threads one after the other; once one of them cannot be made
it asks for no more, and waits for those it has before it reports the failure.
-/

namespace Reactor

open Told

namespace Pool

def wanted (shape : PoolShape) (index : Nat) : Descriptor :=
  ⟨threadName shape index, shape.role, shape.budget⟩

def Regular (shape : PoolShape) : Prop :=
  ∀ name, Descriptor.create? name shape.role shape.budget = some ⟨name, shape.role, shape.budget⟩

variable {shape : PoolShape}

theorem regular_worker (worker : shape.role = .worker) : Regular shape := by
  intro name
  unfold Descriptor.create?
  rw [worker]
  rfl

theorem makeThreads_asks (regular : Regular shape) :
    AsksInTurn (makeThreads shape) (wanted shape) (fun _ thread => thread)
      (fun made workshop => (.ok (), made, workshop))
      (fun made index halt workshop =>
        (.error (halt.mapError (.noThread (threadName shape index))), made, workshop)) where
  zero _ _ _ := rfl
  succ workshop made index remaining := by
    have suits : Descriptor.create? (threadName shape index) shape.role shape.budget
        = some (wanted shape index) := regular _
    rw [makeThreads]
    dsimp only
    split
    · rename_i missing
      rw [suits] at missing
      cases missing
    · rename_i descriptor found
      rw [suits] at found
      cases found
      rfl

theorem start_made (workshop : Workshop) (regular : Regular shape) {threads : List RuntimeThread}
    (inhabited : shape.size ≠ 0) (fits : bytesPerThread * shape.size ≤ allocationLimit)
    (makes : workshop.factory.Makes workshop.calls (wantedFrom (wanted shape) 0 shape.size) threads) :
    (start workshop shape).Yields Entry.doing?
      (.ok ⟨shape, .create threads⟩, workshop.enlistAll threads)
      (creations workshop.factory workshop.metrics (wantedFrom (wanted shape) 0 shape.size) threads) := by
  unfold start
  rw [if_neg inhabited, if_neg (Nat.not_lt.mpr fits)]
  have made := (makeThreads_asks regular).complete workshop makes
  rw [itemsFrom_thread] at made
  exact made.andLast ((yields_tell _).andThen (yields_pure _))

theorem regular_or_not (shape : PoolShape) :
    Regular shape ∨ ∀ name, Descriptor.create? name shape.role shape.budget = none := by
  unfold Regular Descriptor.create?
  by_cases unsuited : shape.role = .eventLoop ∧ Descriptor.suitsEventLoop shape.budget = false
  · exact Or.inr fun _ => if_pos unsuited
  · exact Or.inl fun _ => if_neg unsuited

/-- A pool that was started has made all of its threads, whatever its shape. -/
theorem made_of_start {workshop left : Workshop} {pool : Pool}
    (started : (start workshop shape).value = (.ok pool, left)) :
    ∃ threads,
      workshop.factory.Makes workshop.calls (wantedFrom (wanted shape) 0 shape.size) threads
        ∧ (start workshop shape).Yields Entry.doing?
          (.ok ⟨shape, .create threads⟩, workshop.enlistAll threads)
          (creations workshop.factory workshop.metrics (wantedFrom (wanted shape) 0 shape.size)
            threads) := by
  by_cases empty : shape.size = 0
  · unfold start at started
    rw [if_pos empty] at started
    cases started
  · by_cases large : allocationLimit < bytesPerThread * shape.size
    · unfold start at started
      rw [if_neg empty, if_pos large] at started
      cases started
    · rcases regular_or_not shape with regular | irregular
      · rcases (makeThreads_asks regular).outcome workshop [] 0 shape.size with
          ⟨threads, makes, _⟩ | ⟨others, place, halt, rest, stops⟩
        · exact ⟨threads, makes,
            start_made workshop regular empty (Nat.not_lt.mp large) makes⟩
        · unfold start at started
          rw [if_neg empty, if_neg large, Told.value_bind, stops] at started
          cases halt <;> cases started
      · obtain ⟨size, positive⟩ := Nat.exists_eq_succ_of_ne_zero empty
        unfold start at started
        rw [if_neg empty, if_neg large, Told.value_bind, positive, makeThreads] at started
        dsimp only at started
        rw [irregular] at started
        cases started

/-- A pool that cannot be started leaves no thread behind. -/
theorem start_failed (workshop : Workshop) (regular : Regular shape)
    {threads : List RuntimeThread} {index : Nat} {reason : String} (within : index < shape.size)
    (fits : bytesPerThread * shape.size ≤ allocationLimit)
    (makes : workshop.factory.Makes workshop.calls (wantedFrom (wanted shape) 0 index) threads)
    (refused : workshop.factory.answer (workshop.calls + index) (wanted shape index)
      = .error reason) :
    (start workshop shape).Yields Entry.doing?
      (.error (.failed (.noThread (threadName shape index) reason)),
        { (workshop.enlistAll threads).forgetAll threads with
          calls := workshop.calls + index + 1 })
      (creations workshop.factory workshop.metrics (wantedFrom (wanted shape) 0 index) threads
        ++ [.call (.newThread workshop.factory (wanted shape index))] ++ farewells threads) := by
  unfold start
  rw [if_neg (Nat.ne_zero_of_lt within), if_neg (Nat.not_lt.mpr fits)]
  have stopped := (makeThreads_asks regular).failed workshop within makes refused
  rw [itemsFrom_thread] at stopped
  exact stopped.bind ((Workshop.joinAll_yields _ threads).andLast (yields_pure _))

end Pool

end Reactor
