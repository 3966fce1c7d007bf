import Reactor.Log
import Reactor.Provider

/-!
What a runtime does, in order: the calls it makes on the parts bound to it, what becomes of its
own threads, and the log events it emits. `Told α` is a result with the entries that led to it.
-/

namespace Reactor

inductive Call where
  | probe (transport : Transport)
  | activate (provider : Provider) (context : ActivationContext)
  | metrics (sink : MetricsSink) (hook : MetricsHook)
  | closeTracer (tracer : Tracer)
  | closeResolver (resolver : FileResolver)
  | initSelector (selector : NodeSelector) (manager : ClusterManager)
  | joinCluster (manager : ClusterManager)
  | leaveCluster (manager : ClusterManager)
  | newThread (factory : ThreadFactory) (descriptor : Descriptor)
  | newExecutor (factory : ExecutorFactory) (shape : PoolShape)
  | handleBlocked (report : BlockedThread)

inductive Deed where
  | joined (key : Nat)
  | released (key : Nat)
  | watchdogStarted
  | watchdogStopped
deriving DecidableEq

inductive Actor where
  -- A thread that is none of the runtime's.
  | caller
  | thread (key : Nat)
  | watchdog
deriving DecidableEq, Inhabited

inductive Entry where
  | call (call : Call)
  | deed (deed : Deed)
  | log (actor : Actor) (event : LogEvent)

/-- A result with the entries that led to it, in order. -/
structure Told (α : Type) where
  value : α
  entries : List Entry

namespace Told

instance : Monad Told where
  pure value := ⟨value, []⟩
  bind first next :=
    let second := next first.value
    ⟨second.value, first.entries ++ second.entries⟩

def tell (entry : Entry) : Told Unit := ⟨(), [entry]⟩

def call (call : Call) : Told Unit := tell (.call call)

def deed (deed : Deed) : Told Unit := tell (.deed deed)

def log (actor : Actor) (level : Level) (target : Target) (message : String)
    (fields : List (String × LogValue)) : Told Unit :=
  tell (.log actor ⟨level, target, message, fields⟩)

@[simp] theorem value_pure {α : Type} (value : α) : (pure value : Told α).value = value := rfl

@[simp] theorem entries_pure {α : Type} (value : α) : (pure value : Told α).entries = [] := rfl

@[simp] theorem value_bind {α β : Type} (first : Told α) (next : α → Told β) :
    (first >>= next).value = (next first.value).value := rfl

@[simp] theorem entries_bind {α β : Type} (first : Told α) (next : α → Told β) :
    (first >>= next).entries = first.entries ++ (next first.value).entries := rfl

@[simp] theorem value_map {α β : Type} (change : α → β) (told : Told α) :
    (change <$> told).value = change told.value := rfl

@[simp] theorem entries_map {α β : Type} (change : α → β) (told : Told α) :
    (change <$> told).entries = told.entries := List.append_nil _

@[simp] theorem entries_tell (entry : Entry) : (tell entry).entries = [entry] := rfl

@[simp] theorem entries_call (call : Call) : (Told.call call).entries = [.call call] := rfl

@[simp] theorem entries_deed (deed : Deed) : (Told.deed deed).entries = [.deed deed] := rfl

@[simp] theorem entries_log (actor : Actor) (level : Level) (target : Target) (message : String)
    (fields : List (String × LogValue)) :
    (Told.log actor level target message fields).entries
      = [.log actor ⟨level, target, message, fields⟩] := rfl

instance : LawfulMonad Told :=
  LawfulMonad.mk' Told
    (by intros; simp [Functor.map])
    (by intros; simp [Bind.bind, Pure.pure])
    (by intros; simp [Bind.bind, List.append_assoc])

end Told

def Counters.after (counters : Counters) (entries : List Entry) : Counters :=
  entries.foldl
    (fun counters entry =>
      match entry with
      | .call (.metrics .counters hook) => counters.absorb hook
      | _ => counters)
    counters

end Reactor
