import Reactor.Proofs.Assembly.Discovery

/-!
What a caller does with an assembly before its build: it sets things and asks for resolutions, in
any order. Until the first resolution every slot holds the part that the caller set last.
-/

namespace Reactor

inductive Setting where
  | options (options : Options)
  | config (config : Json.Value)
  | transport (transport : Transport)
  | part (binding : Binding)
  | metricsFactory (factory : Provider)
  | tracerFactory (factory : Provider)
  | blockedHandler (handler : BlockedHandler)

def Setting.part? : Setting → Option Binding
  | .part binding => some binding
  | _ => none

namespace Assembly

def accept (assembly : Assembly) : Setting → Assembly
  | .options options => { assembly with options }
  | .config config => { assembly with config := some config }
  | .transport transport => { assembly with transport := some transport }
  | .part binding => assembly.set binding
  | .metricsFactory factory => { assembly with metricsFactory := some factory }
  | .tracerFactory factory => { assembly with tracerFactory := some factory }
  | .blockedHandler handler => { assembly with blockedHandler := some handler }

def configured (host : Host) (settings : List Setting) : Assembly :=
  settings.foldl accept (create host)

theorem slots_accept (assembly : Assembly) (setting : Setting) :
    (assembly.accept setting).slots = assembly.slots.bindAll .explicit setting.part?.toList := by
  cases setting <;> rfl

theorem resolved_accept (assembly : Assembly) (setting : Setting) :
    (assembly.accept setting).resolved = assembly.resolved := by
  cases setting <;> rfl

theorem Shows.accept {assembly : Assembly} {explicit : List Binding}
    (exposed : assembly.Shows explicit) (setting : Setting) :
    (assembly.accept setting).Shows (explicit ++ setting.part?.toList) := by
  intro kind
  rw [slots_accept]
  exact exposed.filledBy setting.part?.toList kind

theorem shows_create (host : Host) : (create host).Shows [] := fun kind =>
  Slots.held_empty kind

private theorem fresh_foldl (settings : List Setting) (assembly : Assembly)
    (explicit : List Binding) (exposed : assembly.Shows explicit)
    (unresolved : assembly.resolved = false) :
    (settings.foldl accept assembly).Shows (explicit ++ settings.filterMap Setting.part?)
      ∧ (settings.foldl accept assembly).resolved = false := by
  induction settings generalizing assembly explicit with
  | nil =>
      rw [List.filterMap_nil, List.append_nil]
      exact ⟨exposed, unresolved⟩
  | cons setting rest ih =>
      have later := ih (assembly.accept setting) _ (exposed.accept setting)
        ((resolved_accept assembly setting).trans unresolved)
      have same : (setting :: rest).filterMap Setting.part?
          = setting.part?.toList ++ rest.filterMap Setting.part? := by
        cases found : setting.part? <;> simp [found]
      rw [same, ← List.append_assoc]
      exact later

theorem shows_configured (host : Host) (settings : List Setting) :
    (configured host settings).Shows (settings.filterMap Setting.part?) :=
  (fresh_foldl settings (create host) [] (shows_create host) rfl).1

theorem resolved_configured (host : Host) (settings : List Setting) :
    (configured host settings).resolved = false :=
  (fresh_foldl settings (create host) [] (shows_create host) rfl).2

end Assembly

end Reactor
