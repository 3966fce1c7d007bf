import Reactor.Engine.Lifecycle
import Reactor.Proofs.Selection

/-!
What a resolution does to the world: it probes transports and activates providers, and nothing
else. Threads, executors, clusters and everything that hears of a running runtime come later.
-/

namespace Reactor

open Told

/-- A log event, the probe of a transport, or the activation of a provider. -/
def Entry.IsAsking : Entry → Prop
  | .log _ _ | .call (.probe _) | .call (.activate _ _) => True
  | _ => False

theorem Entry.IsProbing.isAsking (entry : Entry) (probing : entry.IsProbing) : entry.IsAsking := by
  cases entry with
  | log _ _ => trivial
  | deed _ => exact probing.elim
  | call call =>
      cases call with
      | probe _ => trivial
      | _ => exact probing.elim

theorem Registry.registerAll_asking (registry : Registry) (further : List Provider) :
    Only Entry.IsAsking
      (further.foldlM (fun registry added => registry.registerProvider added) registry) := by
  induction further generalizing registry with
  | nil => exact only_pure _
  | cons provider rest ih =>
      have one : Only Entry.IsAsking (registry.registerProvider provider) :=
        (only_tell trivial).bind (only_pure _)
      rw [List.foldlM_cons]
      exact one.bind (ih _)

namespace Assembly

theorem activate_asking (assembly : Assembly) (registry : Registry) (provider : Provider) :
    Only Entry.IsAsking (assembly.activate registry provider) := by
  unfold activate
  refine (only_tell trivial).bind ((registry.registerAll_asking _).bind ?_)
  split
  · exact only_pure _
  · exact (only_tell trivial).bind (only_pure _)
  · exact (only_tell trivial).bind (only_pure _)

theorem apply_asking (assembly : Assembly) (provider : Provider) (binding : Binding)
    (origin : Origin) : Only Entry.IsAsking (assembly.apply provider binding origin) := by
  unfold apply
  split
  · exact (only_tell trivial).bind (only_pure _)
  · exact (only_tell trivial).bind (only_pure _)

theorem useFactory_asking (assembly : Assembly) (registry : Registry) (factory : Option Provider)
    (expected : ProviderKind) : Only Entry.IsAsking (assembly.useFactory registry factory expected) := by
  unfold useFactory activateFactory
  split
  · split
    · exact (only_tell trivial).bind (only_pure _)
    · split
      · exact (only_tell trivial).bind (only_pure _)
      · refine (assembly.activate_asking _ _).bind ?_
        split
        · exact only_pure _
        · exact (assembly.apply_asking _ _ _).bind (only_pure _)
  · exact only_pure _

theorem useProvider_asking (assembly : Assembly) (registry : Registry) (provider : Provider) :
    Only Entry.IsAsking (assembly.useProvider registry provider) := by
  unfold useProvider
  dsimp only
  split
  · exact (only_tell trivial).bind (only_pure _)
  · split
    · exact (only_tell trivial).bind (only_pure _)
    · refine (assembly.activate_asking _ _).bind ?_
      split
      · exact only_pure _
      · split
        · exact (only_tell trivial).bind (only_pure _)
        · exact (assembly.apply_asking _ _ _).bind (only_pure _)

theorem useProviders_asking (assembly : Assembly) (registry : Registry)
    (providers : List Provider) :
    Only Entry.IsAsking (assembly.useProviders registry providers) := by
  induction providers generalizing assembly registry with
  | nil => exact only_pure _
  | cons provider rest ih => exact (assembly.useProvider_asking registry provider).bind (ih _ _)

theorem fill_asking (assembly : Assembly) (host : Host) (registry : Registry) :
    Only Entry.IsAsking (assembly.fill host registry) := by
  unfold fill
  refine ((Transport.select_probing _ _ _ _).mono Entry.IsProbing.isAsking).bind ?_
  refine (useFactory_asking _ _ _ _).bind ((useFactory_asking _ _ _ _).bind ?_)
  refine Only.bind ((only_tell trivial).bind (only_pure _)) ?_
  exact (useProviders_asking _ _ _).bind (only_pure _)

theorem resolve_asking (assembly : Assembly) (host : Host) (registry : Registry) :
    Only Entry.IsAsking (assembly.resolve host registry) := by
  unfold resolve
  split
  · exact only_pure _
  · split
    · exact only_pure _
    · exact (assembly.fill_asking host registry).bind (only_pure _)

theorem checkObservability_asking (assembly : Assembly) :
    Only Entry.IsAsking assembly.checkObservability := by
  unfold checkObservability
  dsimp only
  split
  · refine Only.bind (only_tell trivial) ?_
    split
    · exact only_tell trivial
    · exact only_pure ()
  · split
    · exact only_tell trivial
    · exact only_pure ()

theorem prepare_asking (assembly : Assembly) (host : Host) (registry : Registry) :
    Only Entry.IsAsking (assembly.prepare host registry) := by
  unfold prepare
  refine (assembly.resolve_asking host registry).bind ?_
  dsimp only
  split
  · exact only_pure _
  · exact (checkObservability_asking _).bind (only_pure _)

end Assembly

end Reactor
