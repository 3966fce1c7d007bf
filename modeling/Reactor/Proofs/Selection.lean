import Reactor.Proofs.Journal
import Reactor.Selection

/-!
The choice of a transport from outside: it probes and logs and does nothing else, and one that
was set explicitly is used as it is.
-/

namespace Reactor

def Entry.IsProbing : Entry → Prop
  | .call (.probe _) => True
  | .log _ _ => True
  | _ => False

namespace Transport

open Told

private theorem probed_probing (transport : Transport) :
    Only Entry.IsProbing (do Told.call (.probe transport); return transport.probe) :=
  (only_tell trivial).bind (only_pure _)

theorem firstNative_probing (fallback : Option Transport) (loads : List LoadOutcome) :
    Only Entry.IsProbing (firstNative fallback loads) := by
  induction loads generalizing fallback with
  | nil => exact only_pure _
  | cons load rest ih =>
      unfold firstNative
      cases load.isolate with
      | error fault => exact (only_tell trivial).bind (ih fallback)
      | ok transport =>
          refine Only.bind (probed_probing transport) ?_
          split
          · exact only_pure _
          · exact (only_tell trivial).bind (ih _)

theorem firstRegistered_probing (candidates : List Transport) :
    Only Entry.IsProbing (firstRegistered candidates) := by
  induction candidates with
  | nil => exact only_pure _
  | cons candidate rest ih =>
      unfold firstRegistered
      refine Only.bind (probed_probing candidate) ?_
      split
      · exact (only_tell trivial).bind (only_pure _)
      · exact (only_tell trivial).bind ih

theorem nativeOrPortable_probing (host : Host) : Only Entry.IsProbing (nativeOrPortable host) := by
  unfold nativeOrPortable
  refine Only.bind (firstNative_probing none (nativeLoads host)) ?_
  split
  · exact (only_tell trivial).bind (only_pure _)
  · rename_i transport _
    refine Only.bind (probed_probing transport) ?_
    split
    · exact (only_tell trivial).bind (only_pure _)
    · exact (only_tell trivial).bind ((only_tell trivial).bind (only_pure _))

theorem select_probing (host : Host) (preferNative : Bool) (explicit : Option Transport)
    (registry : Registry) : Only Entry.IsProbing (select host preferNative explicit registry) := by
  unfold select
  cases explicit with
  | some transport => exact (only_tell trivial).bind (only_pure _)
  | none =>
      cases preferNative with
      | false => exact (only_tell trivial).bind (only_pure _)
      | true =>
          refine Only.bind ((only_tell trivial).bind (only_pure _)) ?_
          refine Only.bind (firstRegistered_probing registry.transports) ?_
          split
          · exact only_pure _
          · exact nativeOrPortable_probing host

theorem value_select_explicit (host : Host) (preferNative : Bool) (transport : Transport)
    (registry : Registry) :
    (select host preferNative (some transport) registry).value = transport := rfl

/-- Choosing a transport activates no provider. -/
theorem select_activates_nothing (host : Host) (preferNative : Bool) (explicit : Option Transport)
    (registry : Registry) :
    let told := select host preferNative explicit registry
    told.Yields Entry.activation? told.value [] := by
  apply Only.yields
  refine (select_probing host preferNative explicit registry).mono ?_
  intro entry probing
  cases entry with
  | call call =>
      cases call with
      | activate provider context => cases probing
      | _ => rfl
  | deed deed => rfl
  | log actor event => rfl

end Transport

end Reactor
