import Reactor.Registry

/-!
The choice of a transport. One that was set explicitly is used as it is; the portable one is
used unless native transports are preferred; then the first registered transport that can be
used wins, then the first native one of the host, and the portable one closes the list.
-/

namespace Reactor

namespace Transport

/-- The attempts to load the native transports of a host, in the order of preference. -/
def nativeLoads (host : Host) : List LoadOutcome :=
  [.loads (.epoll host.epollDown), .loads .kqueue]

private def note (level : Level) (message : String) (fields : List (String × LogValue)) :
    Told Unit :=
  Told.log .caller level .transport message fields

private def probed (transport : Transport) : Told (Except ProbeFault Unit) := do
  Told.call (.probe transport)
  return transport.probe

/-- The first loaded transport that can be used, else the first that loads, else `fallback`. -/
def firstNative (fallback : Option Transport) : List LoadOutcome → Told (Option Transport)
  | [] => return fallback
  | load :: loads => do
    match load.isolate with
    | .error fault =>
      note .debug "Native transport failed to load" [("reason", .text fault.reason)]
      firstNative fallback loads
    | .ok transport =>
      match ← probed transport with
      | .ok () => return some transport
      | .error fault =>
        note .debug "Native transport unavailable"
          [("transport", .text transport.name), ("reason", .text fault.reason)]
        firstNative (fallback <|> some transport) loads

/-- The native transport of the host, even if it cannot be used. -/
def native (host : Host) : Told (Option Transport) := firstNative none (nativeLoads host)

def firstRegistered : List Transport → Told (Option Transport)
  | [] => return none
  | candidate :: candidates => do
    match ← probed candidate with
    | .ok () =>
      note .info "Selected registered transport" [("transport", .text candidate.name)]
      return some candidate
    | .error fault =>
      note .debug "Registered transport unavailable, skipping"
        [("transport", .text candidate.name), ("reason", .text fault.reason)]
      firstRegistered candidates

/-- A native transport that can be used, or the portable one. -/
def nativeOrPortable (host : Host) : Told Transport := do
  match ← native host with
  | none =>
    note .info "No native transport on this host, using portable transport" []
    return portable
  | some transport =>
    match ← probed transport with
    | .ok () =>
      note .info "Selected native transport" [("transport", .text transport.name)]
      return transport
    | .error fault =>
      Told.call (.probe transport)
      note .info "Native transport unavailable, falling back to portable transport"
        [("transport", .text transport.name), ("reason", .shown fault.reason)]
      return portable

def select (host : Host) (preferNative : Bool) (explicit : Option Transport)
    (registry : Registry) : Told Transport := do
  match explicit with
  | some transport =>
    note .info "Using explicitly configured transport" [("transport", .text transport.name)]
    return transport
  | none =>
    if preferNative then
      let candidates ← registry.discoverTransports
      match ← firstRegistered candidates with
      | some transport => return transport
      | none => nativeOrPortable host
    else
      note .debug "Native transport not preferred, using portable transport" []
      return portable

end Transport

end Reactor
