import Reactor.Journal

/-!
The registry of providers and transports: two lists that only grow, in the order of
registration. A shared registry is reached through handles; handles that were cloned from one
another reach the same registry.
-/

namespace Reactor

structure Registry where
  providers : List Provider
  transports : List Transport

namespace Registry

def empty : Registry := ⟨[], []⟩

def isEmpty (registry : Registry) : Bool :=
  registry.providers.isEmpty && registry.transports.isEmpty

def registerProvider (registry : Registry) (provider : Provider) : Told Registry := do
  Told.log .caller .debug .provider "Registered service provider"
    [("provider", .text provider.name), ("kind", .shown provider.kind.text)]
  return { registry with providers := registry.providers ++ [provider] }

def registerTransport (registry : Registry) (transport : Transport) : Told Registry := do
  Told.log .caller .debug .provider "Registered transport" [("transport", .text transport.name)]
  return { registry with transports := registry.transports ++ [transport] }

private def tellFound (capability : String) (count : Nat) : Told Unit :=
  Told.log .caller .debug .provider "Discovered implementations"
    [("capability", .text capability), ("count", .count count)]

def discoverProviders (registry : Registry) : Told (List Provider) := do
  tellFound "service-provider" registry.providers.length
  return registry.providers

def discoverTransports (registry : Registry) : Told (List Transport) := do
  tellFound "transport" registry.transports.length
  return registry.transports

def listing (registry : Registry) : String :=
  "ProviderRegistry \x7b providers: " ++ toString registry.providers.length
    ++ ", transports: " ++ toString registry.transports.length ++ " \x7d"

end Registry

/-- Handles by name, each with the number of the registry it reaches. -/
structure SharedRegistries where
  handles : List (String × Nat)
  tables : List Registry

namespace SharedRegistries

def empty : SharedRegistries := ⟨[], []⟩

private def bindHandle (shared : SharedRegistries) (handle : String) (number : Nat) :
    SharedRegistries :=
  { shared with handles := (handle, number) :: shared.handles.filter (·.1 != handle) }

def create (shared : SharedRegistries) (handle : String) : SharedRegistries :=
  bindHandle { shared with tables := shared.tables ++ [.empty] } handle shared.tables.length

def clone (shared : SharedRegistries) (handle other : String) : SharedRegistries :=
  match shared.handles.lookup other with
  | some number => bindHandle shared handle number
  | none => shared

def get (shared : SharedRegistries) (handle : String) : Registry :=
  ((shared.handles.lookup handle).bind (shared.tables[·]?)).getD .empty

def put (shared : SharedRegistries) (handle : String) (registry : Registry) : SharedRegistries :=
  match shared.handles.lookup handle with
  | some number => { shared with tables := shared.tables.set number registry }
  | none => shared

def registerProvider (shared : SharedRegistries) (handle : String) (provider : Provider) :
    Told SharedRegistries := do
  return shared.put handle (← (shared.get handle).registerProvider provider)

def registerTransport (shared : SharedRegistries) (handle : String) (transport : Transport) :
    Told SharedRegistries := do
  return shared.put handle (← (shared.get handle).registerTransport transport)

end SharedRegistries

end Reactor
