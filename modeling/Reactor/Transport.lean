import Reactor.Text.Quoted

/-!
Transports: the mechanisms by which a runtime waits for its sockets. Some are native to one
family of systems, the portable one works anywhere. A probe tells whether a transport can be
used on this host.
-/

namespace Reactor

inductive TransportKind where
  | epoll
  | kqueue
  | portable
deriving DecidableEq, Inhabited

namespace TransportKind

def text : TransportKind → String
  | .epoll => "epoll"
  | .kqueue => "kqueue"
  | .portable => "portable"

def listing : TransportKind → String
  | .epoll => "NativeEpoll"
  | .kqueue => "NativeKqueue"
  | .portable => "PortableFallback"

def isNative : TransportKind → Bool
  | .portable => false
  | _ => true

end TransportKind

structure ProbeFault where
  reason : String
deriving DecidableEq

def ProbeFault.message (fault : ProbeFault) : String := "unavailable: " ++ fault.reason

structure Transport where
  kind : TransportKind
  name : String
  -- Why it cannot be used; none if it can.
  down : Option String
  builtIn : Bool
deriving DecidableEq, Inhabited

namespace Transport

def probe (transport : Transport) : Except ProbeFault Unit :=
  match transport.down with
  | none => .ok ()
  | some reason => .error ⟨reason⟩

def isAvailable (transport : Transport) : Bool := transport.down.isNone

def listing (transport : Transport) : String :=
  "Transport \x7b name: " ++ Text.quoted transport.name ++ ", kind: " ++ transport.kind.listing
    ++ " \x7d"

def portable : Transport := ⟨.portable, "portable", none, true⟩

/-- The transport of Linux hosts, with the reason why this host lacks it. -/
def epoll (down : Option String) : Transport := ⟨.epoll, "epoll", down, true⟩

/-- The transport of BSD and Darwin hosts, which no Linux host has. -/
def kqueue : Transport := ⟨.kqueue, "kqueue", some "kqueue requires a BSD or Darwin kernel", true⟩

def noDescriptor : String := "epoll_create1 failed: Too many open files (os error 24)"

end Transport

inductive LoadOutcome where
  | loads (transport : Transport)
  | fails (reason : String)
  | panics (text : Option String)
deriving DecidableEq

/-- Loads a transport; whatever goes wrong makes it unavailable and nothing worse. -/
def LoadOutcome.isolate : LoadOutcome → Except ProbeFault Transport
  | .loads transport => .ok transport
  | .fails reason => .error ⟨reason⟩
  | .panics text => .error ⟨text.getD "transport loader panicked"⟩

end Reactor
