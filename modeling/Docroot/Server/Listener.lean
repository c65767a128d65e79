import Docroot.Server.Error
import Docroot.Settings

/-!
# Listening

A listener takes an address that no other listener holds. Two listeners are in each other's way if
they are on one port and on the same address, or if one of them is on all addresses. Port 0 stands
for any free port and is in no one's way.

An address that was held by a listener now closed can be taken at once.
-/

namespace Docroot.Server

/-- All addresses of the older protocol. -/
def anyAddress : IpAddress := .v4 0 0 0 0

/-- The address that the server listens on: all addresses, and the fixed port. -/
def listenAddress : SocketAddress := { ip := anyAddress, port := listenPort }

/-- An address that stands for all of its protocol. -/
def IpAddress.isWildcard : IpAddress → Bool
  | .v4 a b c d => a + b + c + d == 0
  | .v6 groups => groups.all (· == 0)

/-- Listeners on the two addresses are in each other's way. -/
def SocketAddress.conflicts (a b : SocketAddress) : Bool :=
  a.port != 0 && a.port == b.port && (a.ip == b.ip || a.ip.isWildcard || b.ip.isWildcard)

/-- The address is in use. -/
def addressInUse : IoError := .os 98

/-- **Takes an address for a listener**, given the addresses held by others. -/
def bind (held : List SocketAddress) (addr : SocketAddress) : Except StartError SocketAddress :=
  if held.any addr.conflicts then .error (.bind addr addressInUse) else .ok addr

end Docroot.Server
