/-
**Connections of subscriptions.**

A subscription has a connection of its own, which begins with a handshake: the address is looked
at, then the configured headers, then whether one can connect there at all.

Main definitions:

* `SocketEndpoint` — where subscriptions go and with what;
* `Handshake`, `SocketEndpoint.handshake` — what opens a connection.
-/

import FieldQuery.Transport.Config
import FieldQuery.Transport.Header
import FieldQuery.Transport.Uri

set_option autoImplicit false

namespace FieldQuery

/-- Where subscriptions go and with which headers, and the name sent with each query. -/
structure SocketEndpoint where
  address : String
  headers : Entries String
  operationName : Option String
deriving DecidableEq

/-- What opens a connection: whether it is secret, where it goes, and what is asked for there. -/
structure Handshake where
  secure : Bool
  host : String
  port : Nat
  target : String
  headers : Dictionary String
deriving DecidableEq

namespace SocketEndpoint

/-- The endpoint that a configuration describes; its headers are looked at by the handshake. -/
def ofConfig (c : Config) : Except Failure SocketEndpoint :=
  match c.subscriptionUrl? with
  | some address => .ok ⟨address, c.headers.entries, c.operationName⟩
  | none => .error (.noSubscriptionUrl c.endpoint)

/-- A query as it is sent over the connection. -/
def document (e : SocketEndpoint) (query : String) : Request :=
  ⟨query, Dictionary.empty, e.operationName⟩

/-- The header that names the protocol spoken on the connection. -/
def protocolHeader : String × String := ("sec-websocket-protocol", "graphql-transport-ws")

/-- The address of the endpoint, which has to name a host. -/
def uri (e : SocketEndpoint) : Except ConnectFault Uri := do
  let uri ← (Uri.read e.address).mapError .badUri
  if uri.authority.isEmpty then .error .noHost
  else if uri.location.isEmpty then .error .emptyHost
  else return uri

/-- Whether a connection by a scheme is secret, and its standard port. -/
def mode (scheme : Option (List Char)) : Except ConnectFault (Bool × Nat) :=
  if scheme = some ['w', 's'] then .ok (false, 80)
  else if scheme = some ['w', 's', 's'] then .ok (true, 443)
  else .error .otherScheme

/-- A value that can be written into a handshake: ASCII alone. -/
def isWritable (value : String) : Bool := value.toList.all fun c => c.toNat < 128

/-- The handshake with an address and headers that have been looked at. -/
def handshakeWith (uri : Uri) (headers : Dictionary String) : Except ConnectFault Handshake := do
  let (secure, standardPort) ← mode uri.scheme
  if headers.entries.all fun (_, v) => isWritable v then
    return ⟨secure, uri.host, uri.port?.getD standardPort, uri.targetText, headers⟩
  else .error .unwritable

/-- What opens a connection to an endpoint. -/
def handshake (e : SocketEndpoint) : Except Failure Handshake := do
  let uri ← e.uri.mapError .unconnected
  let headers ← Header.addAll e.headers (Dictionary.empty.insert protocolHeader.1 protocolHeader.2)
  (handshakeWith uri headers).mapError .unconnected

end SocketEndpoint

end FieldQuery
