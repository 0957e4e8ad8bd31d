import AdminConsole.Audit.Device
import AdminConsole.Net.Address
import AdminConsole.Text.Split

/-!
# Where a request came from

The address and the device that are recorded with an action. Behind a trusted proxy the address is
the first one that the proxy names, if it is one; then the proxy's single address; and in the last
resort, or without a trusted proxy, that of the peer.
-/

namespace AdminConsole

/-- Address and device of a request, as recorded. -/
structure Origin where
  ip : String
  device : String
  deriving DecidableEq, Repr

namespace Origin

/-- The address that some characters denote when trimmed. -/
def address? (cs : List Char) : Option IpAddress :=
  IpAddress.parse? (String.ofList (Text.trimChars cs))

/-- The first address of the list of forwarding hops. -/
def forwardedFor? (h : Headers) : Option IpAddress :=
  (h.readable? "x-forwarded-for").bind fun s => address? (Text.upTo ',' s.toList)

/-- The address that the proxy names on its own. -/
def realIp? (h : Headers) : Option IpAddress :=
  (h.readable? "x-real-ip").bind fun s => address? s.toList

/-- The address that a request came from. -/
def clientAddress (trustProxy : Bool) (peer : Option IpAddress) (h : Headers) : IpAddress :=
  let direct := peer.getD IpAddress.loopback
  if trustProxy then (forwardedFor? h <|> realIp? h).getD direct else direct

/-- The origin of a request with these headers from this peer, whose user agent is recognised by
`recognise`. -/
def ofRequest (recognise : String → Option Agent) (trustProxy : Bool)
    (peer : Option IpAddress) (h : Headers) : Origin where
  ip := (clientAddress trustProxy peer h).text
  device := Device.ofHeaders recognise h

end Origin

end AdminConsole
