import AdminConsole.Digest.Hmac
import AdminConsole.Text.Hex
import AdminConsole.Text.Utf8

/-!
# Signatures of payloads

A payload is signed with a shared secret, so that the receiver can tell that it was not changed.
-/

namespace AdminConsole.Signature

/-- The signature of a payload in hexadecimal digits. -/
def sign (secret : String) (payload : List UInt8) : String :=
  Hex.ofBytes (Hmac.authenticate (Utf8.encode secret) payload)

/-- The signature as it stands in a header. -/
def header (secret : String) (payload : List UInt8) : String :=
  "sha256=" ++ sign secret payload

end AdminConsole.Signature
