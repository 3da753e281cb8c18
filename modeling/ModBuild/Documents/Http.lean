import ModBuild.Documents.Network
import ModBuild.Url.Address

/-!
# `ModBuild.Documents.Http`: requests that nobody answers

A client sends requests to the address that a text gives. It cannot be made with a user agent that
fits in no header. Here every connection is refused, so the failures are all there is: what tells
them apart is how far a request gets.

* `Http.connect` gives the network behind a client.
-/

set_option autoImplicit false

namespace ModBuild.Http

/-- The text fits in a header. -/
def isHeaderText (text : String) : Bool :=
  text.toList.all fun c => c = '\t' || (0x20 ≤ c.toNat && c.toNat ≠ 0x7F)

/-- Why a request for an address fails. An address is reported without its user. -/
def failure (url : String) : String :=
  match Url.Address.ofText url with
  | .error _ => "builder error"
  | .ok (.web address) =>
    if address.scheme = "http" || address.scheme = "https" then
      "error sending request for url (" ++ address.withoutUser.text ++ ")"
    else "builder error for url (" ++ address.withoutUser.text ++ ")"
  | .ok address => "builder error for url (" ++ address.text ++ ")"

/-- A network on which every connection is refused. -/
def refused : Network :=
  ⟨fun _ url => .error (.network url (failure url)), []⟩

/-- The network behind a client with a user agent. -/
def connect (userAgent : String) : Except BuildError Network :=
  if isHeaderText userAgent then .ok refused
  else .error (.network "" "failed to build HTTP client: builder error")

end ModBuild.Http
