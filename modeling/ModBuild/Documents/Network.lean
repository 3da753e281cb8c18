import ModBuild.Error

/-!
# `ModBuild.Documents.Network`: what answers requests

A network gives a text or a failure each time that it is asked for an address, and the addresses are
kept in the order in which they were asked for. What it gives can depend on them, so an address that
is asked for twice need not be answered alike.

* `Network.ask` is the only way to reach a network.
* `Network.ofPages` serves given pages, or nothing while it is offline.
-/

set_option autoImplicit false

namespace ModBuild

/-- What answers requests. -/
structure Network where
  /-- The answer for an address, after some others were asked for. -/
  answer : List String → String → Except BuildError String
  /-- The addresses that were asked for. -/
  requests : List String

namespace Network

/-- Asks for the text at an address. -/
def ask (network : Network) (url : String) : Network × Except BuildError String :=
  ({ network with requests := network.requests ++ [url] }, network.answer network.requests url)

/-- The answer for an address when some pages are there. -/
def answerOfPages (pages : List (String × String)) (online : Bool) (url : String) :
    Except BuildError String :=
  if !online then .error (.network url "network unavailable")
  else
    match pages.lookup url with
    | some body => .ok body
    | none => .error (.network url "HTTP status client error (404 Not Found)")

/-- A network of given pages, of two for one address the first. -/
def ofPages (pages : List (String × String)) (online : Bool) : Network :=
  ⟨fun _ => answerOfPages pages online, []⟩

end Network

end ModBuild
