import Tether.Control.Client
import Tether.Control.Response
import Tether.Url.Basic

/-!
Asking the control plane for a key. The address of the key service is made when the client is set
up, but whether it is one to which a request can be sent shows only when it is asked.
-/

namespace Tether.Control

open Tether.Url

/-- What became of a request, redirections followed. -/
inductive Exchange
  | failed (fault : HttpFault) (text : String)
  | answered (status : Nat) (body : String)
  deriving DecidableEq, Repr

/-- A way to send requests. -/
abbrev Link := Url → Exchange

/-- No connection comes about over this link. -/
def Link.down : Link := fun url =>
  .failed .connect ("error sending request for url (" ++ url.text ++ ")")

/-- The address that a client posts to, if a request can be sent there. -/
def Client.target (c : Client) : Except Error Url :=
  match Url.parse readDomain c.url with
  | .error _ => .error (.http .builder "builder error")
  | .ok url =>
    if url.scheme = "http" ∨ url.scheme = "https" then .ok url
    else .error (.http .builder ("builder error for url (" ++ url.text ++ ")"))

/-- Asks for a key over a link. -/
def Client.ask (c : Client) (link : Link) : Except Error Key := do
  match link (← c.target) with
  | .failed fault text => throw (.http fault text)
  | .answered status body => classify status body

end Tether.Control
