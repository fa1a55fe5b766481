import GatewayFeed.Fetch.Exchange
import GatewayFeed.Net.RequestTarget

/-!
Sending a request. Redirections are followed, ten at most, and credentials do not go along from one
server to another.
-/

namespace GatewayFeed.Fetch

/-- How sending a request ends. -/
inductive Delivery where
  | answered (r : Response)
  | failed (reason : String)
  /-- No answer comes. -/
  | silent
  deriving DecidableEq, Repr

def maxRedirects : Nat := 10

def forUrl (reason : String) (u : Url) : String := reason ++ " for url (" ++ u.text ++ ")"

def isWebScheme (u : Url) : Bool := u.scheme = "http".toList || u.scheme = "https".toList

def isRedirect (status : Nat) : Bool :=
  status = 301 || status = 302 || status = 303 || status = 307 || status = 308

def isTarget (u : Url) : Bool := RequestTarget.isTarget u.text.toList

/-- Where a response sends its client, if it names a place that can be asked. -/
def redirectUrl? (u : Url) (r : Response) : Option Url :=
  if isRedirect r.status then do
    let text ← Utf8.decode? (← r.header? "location")
    let v ← (u.join text).toOption
    if isTarget v then some { v with fragment := none } else none
  else none

def sameServer (u v : Url) : Bool := u.host = v.host && u.portOrUsual = v.portOrUsual

/-- The request that follows a redirection from `u` to `v`. The credentials of the first request
come along if the server is that of the request before. -/
def Request.redirected (origin : Request) (u v : Url) : Request where
  url := v
  authorization := if sameServer u v then origin.authorization else none

/-- Sends a request and follows up to `left` redirections; the traffic grows by what arrives. An
answer that does not come is reported for the URL of `origin`, which was sent first. -/
def send (server : Server) (origin : Request) : Nat → Request → Traffic → Delivery × Traffic
  | left, r, traffic =>
    match server traffic r with
    | .unreachable => (.failed (forUrl "error sending request" origin.url), traffic)
    | .broken => (.failed (forUrl "error sending request" origin.url), traffic ++ [r])
    | .silent => (.silent, traffic ++ [r])
    | .response x =>
      match redirectUrl? r.url x with
      | none => (.answered x, traffic ++ [r])
      | some u =>
        match left with
        | 0 => (.failed (forUrl "error following redirect" r.url), traffic ++ [r])
        | left + 1 =>
          if isWebScheme u then
            send server origin left (origin.redirected r.url u) (traffic ++ [r])
          else (.failed (forUrl "builder error" u), traffic ++ [r])

end GatewayFeed.Fetch
