import BlogSearch.Network.Basic
import BlogSearch.Network.Cookie
import BlogSearch.Network.Target
import BlogSearch.Text.Utf8

/-!
# A server with prepared responses

The server answers the first request with the first of its responses, the second with the second and
so on, whatever is asked.  The client side of the exchange keeps cookies and follows redirects, so
one request of the client may be several on the wire.  A server that is down refuses every
connection, and then nothing reaches the wire.
-/

namespace BlogSearch

/-- What becomes of a request that has arrived. -/
inductive Fate where
  | answered
  | dropped
  | silent
  deriving DecidableEq

/-- A prepared response.  One that is held back waits for the requests that overlap with it. -/
structure Response where
  status : Nat
  body : List UInt8
  cookies : List String
  location : Option String
  fate : Fate
  held : Bool
  deriving DecidableEq

/-- A request as it was seen on the wire, with the cookies it carried. -/
structure WireRequest where
  request : Request
  cookies : List String
  deriving DecidableEq

/-- A server, the cookies of its client, and the requests it has seen. -/
structure Server where
  up : Bool
  /-- The seconds that the client waits for an answer. -/
  patience : Nat
  script : List Response
  jar : Jar
  log : List WireRequest
  deriving DecidableEq

namespace Response

/-- The answer of a server that has no response left. -/
def unscripted : Response :=
  ⟨500, Text.Utf8.encode "no response scripted", [], none, .answered, false⟩

/-- Two statuses never come with a body. -/
def content (r : Response) : List UInt8 :=
  if r.status == 204 || r.status == 304 then [] else r.body

/-- The statuses that send the client on to another location. -/
def isRedirect (status : Nat) : Bool :=
  status == 301 || status == 302 || status == 303 || status == 307 || status == 308

/-- The request with which the client follows a response.  Only the two younger statuses keep the
method and the body. -/
def redirect? (r : Response) (request : Request) : Option Request :=
  if isRedirect r.status then
    r.location.map fun location =>
      let path := Target.resolve request.path location
      if r.status == 307 || r.status == 308 then { request with path := path }
      else ⟨.get, path, none⟩
  else none

end Response

namespace Server

/-- What a delivered response comes to. -/
inductive Delivery where
  | reply (reply : Reply)
  | follow (request : Request)

/-- A request that waits for a response that is held back, with the redirects it may still follow. -/
structure Held where
  redirectsLeft : Nat
  request : Request
  response : Response
  deriving DecidableEq

/-- How far a request has come. -/
inductive Progress where
  | replied (reply : Reply)
  | held (h : Held)

/-- The number of redirects that the client follows. -/
def redirectLimit : Nat := 10

/-- The path without its query string. -/
def barePath (path : String) : List Char :=
  path.toList.takeWhile (· != '?')

/-- A request arrives and takes the next response; none when the server is down. -/
def arrive (s : Server) (request : Request) : Server × Option Response :=
  if s.up then
    let seen : WireRequest := ⟨request, s.jar.carried (barePath request.path)⟩
    let logged := { s with log := s.log ++ [seen] }
    match s.script with
    | [] => (logged, some Response.unscripted)
    | r :: rest => ({ logged with script := rest }, some r)
  else (s, none)

/-- A response is delivered: its cookies are stored, and it is the reply unless it is followed. -/
def deliver (s : Server) (request : Request) (r : Response) : Server × Delivery :=
  match r.fate with
  | .dropped => (s, .reply .failed)
  | .silent => (s, .reply (.timedOut s.patience))
  | .answered =>
      let stored := { s with jar := s.jar.receive (barePath request.path) r.cookies }
      match r.redirect? request with
      | some next => (stored, .follow next)
      | none => (stored, .reply (.answer r.status (Text.Utf8.decodeLossy r.content)))

/-- Delivers a response and follows its redirects, up to a response that is held back if those are
respected. -/
def settle (respectHeld : Bool) (redirectsLeft : Nat) (s : Server) (request : Request)
    (r : Response) : Server × Progress :=
  match s.deliver request r with
  | (s, .reply reply) => (s, .replied reply)
  | (s, .follow next) =>
      match redirectsLeft with
      | 0 => (s, .replied .failed)
      | left + 1 =>
          match s.arrive next with
          | (s, none) => (s, .replied .failed)
          | (s, some r) =>
              if respectHeld && r.held then (s, .held ⟨left, next, r⟩)
              else settle respectHeld left s next r

/-- Sends a request and settles it. -/
def begin (respectHeld : Bool) (s : Server) (request : Request) : Server × Progress :=
  match s.arrive request with
  | (s, none) => (s, .replied .failed)
  | (s, some r) =>
      if respectHeld && r.held then (s, .held ⟨redirectLimit, request, r⟩)
      else s.settle respectHeld redirectLimit request r

/-- Settles a request that waited. -/
def release (s : Server) (h : Held) : Server × Reply :=
  match s.settle false h.redirectsLeft h.request h.response with
  | (s, .replied reply) => (s, reply)
  | (s, .held _) => (s, .failed)

/-- The network of the server, where no response is held back. -/
def network : Network Server :=
  ⟨fun s request =>
    match s.begin false request with
    | (s, .replied reply) => (s, reply)
    | (s, .held h) => s.release h⟩

end Server

end BlogSearch
