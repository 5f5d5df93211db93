import BlogSearch.Account
import BlogSearch.ClientError
import BlogSearch.Form
import BlogSearch.Json.Writer
import BlogSearch.Search.Form
import BlogSearch.Search.Response

/-!
# Requests and replies

The client sends requests to paths of its backend and gets replies.  A backend may be any function
of the requests sent so far; a network is anything that answers a request and remembers what it
needs for the next one.
-/

namespace BlogSearch

open Json

inductive Method where
  | get
  | post
  deriving DecidableEq

def Method.name : Method → String
  | .get => "GET"
  | .post => "POST"

/-- A request: its method, its path, and a JSON body if it has one. -/
structure Request where
  method : Method
  path : String
  body : Option String
  deriving DecidableEq

namespace Request

def login (form : Form) : Request :=
  ⟨.post, "/login", some form.payload.compact⟩

def logout : Request :=
  ⟨.get, "/logout", none⟩

/-- Asks for the indexed blogs. -/
def blogs : Request :=
  ⟨.get, "/diagnostics", none⟩

/-- Asks for the indexed blogs where backends used to list them. -/
def legacyBlogs : Request :=
  ⟨.get, "/list-blogs", none⟩

def search (r : SearchRequest) : Request :=
  ⟨.post, "/search", some r.json.compact⟩

end Request

/-- What comes back: nothing because the connection failed or the time ran out, or a status with a
body. -/
inductive Reply where
  | failed
  | timedOut (seconds : Nat)
  | answer (status : Nat) (body : String)
  deriving DecidableEq

namespace Reply

def isSuccess (status : Nat) : Bool :=
  200 ≤ status && status ≤ 299

/-- The body of a successful reply, or why there is none. -/
def body : Reply → Except ClientError String
  | .failed => .error .http
  | .timedOut seconds => .error (.timeout seconds)
  | .answer status body =>
      if isSuccess status then .ok body else .error (.backend status body)

def read (reply : Reply) (decode : String → Except Fault α) : Except ClientError α :=
  match reply.body with
  | .error e => .error e
  | .ok body =>
      match decode body with
      | .ok a => .ok a
      | .error fault => .error (.unreadable fault)

end Reply

/-- Anything that answers requests, with what it remembers. -/
structure Network (σ : Type) where
  ask : σ → Request → σ × Reply

/-- A backend answers each request from all requests up to it. -/
abbrev Backend :=
  List Request → Reply

/-- The network of a backend remembers the requests. -/
def Backend.network (backend : Backend) : Network (List Request) :=
  ⟨fun sent request => (sent ++ [request], backend (sent ++ [request]))⟩

end BlogSearch
