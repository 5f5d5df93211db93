import BlogSearch.Account
import BlogSearch.ClientError
import BlogSearch.Page.Result
import BlogSearch.Search.Panel

/-!
# The page

The page holds everything that is shown: where it stands, the state of the login, the blogs on
offer, the panel and the results below it, and how far it is scrolled.
-/

namespace BlogSearch

open Json

/-- The message of the last login, and whether it succeeded. -/
structure LoginStatus where
  message : String
  success : Bool
  deriving DecidableEq

namespace LoginStatus

/-- The status that the answer to a login shows. -/
def ofResponse (r : LoginResponse) : LoginStatus :=
  ⟨r.message, r.success⟩

def json (s : LoginStatus) : Value :=
  .object
    [("message", .string s.message),
      ("class", .string (if s.success then "success" else "failure"))]

end LoginStatus

/-- What is shown. -/
structure PageView where
  location : Option String
  loginStatus : Option LoginStatus
  blogs : List BlogSummary
  panel : Option Panel
  results : List ResultView
  scrollTop : UInt64
  deriving DecidableEq

namespace PageView

def empty : PageView :=
  ⟨none, none, [], none, [], 0⟩

def clear (p : PageView) : PageView :=
  { p with results := [] }

def append (p : PageView) (r : ResultView) : PageView :=
  { p with results := p.results ++ [r] }

/-- Shows the posts in the place of the results. -/
def render (p : PageView) (items : List ResultItem) : PageView :=
  (items.map ResultView.ofItem).foldl append p.clear

def showPanel (p : PageView) (panel : Panel) : PageView :=
  { p with panel := some panel }

/-- Scrolls to the top. -/
def resetScroll (p : PageView) : PageView :=
  { p with scrollTop := 0 }

/-- Shows a whole answer from its top. -/
def showResponse (p : PageView) (r : SearchResponse) : PageView :=
  ((p.render r.results).showPanel r.info.panel).resetScroll

/-- Expands or collapses a result, and returns its new state. -/
def toggle (p : PageView) (index : Nat) : Except ClientError (PageView × Preview) :=
  match p.results[index]? with
  | some r =>
      let preview := r.preview.toggle
      .ok ({ p with results := p.results.set index { r with preview := preview } }, preview)
  | none => .error (.noSuchResult index p.results.length)

/-- Shows the status of a login. -/
def showLoginStatus (p : PageView) (s : LoginStatus) : PageView :=
  { p with loginStatus := some s }

/-- Removes the status of a login. -/
def clearLoginStatus (p : PageView) : PageView :=
  { p with loginStatus := none }

def showBlogs (p : PageView) (blogs : List BlogSummary) : PageView :=
  { p with blogs := blogs }

/-- Moves the page to a location. -/
def navigate (p : PageView) (location : String) : PageView :=
  { p with location := some location }

/-- The links of all tags on the page, in order. -/
def tagLinks (p : PageView) : List TagLink :=
  p.results.flatMap (·.tags)

def json (p : PageView) : Value :=
  .object
    [("location", Value.ofOption Value.string p.location),
      ("login_status", Value.ofOption LoginStatus.json p.loginStatus),
      ("blogs", .array (p.blogs.map BlogSummary.json)),
      ("meta", Value.ofOption Panel.json p.panel),
      ("results", .array (p.results.map ResultView.json)),
      ("scroll_top", .word p.scrollTop)]

end PageView

end BlogSearch
