import BlogSearch.Navigation.History
import BlogSearch.Network.Basic
import BlogSearch.Page.View

/-!
# The browser

The browser holds everything that actions change: the search form, the last submitted form, the
history and the page.  Searches may overlap.  Each registered round of a search gets a ticket, the
newest ticket is the generation, and registering a round cancels the one that is under way.
-/

namespace BlogSearch

/-- The state that actions share. -/
structure Browser where
  form : SearchForm
  last : Option SearchForm
  history : History
  page : PageView
  /-- The ticket of the newest round. -/
  generation : Nat
  /-- The ticket of the round under way. -/
  inFlight : Option Nat
  /-- The tickets of the rounds that were cancelled. -/
  cancelled : List Nat
  deriving DecidableEq

/-- What a user can do. -/
inductive Action where
  | login (username password : String)
  | logout
  | listBlogs
  | submit (blog query : String)
  | search (form : SearchForm) (push : Bool)
  | paginate (page : Option UInt32)
  | back
  | forward
  | openPath (path : String)
  | toggle (index : Nat)
  | prefer (render : Option Renderer) (sort : Option SortOrder)
  deriving DecidableEq

/-- How a search ended. -/
inductive SearchOutcome where
  | rendered (panel : Panel) (results : Nat) (corrected : Option UInt32)
  | superseded
  deriving DecidableEq

/-- How an action ended well. -/
inductive Outcome where
  | loggedIn (response : LoginResponse)
  | loggedOut
  | blogs (list : List BlogSummary)
  | searched (outcome : SearchOutcome)
  /-- The history had no entry to move to. -/
  | nowhere
  | preview (state : Preview)
  | preferred
  deriving DecidableEq

/-- What an action ends with. -/
abbrev Result :=
  Except ClientError Outcome

namespace Browser

/-- The location of the page after a login. -/
def resultsLocation : String := "/search"

/-- The location of the page after a logout. -/
def indexLocation : String := "/"

/-- A browser with a form and an empty page. -/
def new (form : SearchForm) : Browser :=
  ⟨form, none, History.empty, PageView.empty, 0, none, []⟩

/-- Records a round: its form becomes the last submitted one and the form of the page, its entry is
pushed if it asks for that, the round under way is cancelled, and a new ticket is handed out. -/
def register (b : Browser) (form : SearchForm) (push : Bool) : Browser :=
  let entry := HistoryEntry.ofForm form
  let ticket := b.generation + 1
  { form := form
    last := some form
    history := if push then b.history.push entry else b.history
    page := if push then b.page.navigate entry.url else b.page
    generation := ticket
    inFlight := some ticket
    cancelled := b.inFlight.toList ++ b.cancelled }

/-- Shows the answer to the newest round. -/
def display (b : Browser) (r : SearchResponse) : Browser :=
  { b with inFlight := none, page := b.page.showResponse r }

end Browser

end BlogSearch
