/-!
# The catalogue of tools

Every tool has a name, a description for its user, and parameters, some of which are required.
-/

namespace BlogSearch.Tool

/-- The tools. -/
inductive Name where
  | getConfigInfo
  | goBack
  | goForward
  | listBlogs
  | login
  | logout
  | openLocation
  | paginate
  | search
  | setPreferences
  | togglePreview
  deriving DecidableEq

/-- A parameter of a tool. -/
structure Parameter where
  name : String
  required : Bool
  deriving DecidableEq

namespace Name

/-- All tools, in the order of their names. -/
def all : List Name :=
  [.getConfigInfo, .goBack, .goForward, .listBlogs, .login, .logout, .openLocation, .paginate,
    .search, .setPreferences, .togglePreview]

def text : Name → String
  | .getConfigInfo => "get_config_info"
  | .goBack => "go_back"
  | .goForward => "go_forward"
  | .listBlogs => "list_blogs"
  | .login => "login"
  | .logout => "logout"
  | .openLocation => "open_location"
  | .paginate => "paginate"
  | .search => "search"
  | .setPreferences => "set_preferences"
  | .togglePreview => "toggle_preview"

def read? (name : String) : Option Name :=
  all.find? fun tool => tool.text == name

/-- A description of several lines: each is indented, and the text begins and ends on a line of its
own. -/
def block (lines : List String) : String :=
  let indented := lines.map fun line => if line.isEmpty then line else "    " ++ line
  "\n" ++ "\n".intercalate indented ++ "\n    "

/-- What a tool does. -/
def description : Name → String
  | .getConfigInfo => block
      ["Returns the client configuration and the current search state.",
        "",
        "Returns",
        "-------",
        "str",
        "    JSON with `base_url`, `render`, `sort`, timeouts, `log_level`, `config_file`,",
        "    `form` (current search form fields), `last_search` and `history_len`."]
  | .goBack => "Goes back to the previous search in history and shows it again."
  | .goForward => "Goes forward to the next search in history and shows it again."
  | .listBlogs => block
      ["Lists the blogs the backend has indexed, with post counts and the epoch timestamps of the",
        "newest and oldest indexed posts. The list is also offered on the page as blog choices."]
  | .login => block
      ["Logs in to the search backend. The status element of the returned page carries the",
        "backend's message with class \"success\" or \"failure\"; on success the page moves to /search."]
  | .logout =>
      "Logs out of the search backend, clears the login status and returns the page to /."
  | .openLocation => block
      ["Opens a search page by path: /search, /search/<blog>, /search/<blog>/<query> or",
        "/search/<blog>/<query>/page/<n>. The form is prefilled from the path and the search runs."]
  | .paginate => block
      ["Shows another page of the last search without adding a history entry. A page past the",
        "last match is corrected to the last page automatically."]
  | .search => block
      ["Starts a new search of `blog` for `query`. Always shows page 1 and adds a history entry.",
        "",
        "Returns",
        "-------",
        "str",
        "    JSON with `outcome` (the metadata panel shown: error, partial or complete) and `page`",
        "    (location, metadata panel, rendered results with tag links and preview state)."]
  | .setPreferences => block
      ["Changes the renderer (\"plain\", \"html\", \"embed\") and/or sort order (\"newest\", \"oldest\",",
        "\"relevance\") used by later searches, and persists them to the config file."]
  | .togglePreview => "Expands or collapses the body of the result at `index` (0-based)."

/-- The parameters of a tool, in the order of their declaration. -/
def parameters : Name → List Parameter
  | .login => [⟨"username", true⟩, ⟨"password", true⟩]
  | .openLocation => [⟨"path", true⟩]
  | .paginate => [⟨"page", false⟩]
  | .search => [⟨"blog", true⟩, ⟨"query", false⟩]
  | .setPreferences => [⟨"render", false⟩, ⟨"sort", false⟩]
  | .togglePreview => [⟨"index", true⟩]
  | _ => []

/-- The names of the required parameters, if there are any. -/
def required? (tool : Name) : Option (List String) :=
  let names := (tool.parameters.filter (·.required)).map (·.name)
  if names.isEmpty then none else some names

end Name

end BlogSearch.Tool
