import BlogSearch.Browser.Run
import BlogSearch.Settings.Basic
import BlogSearch.Tool.Catalogue
import BlogSearch.Tool.Params

/-!
# The tool service

The service offers the actions of a browser as tools.  A call names a tool and carries its
arguments, which arrive as a text and are read into a value; it answers with a text, or with an error
that either blames the call or does not.
-/

namespace BlogSearch.Tool

open Json

/-- A call whose arguments have been decoded. -/
inductive Call where
  | configInfo
  | back
  | forward
  | listBlogs
  | login (params : LoginParams)
  | logout
  | openLocation (params : OpenParams)
  | paginate (params : PaginateParams)
  | search (params : SearchParams)
  | setPreferences (params : PreferenceParams)
  | toggle (params : ToggleParams)
  deriving DecidableEq

/-- Why a call has no answer. -/
inductive CallError where
  | unknownTool
  | undecodable (fault : Fault)
  | refused (problem : ParamProblem)
  | failed (cause : ClientError)
  deriving DecidableEq

namespace CallError

/-- The failures of an action that its parameters are to blame for. -/
def blamesCall : ClientError → Bool
  | .noActiveSearch => true
  | .noSuchResult _ _ => true
  | .invalidLocation _ => true
  | _ => false

/-- The error is one of the parameters. -/
def isInvalidParams : CallError → Bool
  | .failed cause => blamesCall cause
  | _ => true

/-- The code of an error: one for the parameters, one for everything else. -/
def code (e : CallError) : Int :=
  if e.isInvalidParams then -32602 else -32603

/-- The wording of a fault in the arguments. -/
def faultMessage : Fault → String
  | .malformed => "malformed"
  | .mismatch m => m.message

def message : CallError → String
  | .unknownTool => "tool not found"
  | .undecodable fault => "failed to deserialize parameters: " ++ faultMessage fault
  | .refused problem => problem.message
  | .failed cause => cause.message

end CallError

namespace Call

/-- Decodes arguments. -/
def arguments (decode : Decoder α) (v : Value) : Except CallError α :=
  match decode.ofValue v with
  | .ok a => .ok a
  | .error fault => .error (.undecodable fault)

def decode (tool : Name) (v : Value) : Except CallError Call :=
  match tool with
  | .getConfigInfo => .ok .configInfo
  | .goBack => .ok .back
  | .goForward => .ok .forward
  | .listBlogs => .ok .listBlogs
  | .login => (arguments LoginParams.decode v).map .login
  | .logout => .ok .logout
  | .openLocation => (arguments OpenParams.decode v).map .openLocation
  | .paginate => (arguments PaginateParams.decode v).map .paginate
  | .search => (arguments SearchParams.decode v).map .search
  | .setPreferences => (arguments PreferenceParams.decode v).map .setPreferences
  | .togglePreview => (arguments ToggleParams.decode v).map .toggle

/-- The first problem with the parameters of a call. -/
def problem? : Call → Option ParamProblem
  | .login p => p.problem?
  | .openLocation p => p.problem?
  | .paginate p => p.problem?
  | .search p => p.problem?
  | .setPreferences p => p.problem?
  | _ => none

end Call

/-- The settings of the service, the browser it drives, and the disk that holds preferences. -/
structure Service where
  settings : Settings
  browser : Browser
  disk : Disk

namespace Service

/-- The form of a browser with the preferences of the settings. -/
def defaults (settings : Settings) : SearchForm :=
  (SearchForm.new "" "").prefer (some settings.render) (some settings.sort)

/-- A service that has answered no call. -/
def new (settings : Settings) (disk : Disk) : Service :=
  ⟨settings, Browser.new (defaults settings), disk⟩

/-- The outcome of a search as a value. -/
def searchOutcome : SearchOutcome → Value
  | .rendered panel results corrected =>
      .object
        ([("status", .string "rendered"), ("display", panel.json), ("results", .size results)] ++
          Value.optionalMember "corrected_page" Value.page corrected)
  | .superseded => .object [("status", .string "superseded")]

/-- The outcome of an action as a value. -/
def outcome : Outcome → Value
  | .loggedIn r => r.json
  | .loggedOut => .object [("logged_out", .bool true)]
  | .blogs list => .object [("blog_count", .size list.length)]
  | .searched o => searchOutcome o
  | .nowhere => .null
  | .preview state => state.json
  | .preferred => .null

/-- The text of a value: laid out, with all members in the order of their keys. -/
def answer (v : Value) : String :=
  v.sorted.pretty

/-- The answer to a call that changed the page. -/
def pageAnswer (s : Service) (o : Value) : String :=
  answer (.object [("outcome", o), ("page", s.browser.page.json)])

/-- Performs an action and answers with what `present` makes of its outcome. -/
def act (net : Network σ) (state : σ) (s : Service) (action : Action)
    (present : Outcome → Value) : σ × Service × Except CallError String :=
  match net.perform state s.browser action with
  | (state, browser, .ok o) =>
      let s := { s with browser := browser }
      (state, s, .ok (s.pageAnswer (present o)))
  | (state, browser, .error e) => (state, { s with browser := browser }, .error (.failed e))

/-- The settings and the state of the searches as a value. -/
def info (s : Service) : Value :=
  .object
    [("base_url", .string s.settings.baseUrl), ("render", s.settings.render.json),
      ("sort", s.settings.sort.json), ("connect_timeout", .word s.settings.connectTimeout),
      ("request_timeout", .word s.settings.requestTimeout),
      ("log_level", .string s.settings.logLevel), ("config_file", .string s.disk.filePath),
      ("form", s.browser.form.json), ("last_search", Value.ofOption SearchForm.json s.browser.last),
      ("history_len", .size s.browser.history.size)]

/-- Changes the preferences of later searches and saves them.  They hold for the session even when
they cannot be saved. -/
def setPreferences (s : Service) (p : PreferenceParams) : Service × String :=
  let form := s.browser.form.prefer p.render p.sort
  let browser := { s.browser with form := form }
  let chosen := [("render", form.render.json), ("sort", form.sort.json)]
  match Preferences.save s.disk p.render p.sort with
  | (disk, .ok ()) =>
      ({ s with browser := browser, disk := disk },
        answer (.object
          (("status", .string "saved") :: chosen ++ [("config_file", .string disk.filePath)])))
  | (disk, .error e) =>
      ({ s with browser := browser, disk := disk },
        answer (.object
          (("status", .string "applied") :: chosen ++
            [("message", .string
              ("Preferences apply to this session but could not be saved: " ++ e.message))])))

def perform (net : Network σ) (state : σ) (s : Service) :
    Call → σ × Service × Except CallError String
  | .configInfo => (state, s, .ok (answer s.info))
  | .back => s.act net state .back outcome
  | .forward => s.act net state .forward outcome
  | .listBlogs => s.act net state .listBlogs outcome
  | .login p => s.act net state (.login (Text.trim p.username) p.password) outcome
  | .logout => s.act net state .logout outcome
  | .openLocation p => s.act net state (.openPath (Text.trim p.path)) outcome
  | .paginate p => s.act net state (.paginate p.page) outcome
  | .search p => s.act net state (.submit (Text.trim p.blog) (Text.trim p.query)) outcome
  | .setPreferences p =>
      match s.setPreferences p with
      | (s, text) => (state, s, .ok text)
  | .toggle p =>
      s.act net state (.toggle p.index) fun o =>
        .object [("index", .size p.index), ("preview", outcome o)]

/-- Answers a decoded call, unless its parameters make no sense. -/
def answerCall (net : Network σ) (state : σ) (s : Service) (call : Call) :
    σ × Service × Except CallError String :=
  match call.problem? with
  | some problem => (state, s, .error (.refused problem))
  | none => s.perform net state call

/-- Answers the call of a tool by its name. -/
def call (net : Network σ) (state : σ) (s : Service) (tool : String) (arguments : Value) :
    σ × Service × Except CallError String :=
  match Name.read? tool with
  | none => (state, s, .error .unknownTool)
  | some name =>
      match Call.decode name arguments with
      | .error e => (state, s, .error e)
      | .ok decoded => s.answerCall net state decoded

/-- Answers a call as it arrives, with the text of its arguments.  Numbers of the arguments are those
that reading the text gives, which need not be the ones that the caller wrote down. -/
def callText (net : Network σ) (state : σ) (s : Service) (tool arguments : String) :
    σ × Service × Except CallError String :=
  match Value.read? arguments with
  | some v => s.call net state tool v
  | none => (state, s, .error (.undecodable .malformed))

end Service

end BlogSearch.Tool
