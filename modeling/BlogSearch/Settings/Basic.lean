import BlogSearch.Settings.Preferences

/-!
# Settings

The settings come from variables of the environment and from the saved preferences, which win over
the variables.  A variable that is blank counts as unset.
-/

namespace BlogSearch

open Json

/-- The variables of an environment. -/
abbrev Environment :=
  String → Option String

/-- How the client talks to its backend. -/
structure Settings where
  baseUrl : String
  render : Renderer
  sort : SortOrder
  connectTimeout : UInt64
  requestTimeout : UInt64
  logLevel : String
  deriving DecidableEq

namespace Settings

/-- The address of the backend. -/
def urlSetting : String := "XAPBLR_URL"

/-- The renderer of searches. -/
def renderSetting : String := "XAPBLR_RENDER"

/-- The order of results. -/
def sortSetting : String := "XAPBLR_SORT"

/-- The seconds in which a connection has to stand. -/
def connectSetting : String := "XAPBLR_CONNECT_TIMEOUT"

/-- The seconds in which an answer has to come. -/
def requestSetting : String := "XAPBLR_REQUEST_TIMEOUT"

/-- What is logged. -/
def logSetting : String := "XAPBLR_LOG_LEVEL"

/-- The value of a variable that is not blank. -/
def lookup? (env : Environment) (name : String) : Option String :=
  (env name).filter fun s => !Text.isBlankText s

/-- The text is an address of one of the two schemes, blanks around it aside. -/
def isHttp (url : String) : Bool :=
  let trimmed := Text.trim url
  Text.beginsWith "http://" trimmed || Text.beginsWith "https://" trimmed

/-- A preference from a variable, with its usual value when the variable is unset. -/
def preference [Inhabited α] (env : Environment) (name : String)
    (read : String → Except UnknownPreference α) : Except ClientError α :=
  match lookup? env name with
  | none => .ok default
  | some typed =>
      match read typed with
      | .ok a => .ok a
      | .error cause => .error (.settingInvalid (.unknown name cause))

/-- A number of seconds within bounds, with its usual value when the variable is unset. -/
def seconds (env : Environment) (name : String) (usual least greatest : Nat) :
    Except ClientError UInt64 :=
  match lookup? env name with
  | none => .ok (UInt64.ofNat usual)
  | some typed =>
      match Decimal.unsigned? 18446744073709551616 (Text.trim typed).toList with
      | some n =>
          if least ≤ n && n ≤ greatest then .ok (UInt64.ofNat n)
          else .error (.settingInvalid (.outOfRange name least greatest))
      | none => .error (.settingInvalid (.outOfRange name least greatest))

/-- The settings for a backend at an address, with all else as usual. -/
def ofUrl (url : String) : Settings :=
  ⟨Text.dropSlashes url, default, default, 10, 30, "INFO"⟩

/-- The settings of an environment and a disk.  The first problem in the order of the settings is
reported. -/
def load (env : Environment) (disk : Disk) : Except ClientError Settings := do
  let url ← match lookup? env urlSetting with
    | some url => pure url
    | none => throw (.settingMissing urlSetting)
  if !isHttp url then throw (.settingInvalid (.notHttp urlSetting))
  let saved := Preferences.load disk
  let render ← match saved.render with
    | some r => pure r
    | none => preference env renderSetting Renderer.read
  let sort ← match saved.sort with
    | some s => pure s
    | none => preference env sortSetting SortOrder.read
  let connect ← seconds env connectSetting 10 1 60
  let request ← seconds env requestSetting 30 1 300
  return {
    baseUrl := Text.dropSlashes (Text.trim url)
    render := render
    sort := sort
    connectTimeout := connect
    requestTimeout := request
    logLevel := Text.Case.upper ((lookup? env logSetting).getD "INFO") }

def json (s : Settings) : Value :=
  .object
    [("base_url", .string s.baseUrl), ("render", s.render.json), ("sort", s.sort.json),
      ("connect_timeout", .word s.connectTimeout), ("request_timeout", .word s.requestTimeout),
      ("log_level", .string s.logLevel)]

end Settings

end BlogSearch
