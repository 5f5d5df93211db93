import BlogSearch.Decimal.Natural
import BlogSearch.Json.Decoder
import BlogSearch.Search.Preference

/-!
# What can go wrong

Every failure of the client is one of the causes below, and `ClientError.message` is the one place
that words them.
-/

namespace BlogSearch

/-- Why a setting cannot be used. -/
inductive SettingProblem where
  | notHttp (setting : String)
  | outOfRange (setting : String) (least greatest : Nat)
  | unknown (setting : String) (cause : UnknownPreference)
  deriving DecidableEq

/-- The wording of a problem with a setting. -/
def SettingProblem.message : SettingProblem → String
  | .notHttp setting => setting ++ " must be a valid http or https URL"
  | .outOfRange setting least greatest =>
      setting ++ " must be an integer between " ++ Decimal.text least ++ " and " ++
        Decimal.text greatest
  | .unknown setting cause => setting ++ ": " ++ cause.message

/-- Why the disk refuses a write. -/
inductive DiskProblem where
  | fileExists
  | notDirectory
  | isDirectory
  deriving DecidableEq

/-- The wording of a problem with the disk. -/
def DiskProblem.message : DiskProblem → String
  | .fileExists => "File exists (os error 17)"
  | .notDirectory => "Not a directory (os error 20)"
  | .isDirectory => "Is a directory (os error 21)"

/-- A failure of the client. -/
inductive ClientError where
  | settingMissing (setting : String)
  | settingInvalid (problem : SettingProblem)
  | preferencesFile (path : String) (problem : DiskProblem)
  | http
  | unreadable (fault : Json.Fault)
  | backend (status : Nat) (message : String)
  | timeout (seconds : Nat)
  | noActiveSearch
  | noSuchResult (index size : Nat)
  | invalidLocation (path : String)
  deriving DecidableEq

def ClientError.message : ClientError → String
  | .settingMissing setting =>
      "Configuration missing: " ++ setting ++
        " not configured. Point it at the search backend, e.g. " ++ setting ++
        "=http://localhost:5000"
  | .settingInvalid problem => "Configuration invalid: " ++ problem.message
  | .preferencesFile path problem => "Config file error at " ++ path ++ ": " ++ problem.message
  | .http => "HTTP error"
  | .unreadable _ => "JSON parse error"
  | .backend status message =>
      "Backend error (" ++ Decimal.text status ++ "): " ++ message
  | .timeout seconds => "Timeout after " ++ Decimal.text seconds ++ " seconds"
  | .noActiveSearch => "No search has been submitted yet"
  | .noSuchResult index size =>
      "No result at index " ++ Decimal.text index ++ " (" ++ Decimal.text size ++
        " results rendered)"
  | .invalidLocation path => "Not a search location: " ++ path

end BlogSearch
