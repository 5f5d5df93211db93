import BlogSearch.Json.Basic

/-!
# Forms

A form is a list of named fields in the order in which they were first set, each with the value that
was set last.  It is submitted as an object with a string for every field.
-/

namespace BlogSearch

open Json

/-- Named fields in the order of their first setting. -/
structure Form where
  fields : List (String × String)
  deriving DecidableEq

namespace Form

def empty : Form :=
  ⟨[]⟩

/-- Replaces the value of the first field with the name, or appends a field. -/
def setField (name value : String) : List (String × String) → List (String × String)
  | [] => [(name, value)]
  | (n, v) :: rest =>
      if n = name then (n, value) :: rest else (n, v) :: setField name value rest

def set (f : Form) (name value : String) : Form :=
  ⟨setField name value f.fields⟩

def get? (f : Form) (name : String) : Option String :=
  (f.fields.find? fun field => field.1 == name).map (·.2)

/-- The form that setting the pairs one after another gives. -/
def ofPairs (pairs : List (String × String)) : Form :=
  pairs.foldl (fun f pair => f.set pair.1 pair.2) empty

/-- What is submitted: a string member for every field, in the order of the names. -/
def payload (f : Form) : Value :=
  .object (sortMembers (f.fields.map fun field => (field.1, Value.string field.2)))

def login (username password : String) : Form :=
  ofPairs [("username", username), ("password", password)]

end Form

end BlogSearch
