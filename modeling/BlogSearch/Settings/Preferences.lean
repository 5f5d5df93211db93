import BlogSearch.Json.Writer
import BlogSearch.Settings.Disk
import BlogSearch.Text.Utf8

/-!
# Saved preferences

The preferences file is an object.  The members of two names are the preferences; all others are
kept as they are, in the order of their keys.  A file that cannot be read or decoded counts as one
without members.
-/

namespace BlogSearch

open Json

/-- The content of the preferences file. -/
structure Preferences where
  render : Option Renderer
  sort : Option SortOrder
  extra : List (String × Value)

namespace Preferences

def empty : Preferences :=
  ⟨none, none, []⟩

/-- Takes the members one after another.  A preference may stand once; of other members with one key
the last counts. -/
def ofMembers? (renderSeen sortSeen : Bool) (p : Preferences) :
    List (Option String × Document) → Option Preferences
  | [] => some p
  | (some key, d) :: rest =>
      if key = "render" then
        if renderSeen then none
        else
          match Decoder.optional Renderer.decode .streaming d with
          | .ok r => ofMembers? true sortSeen { p with render := r } rest
          | .error _ => none
      else if key = "sort" then
        if sortSeen then none
        else
          match Decoder.optional SortOrder.decode .streaming d with
          | .ok s => ofMembers? renderSeen true { p with sort := s } rest
          | .error _ => none
      else
        match d.value? (Document.nestingLimit - 1) with
        | some v => ofMembers? renderSeen sortSeen
            { p with extra := insertMember key v p.extra } rest
        | none => none
  | _ => none

/-- Decodes the text of a file. -/
def decode? (s : String) : Option Preferences :=
  let whole := scan s.toList
  match whole.document, whole.finished with
  | .object members true, true => ofMembers? false false empty members
  | _, _ => none

/-- The preferences that a disk holds. -/
def load (d : Disk) : Preferences :=
  ((d.read?.bind Text.Utf8.decode?).bind decode?).getD empty

/-- The preferences with the given ones changed. -/
def prefer (p : Preferences) (render : Option Renderer) (sort : Option SortOrder) : Preferences :=
  { p with render := render.or p.render, sort := sort.or p.sort }

/-- The preferences as a value: the two by name, where they are set, and the others behind them. -/
def json (p : Preferences) : Value :=
  .object
    (Value.optionalMember "render" Renderer.json p.render ++
      Value.optionalMember "sort" SortOrder.json p.sort ++ p.extra)

/-- The text of the file. -/
def fileText (p : Preferences) : String :=
  p.json.pretty ++ "\n"

/-- Saves the given preferences beside what the disk holds. -/
def save (d : Disk) (render : Option Renderer) (sort : Option SortOrder) :
    Disk × Except ClientError Unit :=
  d.replaceFile (Text.Utf8.encode ((load d).prefer render sort).fileText)

end Preferences

end BlogSearch
