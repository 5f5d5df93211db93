import BlogSearch.Json.Basic

/-!
# JSON documents as they were written

A document keeps what a text says before anything is made of it: the order of members, repeated
keys, and the place where the text stops being JSON.  A reader of documents meets the members in the
order of the text, so the first problem it meets is the first in the text.

`Document.value?` turns a document into a value when the whole of it is JSON within the limits on
nesting and on the size of numbers.
-/

namespace BlogSearch.Json

/-- A JSON text as it was written.  Nothing follows the first broken place. -/
inductive Document where
  /-- The text is not JSON from here on. -/
  | broken
  | null
  | bool (b : Bool)
  /-- A number; without content when it exceeds every double. -/
  | number (content : Option Number)
  /-- A string; without content when its escapes name no text. -/
  | string (content : Option String)
  /-- Items; `closed` when the closing bracket was found after them. -/
  | array (items : List Document) (closed : Bool)
  /-- Members, a key without content when its escapes name no text; `closed` when the closing brace
  was found after them. -/
  | object (members : List (Option String × Document)) (closed : Bool)

namespace Document

instance : Inhabited Document := ⟨.broken⟩

mutual

/-- The document is well formed to its end, whatever its numbers and escapes name. -/
def wellFormed : Document → Bool
  | .broken => false
  | .array items closed => allWellFormed items && closed
  | .object members closed => membersWellFormed members && closed
  | _ => true

/-- Every item is well formed. -/
def allWellFormed : List Document → Bool
  | [] => true
  | d :: rest => d.wellFormed && allWellFormed rest

/-- Every member is well formed. -/
def membersWellFormed : List (Option String × Document) → Bool
  | [] => true
  | (_, d) :: rest => d.wellFormed && membersWellFormed rest

end

mutual

/-- The value of a document that nests at most `room` arrays and objects, with the members of each
object in the order of their keys and the last of several members with one key. -/
def value? (room : Nat) : Document → Option Value
  | .broken => none
  | .null => some .null
  | .bool b => some (.bool b)
  | .number content => content.map Value.number
  | .string content => content.map Value.string
  | .array items closed =>
      if closed && 0 < room then (items? (room - 1) items).map Value.array else none
  | .object members closed =>
      if closed && 0 < room then
        (members? (room - 1) members).map fun ms => Value.object (sortMembers ms)
      else none

/-- The values of the items. -/
def items? (room : Nat) : List Document → Option (List Value)
  | [] => some []
  | d :: rest =>
      match value? room d, items? room rest with
      | some v, some vs => some (v :: vs)
      | _, _ => none

/-- The keys and values of the members. -/
def members? (room : Nat) : List (Option String × Document) → Option (List (String × Value))
  | [] => some []
  | (key, d) :: rest =>
      match key, value? room d, members? room rest with
      | some k, some v, some vs => some ((k, v) :: vs)
      | _, _, _ => none

end

/-- A text may nest this many arrays and objects. -/
def nestingLimit : Nat := 127

end Document

namespace Value

mutual

/-- The document that says what a value holds. -/
def document : Value → Document
  | .null => .null
  | .bool b => .bool b
  | .number n => .number (some n)
  | .string s => .string (some s)
  | .array items => .array (itemDocuments items) true
  | .object members => .object (memberDocuments members) true

/-- The documents of the items. -/
def itemDocuments : List Value → List Document
  | [] => []
  | v :: rest => v.document :: itemDocuments rest

/-- The keys and the documents of the values. -/
def memberDocuments : List (String × Value) → List (Option String × Document)
  | [] => []
  | (key, v) :: rest => (some key, v.document) :: memberDocuments rest

end

end Value

end BlogSearch.Json
