import BlogSearch.Decimal.Double
import BlogSearch.Json.Reader
import BlogSearch.Json.Writer
import BlogSearch.Text.Quoted

/-!
# Decoding documents into types

A decoder makes something of a document or says why it cannot.  Two ways of decoding share the
decoders of this module.  In a *streaming* decoding the document may be broken, members are met in
the order of the text, and the first problem in the text is reported.  In a *settled* decoding the
document is known to be whole and its members are in the order of their keys.

A record is decoded in two passes.  The first collects its members, or its fields in order from an
array, and checks each; the second builds the record and can only find that a field is missing.
-/

namespace BlogSearch.Json

/-- What a decoder found in place of what it expected. -/
inductive Found where
  | null
  | bool (b : Bool)
  | whole (n : Int)
  | double (x : Float)
  | string (s : String)
  | sequence
  | map
  deriving DecidableEq

/-- The name of a finding in a message. -/
def Found.describe : Found → String
  | .null => "null"
  | .bool true => "boolean `true`"
  | .bool false => "boolean `false`"
  | .whole n => "integer `" ++ String.ofList (writeWhole n) ++ "`"
  | .double x => "floating point `" ++ String.ofList (Decimal.Double.text x) ++ "`"
  | .string s => "string " ++ Text.Quoted.encode s
  | .sequence => "sequence"
  | .map => "map"

/-- Why a well-formed document does not fit a type. -/
inductive Mismatch where
  | wrongType (found : Found) (expected : String)
  | wrongValue (found : Found) (expected : String)
  | wrongLength (length : Nat) (expected : String)
  | unknownVariant (name : String) (known : List String)
  | missingField (name : String)
  | repeatedField (name : String)
  deriving DecidableEq

/-- A list of names, each between backticks. -/
def quotedNames (names : List String) : String :=
  ", ".intercalate (names.map fun name => "`" ++ name ++ "`")

def Mismatch.message : Mismatch → String
  | .wrongType found expected => "invalid type: " ++ found.describe ++ ", expected " ++ expected
  | .wrongValue found expected => "invalid value: " ++ found.describe ++ ", expected " ++ expected
  | .wrongLength length expected =>
      "invalid length " ++ Decimal.text length ++ ", expected " ++ expected
  | .unknownVariant name known =>
      "unknown variant `" ++ name ++ "`, expected one of " ++ quotedNames known
  | .missingField name => "missing field `" ++ name ++ "`"
  | .repeatedField name => "duplicate field `" ++ name ++ "`"

/-- Why decoding failed: the text is not JSON, or it does not fit the type. -/
inductive Fault where
  | malformed
  | mismatch (m : Mismatch)
  deriving DecidableEq

/-- The two ways of decoding. -/
inductive Reading where
  | streaming
  | settled
  deriving DecidableEq

/-- A way to make an `α` of a document. -/
abbrev Decoder (α : Type) :=
  Reading → Document → Except Fault α

namespace Decoder

/-- What stands in a document, for a message about it. -/
def found : Document → Except Fault Found
  | .broken => .error .malformed
  | .null => .ok .null
  | .bool b => .ok (.bool b)
  | .number (some (.whole n _)) => .ok (.whole n)
  | .number (some (.double x)) => .ok (.double x)
  | .number none => .error .malformed
  | .string (some s) => .ok (.string s)
  | .string none => .error .malformed
  | .array _ _ => .ok .sequence
  | .object _ _ => .ok .map

/-- Fails because the document has another type than the expected one. -/
def wrongType (expected : String) (d : Document) : Except Fault α := do
  throw (.mismatch (.wrongType (← found d) expected))

def text : Decoder String := fun _ d =>
  match d with
  | .string (some s) => .ok s
  | d => wrongType "a string" d

def flag : Decoder Bool := fun _ d =>
  match d with
  | .bool b => .ok b
  | d => wrongType "a boolean" d

/-- A whole number from `low` up to `high`. -/
def whole (expected : String) (low high : Int) : Decoder Int := fun _ d =>
  match d with
  | .number (some (.whole n _)) =>
      if low ≤ n && n ≤ high then .ok n
      else .error (.mismatch (.wrongValue (.whole n) expected))
  | d => wrongType expected d

/-- An unsigned 64-bit word. -/
def word : Decoder UInt64 := fun reading d =>
  (whole "u64" 0 18446744073709551615 reading d).map fun n => UInt64.ofNat n.toNat

/-- A position in a list. -/
def index : Decoder Nat := fun reading d =>
  (whole "usize" 0 18446744073709551615 reading d).map Int.toNat

/-- An unsigned 32-bit word. -/
def page : Decoder UInt32 := fun reading d =>
  (whole "u32" 0 4294967295 reading d).map fun n => UInt32.ofNat n.toNat

/-- A signed 64-bit word. -/
def signed : Decoder Int64 := fun reading d =>
  (whole "i64" (-9223372036854775808) 9223372036854775807 reading d).map Int64.ofInt

/-- The double nearest to a whole number of the 64-bit ranges. -/
def doubleOfWhole (n : Int) : Float :=
  let size := (UInt64.ofNat n.natAbs).toFloat
  if n < 0 then -size else size

/-- A double; whole numbers are taken for doubles. -/
def double : Decoder Float := fun _ d =>
  match d with
  | .number (some (.whole n _)) => .ok (doubleOfWhole n)
  | .number (some (.double x)) => .ok x
  | d => wrongType "f64" d

/-- `null` for an absent value, and anything else for a present one. -/
def optional (decode : Decoder α) : Decoder (Option α) := fun reading d =>
  match d with
  | .null => .ok none
  | d => (decode reading d).map some

def items (decode : Decoder α) (reading : Reading) : List Document → Except Fault (List α)
  | [] => .ok []
  | d :: rest => do
      let a ← decode reading d
      let more ← items decode reading rest
      return a :: more

def list (decode : Decoder α) : Decoder (List α) := fun reading d =>
  match d with
  | .array ds closed => do
      let as ← items decode reading ds
      if closed then return as else throw .malformed
  | d => wrongType "a sequence" d

/-- A nothing: `null` in the place of the content of a variant. -/
def nothing : Decoder Unit := fun _ d =>
  match d with
  | .null => .ok ()
  | d => wrongType "unit" d

/-- One of several named constants. -/
def constant (known : List (String × α)) (name : String) : Except Fault α :=
  match known.find? fun entry => entry.1 == name with
  | some entry => .ok entry.2
  | none => .error (.mismatch (.unknownVariant name (known.map (·.1))))

/-- A constant by its name, or by an object with its name as the only key and `null` as the value. -/
def variant (known : List (String × α)) : Decoder α := fun reading d =>
  match d, reading with
  | .string (some name), _ => constant known name
  | .string none, _ => .error .malformed
  | .object ((some name, content) :: rest) closed, .streaming => do
      let a ← constant known name
      nothing .streaming content
      if rest.isEmpty && closed then return a else throw .malformed
  | .object [(some name, content)] _, .settled => do
      let a ← constant known name
      nothing .settled content
      return a
  | .object _ _, .settled => .error (.mismatch (.wrongValue .map "map with a single key"))
  | _, .streaming => .error .malformed
  | d, .settled => wrongType "string or map" d

/-- A field of a record: its name, and a check that its content decodes. -/
structure Field where
  name : String
  check : Reading → Document → Except Fault Unit

/-- A field whose content decodes with `decode`. -/
def field (name : String) (decode : Decoder α) : Field :=
  ⟨name, fun reading d => (decode reading d).map fun _ => ()⟩

/-- The name and the fields of a record in the order of their declaration. -/
structure Shape where
  name : String
  fields : List Field

/-- The fields that are present, by name, and whether they came from an array. -/
structure Present where
  found : List (String × Document)
  fromArray : Bool

namespace Shape

/-- Collects the members of known names, in order, and checks each; other members only have to be
well formed. -/
def collectMembers (shape : Shape) (reading : Reading) (seen : List (String × Document)) :
    List (Option String × Document) → Except Fault (List (String × Document))
  | [] => .ok seen
  | (some key, d) :: rest =>
      match shape.fields.find? fun f => f.name == key with
      | some f =>
          if seen.any fun entry => entry.1 == key then
            .error (.mismatch (.repeatedField key))
          else do
            f.check reading d
            shape.collectMembers reading (seen ++ [(key, d)]) rest
      | none =>
          if d.wellFormed then shape.collectMembers reading seen rest else .error .malformed
  | _ => .error .malformed

/-- Collects the items of an array as the fields in the order of their declaration, and returns the
items beyond the last field. -/
def collectItems (reading : Reading) :
    List Field → List Document → Except Fault (List (String × Document) × List Document)
  | f :: fields, d :: rest => do
      f.check reading d
      let (found, beyond) ← collectItems reading fields rest
      return ((f.name, d) :: found, beyond)
  | _, rest => .ok ([], rest)

def collect (shape : Shape) : Decoder Present := fun reading d =>
  match d with
  | .object members closed => do
      let found ← shape.collectMembers reading [] members
      if closed then return ⟨found, false⟩ else throw .malformed
  | .array ds closed => do
      let (found, beyond) ← collectItems reading shape.fields ds
      if !closed then throw .malformed
      else if beyond.isEmpty then return ⟨found, true⟩
      else match reading with
        | .streaming => throw .malformed
        | .settled =>
            throw (.mismatch (.wrongLength ds.length "fewer elements in array"))
  | d => wrongType ("struct " ++ shape.name) d

/-- The number of fields in words. -/
def expectedLength (shape : Shape) : String :=
  "struct " ++ shape.name ++ " with " ++ Decimal.text shape.fields.length ++
    (if shape.fields.length == 1 then " element" else " elements")

/-- The fault of a missing field. -/
def missing (shape : Shape) (present : Present) (name : String) : Fault :=
  if present.fromArray then
    .mismatch (.wrongLength ((shape.fields.map (·.name)).idxOf name) shape.expectedLength)
  else .mismatch (.missingField name)

/-- The content of a field that has to be present. -/
def required (shape : Shape) (reading : Reading) (present : Present) (name : String)
    (decode : Decoder α) : Except Fault α :=
  match present.found.find? fun entry => entry.1 == name with
  | some entry => decode reading entry.2
  | none => .error (shape.missing present name)

/-- The content of a field that has a value of its own when it is absent. -/
def defaulted (reading : Reading) (present : Present) (name : String) (fallback : α)
    (decode : Decoder α) : Except Fault α :=
  match present.found.find? fun entry => entry.1 == name with
  | some entry => decode reading entry.2
  | none => .ok fallback

end Shape

end Decoder

/-- Decodes a text in the order in which it is written. -/
def Decoder.stream (decode : Decoder α) (s : String) : Except Fault α := do
  let whole := scan s.toList
  let a ← decode .streaming whole.document
  if whole.finished then return a else throw .malformed

/-- Decodes a value. -/
def Decoder.ofValue (decode : Decoder α) (v : Value) : Except Fault α :=
  decode .settled v.document

end BlogSearch.Json
