import BlogSearch.Json.Decoder

/-!
# Answers about the account and the indexed blogs
-/

namespace BlogSearch

open Json

/-- The answer to a login.  Wrong credentials are an answer, not a failure. -/
structure LoginResponse where
  success : Bool
  message : String
  deriving DecidableEq

/-- One blog of the listing, with the times of its newest and oldest post. -/
structure BlogSummary where
  name : String
  count : UInt64
  latest : Option Float
  earliest : Option Float
  deriving DecidableEq

namespace LoginResponse

def json (r : LoginResponse) : Value :=
  .object [("success", .bool r.success), ("message", .string r.message)]

def shape : Decoder.Shape :=
  ⟨"LoginResponse", [Decoder.field "success" Decoder.flag, Decoder.field "message" Decoder.text]⟩

def decode : Decoder LoginResponse := fun reading d => do
  let present ← shape.collect reading d
  return {
    success := ← shape.required reading present "success" Decoder.flag
    message := ← Decoder.Shape.defaulted reading present "message" "" Decoder.text }

end LoginResponse

namespace BlogSummary

def json (b : BlogSummary) : Value :=
  .object
    [("name", .string b.name), ("count", .word b.count),
      ("latest", Value.ofOption Value.double b.latest),
      ("earliest", Value.ofOption Value.double b.earliest)]

def shape : Decoder.Shape :=
  ⟨"BlogSummary",
    [Decoder.field "name" Decoder.text, Decoder.field "count" Decoder.word,
      Decoder.field "latest" (Decoder.optional Decoder.double),
      Decoder.field "earliest" (Decoder.optional Decoder.double)]⟩

def decode : Decoder BlogSummary := fun reading d => do
  let present ← shape.collect reading d
  return {
    name := ← shape.required reading present "name" Decoder.text
    count := ← Decoder.Shape.defaulted reading present "count" 0 Decoder.word
    latest :=
      ← Decoder.Shape.defaulted reading present "latest" none (Decoder.optional Decoder.double)
    earliest :=
      ← Decoder.Shape.defaulted reading present "earliest" none
        (Decoder.optional Decoder.double) }

def decodeList : Decoder (List BlogSummary) :=
  Decoder.list decode

end BlogSummary

end BlogSearch
