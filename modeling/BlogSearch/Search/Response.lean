import BlogSearch.Calendar
import BlogSearch.Json.Decoder

/-!
# Answers to a search

The backend answers a search with a list of posts and a description of the window of matches that
they fill.  An answer that carries nothing but an error is an answer without posts whose description
holds the error.
-/

namespace BlogSearch

open Json

/-- One post of an answer.  `rendered` is what the backend made of it. -/
structure ResultItem where
  rendered : String
  tags : List String
  blogName : String
  postUrl : String
  id : Option UInt64
  timestamp : Option Int64
  dateText : Option String
  deriving DecidableEq

/-- The window of matches that an answer fills.  Absent counts are zero. -/
structure SearchMeta where
  count : UInt64
  total : UInt64
  offset : UInt64
  pageSize : UInt64
  timeNs : UInt64
  error : Option String
  deriving DecidableEq

/-- An answer to a search. -/
structure SearchResponse where
  results : List ResultItem
  info : SearchMeta
  deriving DecidableEq

namespace ResultItem

/-- The date to show: the backend's own wording, else the time of the post, if it has a date. -/
def displayDate? (item : ResultItem) : Option String :=
  match item.dateText with
  | some wording => some wording
  | none => item.timestamp.bind fun t => Calendar.utcText? t.toInt

def json (item : ResultItem) : Value :=
  .object
    ([("rendered", .string item.rendered), ("tags", .array (item.tags.map Value.string)),
        ("blog_name", .string item.blogName), ("post_url", .string item.postUrl)] ++
      Value.optionalMember "id" Value.word item.id ++
      Value.optionalMember "timestamp" Value.signed item.timestamp ++
      Value.optionalMember "timestamp_hf" Value.string item.dateText)

def shape : Decoder.Shape :=
  ⟨"ResultItem",
    [Decoder.field "rendered" Decoder.text, Decoder.field "tags" (Decoder.list Decoder.text),
      Decoder.field "blog_name" Decoder.text, Decoder.field "post_url" Decoder.text,
      Decoder.field "id" (Decoder.optional Decoder.word),
      Decoder.field "timestamp" (Decoder.optional Decoder.signed),
      Decoder.field "timestamp_hf" (Decoder.optional Decoder.text)]⟩

def decode : Decoder ResultItem := fun reading d => do
  let present ← shape.collect reading d
  return {
    rendered := ← shape.required reading present "rendered" Decoder.text
    tags := ← Decoder.Shape.defaulted reading present "tags" [] (Decoder.list Decoder.text)
    blogName := ← shape.required reading present "blog_name" Decoder.text
    postUrl := ← shape.required reading present "post_url" Decoder.text
    id := ← Decoder.Shape.defaulted reading present "id" none (Decoder.optional Decoder.word)
    timestamp :=
      ← Decoder.Shape.defaulted reading present "timestamp" none (Decoder.optional Decoder.signed)
    dateText :=
      ← Decoder.Shape.defaulted reading present "timestamp_hf" none
        (Decoder.optional Decoder.text) }

end ResultItem

namespace SearchMeta

def empty : SearchMeta :=
  ⟨0, 0, 0, 0, 0, none⟩

def json (m : SearchMeta) : Value :=
  .object
    ([("count", .word m.count), ("matches", .word m.total), ("offset", .word m.offset),
        ("pagesize", .word m.pageSize), ("time_ns", .word m.timeNs)] ++
      Value.optionalMember "error" Value.string m.error)

def shape : Decoder.Shape :=
  ⟨"SearchMeta",
    [Decoder.field "count" Decoder.word, Decoder.field "matches" Decoder.word,
      Decoder.field "offset" Decoder.word, Decoder.field "pagesize" Decoder.word,
      Decoder.field "time_ns" Decoder.word,
      Decoder.field "error" (Decoder.optional Decoder.text)]⟩

def decode : Decoder SearchMeta := fun reading d => do
  let present ← shape.collect reading d
  return {
    count := ← Decoder.Shape.defaulted reading present "count" 0 Decoder.word
    total := ← Decoder.Shape.defaulted reading present "matches" 0 Decoder.word
    offset := ← Decoder.Shape.defaulted reading present "offset" 0 Decoder.word
    pageSize := ← Decoder.Shape.defaulted reading present "pagesize" 0 Decoder.word
    timeNs := ← Decoder.Shape.defaulted reading present "time_ns" 0 Decoder.word
    error :=
      ← Decoder.Shape.defaulted reading present "error" none (Decoder.optional Decoder.text) }

end SearchMeta

namespace SearchResponse

def json (r : SearchResponse) : Value :=
  .object [("results", .array (r.results.map ResultItem.json)), ("meta", r.info.json)]

def shape : Decoder.Shape :=
  ⟨"SearchResponse",
    [Decoder.field "results" (Decoder.list ResultItem.decode),
      Decoder.field "meta" SearchMeta.decode]⟩

/-- Decodes an answer that has its description in its place. -/
def decode : Decoder SearchResponse := fun reading d => do
  let present ← shape.collect reading d
  return {
    results :=
      ← Decoder.Shape.defaulted reading present "results" [] (Decoder.list ResultItem.decode)
    info := ← Decoder.Shape.defaulted reading present "meta" SearchMeta.empty SearchMeta.decode }

/-- Moves a bare error of an answer without a description into a description of its own. -/
def settleError : Value → Value
  | .object members =>
      if members.any fun m => m.1 == "meta" then .object members
      else
        match members.find? fun m => m.1 == "error" with
        | some m =>
            .object (insertMember "meta" (.object [("error", m.2)])
              (members.filter fun m => !(m.1 == "error")))
        | none => .object members
  | v => v

/-- Reads the body of an answer.  The whole body has to be JSON before anything is decoded. -/
def read (body : String) : Except Fault SearchResponse :=
  match Value.read? body with
  | some v => decode.ofValue (settleError v)
  | none => .error .malformed

end SearchResponse

end BlogSearch
