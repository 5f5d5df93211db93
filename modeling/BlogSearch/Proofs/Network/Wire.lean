import BlogSearch.Browser.Stage
import BlogSearch.Proofs.Json.Records

/-!
# What is sent is what is received

Requests and answers are written as JSON and read at the other end.  Nothing is lost on the way: each
record is decoded from its own text as itself, whatever texts it holds and whichever of its members
are left out.  An answer to a search is read in the order of its keys and with a look at its errors,
and still comes back as it was.
-/

namespace BlogSearch

open Json Decoder

/-! ## Preferences and searches -/

theorem Renderer.undoes : Renderer.decode.Undoes Renderer.json := by
  intro reading o r
  rw [Renderer.json, Value.arranged_string]
  cases r <;> rfl

theorem SortOrder.undoes : SortOrder.decode.Undoes SortOrder.json := by
  intro reading o s
  rw [SortOrder.json, Value.arranged_string]
  cases s <;> rfl

/-- The members of a written search. -/
def searchMembers (blog query : String) (page : UInt32) (render : Renderer) (sort : SortOrder) :
    List (String × Value) :=
  [("blog", .string blog), ("query", .string query), ("page", .page page),
    ("render", render.json), ("sort", sort.json)]

/-- The fields of a search are read off its written members. -/
theorem searchShape_required
    (name : String) (reading : Reading) (o : Arrangement)
    (blog query : String) (page : UInt32) (render : Renderer) (sort : SortOrder) :
    let shape := searchShape name
    ∃ present,
      shape.collect reading
        ((Value.object (searchMembers blog query page render sort)).arranged o) = .ok present ∧
      shape.required reading present "blog" Decoder.text = .ok blog ∧
      shape.required reading present "query" Decoder.text = .ok query ∧
      shape.required reading present "page" Decoder.page = .ok page ∧
      shape.required reading present "render" Renderer.decode = .ok render ∧
      shape.required reading present "sort" SortOrder.decode = .ok sort := by
  intro shape
  have hdistinct : Distinct (searchMembers blog query page render sort) := by
    simp [Distinct, searchMembers]
  have haccepts : ∀ m ∈ searchMembers blog query page render sort,
      shape.Accepts reading (m.1, m.2.arranged o) := by
    simp [searchMembers, Shape.Accepts, shape, searchShape, field, undoes_text reading o,
      undoes_page reading o, Renderer.undoes reading o, SortOrder.undoes reading o, Except.map]
  obtain ⟨present, hmeets, hcollect⟩ := shape.collect_arranged reading o hdistinct haccepts
  refine ⟨present, hcollect, ?_, ?_, ?_, ?_, ?_⟩
  · exact hmeets.required undoes_text shape reading (by simp [searchMembers])
  · exact hmeets.required undoes_text shape reading (by simp [searchMembers])
  · exact hmeets.required undoes_page shape reading (by simp [searchMembers])
  · exact hmeets.required Renderer.undoes shape reading (by simp [searchMembers])
  · exact hmeets.required SortOrder.undoes shape reading (by simp [searchMembers])

theorem whole_searchMembers
    (blog query : String) (page : UInt32) (render : Renderer) (sort : SortOrder) :
    (Value.object (searchMembers blog query page render sort)).Whole := by
  refine .object ?_
  simp [searchMembers, Value.Whole.string, Value.whole_page, Renderer.json, SortOrder.json]

theorem SearchRequest.undoes : SearchRequest.decode.Undoes SearchRequest.json := by
  intro reading o q
  obtain ⟨present, hcollect, hblog, hquery, hpage, hrender, hsort⟩ :=
    searchShape_required "SearchRequest" reading o q.blog q.query q.page q.render q.sort
  have hjson : q.json = .object (searchMembers q.blog q.query q.page q.render q.sort) := rfl
  simp only [decode, hjson, hcollect, hblog, hquery, hpage, hrender, hsort, bind, Except.bind]
  rfl

theorem SearchRequest.stream_compact (q : SearchRequest) :
    SearchRequest.decode.stream q.json.compact = .ok q :=
  SearchRequest.undoes.stream_compact
    (whole_searchMembers q.blog q.query q.page q.render q.sort)

theorem SearchForm.undoes : SearchForm.decode.Undoes SearchForm.json := by
  intro reading o f
  obtain ⟨present, hcollect, hblog, hquery, hpage, hrender, hsort⟩ :=
    searchShape_required "SearchForm" reading o f.blog f.query f.page f.render f.sort
  have hjson : f.json = .object (searchMembers f.blog f.query f.page f.render f.sort) := rfl
  simp only [decode, hjson, hcollect, hblog, hquery, hpage, hrender, hsort, bind, Except.bind]
  rfl

/-! ## Answers about the account and the blogs -/

theorem LoginResponse.undoes : LoginResponse.decode.Undoes LoginResponse.json := by
  intro reading o r
  have hdistinct : Distinct
      [("success", Value.bool r.success), ("message", Value.string r.message)] := by
    simp [Distinct]
  obtain ⟨present, hmeets, hcollect⟩ := shape.collect_arranged reading o hdistinct (by
    simp [Shape.Accepts, shape, field, undoes_flag reading o, undoes_text reading o, Except.map])
  have hsuccess : shape.required reading present "success" flag = .ok r.success :=
    hmeets.required undoes_flag shape reading (by simp)
  have hmessage : Shape.defaulted reading present "message" "" text = .ok r.message :=
    hmeets.defaulted undoes_text "" reading (by simp)
  simp only [decode, json, hcollect, hsuccess, hmessage, bind, Except.bind]
  rfl

theorem LoginResponse.whole_json (r : LoginResponse) : r.json.Whole := by
  refine .object ?_
  simp [Value.Whole.bool, Value.Whole.string]

theorem BlogSummary.undoes : BlogSummary.decode.Undoes BlogSummary.json := by
  intro reading o b
  have htime : (optional double).Undoes (Value.ofOption Value.double) :=
    undoes_double.optional neverNull_double
  have hdistinct : Distinct
      [("name", Value.string b.name), ("count", .word b.count),
        ("latest", Value.ofOption Value.double b.latest),
        ("earliest", Value.ofOption Value.double b.earliest)] := by
    simp [Distinct]
  obtain ⟨present, hmeets, hcollect⟩ := shape.collect_arranged reading o hdistinct (by
    simp [Shape.Accepts, shape, field, undoes_text reading o, undoes_word reading o,
      htime reading o, Except.map])
  have hname : shape.required reading present "name" text = .ok b.name :=
    hmeets.required undoes_text shape reading (by simp)
  have hcount : Shape.defaulted reading present "count" 0 word = .ok b.count :=
    hmeets.defaulted undoes_word 0 reading (by simp)
  have hlatest : Shape.defaulted reading present "latest" none (optional double) = .ok b.latest :=
    hmeets.defaulted htime none reading (by simp)
  have hearliest :
      Shape.defaulted reading present "earliest" none (optional double) = .ok b.earliest :=
    hmeets.defaulted htime none reading (by simp)
  simp only [decode, json, hcollect, hname, hcount, hlatest, hearliest, bind, Except.bind]
  rfl

theorem BlogSummary.whole_json (name : String) (count : UInt64) :
    (BlogSummary.json ⟨name, count, none, none⟩).Whole := by
  refine .object ?_
  simp [Value.Whole.string, Value.whole_word, Value.ofOption, Value.Whole.null]

/-! ## Answers to a search -/

namespace SearchMeta

/-- The members of a written description, of which the error may be left out. -/
def members (m : SearchMeta) : List (String × Value) :=
  [("count", .word m.count), ("matches", .word m.total), ("offset", .word m.offset),
    ("pagesize", .word m.pageSize), ("time_ns", .word m.timeNs)] ++
    Value.optionalMember "error" Value.string m.error

theorem distinct_members (m : SearchMeta) : Distinct m.members := by
  have hkeys : ["count", "matches", "offset", "pagesize", "time_ns", "error"].Nodup := by decide
  refine hkeys.sublist ?_
  rw [members, List.map_append]
  exact (List.Sublist.refl _).append Value.keys_optionalMember_sublist

theorem undoes : decode.Undoes json := by
  intro reading o m
  have haccepts : ∀ n ∈ m.members, shape.Accepts reading (n.1, n.2.arranged o) := by
    simp only [members, List.forall_mem_append, List.forall_mem_cons,
      Value.forall_mem_optionalMember]
    simp [Shape.Accepts, shape, field, undoes_word reading o,
      undoes_text.optional_some neverNull_string reading o, Except.map]
  obtain ⟨present, hmeets, hcollect⟩ :=
    shape.collect_arranged reading o m.distinct_members haccepts
  have hword (name : String) {n : UInt64} (hmem : (name, Value.word n) ∈ m.members) :
      Shape.defaulted reading present name 0 word = .ok n :=
    hmeets.defaulted undoes_word 0 reading hmem
  have hcount := hword "count" (n := m.count) (by simp [members])
  have htotal := hword "matches" (n := m.total) (by simp [members])
  have hoffset := hword "offset" (n := m.offset) (by simp [members])
  have hpageSize := hword "pagesize" (n := m.pageSize) (by simp [members])
  have htime := hword "time_ns" (n := m.timeNs) (by simp [members])
  have herror : Shape.defaulted reading present "error" none (optional text) = .ok m.error :=
    hmeets.defaulted_optional undoes_text neverNull_string reading
      (by simp [members, Value.mem_optionalMember])
  have hjson : m.json = .object m.members := rfl
  simp only [decode, hjson, hcollect, hcount, htotal, hoffset, hpageSize, htime, herror, bind,
    Except.bind]
  rfl

theorem whole_json (m : SearchMeta) : m.json.Whole := by
  refine .object ?_
  simp only [List.forall_mem_append, List.forall_mem_cons, Value.forall_mem_optionalMember]
  simp [Value.Whole.string, Value.whole_word]

theorem fits_json (m : SearchMeta) (room : Nat) : m.json.Fits (room + 1) := by
  refine .object ?_
  simp only [List.forall_mem_append, List.forall_mem_cons, Value.forall_mem_optionalMember]
  simp [Value.Fits.string, Value.Fits.number, Value.word]

end SearchMeta

namespace ResultItem

/-- The members of a written post, of which the last three may be left out. -/
def members (item : ResultItem) : List (String × Value) :=
  [("rendered", .string item.rendered), ("tags", .array (item.tags.map Value.string)),
    ("blog_name", .string item.blogName), ("post_url", .string item.postUrl)] ++
    Value.optionalMember "id" Value.word item.id ++
    Value.optionalMember "timestamp" Value.signed item.timestamp ++
    Value.optionalMember "timestamp_hf" Value.string item.dateText

theorem distinct_members (item : ResultItem) : Distinct item.members := by
  have hkeys : ["rendered", "tags", "blog_name", "post_url", "id", "timestamp",
      "timestamp_hf"].Nodup := by decide
  refine hkeys.sublist ?_
  simp only [members, List.map_append]
  exact (((List.Sublist.refl _).append Value.keys_optionalMember_sublist).append
    Value.keys_optionalMember_sublist).append Value.keys_optionalMember_sublist

theorem undoes : decode.Undoes json := by
  intro reading o item
  have haccepts : ∀ n ∈ item.members, shape.Accepts reading (n.1, n.2.arranged o) := by
    simp only [members, List.forall_mem_append, List.forall_mem_cons,
      Value.forall_mem_optionalMember]
    simp [Shape.Accepts, shape, field, undoes_text reading o, undoes_text.list reading o,
      undoes_word.optional_some neverNull_word reading o,
      undoes_signed.optional_some neverNull_signed reading o,
      undoes_text.optional_some neverNull_string reading o, Except.map]
  obtain ⟨present, hmeets, hcollect⟩ :=
    shape.collect_arranged reading o item.distinct_members haccepts
  have htext (name : String) {s : String} (hmem : (name, Value.string s) ∈ item.members) :
      shape.required reading present name text = .ok s :=
    hmeets.required undoes_text shape reading hmem
  have hrendered := htext "rendered" (s := item.rendered) (by simp [members])
  have hblogName := htext "blog_name" (s := item.blogName) (by simp [members])
  have hpostUrl := htext "post_url" (s := item.postUrl) (by simp [members])
  have htags : Shape.defaulted reading present "tags" [] (list text) = .ok item.tags :=
    hmeets.defaulted undoes_text.list [] reading (by simp [members])
  have hid : Shape.defaulted reading present "id" none (optional word) = .ok item.id :=
    hmeets.defaulted_optional undoes_word neverNull_word reading
      (by simp [members, Value.mem_optionalMember])
  have htimestamp :
      Shape.defaulted reading present "timestamp" none (optional signed) = .ok item.timestamp :=
    hmeets.defaulted_optional undoes_signed neverNull_signed reading
      (by simp [members, Value.mem_optionalMember])
  have hdateText :
      Shape.defaulted reading present "timestamp_hf" none (optional text) = .ok item.dateText :=
    hmeets.defaulted_optional undoes_text neverNull_string reading
      (by simp [members, Value.mem_optionalMember])
  have hjson : item.json = .object item.members := rfl
  simp only [decode, hjson, hcollect, hrendered, hblogName, hpostUrl, htags, hid, htimestamp,
    hdateText, bind, Except.bind]
  rfl

theorem whole_json (item : ResultItem) : item.json.Whole := by
  have htags : (Value.array (item.tags.map Value.string)).Whole := by
    refine .array ?_
    simp [Value.Whole.string]
  refine .object ?_
  simp only [List.forall_mem_append, List.forall_mem_cons, Value.forall_mem_optionalMember]
  simp [Value.Whole.string, Value.whole_word, Value.whole_signed, htags]

theorem fits_json (item : ResultItem) (room : Nat) : item.json.Fits (room + 2) := by
  have htags : (Value.array (item.tags.map Value.string)).Fits (room + 1) := by
    refine .array ?_
    simp [Value.Fits.string]
  refine .object ?_
  simp only [List.forall_mem_append, List.forall_mem_cons, Value.forall_mem_optionalMember]
  simp [Value.Fits.string, Value.Fits.number, Value.word, Value.signed, htags]

end ResultItem

namespace SearchResponse

theorem undoes : decode.Undoes json := by
  intro reading o r
  have hdistinct : Distinct
      [("results", Value.array (r.results.map ResultItem.json)), ("meta", r.info.json)] := by
    simp [Distinct]
  obtain ⟨present, hmeets, hcollect⟩ := shape.collect_arranged reading o hdistinct (by
    simp [Shape.Accepts, shape, field, ResultItem.undoes.list reading o,
      SearchMeta.undoes reading o, Except.map])
  have hresults :
      Shape.defaulted reading present "results" [] (list ResultItem.decode) = .ok r.results :=
    hmeets.defaulted ResultItem.undoes.list [] reading (by simp)
  have hinfo :
      Shape.defaulted reading present "meta" SearchMeta.empty SearchMeta.decode = .ok r.info :=
    hmeets.defaulted SearchMeta.undoes SearchMeta.empty reading (by simp)
  simp only [decode, json, hcollect, hresults, hinfo, bind, Except.bind]
  rfl

theorem whole_json (r : SearchResponse) : r.json.Whole := by
  have hresults : (Value.array (r.results.map ResultItem.json)).Whole := by
    refine .array ?_
    simp [ResultItem.whole_json]
  refine .object ?_
  simp [hresults, SearchMeta.whole_json]

theorem fits_json (r : SearchResponse) : r.json.Fits Document.nestingLimit := by
  have hresults : (Value.array (r.results.map ResultItem.json)).Fits 126 := by
    refine .array ?_
    simp [ResultItem.fits_json]
  refine .object ?_
  simp [hresults, SearchMeta.fits_json]

/-- An answer with a description in its place is not rewritten. -/
theorem settleError_json (r : SearchResponse) : settleError r.json.sorted = r.json.sorted := by
  have hlt : "meta" < "results" := by decide
  simp [json, Value.sorted, Value.sortedMembers, sortMembers, insertMember, hlt, settleError]

/-- An answer is read from its own text as itself. -/
theorem read_compact (r : SearchResponse) : read r.json.compact = .ok r := by
  have hread := Value.read?_compact r.whole_json r.fits_json
  simp only [read, hread, settleError_json]
  exact undoes .settled .sorted r

end SearchResponse

/-- Every answer to a search is read from its own text as itself, and so is every other record that
goes over the wire or is kept in its form; of a listed blog this says nothing about its times.  What
a round of a search sends is decoded as the request of its form. -/
theorem records_read_back :
    (∀ r : SearchResponse, SearchResponse.read r.json.compact = .ok r) ∧
      (∀ q : SearchRequest, SearchRequest.decode.stream q.json.compact = .ok q) ∧
      (∀ f : SearchForm, SearchForm.decode.stream f.json.compact = .ok f) ∧
      (∀ item : ResultItem, ResultItem.decode.stream item.json.compact = .ok item) ∧
      (∀ m : SearchMeta, SearchMeta.decode.stream m.json.compact = .ok m) ∧
      (∀ r : LoginResponse, LoginResponse.decode.stream r.json.compact = .ok r) ∧
      (∀ (name : String) (count : UInt64),
        let b : BlogSummary := ⟨name, count, none, none⟩
        BlogSummary.decode.stream b.json.compact = .ok b) ∧
      ∀ a : Attempt, ∃ body, a.request = ⟨.post, "/search", some body⟩ ∧
        SearchRequest.decode.stream body = .ok a.form.request := by
  refine ⟨SearchResponse.read_compact, SearchRequest.stream_compact, ?_, ?_, ?_, ?_, ?_, ?_⟩
  · intro f
    exact SearchForm.undoes.stream_compact
      (whole_searchMembers f.blog f.query f.page f.render f.sort)
  · intro item
    exact ResultItem.undoes.stream_compact item.whole_json
  · intro m
    exact SearchMeta.undoes.stream_compact m.whole_json
  · intro r
    exact LoginResponse.undoes.stream_compact r.whole_json
  · intro name count
    exact BlogSummary.undoes.stream_compact (BlogSummary.whole_json name count)
  · intro a
    exact ⟨a.form.request.json.compact, rfl, SearchRequest.stream_compact a.form.request⟩

end BlogSearch
