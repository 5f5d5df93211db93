import BlogSearch.Proofs.Json.Unknown
import BlogSearch.Proofs.Steps
import BlogSearch.Search.Response

/-!
# What is read of an answer

Of the body of an answer only three members matter: the results, their description, and an error
beside them.  The error matters only where there is no description, and then it stands for one that
holds nothing but the error.
-/

namespace BlogSearch

open Json

namespace SearchResponse

/-- The answer that description and results make, of which the description is decoded first. -/
def ofParts (description? results? : Option Value) : Except Fault SearchResponse := do
  let info ← SearchMeta.decode.ofMember? .empty description?
  let results ← (Decoder.list ResultItem.decode).ofMember? [] results?
  return ⟨results, info⟩

variable {ms : List (String × Value)}

theorem knows_eq (key : String) : shape.knows key = (key == "meta" || key == "results") := by
  have hfields : shape.knows key = ("results" == key || ("meta" == key || false)) :=
    shape.knows_eq_any key
  rw [hfields, Bool.or_false, Bool.or_comm, BEq.comm, BEq.comm (a := "results")]

theorem ofParts_eq_ok_iff {description? results? : Option Value} {r : SearchResponse} :
    ofParts description? results? = .ok r ↔
      SearchMeta.decode.ofMember? .empty description? = .ok r.info ∧
        (Decoder.list ResultItem.decode).ofMember? [] results? = .ok r.results := by
  simp only [ofParts, bind_eq_ok_iff, pure_eq_ok, Except.ok.injEq]
  constructor
  · rintro ⟨info, hinfo, results, hresults, rfl⟩
    exact ⟨hinfo, hresults⟩
  · rintro ⟨hinfo, hresults⟩
    exact ⟨r.info, hinfo, r.results, hresults, rfl⟩

/-- The members that a record finds. -/
def foundParts (description? results? : Option Value) : List (String × Document) :=
  (description?.toList.map fun v => ("meta", v.document)) ++
    results?.toList.map fun v => ("results", v.document)

theorem collect_description (info : Value) (rest : List (Option String × Document)) :
    shape.collectMembers .settled [] ((some "meta", info.document) :: rest) =
      SearchMeta.decode.ofValue info >>= fun _ =>
        shape.collectMembers .settled [("meta", info.document)] rest :=
  Decoder.Shape.collectMembers_cons_of_field rfl rfl

theorem collect_results (seen : List (String × Document)) (results : Value)
    (hseen : seen.any (fun entry => entry.1 == "results") = false) :
    shape.collectMembers .settled seen [(some "results", results.document)] =
      (Decoder.list ResultItem.decode).ofValue results >>= fun _ =>
        .ok (seen ++ [("results", results.document)]) :=
  Decoder.Shape.collectMembers_cons_of_field rfl hseen

/-- Collecting the members makes the answer once, and drops it. -/
theorem collect_parts (description? results? : Option Value) :
    shape.collectMembers .settled []
        (Value.memberDocuments ((description?.toList.map fun v => ("meta", v)) ++
          results?.toList.map fun v => ("results", v))) =
      ofParts description? results? >>= fun _ => .ok (foundParts description? results?) := by
  cases description? with
  | none =>
      cases results? with
      | none => rfl
      | some results =>
          have hresults := collect_results [] results rfl
          simp only [Option.toList, List.map, List.nil_append, Value.memberDocuments, hresults,
            ofParts, Decoder.ofMember?, foundParts]
          cases (Decoder.list ResultItem.decode).ofValue results <;> rfl
  | some info =>
      cases results? with
      | none =>
          simp only [Option.toList, List.map, List.append_nil, Value.memberDocuments,
            collect_description, ofParts, Decoder.ofMember?, foundParts]
          cases SearchMeta.decode.ofValue info <;> rfl
      | some results =>
          have hresults := collect_results [("meta", info.document)] results rfl
          simp only [Option.toList, List.map, List.singleton_append, Value.memberDocuments,
            collect_description, hresults, ofParts, Decoder.ofMember?, foundParts]
          cases SearchMeta.decode.ofValue info with
          | error fault => rfl
          | ok m => cases (Decoder.list ResultItem.decode).ofValue results <;> rfl

theorem defaulted_description (description? results? : Option Value) :
    Decoder.Shape.defaulted .settled ⟨foundParts description? results?, false⟩ "meta"
        SearchMeta.empty SearchMeta.decode =
      SearchMeta.decode.ofMember? .empty description? := by
  cases description? <;> cases results? <;> rfl

theorem defaulted_results (description? results? : Option Value) :
    Decoder.Shape.defaulted .settled ⟨foundParts description? results?, false⟩ "results" []
        (Decoder.list ResultItem.decode) =
      (Decoder.list ResultItem.decode).ofMember? [] results? := by
  cases description? <;> cases results? <;> rfl

/-- Of an object with its members in order, description and results are decoded. -/
theorem decode_object (h : Ascending ms) :
    decode.ofValue (.object ms) =
      ofParts ((Value.object ms).member? "meta") ((Value.object ms).member? "results") := by
  have hlt : "meta" < "results" := by decide
  have hcollect := shape.collectMembers_filter .settled [] ms
  simp only [knows_eq] at hcollect
  rw [Value.filter_two_keys h hlt, collect_parts] at hcollect
  rw [Decoder.ofValue, Value.document, decode]
  simp only [Decoder.Shape.collect, hcollect]
  generalize (Value.object ms).member? "meta" = description?
  generalize (Value.object ms).member? "results" = results?
  cases hparts : ofParts description? results? with
  | error fault => rfl
  | ok r =>
      obtain ⟨hinfo, hresults⟩ := ofParts_eq_ok_iff.mp hparts
      simp only [ok_bind, pure_eq_ok, if_true, defaulted_results, defaulted_description, hresults,
        hinfo]

/-- The description of an answer: its own, or else one of the error beside the results. -/
def description? (ms : List (String × Value)) : Option Value :=
  ((Value.object ms).member? "meta").or
    (((Value.object ms).member? "error").map fun v => .object [("error", v)])

/-- The members that are no error beside the results. -/
def others (ms : List (String × Value)) : List (String × Value) :=
  ms.filter fun m => !(m.1 == "error")

theorem member?_others {key : String} (h : key ≠ "error") :
    (Value.object (others ms)).member? key = (Value.object ms).member? key :=
  Value.member?_filter (p := fun key => !(key == "error")) (by simpa using h)

theorem member?_error_others (ms : List (String × Value)) :
    (Value.object (others ms)).member? "error" = none := by
  rw [Value.member?_eq_none_iff]
  intro m hm
  simpa using (List.mem_filter.mp hm).2

theorem others_others (ms : List (String × Value)) : others (others ms) = others ms := by
  simp [others]

theorem any_meta_eq : (ms.any fun m => m.1 == "meta") = ((Value.object ms).member? "meta").isSome := by
  rw [Value.member?, Option.isSome_map, List.isSome_find?]

/-- The error has moved into the description, where there was none. -/
theorem settleError_object (h : Ascending ms) :
    ∃ ms', settleError (.object ms) = .object ms' ∧ Ascending ms' ∧
      (Value.object ms').member? "meta" = description? ms ∧
        (Value.object ms').member? "results" = (Value.object ms).member? "results" := by
  simp only [settleError, any_meta_eq, Value.find?_key, description?]
  cases hmeta : (Value.object ms).member? "meta" with
  | some info => exact ⟨ms, rfl, h, hmeta, rfl⟩
  | none =>
      cases (Value.object ms).member? "error" with
      | none => exact ⟨ms, rfl, h, hmeta, rfl⟩
      | some v =>
          refine ⟨_, rfl, ascending_insertMember (h.filter _), Value.member?_insertMember_self, ?_⟩
          rw [Value.member?_insertMember_ne (by decide)]
          exact member?_others (by decide)

/-- What is read of the body of an answer. -/
theorem read_object {body : String} (h : Value.read? body = some (.object ms)) :
    read body = ofParts (description? ms) ((Value.object ms).member? "results") := by
  obtain ⟨ms', hsettled, hascending, hmeta, hresults⟩ := settleError_object (Value.ascending_of_read? h)
  simp only [read, h, hsettled]
  rw [decode_object hascending, hmeta, hresults]

end SearchResponse

/-! ## Descriptions with an error -/

namespace SearchMeta

/-- A description that holds nothing but an error. -/
theorem decode_bare_error (v : Value) :
    decode.ofValue (.object [("error", v)]) =
      (Decoder.optional Decoder.text).ofValue v >>= fun e => .ok { empty with error := e } := by
  have hcollect : shape.collectMembers .settled [] [(some "error", v.document)] =
      (Decoder.optional Decoder.text).ofValue v >>= fun _ => .ok [("error", v.document)] :=
    Decoder.Shape.collectMembers_cons_of_field rfl rfl
  rw [Decoder.ofValue, Value.document, decode]
  simp only [Value.memberDocuments, Decoder.Shape.collect, hcollect]
  cases herror : (Decoder.optional Decoder.text).ofValue v with
  | error fault => rfl
  | ok e =>
      have hfound : Decoder.Shape.defaulted .settled ⟨[("error", v.document)], false⟩ "error" none
          (Decoder.optional Decoder.text) = .ok e := herror
      simp only [ok_bind, pure_eq_ok, if_true, hfound]
      rfl

/-- The error of a description is that of its member. -/
theorem error_of_decode
    {ms : List (String × Value)} {info : SearchMeta} (h : decode.ofValue (.object ms) = .ok info)
    {message : String} (herror : (Value.object ms).member? "error" = some (.string message)) :
    info.error = some message := by
  rw [Decoder.ofValue, Value.document, decode] at h
  simp only [bind_eq_ok_iff, Decoder.Shape.collect, if_true, pure_eq_ok, Except.ok.injEq] at h
  obtain ⟨present, ⟨found, hcollect, rfl⟩, -, -, -, -, -, -, -, -, -, -, error, hfound, rfl⟩ := h
  have hknows : shape.knows "error" = true := rfl
  have hmember := shape.find?_of_collectMembers .settled hcollect hknows
  rw [herror, Option.map_some] at hmember
  simp only [Decoder.Shape.defaulted, hmember] at hfound
  exact (Except.ok.inj hfound).symm

end SearchMeta

namespace SearchResponse

variable {ms : List (String × Value)} {body : String}

/-- Nothing but a text is a message, and nothing else stands for none but `null`. -/
theorem optional_text_mismatch
    {v : Value} (hnull : v ≠ .null) (hstring : ∀ s, v ≠ .string s) :
    ∃ m : Mismatch, (Decoder.optional Decoder.text).ofValue v = .error (.mismatch m) := by
  cases v with
  | null => exact absurd rfl hnull
  | bool b => exact ⟨.wrongType (.bool b) "a string", rfl⟩
  | number n =>
      cases n with
      | whole n fits => exact ⟨.wrongType (.whole n) "a string", rfl⟩
      | double x => exact ⟨.wrongType (.double x) "a string", rfl⟩
  | string s => exact absurd rfl (hstring s)
  | array items => exact ⟨.wrongType .sequence "a string", rfl⟩
  | object members => exact ⟨.wrongType .map "a string", rfl⟩

/-- The members hold these results, or no results where there are none, and this error: in their
description, or in the place of it. -/
structure ReportsError (ms : List (String × Value)) (rs : List ResultItem) (message : String) :
    Prop where
  results : (Decoder.list ResultItem.decode).ofMember? [] ((Value.object ms).member? "results") =
    .ok rs
  error : ((Value.object ms).member? "meta" = none ∧
      (Value.object ms).member? "error" = some (.string message)) ∨
    ∃ (described : List (String × Value)) (info : SearchMeta),
      (Value.object ms).member? "meta" = some (.object described) ∧
        SearchMeta.decode.ofValue (.object described) = .ok info ∧
        (Value.object described).member? "error" = some (.string message)

/-- An error is read with the results, whatever else the description says. -/
theorem ReportsError.read
    {rs : List ResultItem} {message : String} (h : ReportsError ms rs message)
    (hbody : Value.read? body = some (.object ms)) :
    ∃ info, SearchResponse.read body = .ok ⟨rs, info⟩ ∧ info.error = some message := by
  rw [read_object hbody]
  simp only [ofParts_eq_ok_iff]
  rcases h.error with ⟨hmeta, herror⟩ | ⟨described, info, hmeta, hinfo, herror⟩
  · refine ⟨{ SearchMeta.empty with error := some message }, ⟨?_, h.results⟩, rfl⟩
    rw [description?, hmeta, herror, Option.none_or]
    exact SearchMeta.decode_bare_error (.string message)
  · refine ⟨info, ⟨?_, h.results⟩, SearchMeta.error_of_decode hinfo herror⟩
    rw [description?, hmeta, Option.some_or]
    exact hinfo

/-- Beside a description an error is not looked at, and without one `null` is as good as no error. -/
theorem read_eq_decode_others
    (hbody : Value.read? body = some (.object ms))
    (h : (Value.object ms).member? "meta" ≠ none ∨ (Value.object ms).member? "error" = none ∨
      (Value.object ms).member? "error" = some .null) :
    read body = decode.ofValue (.object (others ms)) := by
  have hbare : SearchMeta.decode.ofMember? .empty (some (.object [("error", .null)])) =
      SearchMeta.decode.ofMember? .empty none :=
    SearchMeta.decode_bare_error .null
  have hdescription : SearchMeta.decode.ofMember? .empty (description? ms) =
      SearchMeta.decode.ofMember? .empty ((Value.object ms).member? "meta") := by
    rw [description?]
    cases hmeta : (Value.object ms).member? "meta" with
    | some info => rfl
    | none =>
        rcases h with hsome | hnone | hnull
        · exact absurd hmeta hsome
        · rw [hnone]
          rfl
        · rw [hnull]
          exact hbare
  have hascending : Ascending (others ms) := (Value.ascending_of_read? hbody).filter _
  rw [read_object hbody, decode_object hascending, member?_others (by decide),
    member?_others (by decide), ofParts, ofParts, hdescription]

/-- Without a description an error has to be a text. -/
theorem read_eq_mismatch
    (hbody : Value.read? body = some (.object ms))
    (hmeta : (Value.object ms).member? "meta" = none) {v : Value}
    (herror : (Value.object ms).member? "error" = some v) (hnull : v ≠ .null)
    (hstring : ∀ s, v ≠ .string s) :
    ∃ m : Mismatch, read body = .error (.mismatch m) := by
  obtain ⟨m, hm⟩ := optional_text_mismatch hnull hstring
  refine ⟨m, ?_⟩
  rw [read_object hbody, description?, hmeta, herror, Option.none_or, Option.map_some, ofParts,
    Decoder.ofMember?, SearchMeta.decode_bare_error, hm]
  rfl

end SearchResponse

end BlogSearch
