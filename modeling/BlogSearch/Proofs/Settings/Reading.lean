import BlogSearch.Proofs.Json.Unknown
import BlogSearch.Proofs.Steps
import BlogSearch.Settings.Preferences

/-!
# What a file says of preferences

A text from which preferences are decoded is an object.  Each preference is what its member names, and
the other members are those of the object, all of them and as they stand there.
-/

namespace BlogSearch

open Json

/-! ## Constants of a text -/

namespace Json.Decoder

variable {α : Type} {known : List (String × α)} {d : Document} {room : Nat}

theorem wrongType_ne_ok {expected : String} {a : α} : wrongType expected d ≠ .ok a := by
  intro h
  obtain ⟨f, -, hthrow⟩ := bind_eq_ok_iff.mp h
  cases hthrow

theorem eq_null_of_nothing {u : Unit} (h : nothing .streaming d = .ok u) : d = .null := by
  cases d with
  | null => rfl
  | _ => exact absurd h wrongType_ne_ok

/-- A constant that a text names is named by the value of the text. -/
theorem exists_value?_of_variant {a : α}
    (hroom : 0 < room) (h : variant known .streaming d = .ok a) :
    ∃ v, d.value? room = some v ∧ (variant known).ofValue v = .ok a := by
  cases d with
  | string content =>
      cases content with
      | none => cases h
      | some name => exact ⟨.string name, rfl, h⟩
  | object members closed =>
      rcases members with _ | ⟨⟨_ | name, content⟩, rest⟩
      · cases h
      · cases h
      · obtain ⟨a', hname, h⟩ := bind_eq_ok_iff.mp h
        obtain ⟨u, hcontent, h⟩ := bind_eq_ok_iff.mp h
        split at h
        · next hend =>
            cases h
            obtain ⟨hrest, rfl⟩ := Bool.and_eq_true_iff.mp hend
            obtain rfl := List.isEmpty_iff.mp hrest
            obtain rfl := eq_null_of_nothing hcontent
            refine ⟨.object [(name, .null)], ?_, ?_⟩
            · simp [Document.value?, Document.members?, hroom, sortMembers, insertMember]
            · rw [ofValue, Value.document, Value.memberDocuments, Value.memberDocuments, variant, hname]
              rfl
        · cases h
  | _ => cases h

/-- A constant that a text may name is the one that the value of the text names, if it names any. -/
theorem exists_value?_of_optional_variant {a? : Option α}
    (hroom : 0 < room) (h : optional (variant known) .streaming d = .ok a?) :
    ∃ v, d.value? room = some v ∧ (optional (variant known)).ofValue v = .ok a? := by
  by_cases hnull : d = .null
  · subst hnull
    exact ⟨.null, rfl, h⟩
  · have hdecoded : (variant known .streaming d).map some = .ok a? := by
      cases d with
      | null => exact absurd rfl hnull
      | _ => exact h
    obtain ⟨a, ha, rfl⟩ := map_eq_ok_iff.mp hdecoded
    obtain ⟨v, hv, hread⟩ := exists_value?_of_variant hroom ha
    refine ⟨v, hv, ?_⟩
    cases v with
    | null => cases hread
    | _ => exact congrArg (Except.map some) hread

end Json.Decoder

namespace Preferences

/-! ## Preferences of members -/

/-- The name is not one of a preference. -/
def isOther (key : String) : Bool :=
  key != "render" && key != "sort"

/-- The members under other names than those of the preferences. -/
def others (ms : List (String × Value)) : List (String × Value) :=
  ms.filter fun m => isOther m.1

/-- The preferences are what the members of an object say: each is named by its own member, if there is
one, and what is kept beside them are all other members. -/
structure ReadFrom (ms : List (String × Value)) (p : Preferences) : Prop where
  render : (Decoder.optional Renderer.decode).ofMember? none ((Value.object ms).member? "render") =
    .ok p.render
  sort : (Decoder.optional SortOrder.decode).ofMember? none ((Value.object ms).member? "sort") =
    .ok p.sort
  others : p.extra = others ms

variable {ms : List (String × Value)} {p q : Preferences} {v : Value}

theorem readFrom_nil : ReadFrom [] empty :=
  ⟨rfl, rfl, rfl⟩

theorem ReadFrom.insert_render
    (h : ReadFrom ms p) {render : Option Renderer}
    (hv : (Decoder.optional Renderer.decode).ofValue v = .ok render) :
    ReadFrom (insertMember "render" v ms) { p with render := render } := by
  refine ⟨?_, ?_, ?_⟩
  · rw [Value.member?_insertMember_self]
    exact hv
  · rw [Value.member?_insertMember_ne (by decide)]
    exact h.sort
  · rw [Preferences.others, filter_insertMember_of_neg rfl]
    exact h.others

theorem ReadFrom.insert_sort
    (h : ReadFrom ms p) {sort : Option SortOrder}
    (hv : (Decoder.optional SortOrder.decode).ofValue v = .ok sort) :
    ReadFrom (insertMember "sort" v ms) { p with sort := sort } := by
  refine ⟨?_, ?_, ?_⟩
  · rw [Value.member?_insertMember_ne (by decide)]
    exact h.render
  · rw [Value.member?_insertMember_self]
    exact hv
  · rw [Preferences.others, filter_insertMember_of_neg rfl]
    exact h.others

theorem ReadFrom.insert_other
    (h : ReadFrom ms p) (hms : Ascending ms) {key : String} (hrender : key ≠ "render")
    (hsort : key ≠ "sort") :
    ReadFrom (insertMember key v ms) { p with extra := insertMember key v p.extra } := by
  have hkey : isOther key = true := by simp [isOther, hrender, hsort]
  refine ⟨?_, ?_, ?_⟩
  · rw [Value.member?_insertMember_ne (Ne.symm hrender)]
    exact h.render
  · rw [Value.member?_insertMember_ne (Ne.symm hsort)]
    exact h.sort
  · rw [Preferences.others, filter_insertMember_of_pos hms hkey, ← Preferences.others, ← h.others]

/-! ## Preferences of a text -/

/-- Every member that is taken is one of the value, and the last of those with its key. -/
theorem exists_members?_of_ofMembers?
    {renderSeen sortSeen : Bool} {members : List (Option String × Document)}
    (hms : Ascending ms) (hp : ReadFrom ms p)
    (h : ofMembers? renderSeen sortSeen p members = some q) :
    ∃ vs, Document.members? (Document.nestingLimit - 1) members = some vs ∧
      ReadFrom (vs.foldl (fun sorted m => insertMember m.1 m.2 sorted) ms) q := by
  have hroom : 0 < Document.nestingLimit - 1 := by decide
  fun_induction ofMembers? renderSeen sortSeen p members generalizing ms with
  | case1 =>
      cases h
      exact ⟨[], rfl, hp⟩
  | case3 _ _ _ _ _ _ _ hrender ih =>
      obtain ⟨v, hv, hread⟩ := Decoder.exists_value?_of_optional_variant hroom hrender
      obtain ⟨vs, hvs, hq⟩ := ih (ascending_insertMember hms) (hp.insert_render hread) h
      exact ⟨_, Document.members?_cons hv hvs, hq⟩
  | case6 _ _ _ _ _ _ _ hsort _ ih =>
      obtain ⟨v, hv, hread⟩ := Decoder.exists_value?_of_optional_variant hroom hsort
      obtain ⟨vs, hvs, hq⟩ := ih (ascending_insertMember hms) (hp.insert_sort hread) h
      exact ⟨_, Document.members?_cons hv hvs, hq⟩
  | case8 _ _ _ _ _ _ hrender hsort _ hv ih =>
      obtain ⟨vs, hvs, hq⟩ :=
        ih (ascending_insertMember hms) (hp.insert_other hms hrender hsort) h
      exact ⟨_, Document.members?_cons hv hvs, hq⟩
  | _ => cases h

/-- A text from which preferences are decoded is an object, and they are what its members say. -/
theorem exists_members_of_decode? {s : String} (h : decode? s = some p) :
    ∃ ms, Value.read? s = some (.object ms) ∧ ReadFrom ms p ∧
      ∀ m ∈ ms, m.2.Settled (Document.nestingLimit - 1) := by
  rw [decode?] at h
  split at h
  · next members hdocument hfinished =>
      obtain ⟨vs, hvs, hread⟩ := exists_members?_of_ofMembers? List.Pairwise.nil readFrom_nil h
      refine ⟨sortMembers vs, ?_, hread, ?_⟩
      · rw [Value.read?, if_pos hfinished, hdocument, Document.value?, hvs]
        rfl
      · intro m hm
        exact Document.settled_of_members? hvs m (mem_of_mem_sortMembers hm)
  · cases h

/-- Texts that say the same beside the preferences have the same members under all other names. -/
theorem exists_others_eq
    {s s' : String} (hs : decode? s = some p) (hs' : decode? s' = some q)
    (hextra : q.extra = p.extra) :
    ∃ ms ms', Value.read? s = some (.object ms) ∧ Value.read? s' = some (.object ms') ∧
      others ms' = others ms := by
  obtain ⟨ms, hms, hp, -⟩ := exists_members_of_decode? hs
  obtain ⟨ms', hms', hq, -⟩ := exists_members_of_decode? hs'
  refine ⟨ms, ms', hms, hms', ?_⟩
  rw [← hp.others, ← hq.others, hextra]

/-! ## What a file holds -/

/-- The text of the file, if it can be read. -/
def text? (d : Disk) : Option String :=
  d.read?.bind Text.Utf8.decode?

/-- The preferences that a disk holds, if it holds any. -/
def held? (d : Disk) : Option Preferences :=
  (d.read?.bind Text.Utf8.decode?).bind decode?

/-- The preferences are those of the file.  A file that is missing or cannot be decoded counts as one
without members. -/
inductive OnDisk (d : Disk) : Preferences → Prop
  | text {s : String} {ms : List (String × Value)} {p : Preferences}
      (htext : text? d = some s) (hdecode : decode? s = some p)
      (hread : Value.read? s = some (.object ms)) (hp : ReadFrom ms p) : OnDisk d p
  | missing (h : held? d = none) : OnDisk d ⟨none, none, []⟩

theorem load_of_held?_eq_some {d : Disk} (h : held? d = some p) : load d = p :=
  congrArg (·.getD empty) h

theorem load_of_held?_eq_none {d : Disk} (h : held? d = none) : load d = empty :=
  congrArg (·.getD empty) h

theorem onDisk_load (d : Disk) : OnDisk d (load d) := by
  rcases hheld : held? d with _ | p
  · rw [load_of_held?_eq_none hheld]
    exact .missing hheld
  · obtain ⟨s, htext, hdecode⟩ := Option.bind_eq_some_iff.mp hheld
    obtain ⟨ms, hread, hp, -⟩ := exists_members_of_decode? hdecode
    rw [load_of_held?_eq_some hheld]
    exact .text htext hdecode hread hp

/-- The other members as they come out of a file: in the order of their keys, none under the name of a
preference, and each nesting no further than it may. -/
structure Kept (p : Preferences) : Prop where
  ascending : Ascending p.extra
  others : ∀ m ∈ p.extra, m.1 ≠ "render" ∧ m.1 ≠ "sort"
  settled : ∀ m ∈ p.extra, m.2.Settled (Document.nestingLimit - 1)

theorem kept_empty : empty.Kept :=
  ⟨List.Pairwise.nil, nofun, nofun⟩

/-- What is kept does not depend on the preferences. -/
theorem Kept.of_extra_eq (h : p.Kept) (hextra : q.extra = p.extra) : q.Kept :=
  ⟨hextra ▸ h.ascending, hextra ▸ h.others, hextra ▸ h.settled⟩

theorem kept_of_decode? {s : String} (h : decode? s = some p) : p.Kept := by
  obtain ⟨ms, hread, hp, hsettled⟩ := exists_members_of_decode? h
  refine ⟨?_, ?_, ?_⟩
  · rw [hp.others]
    exact (Value.ascending_of_read? hread).filter _
  · intro m hm
    rw [hp.others] at hm
    have hother := (List.mem_filter.mp hm).2
    simpa [isOther] using hother
  · intro m hm
    rw [hp.others] at hm
    exact hsettled m (List.mem_of_mem_filter hm)

theorem kept_load (d : Disk) : (load d).Kept := by
  rcases hheld : held? d with _ | p
  · rw [load_of_held?_eq_none hheld]
    exact kept_empty
  · obtain ⟨s, -, hdecode⟩ := Option.bind_eq_some_iff.mp hheld
    rw [load_of_held?_eq_some hheld]
    exact kept_of_decode? hdecode

end Preferences

end BlogSearch
