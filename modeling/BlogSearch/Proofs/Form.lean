import BlogSearch.Form
import BlogSearch.Proofs.Json.Records
import Mathlib.Data.List.Induction

/-!
# Forms as maps in the order of their settings

A form is built by settings, one after another.  It holds every name that was set once, in the order in
which the names were first set, with the value that was set last, and these two determine it: a form
is the same as another exactly if both agree in the order of their names and in the last values.  What
is submitted has one member for each field, so a backend that reads it finds what the form holds.
-/

namespace BlogSearch

open Json

/-! ## First occurrences -/

section FirstOccurrences

variable {α : Type} [DecidableEq α] {l : List α} {a : α}

theorem eraseDups_concat_of_mem (h : a ∈ l) : (l ++ [a]).eraseDups = l.eraseDups := by
  have hrest : [a].removeAll l = [] := by simp [List.removeAll, h]
  rw [List.eraseDups_append, hrest, List.eraseDups_nil, List.append_nil]

theorem eraseDups_concat_of_notMem (h : a ∉ l) : (l ++ [a]).eraseDups = l.eraseDups ++ [a] := by
  have hrest : [a].removeAll l = [a] := by simp [List.removeAll, h]
  have hsingle : [a].eraseDups = [a] := List.eraseDups_cons
  rw [List.eraseDups_append, hrest, hsingle]

/-- Without its repetitions a list is in the order in which its elements first occur in it. -/
theorem pairwise_idxOf_eraseDups (l : List α) :
    l.eraseDups.Pairwise fun a b => l.idxOf a < l.idxOf b := by
  induction l using List.reverseRecOn with
  | nil => exact List.Pairwise.nil
  | append_singleton l c ih =>
      have hplace {a : α} (ha : a ∈ l.eraseDups) : (l ++ [c]).idxOf a = l.idxOf a :=
        List.idxOf_append_of_mem (List.mem_eraseDups.mp ha)
      have hkept : l.eraseDups.Pairwise fun a b => (l ++ [c]).idxOf a < (l ++ [c]).idxOf b := by
        apply ih.imp_of_mem
        intro a b ha hb hlt
        rw [hplace ha, hplace hb]
        exact hlt
      by_cases hc : c ∈ l
      · rw [eraseDups_concat_of_mem hc]
        exact hkept
      · rw [eraseDups_concat_of_notMem hc, List.pairwise_append]
        refine ⟨hkept, List.pairwise_singleton _ c, ?_⟩
        intro a ha b hb
        rw [List.mem_singleton.mp hb, hplace ha, List.idxOf_append_of_notMem hc]
        have hlt : l.idxOf a < l.length := List.idxOf_lt_length_of_mem (List.mem_eraseDups.mp ha)
        omega

end FirstOccurrences

namespace Form

variable {f g : Form} {name other value : String} {pairs : List (String × String)}

/-- The names of the fields, in their order. -/
def names (f : Form) : List String :=
  f.fields.map Prod.fst

/-- The names of pairs in the order in which they first occur. -/
def firstNames (pairs : List (String × String)) : List String :=
  (pairs.map Prod.fst).eraseDups

/-- The value with which a name occurs last among pairs. -/
def lastValue? (pairs : List (String × String)) (name : String) : Option String :=
  pairs.reverse.lookup name

/-- A form that settings have built, with the settings in their order.  It makes no difference whether
a setting changes the form or makes a changed copy of it. -/
inductive BuiltBy : List (String × String) → Form → Prop
  | empty : BuiltBy [] .empty
  | set {pairs : List (String × String)} {f : Form} (h : BuiltBy pairs f) (name value : String) :
      BuiltBy (pairs ++ [(name, value)]) (f.set name value)

/-! ## One setting -/

theorem map_fst_setField_of_mem {fields : List (String × String)} (h : name ∈ fields.map Prod.fst) :
    (setField name value fields).map Prod.fst = fields.map Prod.fst := by
  induction fields with
  | nil => exact absurd h List.not_mem_nil
  | cons field rest ih =>
      rw [setField]
      split
      · rfl
      · next hne =>
          rw [List.map_cons, List.mem_cons] at h
          rw [List.map_cons, List.map_cons, ih (h.resolve_left (Ne.symm hne))]

theorem setField_of_notMem {fields : List (String × String)} (h : name ∉ fields.map Prod.fst) :
    setField name value fields = fields ++ [(name, value)] := by
  induction fields with
  | nil => rfl
  | cons field rest ih =>
      rw [List.map_cons, List.mem_cons, not_or] at h
      rw [setField, if_neg (Ne.symm h.1), ih h.2, List.cons_append]

theorem find?_setField_self (fields : List (String × String)) :
    (setField name value fields).find? (fun field => field.1 == name) = some (name, value) := by
  induction fields with
  | nil => simp [setField]
  | cons field rest ih =>
      rw [setField]
      split
      · next heq => simp [heq]
      · next hne => simpa [hne] using ih

theorem find?_setField_of_ne (hother : other ≠ name) (fields : List (String × String)) :
    (setField name value fields).find? (fun field => field.1 == other) =
      fields.find? fun field => field.1 == other := by
  induction fields with
  | nil => simp [setField, Ne.symm hother]
  | cons field rest ih =>
      rw [setField]
      split
      · next heq => simp [heq, Ne.symm hother]
      · rw [List.find?_cons, List.find?_cons, ih]

theorem names_set_of_mem (h : name ∈ f.names) : (f.set name value).names = f.names :=
  map_fst_setField_of_mem h

theorem names_set_of_notMem (h : name ∉ f.names) :
    (f.set name value).names = f.names ++ [name] := by
  rw [names, set, setField_of_notMem h, List.map_append]
  rfl

theorem mem_names_set : other ∈ (f.set name value).names ↔ other ∈ f.names ∨ other = name := by
  by_cases h : name ∈ f.names
  · rw [names_set_of_mem h]
    constructor
    · exact Or.inl
    · rintro (hother | rfl)
      · exact hother
      · exact h
  · rw [names_set_of_notMem h, List.mem_append, List.mem_singleton]

theorem names_set_congr (h : f.names = g.names) (v w : String) :
    (f.set name v).names = (g.set name w).names := by
  by_cases hname : name ∈ f.names
  · rw [names_set_of_mem hname, names_set_of_mem (h ▸ hname), h]
  · rw [names_set_of_notMem hname, names_set_of_notMem (h ▸ hname), h]

theorem get?_set_self : (f.set name value).get? name = some value := by
  rw [get?, set, find?_setField_self]
  rfl

theorem get?_set_of_ne (h : other ≠ name) : (f.set name value).get? other = f.get? other := by
  rw [get?, set, find?_setField_of_ne h, get?]

theorem nodup_set (h : f.names.Nodup) : (f.set name value).names.Nodup := by
  by_cases hname : name ∈ f.names
  · rw [names_set_of_mem hname]
    exact h
  · rw [names_set_of_notMem hname]
    exact List.concat_eq_append ▸ h.concat hname

/-! ## Names and values determine a form -/

theorem get?_eq_none_iff : f.get? name = none ↔ name ∉ f.names := by
  rw [get?, Option.map_eq_none_iff, List.find?_eq_none, names, List.mem_map, not_exists]
  simp only [beq_iff_eq, not_and]

theorem get?_of_mem (hf : f.names.Nodup) {field : String × String} (h : field ∈ f.fields) :
    f.get? field.1 = some field.2 := by
  have hfind : f.fields.find? (fun entry => entry.1 == field.1) = some field :=
    Distinct.find?_of_mem hf h
  rw [get?, hfind]
  rfl

theorem fields_eq_map (hf : f.names.Nodup) :
    f.fields = f.names.map fun name => (name, (f.get? name).getD "") := by
  have hfield : ∀ field ∈ f.fields, (field.1, (f.get? field.1).getD "") = field := by
    intro field hmem
    rw [get?_of_mem hf hmem]
    rfl
  calc
    f.fields = f.fields.map id := f.fields.map_id.symm
    _ = f.fields.map fun field => (field.1, (f.get? field.1).getD "") :=
      (List.map_congr_left hfield).symm
    _ = f.names.map fun name => (name, (f.get? name).getD "") := by
      rw [names, List.map_map]
      rfl

/-- Forms that hold the same names in the same order with the same values are the same. -/
theorem eq_of_get? (hf : f.names.Nodup) (hnames : f.names = g.names)
    (hvalues : ∀ name, f.get? name = g.get? name) : f = g := by
  have hg : g.names.Nodup := hnames ▸ hf
  have hfields : f.fields = g.fields := by
    rw [fields_eq_map hf, fields_eq_map hg, hnames]
    simp only [hvalues]
  cases f
  cases g
  exact congrArg Form.mk hfields

/-! ## Two settings -/

theorem names_set_comm_of_mem {m : String} (hm : m ∈ f.names) (n v w : String) :
    ((f.set m v).set n w).names = ((f.set n w).set m v).names := by
  rw [names_set_congr (names_set_of_mem hm) w w, names_set_of_mem (mem_names_set.mpr (Or.inl hm))]

/-- Two settings of different names can change places exactly if one of the names was there before: only
names that are new take their places in the order of the settings. -/
theorem set_comm_iff (hf : f.names.Nodup) {m n : String} (hne : m ≠ n) (v w : String) :
    (f.set m v).set n w = (f.set n w).set m v ↔ m ∈ f.names ∨ n ∈ f.names := by
  constructor
  · intro hcomm
    by_contra hnew
    rw [not_or] at hnew
    have hm : m ∉ (f.set n w).names := by
      rw [mem_names_set, not_or]
      exact ⟨hnew.1, hne⟩
    have hn : n ∉ (f.set m v).names := by
      rw [mem_names_set, not_or]
      exact ⟨hnew.2, hne.symm⟩
    have hnames := congrArg names hcomm
    rw [names_set_of_notMem hn, names_set_of_notMem hm, names_set_of_notMem hnew.1,
      names_set_of_notMem hnew.2, List.append_assoc, List.append_assoc,
      List.append_cancel_left_eq] at hnames
    exact hne (List.cons.inj hnames).1
  · intro hold
    apply eq_of_get? (nodup_set (nodup_set hf))
    · rcases hold with hm | hn
      · exact names_set_comm_of_mem hm n v w
      · exact (names_set_comm_of_mem hn m w v).symm
    · intro name
      by_cases hn : name = n
      · rw [hn, get?_set_self, get?_set_of_ne hne.symm, get?_set_self]
      · rw [get?_set_of_ne hn]
        by_cases hm : name = m
        · rw [hm, get?_set_self, get?_set_self]
        · rw [get?_set_of_ne hm, get?_set_of_ne hm, get?_set_of_ne hn]

/-! ## Forms of pairs -/

theorem ofPairs_concat (pairs : List (String × String)) (name value : String) :
    ofPairs (pairs ++ [(name, value)]) = (ofPairs pairs).set name value := by
  rw [ofPairs, List.foldl_append]
  rfl

theorem names_ofPairs (pairs : List (String × String)) :
    (ofPairs pairs).names = firstNames pairs := by
  induction pairs using List.reverseRecOn with
  | nil => rfl
  | append_singleton pairs pair ih =>
      rw [ofPairs_concat, firstNames, List.map_append]
      by_cases h : pair.1 ∈ pairs.map Prod.fst
      · have hmem : pair.1 ∈ (ofPairs pairs).names := by
          rw [ih]
          exact List.mem_eraseDups.mpr h
        rw [names_set_of_mem hmem, ih]
        exact (eraseDups_concat_of_mem h).symm
      · have hnotMem : pair.1 ∉ (ofPairs pairs).names := by
          rw [ih]
          exact mt List.mem_eraseDups.mp h
        rw [names_set_of_notMem hnotMem, ih]
        exact (eraseDups_concat_of_notMem h).symm

theorem mem_names_ofPairs : name ∈ (ofPairs pairs).names ↔ name ∈ pairs.map Prod.fst := by
  rw [names_ofPairs]
  exact List.mem_eraseDups

theorem pairwise_names_ofPairs (pairs : List (String × String)) :
    (ofPairs pairs).names.Pairwise fun m n =>
      (pairs.map Prod.fst).idxOf m < (pairs.map Prod.fst).idxOf n := by
  rw [names_ofPairs]
  exact pairwise_idxOf_eraseDups _

theorem nodup_ofPairs (pairs : List (String × String)) : (ofPairs pairs).names.Nodup := by
  apply (pairwise_names_ofPairs pairs).imp
  rintro m n hlt rfl
  exact lt_irrefl _ hlt

theorem lastValue?_concat_self : lastValue? (pairs ++ [(name, value)]) name = some value := by
  rw [lastValue?, List.reverse_append]
  exact List.lookup_cons_self

theorem lastValue?_concat_of_ne (h : other ≠ name) :
    lastValue? (pairs ++ [(name, value)]) other = lastValue? pairs other := by
  have hbeq : (other == name) = false := beq_false_of_ne h
  rw [lastValue?, List.reverse_append, List.reverse_singleton, List.singleton_append,
    List.lookup_cons, hbeq, lastValue?]

theorem get?_ofPairs (pairs : List (String × String)) (name : String) :
    (ofPairs pairs).get? name = lastValue? pairs name := by
  induction pairs using List.reverseRecOn with
  | nil => rfl
  | append_singleton pairs pair ih =>
      rw [ofPairs_concat]
      by_cases h : name = pair.1
      · rw [h, get?_set_self, lastValue?_concat_self]
      · rw [get?_set_of_ne h, lastValue?_concat_of_ne h, ih]

theorem builtBy_iff : BuiltBy pairs f ↔ f = ofPairs pairs := by
  constructor
  · intro h
    induction h with
    | empty => rfl
    | set _ name value ih => rw [ofPairs_concat, ih]
  · rintro rfl
    induction pairs using List.reverseRecOn with
    | nil => exact .empty
    | append_singleton pairs pair ih =>
        rw [ofPairs_concat]
        exact ih.set pair.1 pair.2

theorem ofPairs_eq_iff {others : List (String × String)} :
    ofPairs pairs = ofPairs others ↔
      firstNames pairs = firstNames others ∧
        ∀ name, lastValue? pairs name = lastValue? others name := by
  constructor
  · intro h
    refine ⟨?_, ?_⟩
    · rw [← names_ofPairs, h, names_ofPairs]
    · intro name
      rw [← get?_ofPairs, h, get?_ofPairs]
  · rintro ⟨hnames, hvalues⟩
    apply eq_of_get? (nodup_ofPairs pairs)
    · rw [names_ofPairs, hnames, names_ofPairs]
    · intro name
      rw [get?_ofPairs, hvalues, get?_ofPairs]

/-! ## What is submitted -/

/-- A string member for every field, in the order of the fields. -/
def members (f : Form) : List (String × Value) :=
  f.fields.map fun field => (field.1, Value.string field.2)

theorem distinct_members (hf : f.names.Nodup) : Distinct f.members := by
  rw [Distinct, members, List.map_map]
  exact hf

theorem sortMembers_members_perm (hf : f.names.Nodup) : (sortMembers f.members).Perm f.members :=
  sortMembers_perm (distinct_members hf)

theorem payload_eq (f : Form) : f.payload = .object (sortMembers f.members) := rfl

theorem member?_payload (hf : f.names.Nodup) (name : String) :
    f.payload.member? name = (f.get? name).map Value.string := by
  have hsorted : (sortMembers f.members).find? (fun m => m.1 == name) =
      f.members.find? fun m => m.1 == name :=
    (distinct_members hf).find?_perm (sortMembers_members_perm hf)
  rw [payload_eq, Value.member?, hsorted, members, List.find?_map, Option.map_map, get?,
    Option.map_map]
  rfl

/-- What is written for a form is read as what was to be submitted. -/
theorem read?_payload (f : Form) : Value.read? f.payload.compact = some f.payload := by
  have hstring : ∀ m ∈ sortMembers f.members, ∃ s, m.2 = .string s := by
    intro m hm
    obtain ⟨field, -, rfl⟩ := List.mem_map.mp (mem_of_mem_sortMembers hm)
    exact ⟨field.2, rfl⟩
  have hwhole : f.payload.Whole := by
    apply Value.Whole.object
    intro m hm
    obtain ⟨s, hs⟩ := hstring m hm
    rw [hs]
    exact .string s
  have hsettled : f.payload.Settled Document.nestingLimit := by
    apply Value.Settled.object (ascending_sortMembers f.members)
    intro m hm
    obtain ⟨s, hs⟩ := hstring m hm
    rw [hs]
    exact ⟨.string _ s, rfl⟩
  rw [Value.read?_compact hwhole hsettled.1, hsettled.2]

/-! ## The whole of it -/

/-- The form holds the pairs as a map in the order of their names. -/
structure Holds (f : Form) (pairs : List (String × String)) : Prop where
  distinct : f.names.Nodup
  names : f.names = firstNames pairs
  /-- Of two names the one that occurs first among the pairs stands first. -/
  order : f.names.Pairwise fun m n =>
    (pairs.map Prod.fst).idxOf m < (pairs.map Prod.fst).idxOf n
  values : ∀ field ∈ f.fields, lastValue? pairs field.1 = some field.2
  get : ∀ name, f.get? name = lastValue? pairs name
  absent : ∀ name, f.get? name = none ↔ name ∉ pairs.map Prod.fst

/-- Every field is submitted, as the only member with its name. -/
structure SubmitsFields (f : Form) : Prop where
  members : ∃ ms, f.payload = .object ms ∧ Distinct ms ∧
    ms.Perm (f.fields.map fun field => (field.1, Value.string field.2))
  found : ∀ name, f.payload.member? name = (f.get? name).map Value.string
  /-- A backend that reads the text that is sent finds the same. -/
  sent : Value.read? f.payload.compact = some f.payload

/-- To set a name that is there changes its value and nothing else. -/
structure SetsInPlace (f : Form) (name : String) : Prop where
  names : ∀ value, (f.set name value).names = f.names
  value : ∀ value, (f.set name value).get? name = some value
  others : ∀ value, ∀ other, other ≠ name → (f.set name value).get? other = f.get? other

theorem holds_ofPairs (pairs : List (String × String)) : (ofPairs pairs).Holds pairs := by
  have hnodup := nodup_ofPairs pairs
  refine ⟨hnodup, names_ofPairs pairs, pairwise_names_ofPairs pairs, ?_, get?_ofPairs pairs, ?_⟩
  · intro field hfield
    rw [← get?_ofPairs, get?_of_mem hnodup hfield]
  · intro name
    rw [get?_eq_none_iff, mem_names_ofPairs]

theorem submitsFields (hf : f.names.Nodup) : f.SubmitsFields := by
  have hperm := sortMembers_members_perm hf
  have hdistinct : Distinct (sortMembers f.members) :=
    (hperm.map Prod.fst).nodup_iff.mpr (distinct_members hf)
  exact ⟨⟨sortMembers f.members, payload_eq f, hdistinct, hperm⟩, member?_payload hf, read?_payload f⟩

theorem setsInPlace (h : name ∈ f.names) : f.SetsInPlace name :=
  ⟨fun _ => names_set_of_mem h, fun _ => get?_set_self, fun _ _ => get?_set_of_ne⟩

/-- A form is a map in the order in which its names were first set. -/
theorem collected_form_is_ordered_map (pairs : List (String × String)) :
    (∀ f, BuiltBy pairs f ↔ f = ofPairs pairs) ∧
      (ofPairs pairs).Holds pairs ∧
      (ofPairs pairs).SubmitsFields ∧
      (∀ name ∈ (ofPairs pairs).names, (ofPairs pairs).SetsInPlace name) ∧
      (∀ m n, m ≠ n → ∀ v w,
        (((ofPairs pairs).set m v).set n w = ((ofPairs pairs).set n w).set m v ↔
          m ∈ (ofPairs pairs).names ∨ n ∈ (ofPairs pairs).names)) ∧
      ∀ others, ofPairs pairs = ofPairs others ↔
        firstNames pairs = firstNames others ∧
          ∀ name, lastValue? pairs name = lastValue? others name := by
  have hnodup := nodup_ofPairs pairs
  refine ⟨?_, holds_ofPairs pairs, submitsFields hnodup, ?_, ?_, ?_⟩
  · intro f
    exact builtBy_iff
  · intro name
    exact setsInPlace
  · intro m n hne v w
    exact set_comm_iff hnodup hne v w
  · intro others
    exact ofPairs_eq_iff

/-- A name that is set again stays in its place. -/
example : (ofPairs [("query", "art"), ("blog", "staff"), ("query", "tag:art")]).fields =
    [("query", "tag:art"), ("blog", "staff")] := by decide

end Form

end BlogSearch
