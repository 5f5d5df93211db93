import BlogSearch.Json.Decoder
import BlogSearch.Proofs.Json.Members

/-!
# Members that a record does not know

The document of a value is well formed, so a record that decodes a value passes over the members whose
names it does not know.  What it finds is what stands under the names of its fields.
-/

namespace BlogSearch.Json

mutual

/-- Nothing in a value is broken. -/
theorem Value.wellFormed_document : ∀ v : Value, v.document.wellFormed = true
  | .null => rfl
  | .bool _ => rfl
  | .number _ => rfl
  | .string _ => rfl
  | .array items => by
      rw [document, Document.wellFormed, allWellFormed_itemDocuments items]
      rfl
  | .object members => by
      rw [document, Document.wellFormed, membersWellFormed_memberDocuments members]
      rfl

theorem Value.allWellFormed_itemDocuments :
    ∀ items : List Value, Document.allWellFormed (itemDocuments items) = true
  | [] => rfl
  | v :: rest => by
      rw [itemDocuments, Document.allWellFormed, v.wellFormed_document,
        allWellFormed_itemDocuments rest]
      rfl

theorem Value.membersWellFormed_memberDocuments :
    ∀ members : List (String × Value), Document.membersWellFormed (memberDocuments members) = true
  | [] => rfl
  | (_, v) :: rest => by
      rw [memberDocuments, Document.membersWellFormed, v.wellFormed_document,
        membersWellFormed_memberDocuments rest]
      rfl

end

/-! ## Members by their keys -/

namespace Value

variable {ms : List (String × Value)} {key other : String} {v : Value}

theorem find?_key (ms : List (String × Value)) (key : String) :
    ms.find? (fun m => m.1 == key) = ((object ms).member? key).map fun v => (key, v) := by
  rw [member?]
  cases hfind : ms.find? fun m => m.1 == key with
  | none => rfl
  | some m =>
      have hkey : m.1 = key := by simpa using List.find?_some hfind
      rw [Option.map_some, Option.map_some, ← hkey]

theorem member?_cons (m : String × Value) (ms : List (String × Value)) (key : String) :
    (object (m :: ms)).member? key =
      if m.1 = key then some m.2 else (object ms).member? key := by
  by_cases hkey : m.1 = key
  · simp [member?, hkey]
  · simp [member?, hkey]

theorem member?_eq_none_iff : (object ms).member? key = none ↔ ∀ m ∈ ms, m.1 ≠ key := by
  simp [member?]

/-- Who looks for a key does not see the members with other keys. -/
theorem member?_filter {p : String → Bool} (h : p key = true) :
    (object (ms.filter fun m => p m.1)).member? key = (object ms).member? key := by
  induction ms with
  | nil => rfl
  | cons m ms ih =>
      rw [member?_cons]
      by_cases hm : p m.1 = true
      · rw [List.filter_cons_of_pos (p := fun m : String × Value => p m.1) hm, member?_cons, ih]
      · have hne : m.1 ≠ key := by
          rintro rfl
          exact hm h
        rw [List.filter_cons_of_neg (p := fun m : String × Value => p m.1) hm, ih, if_neg hne]

theorem member?_insertMember_self : (object (insertMember key v ms)).member? key = some v := by
  induction ms with
  | nil => rw [insertMember, member?_cons, if_pos rfl]
  | cons m ms ih =>
      rw [insertMember]
      split
      · rw [member?_cons, if_pos rfl]
      split
      · rw [member?_cons, if_pos rfl]
      · next hne => rw [member?_cons, if_neg (Ne.symm hne), ih]

theorem member?_insertMember_ne (hne : key ≠ other) :
    (object (insertMember other v ms)).member? key = (object ms).member? key := by
  induction ms with
  | nil => rw [insertMember, member?_cons, if_neg hne.symm]
  | cons m ms ih =>
      rw [insertMember]
      split
      · rw [member?_cons, if_neg hne.symm]
      split
      · next heq => rw [member?_cons, member?_cons, ← heq, if_neg hne.symm, if_neg hne.symm]
      · rw [member?_cons, member?_cons, ih]

/-- No member with a key follows one with the same or a later key. -/
theorem member?_eq_none_of_ascending {m : String × Value} (h : Ascending (m :: ms))
    (hle : key ≤ m.1) : (object ms).member? key = none := by
  rw [member?_eq_none_iff]
  intro n hn heq
  have hlt := List.rel_of_pairwise_cons h hn
  rw [heq] at hlt
  exact absurd hlt (not_lt.mpr hle)

/-- Of the members in order, two keys single out at most two. -/
theorem filter_two_keys (h : Ascending ms) (hlt : key < other) :
    (ms.filter fun m => m.1 == key || m.1 == other) =
      (((object ms).member? key).toList.map fun v => (key, v)) ++
        ((object ms).member? other).toList.map fun v => (other, v) := by
  induction ms with
  | nil => rfl
  | cons m ms ih =>
      have hrest := ih (List.pairwise_cons.mp h).2
      rw [member?_cons, member?_cons]
      by_cases hkey : m.1 = key
      · rw [member?_eq_none_of_ascending h hkey.ge] at hrest
        have hne : m.1 ≠ other := by
          rw [hkey]
          exact hlt.ne
        rw [List.filter_cons_of_pos (by simp [hkey]), hrest, if_pos hkey, if_neg hne, ← hkey]
        rfl
      · by_cases hother : m.1 = other
        · rw [member?_eq_none_of_ascending h hother.ge,
            member?_eq_none_of_ascending h (hlt.le.trans hother.ge)] at hrest
          rw [List.filter_cons_of_pos (by simp [hother]), hrest, if_neg hkey, if_pos hother,
            member?_eq_none_of_ascending h (hlt.le.trans hother.ge), ← hother]
          rfl
        · rw [List.filter_cons_of_neg (by simp [hkey, hother]), hrest, if_neg hkey, if_neg hother]

end Value

/-- The members of an object that was read are in order. -/
theorem Value.ascending_of_read?
    {body : String} {ms : List (String × Value)} (h : Value.read? body = some (.object ms)) :
    Ascending ms := by
  simp only [Value.read?] at h
  split at h
  · have hsorted := (Document.settled_of_value? h).2
    rw [Value.sorted] at hsorted
    rw [← Value.object.inj hsorted]
    exact ascending_sortMembers _
  · cases h

/-! ## What a record finds -/

namespace Decoder

/-- What a member is decoded to, and what stands for it where it is absent. -/
def ofMember? {α : Type} (decode : Decoder α) (fallback : α) : Option Value → Except Fault α
  | none => .ok fallback
  | some v => decode.ofValue v

namespace Shape

variable (shape : Shape) (reading : Reading)

/-- A field of the record has the name. -/
def knows (key : String) : Bool :=
  (shape.fields.find? fun f => f.name == key).isSome

theorem knows_eq_any (key : String) :
    shape.knows key = shape.fields.any fun f => f.name == key := by
  rw [knows, List.isSome_find?]

/-- A member of a name that is known and new is decoded, and what comes of it is dropped. -/
theorem collectMembers_cons_of_field
    {α : Type} {shape : Shape} {reading : Reading} {seen : List (String × Document)} {key : String}
    {d : Document} {rest : List (Option String × Document)} {decode : Decoder α}
    (hfield : shape.fields.find? (fun f => f.name == key) = some (field key decode))
    (hseen : seen.any (fun entry => entry.1 == key) = false) :
    shape.collectMembers reading seen ((some key, d) :: rest) =
      decode reading d >>= fun _ =>
        shape.collectMembers reading (seen ++ [(key, d)]) rest := by
  rw [collectMembers]
  simp only [hfield, hseen, field]
  cases decode reading d <;> rfl

/-- Members of other names make no difference to a record. -/
theorem collectMembers_filter (seen : List (String × Document)) (ms : List (String × Value)) :
    shape.collectMembers reading seen (Value.memberDocuments ms) =
      shape.collectMembers reading seen
        (Value.memberDocuments (ms.filter fun m => shape.knows m.1)) := by
  induction ms generalizing seen with
  | nil => rfl
  | cons m ms ih =>
      rcases hfind : shape.fields.find? fun f => f.name == m.1 with _ | f
      · rw [List.filter_cons_of_neg (by simp [knows, hfind]), ← ih, Value.memberDocuments,
          collectMembers]
        simp only [hfind, m.2.wellFormed_document, if_true]
      · rw [List.filter_cons_of_pos (by simp [knows, hfind]), Value.memberDocuments,
          Value.memberDocuments, collectMembers, collectMembers]
        simp only [hfind, ih]

/-- A record that decodes has found the members of the names that it knows. -/
theorem eq_of_collectMembers
    {seen found : List (String × Document)} {ms : List (String × Value)}
    (h : shape.collectMembers reading seen (Value.memberDocuments ms) = .ok found) :
    found = seen ++ (ms.filter fun m => shape.knows m.1).map fun m => (m.1, m.2.document) := by
  induction ms generalizing seen with
  | nil =>
      cases h
      rw [List.filter_nil, List.map_nil, List.append_nil]
  | cons m ms ih =>
      rw [Value.memberDocuments, collectMembers] at h
      rcases hfind : shape.fields.find? fun f => f.name == m.1 with _ | f
      · simp only [hfind, m.2.wellFormed_document, if_true] at h
        rw [List.filter_cons_of_neg (by simp [knows, hfind])]
        exact ih h
      · simp only [hfind] at h
        split at h
        · cases h
        · rw [List.filter_cons_of_pos (by simp [knows, hfind]), List.map_cons]
          cases hcheck : f.check reading m.2.document with
          | error fault =>
              rw [hcheck] at h
              cases h
          | ok u =>
              rw [hcheck] at h
              rw [ih h, List.append_assoc, List.singleton_append]

/-- What a record has found under the name of a field is the member of that name. -/
theorem find?_of_collectMembers
    {found : List (String × Document)} {ms : List (String × Value)} {key : String}
    (h : shape.collectMembers reading [] (Value.memberDocuments ms) = .ok found)
    (hknows : shape.knows key = true) :
    found.find? (fun entry => entry.1 == key) =
      ((Value.object ms).member? key).map fun v => (key, v.document) := by
  have hkept := Value.find?_key (ms.filter fun m => shape.knows m.1) key
  rw [Value.member?_filter hknows] at hkept
  rw [shape.eq_of_collectMembers reading h, List.nil_append, List.find?_map]
  exact (congrArg _ hkept).trans (Option.map_map _ _ _)

end Shape

end Decoder

end BlogSearch.Json
