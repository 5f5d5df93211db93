/-!
# JSON values

A value keeps the kind of each of its numbers: a whole number of the 64-bit ranges, or a double.
Objects are lists of members.  A value that was read holds the members of each object in the order
of their keys and no key twice; a value that is to be written may list its members in any order.
-/

namespace BlogSearch.Json

/-- The whole numbers that are kept exactly: the signed and the unsigned 64-bit range together. -/
def IsWord (n : Int) : Prop :=
  -9223372036854775808 ≤ n ∧ n ≤ 18446744073709551615

instance (n : Int) : Decidable (IsWord n) :=
  inferInstanceAs (Decidable (_ ∧ _))

/-- A number of a JSON value. -/
inductive Number where
  /-- A whole number that fits 64 bits. -/
  | whole (n : Int) (fits : IsWord n)
  /-- Any other number, as a double. -/
  | double (x : Float)
  deriving DecidableEq

/-- A JSON value. -/
inductive Value where
  | null
  | bool (b : Bool)
  | number (n : Number)
  | string (s : String)
  | array (items : List Value)
  | object (members : List (String × Value))

namespace Value

instance : Inhabited Value := ⟨.null⟩

theorem isWord_of_lt
    {n : Nat} (h : n < 18446744073709551616) : IsWord (n : Int) :=
  ⟨by omega, by omega⟩

/-- An unsigned 64-bit word as a value. -/
def word (n : UInt64) : Value :=
  .number (.whole n.toNat (isWord_of_lt n.toNat_lt))

/-- An unsigned 32-bit word as a value. -/
def page (n : UInt32) : Value :=
  .number (.whole n.toNat (isWord_of_lt (Nat.lt_of_lt_of_le n.toNat_lt (by decide))))

/-- A signed 64-bit word as a value. -/
def signed (n : Int64) : Value :=
  .number (.whole n.toInt
    ⟨n.le_toInt, Int.le_trans (Int.le_of_lt n.toInt_lt) (by decide)⟩)

/-- A double as a value. -/
def double (x : Float) : Value :=
  .number (.double x)

/-- A size as a value; sizes beyond 64 bits are shown as the greatest word. -/
def size (n : Nat) : Value :=
  if h : n < 18446744073709551616 then .number (.whole n (isWord_of_lt h))
  else word 18446744073709551615

/-- An optional value, `null` when absent. -/
def ofOption (encode : α → Value) : Option α → Value
  | none => .null
  | some a => encode a

/-- A member that is left out when its value is absent. -/
def optionalMember (key : String) (encode : α → Value) : Option α → List (String × Value)
  | none => []
  | some a => [(key, encode a)]

/-- The member of an object with the given key. -/
def member? (key : String) : Value → Option Value
  | .object members => (members.find? fun m => m.1 == key).map (·.2)
  | _ => none

end Value

/-- Puts a member into a list that is in the order of its keys, over a member with the same key. -/
def insertMember (key : String) (value : α) : List (String × α) → List (String × α)
  | [] => [(key, value)]
  | (k, v) :: rest =>
      if key < k then (key, value) :: (k, v) :: rest
      else if key = k then (key, value) :: rest
      else (k, v) :: insertMember key value rest

/-- The members in the order of their keys; of two members with one key the later stays. -/
def sortMembers (members : List (String × α)) : List (String × α) :=
  members.foldl (fun sorted m => insertMember m.1 m.2 sorted) []

namespace Value

mutual

/-- The value with the members of every object in the order of their keys. -/
def sorted : Value → Value
  | .array items => .array (sortedItems items)
  | .object members => .object (sortMembers (sortedMembers members))
  | v => v

/-- The items with their objects in order. -/
def sortedItems : List Value → List Value
  | [] => []
  | v :: rest => v.sorted :: sortedItems rest

/-- The members with the objects in their values in order. -/
def sortedMembers : List (String × Value) → List (String × Value)
  | [] => []
  | (key, v) :: rest => (key, v.sorted) :: sortedMembers rest

end

end Value

end BlogSearch.Json
