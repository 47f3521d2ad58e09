import Interop.Json.Value

/-!
# Reading values

Readers for the shapes that records and variants take in JSON. Each hands the parts of a value to
another reader together with the fact that they are smaller, so that readers of recursive types
can call themselves.

A record is an object. A member of it is `required`; or `optional`, when it may be missing; or
`nullable`, when it may also be null. Members that a record does not have are ignored. A variant
without data is its name; a variant with data is an object whose only member has the name as key.
-/

namespace Interop.Json.Value

variable {α : Type}

/-! ## Scalars -/

/-- A truth value. -/
def bool? : Value → Option Bool
  | .bool value => some value
  | _ => none

/-- A text. -/
def text? : Value → Option String
  | .text value => some value
  | _ => none

/-- An integer between two bounds, the upper one excluded. -/
def intBetween? (low high : Int) : Value → Option Int
  | .integer value => if low ≤ value ∧ value < high then some value else none
  | _ => none

def uint32? (value : Value) : Option UInt32 :=
  (value.intBetween? 0 UInt32.size).map fun n => .ofNat n.toNat

def uint64? (value : Value) : Option UInt64 :=
  (value.intBetween? 0 UInt64.size).map fun n => .ofNat n.toNat

def int32? (value : Value) : Option Int32 :=
  (value.intBetween? Int32.minValue.toInt (Int32.maxValue.toInt + 1)).map Int32.ofInt

def int64? (value : Value) : Option Int64 :=
  (value.intBetween? Int64.minValue.toInt (Int64.maxValue.toInt + 1)).map Int64.ofInt

/-! ## Parts -/

/-- A reader for the parts of a value. -/
abbrev PartReader (value : Value) (α : Type) :=
  (part : Value) → sizeOf part < sizeOf value → Option α

/-- A member that has to be there. -/
def required (value : Value) (key : String) (read : PartReader value α) : Option α :=
  match h : value.member? key with
  | some part => read part (sizeOf_lt_of_member? h)
  | none => none

/-- A member that may be missing. -/
def optional (value : Value) (key : String) (default : α) (read : PartReader value α) :
    Option α :=
  match h : value.member? key with
  | some part => read part (sizeOf_lt_of_member? h)
  | none => some default

/-- A member that may be missing or null. -/
def nullable (value : Value) (key : String) (read : PartReader value α) : Option (Option α) :=
  match h : value.member? key with
  | some .null | none => some none
  | some part => (read part (sizeOf_lt_of_member? h)).map some

/-- The values of a list, each read. -/
def readAll : (values : List Value) → ((value : Value) → value ∈ values → Option α) →
    Option (List α)
  | [], _ => some []
  | value :: values, read => do
    let first ← read value List.mem_cons_self
    let rest ← readAll values fun other h => read other (List.mem_cons_of_mem _ h)
    some (first :: rest)

/-- The elements of an array, each read. -/
def elements (value : Value) (read : PartReader value α) : Option (List α) :=
  match value with
  | .array values => readAll values fun element h => read element (by
      have := List.sizeOf_lt_of_mem h
      simp only [Value.array.sizeOf_spec]
      omega)
  | _ => none

/-- The name of a variant and its data. A variant without data may also be written as an object
whose only member is null. -/
inductive Tagged (value : Value) where
  | plain (name : String)
  | data (name : String) (payload : Value) (smaller : sizeOf payload < sizeOf value)

/-- Read a value as a variant. -/
def tagged? (value : Value) : Option (Tagged value) :=
  match value with
  | .text name => some (.plain name)
  | .object [(name, .null)] => some (.plain name)
  | .object [(name, payload)] => some (.data name payload (by
      simp only [Value.object.sizeOf_spec, List.cons.sizeOf_spec, Prod.mk.sizeOf_spec]
      omega))
  | _ => none

/-- The name of a variant that has no data. -/
def word? (value : Value) : Option String :=
  match value.tagged? with
  | some (.plain name) => some name
  | _ => none

end Interop.Json.Value
