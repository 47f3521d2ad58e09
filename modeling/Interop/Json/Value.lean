/-!
# JSON values

Values as they are read from text. A number is an `integer` when it is written without fraction
and exponent; minus zero, which no integer equals in writing, is a `real` like all other numbers.
A string with an escape for half of a surrogate pair denotes no text; it is `unpaired`, and so is
an object with such a key. Members of an object keep their order.
-/

namespace Interop.Json

/-- A JSON value. -/
inductive Value where
  | null
  | bool (value : Bool)
  | integer (value : Int)
  /-- A number that is not written as an integer, with its spelling. -/
  | real (spelling : String)
  | text (value : String)
  /-- A string that denotes no text. -/
  | unpaired
  | array (elements : List Value)
  | object (members : List (String × Value))

namespace Value

instance : Inhabited Value := ⟨.null⟩

/-- A list as an array. -/
def ofList (encode : α → Value) (list : List α) : Value := .array (list.map encode)

/-- Nothing is null. -/
def ofOption (encode : α → Value) : Option α → Value
  | none => .null
  | some a => encode a

/-- A natural number. -/
def ofNat (n : Nat) : Value := .integer n

/-- The first member of a list with a key. -/
def lookup (key : String) : List (String × Value) → Option Value
  | [] => none
  | (other, value) :: members => if other = key then some value else lookup key members

/-- The member of an object with a key. -/
def member? (value : Value) (key : String) : Option Value :=
  match value with
  | .object members => lookup key members
  | _ => none

theorem sizeOf_lt_of_lookup {key : String} {members : List (String × Value)} {value : Value}
    (h : lookup key members = some value) : sizeOf value < sizeOf members := by
  induction members with
  | nil => simp [lookup] at h
  | cons head tail ih =>
    obtain ⟨other, first⟩ := head
    simp only [lookup] at h
    split at h
    · cases h
      simp only [List.cons.sizeOf_spec, Prod.mk.sizeOf_spec]
      omega
    · have := ih h
      simp only [List.cons.sizeOf_spec]
      omega

theorem sizeOf_lt_of_member? {value part : Value} {key : String}
    (h : value.member? key = some part) : sizeOf part < sizeOf value := by
  unfold member? at h
  split at h
  · have := sizeOf_lt_of_lookup h
    simp only [Value.object.sizeOf_spec]
    omega
  · cases h

end Value

end Interop.Json
