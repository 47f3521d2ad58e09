import Interop.Mapping.Error
import Interop.Native.Type

/-!
# Where the members of a record lie

A managed structure is laid out by rules of its own: each member starts at the next multiple of
its alignment, which packing may lower, and the structure ends at a multiple of its own. A record
is bound only when these rules put every member where the native record has it and give the
structure the native size. Sizes and offsets are natural numbers here, so the arithmetic is
exact.
-/

namespace Interop

/-- The least multiple of `align` that is not below `value`; an alignment of one or less moves
nothing. -/
def alignUp (value align : Nat) : Nat :=
  if align ≤ 1 then value else (value + (align - 1)) / align * align

/-- What the front end reports of one member of a record. -/
structure MemberSlot where
  name : String
  size : Nat
  align : Nat
  /-- The native distance from the start of the record. -/
  offsetBits : Option Nat

namespace MemberSlot

/-- The natural alignment of a record: the largest one of its members. -/
def naturalAlign (slots : List MemberSlot) : Nat :=
  (slots.map (·.align)).max?.getD 1

/-- The offset at which a member is placed after the members before it have taken `taken` bytes.
All members of a union start at zero. -/
def place (slot : MemberSlot) (isUnion : Bool) (recordAlign taken : Nat) : Nat :=
  if isUnion then 0 else alignUp taken (min slot.align recordAlign)

/-- The bytes taken once a member is placed at an offset. -/
def taken (slot : MemberSlot) (isUnion : Bool) (taken offset : Nat) : Nat :=
  if isUnion then max taken slot.size else offset + slot.size

/-- Whether the native offset, where one is reported, is the given one. -/
def liesAt (slot : MemberSlot) (offset : Nat) : Bool :=
  match slot.offsetBits with
  | none => true
  | some bits => bits = 8 * offset

/-- The error for a member that is not where it would be placed. -/
def misplaced (slot : MemberSlot) (offset : Nat) : MappingError :=
  .layoutMismatch ("field " ++ MappingError.quoted slot.name ++ " is at bit offset " ++
    toString (slot.offsetBits.getD 0) ++ " but would be placed at byte " ++ toString offset)

/-- Place members one after another and compare each offset with the native one. The answer is
the number of bytes taken. -/
def placeAll (isUnion : Bool) (recordAlign : Nat) (taken : Nat) :
    List MemberSlot → Except MappingError Nat
  | [] => .ok taken
  | slot :: slots =>
    let offset := slot.place isUnion recordAlign taken
    if slot.liesAt offset then
      placeAll isUnion recordAlign (slot.taken isUnion taken offset) slots
    else .error (slot.misplaced offset)

end MemberSlot

namespace Layout

/-- Compare the managed layout of a record with the native one. The answer is the alignment the
managed structure has to be packed to, if it is below the natural one. -/
def pack? (layout : Layout) (isUnion : Bool) (slots : List MemberSlot) :
    Except MappingError (Option UInt64) := do
  let align := layout.align.toNat
  let natural := MemberSlot.naturalAlign slots
  if natural < align then .error (.overAligned align natural)
  let taken ← MemberSlot.placeAll isUnion align 0 slots
  let size := alignUp taken align
  if size ≠ layout.size.toNat then
    .error (.layoutMismatch ("native size is " ++ toString layout.size.toNat ++
      " bytes but the managed layout takes " ++ toString size))
  .ok (if align < natural then some layout.align else none)

end Layout

end Interop
