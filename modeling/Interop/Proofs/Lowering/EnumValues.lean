import Interop.Lowering.Enumeration
import Interop.Proofs.Native.Parts
import Interop.Proofs.Outcome
import Interop.Source.Fragment
import Mathlib.Data.Int.ModEq
import Mathlib.Data.List.Forall2

/-!
# The values of enumerators

An enumerator without a value of its own goes on counting from the one before it. So it is as far
from the last given value as it stands behind the enumerator that has it, and if no value is given
before it, it is its position (`EnumMember.HasValue`). Values wrap around at 64 bits. The
invariant of the loop is that counting on by one keeps this description
(`EnumMember.HasValue.next`).

In source a value of an unsigned type is written as the natural number below `2 ^ width` that it
is congruent to, which are its low bits; one of a signed type is written as it is.
-/

namespace Interop

/-! ## Values -/

namespace EnumMember

variable {constants : List Declaration} {previous : Option Int64} {i : Nat} {value : Int64}

/-- The value that the source gives to the enumerator at a position, if it gives one. -/
def givenValue? (constants : List Declaration) (i : Nat) : Option Int64 :=
  constants[i]?.bind (·.enumValue)

/-- The value of the enumerator at a position. -/
inductive HasValue (constants : List Declaration) (i : Nat) : Int64 → Prop
  | given {value : Int64} (own : givenValue? constants i = some value) :
      HasValue constants i value
  /-- The last value given before is as many steps back as it is to be counted on. -/
  | counted {j : Nat} {base : Int64} (earlier : j < i)
      (given : givenValue? constants j = some base)
      (omitted : ∀ k, j < k → k ≤ i → givenValue? constants k = none) :
      HasValue constants i (Int64.ofInt (base.toInt + ↑(i - j)))
  /-- No value is given so far. -/
  | positional (omitted : ∀ k ≤ i, givenValue? constants k = none) :
      HasValue constants i (Int64.ofNat i)

theorem HasValue.unique {other : Int64} (h : HasValue constants i value)
    (h' : HasValue constants i other) : value = other := by
  cases h with
  | given own =>
      cases h' with
      | given own' => exact Option.some.inj (own.symm.trans own')
      | counted earlier _ omitted => simp [omitted i earlier le_rfl] at own
      | positional omitted => simp [omitted i le_rfl] at own
  | @counted j base earlier given omitted =>
      cases h' with
      | given own => simp [omitted i earlier le_rfl] at own
      | @counted j' base' earlier' given' omitted' =>
          rcases Nat.lt_trichotomy j j' with hlt | rfl | hlt
          · simp [omitted j' hlt earlier'.le] at given'
          · cases given.symm.trans given'
            rfl
          · simp [omitted' j hlt earlier.le] at given
      | positional omitted' => simp [omitted' j earlier.le] at given
  | positional omitted =>
      cases h' with
      | given own => simp [omitted i le_rfl] at own
      | @counted j _ earlier given => simp [omitted j earlier.le] at given
      | positional => rfl

/-- Counting on by one. -/
theorem HasValue.next (h : HasValue constants i value)
    (omitted : givenValue? constants (i + 1) = none) : HasValue constants (i + 1) (value + 1) := by
  have hone : (1 : Int64) = Int64.ofInt 1 := rfl
  cases h with
  | given own =>
      have hvalue : value + 1 = Int64.ofInt (value.toInt + ↑(i + 1 - i)) := by
        rw [Int64.ofInt_add, Int64.ofInt_toInt, Nat.add_sub_cancel_left, hone]
        rfl
      rw [hvalue]
      refine .counted i.lt_succ_self own ?_
      intro k hlt hle
      cases Nat.le_antisymm hle hlt
      exact omitted
  | @counted j base earlier given omitted' =>
      have hdistance : i + 1 - j = i - j + 1 := Nat.sub_add_comm earlier.le
      have hvalue : Int64.ofInt (base.toInt + ↑(i - j)) + 1 =
          Int64.ofInt (base.toInt + ↑(i + 1 - j)) := by
        rw [hone, ← Int64.ofInt_add, hdistance, Nat.cast_add_one, add_assoc]
      rw [hvalue]
      refine .counted (Nat.lt_succ_of_lt earlier) given ?_
      intro k hlt hle
      rcases Nat.le_succ_iff.mp hle with hbefore | rfl
      · exact omitted' k hlt hbefore
      · exact omitted
  | positional omitted' =>
      have hvalue : Int64.ofNat i + 1 = Int64.ofNat (i + 1) := (Int64.ofNat_add i 1).symm
      rw [hvalue]
      refine .positional ?_
      intro k hle
      rcases Nat.le_succ_iff.mp hle with hbefore | rfl
      · exact omitted' k hbefore
      · exact omitted

@[simp] theorem length_ofConstants :
    (ofConstants previous constants).length = constants.length := by
  induction constants generalizing previous with
  | nil => rfl
  | cons constant constants ih => simp [ofConstants, ih]

theorem map_name_ofConstants :
    (ofConstants previous constants).map (·.name) =
      constants.map fun constant => Identifier.escape constant.spelling := by
  induction constants generalizing previous with
  | nil => rfl
  | cons constant constants ih => simp [ofConstants, ih]

/-- One step of the loop: a value is given, or it is the one after the value before it. -/
theorem value_succ_ofConstants (h : i + 1 < (ofConstants previous constants).length) :
    (ofConstants previous constants)[i + 1].value =
      (givenValue? constants (i + 1)).getD
        ((ofConstants previous constants)[i].value + 1) := by
  induction constants generalizing previous i with
  | nil => simp [ofConstants] at h
  | cons constant constants ih =>
      cases i with
      | zero =>
          cases constants with
          | nil => simp [ofConstants] at h
          | cons next constants => simp [ofConstants, givenValue?]
      | succ i =>
          have hnext : i + 1 < constants.length := by simpa using h
          have hstep := @ih (some (constant.enumValue.getD ((previous.map (· + 1)).getD 0))) i
            (by simpa using hnext)
          simpa [ofConstants, givenValue?] using hstep

/-- Every enumerator gets the value described. -/
theorem hasValue_ofConstants (h : i < (ofConstants none constants).length) :
    HasValue constants i (ofConstants none constants)[i].value := by
  induction i with
  | zero =>
      cases constants with
      | nil => simp [ofConstants] at h
      | cons constant constants =>
          cases hvalue : constant.enumValue with
          | some value => exact .given (by simp [givenValue?, ofConstants, hvalue])
          | none =>
              simp only [ofConstants, hvalue, List.getElem_cons_zero]
              refine .positional ?_
              intro k hk
              cases Nat.le_zero.mp hk
              simp [givenValue?, hvalue]
  | succ i ih =>
      rw [value_succ_ofConstants h]
      cases hvalue : givenValue? constants (i + 1) with
      | some value => exact .given hvalue
      | none => exact (ih (by omega)).next hvalue

end EnumMember

/-! ## Literals -/

namespace Primitive

variable {type : Primitive} {value : Int64} {number : Int}

/-- What is written for a 64-bit value of an integer type: the natural number of so many bits that
is congruent to it if the type is unsigned, and the value itself if not. -/
def Writes (type : Primitive) (value : Int64) (number : Int) : Prop :=
  if type.isUnsigned then
    0 ≤ number ∧ number < 2 ^ type.width ∧ number ≡ value.toInt [ZMOD 2 ^ type.width]
  else number = value.toInt

theorem writes_iff : type.Writes value number ↔ number = type.literalValue value := by
  unfold Writes literalValue
  split
  · have hcast : ((Nat.pow 2 type.width : Nat) : Int) = 2 ^ type.width := Nat.cast_pow 2 type.width
    have hpos : (0 : Int) < 2 ^ type.width := Int.pow_pos (by decide)
    rw [hcast]
    constructor
    · rintro ⟨hnonneg, hlt, hcongruent⟩
      rw [← hcongruent, Int.emod_eq_of_lt hnonneg hlt]
    · rintro rfl
      exact ⟨Int.emod_nonneg _ hpos.ne', Int.emod_lt_of_pos _ hpos, Int.mod_modEq _ _⟩
  · rfl

instance (type : Primitive) (value : Int64) (number : Int) :
    Decidable (type.Writes value number) :=
  decidable_of_iff (number = type.literalValue value) writes_iff.symm

theorem existsUnique_writes (type : Primitive) (value : Int64) :
    ∃! number, type.Writes value number :=
  ⟨type.literalValue value, writes_iff.mpr rfl, fun _ h => writes_iff.mp h⟩

theorem width_le (type : Primitive) : type.width ≤ 64 := by
  cases type <;> decide

/-- The number written for a value of an unsigned type has the low bits of the value. -/
theorem literalValue_of_isUnsigned (h : type.isUnsigned = true) :
    type.literalValue value = ↑(value.toBitVec.toNat &&& (2 ^ type.width - 1)) := by
  have hdvd : ((2 : Int) ^ type.width) ∣ 2 ^ 64 := pow_dvd_pow 2 type.width_le
  have hvalue : value.toInt ≡ ↑value.toBitVec.toNat [ZMOD 2 ^ type.width] := by
    apply Int.ModEq.of_dvd hdvd
    rw [← Int64.toInt_toBitVec, BitVec.toInt_eq_toNat_bmod]
    exact Int.bmod_emod
  rw [Nat.and_two_pow_sub_one_eq_mod, literalValue, if_pos h]
  push_cast
  exact hvalue

end Primitive

/-! ## Enumerations -/

namespace Primitive

theorem isInteger_of_integer? {bits : UInt32} {signed : Bool} {type : Primitive}
    (h : integer? bits signed = some type) : type.isInteger = true := by
  unfold integer? at h
  split at h <;> cases h <;> rfl

end Primitive

namespace EnumMember

open Source

/-- The text of an enumeration, given the number that is written for each enumerator. -/
def declarationText (name : String) (underlying : Primitive) (members : List EnumMember)
    (numbers : List Int) : String :=
  Text.ofLines ([typeIndent ++ "public enum " ++ name ++ " : " ++ underlying.keyword] ++
    block typeIndent (List.zipWith (fun member number =>
      memberIndent ++ member.name ++ " = " ++ toString number ++ ",") members numbers))

theorem map_line_eq_zipWith {underlying : Primitive} {members : List EnumMember}
    {numbers : List Int}
    (h : List.Forall₂ (fun member => underlying.Writes member.value) members numbers) :
    members.map (·.line underlying) = List.zipWith (fun member number =>
      memberIndent ++ member.name ++ " = " ++ toString number ++ ",") members numbers := by
  induction h with
  | nil => rfl
  | cons hwrites _ ih =>
      rw [List.map_cons, List.zipWith_cons_cons, ih, line, Primitive.writes_iff.mp hwrites]

end EnumMember

namespace Declaration

variable {declaration : Declaration} {symbol : BindingSymbol} {underlying : Primitive}

theorem isInteger_of_enumPrimitive (h : declaration.enumPrimitive = .ok underlying) :
    underlying.isInteger = true := by
  unfold enumPrimitive at h
  split at h
  next => cases h; rfl
  next type _ =>
    split at h
    next bits signed _ =>
      split at h
      next primitive hprimitive =>
        cases h
        exact Primitive.isInteger_of_integer? hprimitive
      next => cases h
    next signed _ =>
      cases h
      cases signed with
      | true => rfl
      | false => rfl
    next => cases h; rfl
    next => cases h; rfl

theorem lowerEnum_eq_ok_iff :
    declaration.lowerEnum = .ok symbol ↔
      ∃ name underlying, declaration.typeName? = some name ∧
        declaration.enumPrimitive = .ok underlying ∧
        symbol = ⟨.enumeration, name, Identifier.escape name, .enumeration underlying
          (EnumMember.ofConstants none (declaration.childrenOfKind .enumerator))⟩ := by
  unfold lowerEnum
  cases declaration.typeName? with
  | none => simp
  | some name => simp [Outcome.map_eq_ok_iff, eq_comm (a := symbol)]

/-- A lowered enumeration has a member for each enumerator, in order, with the value that the
enumerator has. In its text the number for a value is the one that the underlying type writes,
which for an unsigned type are the low bits of the value. -/
theorem lowerEnum_counts (h : declaration.lowerEnum = .ok symbol) :
    ∃ underlying members, symbol.body = .enumeration underlying members ∧
      underlying.isInteger = true ∧
      members.map (·.name) = (declaration.childrenOfKind .enumerator).map
        (fun constant => Identifier.escape constant.spelling) ∧
      (∀ i (hi : i < members.length) (value : Int64), members[i].value = value ↔
        EnumMember.HasValue (declaration.childrenOfKind .enumerator) i value) ∧
      (∀ value, ∃! number, underlying.Writes value number) ∧
      (underlying.isUnsigned = true → ∀ value number, underlying.Writes value number →
        number = ↑(value.toBitVec.toNat &&& (2 ^ underlying.width - 1))) ∧
      ∀ numbers, List.Forall₂ (fun member => underlying.Writes member.value) members numbers →
        ∀ library, symbol.fragment library =
          EnumMember.declarationText symbol.emittedName underlying members numbers := by
  obtain ⟨name, underlying, -, hunderlying, rfl⟩ := lowerEnum_eq_ok_iff.mp h
  refine ⟨underlying, _, rfl, isInteger_of_enumPrimitive hunderlying,
    EnumMember.map_name_ofConstants, ?_, underlying.existsUnique_writes, ?_, ?_⟩
  · intro i hi value
    have hvalue := EnumMember.hasValue_ofConstants hi
    constructor
    · rintro rfl
      exact hvalue
    · exact hvalue.unique
  · intro hunsigned value number hwrites
    rw [Primitive.writes_iff.mp hwrites, Primitive.literalValue_of_isUnsigned hunsigned]
  · intro numbers hnumbers library
    simp only [BindingSymbol.fragment, SymbolBody.fragment, SymbolBody.lines,
      SymbolBody.enumLines, EnumMember.declarationText, EnumMember.map_line_eq_zipWith hnumbers]

/-- An enumerator, with the value that the source gives to it. -/
def ofEnumerator (name : String) (value : Option Int64) : Declaration :=
  { ofType .enumerator name .int with enumValue := value }

/-- An enumeration of unsigned bytes that counts through zero and past the largest value. -/
def wrapping : Declaration :=
  { ofEnum "byte" (.integer 8 false) with
    children := [ofEnumerator "none" none, ofEnumerator "one" none,
      ofEnumerator "all" (some (-1)), ofEnumerator "zero" none,
      ofEnumerator "last" (some Int64.maxValue), ofEnumerator "this" none] }

theorem lowerEnum_counts_wrapping :
    ∃ symbol, wrapping.lowerEnum = .ok symbol ∧
      EnumMember.HasValue (wrapping.childrenOfKind .enumerator) 5 Int64.minValue ∧
      symbol.fragment "" = EnumMember.declarationText "@byte" .byte
        [⟨"none", 0⟩, ⟨"one", 1⟩, ⟨"all", -1⟩, ⟨"zero", 0⟩, ⟨"last", Int64.maxValue⟩,
          ⟨"@this", Int64.minValue⟩] [0, 1, 255, 0, 255, 0] := by
  obtain ⟨symbol, hsymbol⟩ : ∃ symbol, wrapping.lowerEnum = .ok symbol := ⟨_, rfl⟩
  refine ⟨symbol, hsymbol, ?_⟩
  obtain ⟨underlying, members, hbody, -, -, hvalues, -, -, htext⟩ := lowerEnum_counts hsymbol
  cases hsymbol
  cases hbody
  constructor
  · exact (hvalues 5 (by decide) _).mp (by decide)
  · exact htext _ (by decide) ""

end Declaration

end Interop
