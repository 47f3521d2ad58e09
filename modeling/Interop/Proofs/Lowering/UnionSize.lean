import Interop.Proofs.Lowering.Placement
import Interop.Source.Fragment

/-!
# The size of a union

The members of a union all start at zero, so the managed structure for it is as large as its
largest member, rounded up to its alignment. That is the largest alignment of a member, unless the
attribute of the structure lowers it.

The layout check rounds to the alignment of the native union, and so reckons with a structure
packed to it. The attribute that a union is written with never packs. The two agree unless the
union is packed: the size of the structure is the native one exactly if it is a multiple of the
largest alignment of a member (`Mapper.keepsUnionSize_iff`).
-/

namespace Interop

/-! ## Rounding to a larger alignment -/

section Rounding

variable {align natural value rounded : Nat}

theorem IsRoundedUp.lt_add (h : IsRoundedUp align value rounded) (positive : 1 ≤ align) :
    rounded < value + align := by
  obtain ⟨⟨hdvd, -⟩, hleast⟩ := h
  by_contra hfar
  have hbelow : rounded ≤ rounded - align :=
    hleast ⟨Nat.dvd_sub hdvd (Nat.dvd_refl align), by omega⟩
  omega

/-- A value rounded up to an alignment is rounded up to a larger one exactly if it is a multiple
of it. -/
theorem IsRoundedUp.iff_dvd (h : IsRoundedUp align value rounded) (positive : 1 ≤ align)
    (le : align ≤ natural) : IsRoundedUp natural value rounded ↔ natural ∣ rounded := by
  refine ⟨fun hnatural => hnatural.1.1, fun hdvd => ⟨⟨hdvd, h.le⟩, ?_⟩⟩
  rintro multiple ⟨hmultiple, hvalue⟩
  -- two multiples are at least an alignment apart, which is more than the rounding adds
  by_contra hbelow
  have happart := Nat.le_of_dvd (by omega) (Nat.dvd_sub hdvd hmultiple)
  have hclose := h.lt_add positive
  omega

end Rounding

/-! ## What is written -/

namespace Source

/-- What closes the attribute of a structure whose fields carry their offsets, which may be
packed. -/
def explicitEnd : Option Nat → String
  | none => ")]"
  | some align => ", Pack = " ++ toString align ++ ")]"

/-- The attribute of a structure whose fields carry their offsets, up to the packing. -/
def explicitStart : String := typeIndent ++ "[StructLayout(" ++ StructLayout.explicit.source

/-- The attribute of a structure whose fields carry their offsets. -/
def explicitAttribute (pack : Option Nat) : String := explicitStart ++ explicitEnd pack

theorem isSome_eq_of_explicitAttribute_append {pack pack' : Option Nat} {rest rest' : String}
    (h : explicitAttribute pack ++ rest = explicitAttribute pack' ++ rest') :
    pack.isSome = pack'.isSome := by
  have hend : explicitEnd pack ++ rest = explicitEnd pack' ++ rest' := by
    rw [explicitAttribute, explicitAttribute, String.append_assoc, String.append_assoc] at h
    exact (String.append_right_inj _).mp h
  have hhead := congrArg (fun text => text.toList.head?) hend
  cases pack <;> cases pack' <;> simp [explicitEnd, String.toList_append] at hhead ⊢

end Source

open Source

namespace BindingSymbol

variable {symbol : BindingSymbol}

/-- A symbol is written as a structure whose fields carry their offsets, packed as given. -/
def IsOverlaid (symbol : BindingSymbol) (pack : Option Nat) : Prop :=
  ∀ library, ∃ rest, symbol.fragment library = explicitAttribute pack ++ ("\n" ++ rest)

/-- Whatever a union is to be packed to, it is written without packing. -/
theorem isOverlaid_iff {pack : Option UInt64} {fields : List FieldBinding}
    (h : symbol.body = .record true pack fields) {written : Option Nat} :
    symbol.IsOverlaid written ↔ written = none := by
  have hplain : symbol.IsOverlaid none := by
    intro library
    rw [fragment, h]
    exact ⟨_, String.append_assoc⟩
  refine ⟨fun hwritten => ?_, fun hnone => hnone ▸ hplain⟩
  obtain ⟨rest, hrest⟩ := hplain ""
  obtain ⟨rest', hrest'⟩ := hwritten ""
  have hsome := isSome_eq_of_explicitAttribute_append (hrest.symm.trans hrest')
  simpa using hsome.symm

end BindingSymbol

/-! ## What the front end reports -/

namespace Declaration

/-- The layouts that are reported of the members of a record. -/
def memberLayouts (record : Declaration) : List Layout :=
  (record.children.filter isMember).filterMap (·.type.layout)

/-- The check is given the numbers that are reported of the members. -/
theorem Measures.map_eq {members : List Declaration} {slots : List MemberSlot}
    (h : List.Forall₂ Measures members slots) :
    (members.filterMap (·.type.layout)).map (·.size.toNat) = slots.map (·.size) ∧
      (members.filterMap (·.type.layout)).map (·.align.toNat) = slots.map (·.align) := by
  induction h with
  | nil => exact ⟨rfl, rfl⟩
  | cons head _ ih =>
      obtain ⟨layout, hlayout, heq⟩ := Option.map_eq_some_iff.mp head.layout
      rw [Prod.mk.injEq] at heq
      simp [hlayout, heq, ih]

end Declaration

/-! ## The size -/

/-- The largest number of a list. -/
def IsLargest (numbers : List Nat) (largest : Nat) : Prop :=
  largest ∈ numbers ∧ ∀ number ∈ numbers, number ≤ largest

theorem IsLargest.unique {numbers : List Nat} {largest largest' : Nat}
    (h : IsLargest numbers largest) (h' : IsLargest numbers largest') : largest = largest' :=
  Nat.le_antisymm (h'.2 _ h.1) (h.2 _ h'.1)

/-- The size of a structure whose members all start at zero: that of the largest member, rounded
up to the largest alignment of a member or to what the structure is packed to, if that is less. -/
def IsOverlaidSize (pack : Option Nat) (layouts : List Layout) (size : Nat) : Prop :=
  ∃ largest natural, IsLargest (layouts.map (·.size.toNat)) largest ∧
    IsLargest (layouts.map (·.align.toNat)) natural ∧
    IsRoundedUp (pack.elim natural (min · natural)) largest size

/-- The structure that a union is written as has the native size. -/
def Declaration.KeepsUnionSize (record : Declaration) (layout : Layout) (group : SymbolGroup) :
    Prop :=
  ∃ pack, group.main.IsOverlaid pack ∧
    IsOverlaidSize pack record.memberLayouts layout.size.toNat

namespace MemberSlot

variable {slots : List MemberSlot} {recordAlign start finish : Nat}

theorem isLargest_naturalAlign (h : slots ≠ []) :
    IsLargest (slots.map (·.align)) (naturalAlign slots) := by
  obtain ⟨hmem, hle⟩ := isGreatest_naturalAlign h
  exact ⟨List.mem_map.mpr hmem, fun align halign => hle (List.mem_map.mp halign)⟩

/-- The members of a union take as many bytes as the largest of them, beside what is taken
before. -/
theorem isLargest_of_placeAll (h : placeAll true recordAlign start slots = .ok finish) :
    IsLargest (start :: slots.map (·.size)) finish := by
  induction slots generalizing start with
  | nil =>
      cases h
      simp [IsLargest]
  | cons slot slots ih =>
      simp only [placeAll, taken, if_true] at h
      split at h
      · have hrest := ih h
        simp only [IsLargest, List.map_cons, List.mem_cons, forall_eq_or_imp] at hrest ⊢
        grind
      · cases h

/-- The members of a union take as many bytes as the largest of them. -/
theorem isLargest_of_placeAll_zero (hne : slots ≠ [])
    (h : placeAll true recordAlign 0 slots = .ok finish) :
    IsLargest (slots.map (·.size)) finish := by
  obtain ⟨hmem, hle⟩ := isLargest_of_placeAll h
  have hsizes : ∀ size ∈ slots.map (·.size), size ≤ finish :=
    fun size hsize => hle size (List.mem_cons_of_mem _ hsize)
  refine ⟨?_, hsizes⟩
  rcases List.mem_cons.mp hmem with rfl | hmem
  · -- nothing is taken, so every member is empty
    obtain ⟨slot, hslot⟩ := List.exists_mem_of_ne_nil slots hne
    have hsize := List.mem_map_of_mem (f := (·.size)) hslot
    rwa [Nat.le_zero.mp (hsizes _ hsize)] at hsize
  · exact hmem

end MemberSlot

namespace Mapper

/-- A union of known layout, whose members all have one, is bound. -/
structure BindsUnion (mapper : Mapper) (record : Declaration) (layout : Layout)
    (group : SymbolGroup) : Prop where
  isUnion : record.kind = .union
  own : record.type.layout = some layout
  aligned : 1 ≤ layout.align.toNat
  reported : record.ReportsMembers
  lowered : mapper.lowerRecord record = .ok group

variable {mapper : Mapper} {record : Declaration} {layout : Layout} {group : SymbolGroup}

/-- A union that is bound has the size of its largest member, rounded up to its own alignment,
which is below the largest one of a member exactly if the union is packed. -/
theorem BindsUnion.exists_largest (h : mapper.BindsUnion record layout group) :
    ∃ largest natural pack fields, group.main.body = .record true pack fields ∧
      IsLargest (record.memberLayouts.map (·.size.toNat)) largest ∧
      IsLargest (record.memberLayouts.map (·.align.toNat)) natural ∧
      layout.align.toNat ≤ natural ∧ (pack = none → layout.align.toNat = natural) ∧
      IsRoundedUp layout.align.toNat largest layout.size.toNat := by
  obtain ⟨slots, pack, fields, hne, hmeasures, -, hpack, hbody⟩ :=
    exists_pack?_of_lowerRecord h.own h.reported h.lowered
  simp only [h.isUnion, decide_true] at hpack hbody
  obtain ⟨hle, ⟨finish, hfinish, hsize⟩, rfl⟩ := Layout.pack?_eq_ok_iff.mp hpack
  obtain ⟨hsizes, haligns⟩ := Declaration.Measures.map_eq hmeasures
  refine ⟨finish, MemberSlot.naturalAlign slots, _, fields, hbody, ?_, ?_, hle, fun hnone => ?_,
    (isRoundedUp_iff h.aligned).mpr hsize⟩
  · rw [Declaration.memberLayouts, hsizes]
    exact MemberSlot.isLargest_of_placeAll_zero hne hfinish
  · rw [Declaration.memberLayouts, haligns]
    exact MemberSlot.isLargest_naturalAlign hne
  · have hnot : ¬ layout.align.toNat < MemberSlot.naturalAlign slots := by simpa using hnone
    omega

/-- Whatever the check says, a union is written without packing. -/
theorem BindsUnion.isOverlaid_iff (h : mapper.BindsUnion record layout group)
    {written : Option Nat} : group.main.IsOverlaid written ↔ written = none := by
  obtain ⟨_, _, _, _, hbody, -⟩ := h.exists_largest
  exact BindingSymbol.isOverlaid_iff hbody

theorem BindsUnion.keepsUnionSize_iff_dvd (h : mapper.BindsUnion record layout group)
    {natural : Nat} (largest : IsLargest (record.memberLayouts.map (·.align.toNat)) natural) :
    record.KeepsUnionSize layout group ↔ natural ∣ layout.size.toNat := by
  obtain ⟨size, natural', pack, fields, -, hsize, hnatural, hle, -, hrounded⟩ := h.exists_largest
  cases largest.unique hnatural
  rw [← hrounded.iff_dvd h.aligned hle]
  constructor
  · rintro ⟨written, hwritten, size', natural', hsize', hnatural', hmanaged⟩
    cases h.isOverlaid_iff.mp hwritten
    cases hsize.unique hsize'
    cases hnatural.unique hnatural'
    exact hmanaged
  · intro hmanaged
    exact ⟨none, h.isOverlaid_iff.mpr rfl, size, natural, hsize, hnatural, hmanaged⟩

/-- A union that is bound is written without packing, although the native size is that of a
structure packed to the alignment of the union. The structure that is written has it exactly if
the largest alignment of a member divides it; so it does if the union is not packed. -/
theorem keepsUnionSize_iff (h : mapper.BindsUnion record layout group) :
    (∀ written, group.main.IsOverlaid written ↔ written = none) ∧
    IsOverlaidSize (some layout.align.toNat) record.memberLayouts layout.size.toNat ∧
    (record.KeepsUnionSize layout group ↔
      ∀ natural, IsLargest (record.memberLayouts.map (·.align.toNat)) natural →
        natural ∣ layout.size.toNat) ∧
    ((∃ fields, group.main.body = .record true none fields) →
      record.KeepsUnionSize layout group) := by
  obtain ⟨size, natural, pack, fields, hbody, hsize, hnatural, hle, hunpacked, hrounded⟩ :=
    h.exists_largest
  have hkeeps := h.keepsUnionSize_iff_dvd hnatural
  refine ⟨fun _ => h.isOverlaid_iff, ⟨size, natural, hsize, hnatural, ?_⟩, ?_, ?_⟩
  · rw [Option.elim_some, Nat.min_eq_left hle]
    exact hrounded
  · rw [hkeeps]
    constructor
    · intro hdvd other hother
      rwa [hother.unique hnatural]
    · intro hdvd
      exact hdvd natural hnatural
  · rintro ⟨fields', hbody'⟩
    cases hbody.symm.trans hbody'
    rw [hkeeps, ← hunpacked rfl]
    exact hrounded.1.1

/-- A union of members that start at zero, as the front end reports it. -/
def reportedUnion (name : String) (layout : Layout) (members : List (String × NativeType)) :
    Declaration :=
  { Declaration.ofUnion name (members.map fun (member, type) =>
      { Declaration.ofField member type with fieldOffsetBits := some 0 }) with
    type := ⟨.record (some name) true, some layout, false⟩ }

/-- A union packed to four bytes whose size is a multiple of eight all the same. -/
def packedNumber : Declaration :=
  reportedUnion "Number" ⟨8, 4⟩ [("whole", .int), ("real", .float 64)]

theorem keepsUnionSize_iff_packedNumber :
    ∃ group, (Mapper.mk ∅ true).BindsUnion packedNumber ⟨8, 4⟩ group ∧
      packedNumber.KeepsUnionSize ⟨8, 4⟩ group := by
  obtain ⟨group, hgroup⟩ : ∃ group, (Mapper.mk ∅ true).lowerRecord packedNumber = .ok group :=
    Outcome.exists_eq_ok_of_isOk (by decide +kernel)
  have hbinds : (Mapper.mk ∅ true).BindsUnion packedNumber ⟨8, 4⟩ group :=
    ⟨rfl, rfl, by decide, by decide +kernel, hgroup⟩
  have haligns : packedNumber.memberLayouts.map (·.align.toNat) = [4, 8] := rfl
  refine ⟨group, hbinds, (keepsUnionSize_iff hbinds).2.2.1.mpr fun natural hnatural => ?_⟩
  have height : IsLargest [4, 8] 8 := ⟨by decide, by decide⟩
  rw [haligns] at hnatural
  cases hnatural.unique height
  decide

/-- A union packed to one byte, of a packed structure of five bytes and a number. -/
def packedValue : Declaration :=
  reportedUnion "Value" ⟨5, 1⟩
    [("part", (NativeType.record "Part").withLayout 5 1), ("whole", .int)]

/-- The native union takes five bytes, and the structure that is written for it eight. -/
theorem not_keepsUnionSize_packedValue :
    ¬ ∀ (mapper : Mapper) (record : Declaration) (layout : Layout) (group : SymbolGroup),
      mapper.BindsUnion record layout group → record.KeepsUnionSize layout group := by
  intro hall
  let parts : NameSet := NameSet.insert ∅ "Part"
  let mapper : Mapper := ⟨⟨parts, ∅, ∅, parts⟩, true⟩
  obtain ⟨group, hgroup⟩ : ∃ group, mapper.lowerRecord packedValue = .ok group :=
    Outcome.exists_eq_ok_of_isOk (by decide +kernel)
  have hbinds : mapper.BindsUnion packedValue ⟨5, 1⟩ group :=
    ⟨rfl, rfl, by decide, by decide +kernel, hgroup⟩
  have hnatural : IsLargest (packedValue.memberLayouts.map (·.align.toNat)) 4 :=
    ⟨by decide, by decide⟩
  exact absurd ((hbinds.keepsUnionSize_iff_dvd hnatural).mp (hall _ _ _ _ hbinds)) (by decide)

end Mapper

end Interop
