import Interop.Proofs.Lowering.Records
import Interop.Proofs.Native.Parts
import Mathlib.Order.Bounds.Basic

/-!
# Where the members of a structure are placed

The layout check places the members of a record by the rules of managed structures and compares
the outcome with what the front end reports. Here these rules are stated by themselves: a rounded
offset is a least multiple, and `Placed` says where the members of a structure lie one after
another. The check accepts exactly the layouts that come out the same
(`Layout.pack?_eq_ok_iff_reproduces`), so the members of a structure that is bound are where the
native structure has them.

What the front end reports is read off the children of the definition, not off what they have
been lowered to.
-/

namespace Interop

/-! ## Rounding up -/

/-- The least multiple of an alignment that is not below a value. -/
def IsRoundedUp (align value rounded : Nat) : Prop :=
  IsLeast {multiple | align ∣ multiple ∧ value ≤ multiple} rounded

variable {align value rounded : Nat}

theorem isRoundedUp_alignUp (h : 1 ≤ align) (value : Nat) :
    IsRoundedUp align value (alignUp value align) := by
  rcases Nat.lt_or_eq_of_le h with hlt | rfl
  · rw [alignUp, if_neg (by omega)]
    have hover : value + (align - 1) < (value + (align - 1)) / align * align + align :=
      Nat.lt_div_mul_add h
    refine ⟨⟨Nat.dvd_mul_left _ _, by omega⟩, ?_⟩
    rintro multiple ⟨⟨factor, rfl⟩, hvalue⟩
    rw [Nat.mul_comm align factor] at hvalue ⊢
    apply Nat.mul_le_mul_right
    rw [← Nat.lt_succ_iff, Nat.div_lt_iff_lt_mul h, Nat.succ_mul]
    omega
  · exact ⟨⟨Nat.one_dvd _, Nat.le_refl _⟩, fun _ hmultiple => hmultiple.2⟩

theorem isRoundedUp_iff (h : 1 ≤ align) :
    IsRoundedUp align value rounded ↔ alignUp value align = rounded := by
  constructor
  · exact (isRoundedUp_alignUp h value).unique
  · rintro rfl
    exact isRoundedUp_alignUp h value

theorem IsRoundedUp.le (h : IsRoundedUp align value rounded) : value ≤ rounded := h.1.2

/-! ## Placing members -/

namespace MemberSlot

/-- Members placed one after another: each lies at the least multiple of its alignment, lowered to
that of the structure, that is not below the end of the member before it. -/
inductive Placed (recordAlign : Nat) : Nat → List MemberSlot → List Nat → Nat → Prop
  | nil {finish : Nat} : Placed recordAlign finish [] [] finish
  | cons {start offset finish : Nat} {slot : MemberSlot} {slots : List MemberSlot}
      {offsets : List Nat} (least : IsRoundedUp (min slot.align recordAlign) start offset)
      (rest : Placed recordAlign (offset + slot.size) slots offsets finish) :
      Placed recordAlign start (slot :: slots) (offset :: offsets) finish

/-- The native offset of a member, where one is reported, is the given one. -/
def ConfirmsOffset (slot : MemberSlot) (offset : Nat) : Prop :=
  ∀ bits, slot.offsetBits = some bits → bits = 8 * offset

theorem liesAt_iff {slot : MemberSlot} {offset : Nat} :
    slot.liesAt offset = true ↔ slot.ConfirmsOffset offset := by
  rw [liesAt, ConfirmsOffset]
  split <;> simp_all

variable {recordAlign start finish : Nat} {slots : List MemberSlot} {offsets : List Nat}

theorem Placed.start_le (h : Placed recordAlign start slots offsets finish) : start ≤ finish := by
  induction h with
  | nil => exact Nat.le_refl _
  | cons least _ ih =>
      have := least.le
      omega

/-- Members follow one another without overlap, up to the end of the last one. -/
theorem Placed.inOrder (h : Placed recordAlign start slots offsets finish) :
    (slots.zip offsets).Pairwise (fun earlier later => earlier.2 + earlier.1.size ≤ later.2) ∧
      ∀ placed ∈ slots.zip offsets, start ≤ placed.2 ∧ placed.2 + placed.1.size ≤ finish := by
  induction h with
  | nil => simp
  | cons least rest ih =>
      obtain ⟨hpairwise, hbounds⟩ := ih
      have hstart := least.le
      have hfinish := rest.start_le
      rw [List.zip_cons_cons, List.pairwise_cons]
      refine ⟨⟨fun later hlater => (hbounds later hlater).1, hpairwise⟩, ?_⟩
      rintro placed hplaced
      rcases List.mem_cons.mp hplaced with rfl | htail
      · exact ⟨hstart, hfinish⟩
      · have := hbounds placed htail
        omega

/-- A structure is checked by placing its members and comparing their offsets. -/
theorem placeAll_eq_ok_iff (hrecord : 1 ≤ recordAlign) (positive : ∀ slot ∈ slots, 1 ≤ slot.align) :
    placeAll false recordAlign start slots = .ok finish ↔
      ∃ offsets, Placed recordAlign start slots offsets finish ∧
        List.Forall₂ ConfirmsOffset slots offsets := by
  induction slots generalizing start with
  | nil =>
      rw [placeAll]
      constructor
      · intro h
        cases h
        exact ⟨[], .nil, .nil⟩
      · rintro ⟨_, hplaced, -⟩
        cases hplaced
        rfl
  | cons slot slots ih =>
      have hmin : 1 ≤ min slot.align recordAlign :=
        Nat.le_min.mpr ⟨positive slot List.mem_cons_self, hrecord⟩
      have hleast := isRoundedUp_alignUp hmin start
      have hrest := @ih (alignUp start (min slot.align recordAlign) + slot.size)
        fun other hother => positive other (List.mem_cons_of_mem _ hother)
      simp only [placeAll, place, taken, Bool.false_eq_true, if_false]
      constructor
      · intro h
        split at h
        · rename_i hlies
          obtain ⟨offsets, hplaced, hconfirms⟩ := hrest.mp h
          exact ⟨_, .cons hleast hplaced, .cons (liesAt_iff.mp hlies) hconfirms⟩
        · cases h
      · rintro ⟨_, hplaced, hconfirms⟩
        cases hplaced with
        | cons least rest =>
            cases hconfirms with
            | cons hlies hconfirms =>
                cases least.unique hleast
                rw [if_pos (liesAt_iff.mpr hlies)]
                exact hrest.mpr ⟨_, rest, hconfirms⟩

theorem isGreatest_naturalAlign (h : slots ≠ []) :
    IsGreatest {align | ∃ slot ∈ slots, slot.align = align} (naturalAlign slots) := by
  have hne : slots.map (·.align) ≠ [] := by simpa using h
  obtain ⟨largest, hlargest⟩ := Option.isSome_iff_exists.mp (List.isSome_max?_of_ne_nil hne)
  rw [naturalAlign, hlargest, Option.getD_some]
  obtain ⟨hmem, hle⟩ := List.max?_eq_some_iff.mp hlargest
  refine ⟨List.mem_map.mp hmem, ?_⟩
  rintro _ ⟨slot, hslot, rfl⟩
  exact hle _ (List.mem_map_of_mem hslot)

theorem le_naturalAlign_iff (h : slots ≠ []) {bound : Nat} :
    bound ≤ naturalAlign slots ↔ ∃ slot ∈ slots, bound ≤ slot.align := by
  obtain ⟨⟨largest, hlargest, heq⟩, hle⟩ := isGreatest_naturalAlign h
  constructor
  · intro hbound
    exact ⟨largest, hlargest, heq ▸ hbound⟩
  · rintro ⟨slot, hslot, hbound⟩
    exact Nat.le_trans hbound (hle ⟨slot, hslot, rfl⟩)

end MemberSlot

/-! ## The layout check -/

namespace Layout

variable {layout : Layout} {slots : List MemberSlot} {pack : Option UInt64}

open MemberSlot in
/-- What the layout check asks of a record, by steps. -/
theorem pack?_eq_ok_iff {isUnion : Bool} :
    layout.pack? isUnion slots = .ok pack ↔
      layout.align.toNat ≤ naturalAlign slots ∧
      (∃ finish, placeAll isUnion layout.align.toNat 0 slots = .ok finish ∧
        alignUp finish layout.align.toNat = layout.size.toNat) ∧
      pack = if layout.align.toNat < naturalAlign slots then some layout.align else none := by
  simp only [pack?]
  by_cases hnatural : naturalAlign slots < layout.align.toNat
  · rw [if_pos hnatural]
    constructor
    · nofun
    · rintro ⟨hle, -⟩
      omega
  · rw [if_neg hnatural]
    simp only [Outcome.bind_eq_ok_iff]
    constructor
    · rintro ⟨finish, hfinish, hsize⟩
      split at hsize
      · cases hsize
      · rename_i hagrees
        exact ⟨by omega, ⟨finish, hfinish, by simpa using hagrees⟩, (Except.ok.inj hsize).symm⟩
    · rintro ⟨-, ⟨finish, hfinish, hsize⟩, rfl⟩
      refine ⟨finish, hfinish, ?_⟩
      rw [if_neg (by simpa using hsize)]

open MemberSlot in
/-- The native layout of a structure is the one that placing its members gives: every reported
offset is that of the member, and the structure ends at the least multiple of its alignment. -/
structure Reproduces (layout : Layout) (slots : List MemberSlot) (offsets : List Nat)
    (finish : Nat) : Prop where
  placed : Placed layout.align.toNat 0 slots offsets finish
  confirmed : List.Forall₂ ConfirmsOffset slots offsets
  size : IsRoundedUp layout.align.toNat finish layout.size.toNat

/-- What a record is to be packed to: its alignment, exactly if a member has a larger one. -/
def packTo (layout : Layout) (slots : List MemberSlot) : Option UInt64 :=
  if ∃ slot ∈ slots, layout.align.toNat < slot.align then some layout.align else none

theorem packTo_eq (h : slots ≠ []) :
    layout.packTo slots =
      if layout.align.toNat < MemberSlot.naturalAlign slots then some layout.align else none := by
  simp only [packTo, ← Nat.succ_le_iff, MemberSlot.le_naturalAlign_iff h]

/-- The check of a structure accepts exactly the layouts that placing the members reproduces,
unless the structure is aligned more strictly than each of them. -/
theorem pack?_eq_ok_iff_reproduces (hne : slots ≠ []) (aligned : 1 ≤ layout.align.toNat)
    (positive : ∀ slot ∈ slots, 1 ≤ slot.align) :
    layout.pack? false slots = .ok pack ↔
      (∃ slot ∈ slots, layout.align.toNat ≤ slot.align) ∧
      (∃ offsets finish, layout.Reproduces slots offsets finish) ∧
      pack = layout.packTo slots := by
  rw [pack?_eq_ok_iff, MemberSlot.le_naturalAlign_iff hne, packTo_eq hne]
  simp only [MemberSlot.placeAll_eq_ok_iff aligned positive, ← isRoundedUp_iff aligned]
  constructor
  · rintro ⟨hle, ⟨finish, ⟨offsets, hplaced, hconfirmed⟩, hsize⟩, hpack⟩
    exact ⟨hle, ⟨offsets, finish, hplaced, hconfirmed, hsize⟩, hpack⟩
  · rintro ⟨hle, ⟨offsets, finish, hplaced, hconfirmed, hsize⟩, hpack⟩
    exact ⟨hle, ⟨finish, ⟨offsets, hplaced, hconfirmed⟩, hsize⟩, hpack⟩

end Layout

/-! ## What the front end reports -/

namespace Declaration

/-- Whether a child of a record definition is a member of the record: a field, or a record that
stands by itself. -/
def isMember (child : Declaration) : Bool :=
  child.kind = .field || (child.kind.isRecord && child.isDefinition && child.isAnonymousMember)

/-- The offset that the front end reports of a member. Only fields have one. -/
def reportedOffset? (member : Declaration) : Option UInt64 :=
  if member.kind = .field then member.fieldOffsetBits else none

/-- The members of a record definition all have a known layout. -/
def ReportsMembers (record : Declaration) : Prop :=
  ∀ child ∈ record.children.filter isMember, ∃ layout ∈ child.type.layout,
    1 ≤ layout.align.toNat

instance (record : Declaration) : Decidable record.ReportsMembers :=
  inferInstanceAs (Decidable (∀ child ∈ record.children.filter isMember,
    ∃ layout ∈ child.type.layout, 1 ≤ layout.align.toNat))

/-- The layout check is given the numbers that the front end reports of a member. -/
structure Measures (member : Declaration) (slot : MemberSlot) : Prop where
  layout : member.type.layout.map (fun layout => (layout.size.toNat, layout.align.toNat)) =
    some (slot.size, slot.align)
  offset : slot.offsetBits = member.reportedOffset?.map UInt64.toNat

end Declaration

namespace RecordMember

/-- A member stands for a child of the record with the same layout and offset. -/
def StandsFor (child : Declaration) : RecordMember → Prop
  | .anonymous _ record => child = record ∧ record.kind ≠ .field
  | .field declaration _ => child = declaration ∧ declaration.kind = .field

/-- The members of a record are its fields and the records that stand by themselves, in their
order. -/
theorem standsFor_ofChildren (number : Nat) (pending : Option Declaration) (last : Option String)
    (children : List Declaration) :
    List.Forall₂ StandsFor (children.filter Declaration.isMember)
      (ofChildren number pending last children) := by
  fun_induction ofChildren number pending last children with
  | case1 => exact .nil
  | case2 number pending last child children hrecord hanonymous ih =>
      have hmember : child.isMember = true := by
        simp [Declaration.isMember, hrecord, hanonymous]
      have hkind : child.kind ≠ .field := fun hfield => by
        simp [hfield, DeclarationKind.isRecord] at hrecord
      rw [List.filter_cons_of_pos hmember]
      exact .cons ⟨rfl, hkind⟩ ih
  | case3 number pending last child children hrecord hanonymous _ ih
  | case4 number pending last child children hrecord hanonymous _ ih =>
      have hmember : child.isMember = false := by
        cases hkind : child.kind <;>
          simp_all [Declaration.isMember, DeclarationKind.isRecord]
      rw [List.filter_cons_of_neg (by simp [hmember])]
      exact ih
  | case5 number pending last child children _ hkind _ _ ih
  | case6 number pending last child children _ hkind _ ih =>
      rw [List.filter_cons_of_pos (by simp [Declaration.isMember, hkind])]
      exact .cons ⟨rfl, hkind⟩ ih
  | case7 number pending last child children hrecord hkind ih =>
      have hmember : child.isMember = false := by
        simp_all [Declaration.isMember]
      rw [List.filter_cons_of_neg (by simp [hmember])]
      exact ih

variable {mapper : Mapper} {context : RecordContext}

/-- A lowered member keeps the layout and the offset of the child that the member stands for. -/
theorem Lowers.layout_eq {child : Declaration} {member : RecordMember} {lowered : LoweredMember}
    (h : Lowers mapper context member lowered) (stands : member.StandsFor child) :
    lowered.layout = child.type.layout ∧ lowered.offsetBits = child.reportedOffset? := by
  cases h with
  | anonymous | field | declared | shared =>
      obtain ⟨rfl, hkind⟩ := stands
      simp [Declaration.reportedOffset?, hkind]

/-- The check of a lowered member is about the child that the member stands for. -/
theorem Lowers.measures {child : Declaration} {member : RecordMember} {lowered : LoweredMember}
    (h : Lowers mapper context member lowered) (stands : member.StandsFor child)
    {layout : Layout} (reported : child.type.layout = some layout) :
    ∃ slot, lowered.slot? = some slot ∧ child.Measures slot ∧
      slot.align = layout.align.toNat := by
  obtain ⟨hlayout, hoffset⟩ := h.layout_eq stands
  refine ⟨⟨lowered.binding.name, layout.size.toNat, layout.align.toNat,
    lowered.offsetBits.map UInt64.toNat⟩, ?_, ⟨?_, ?_⟩, rfl⟩
  · rw [LoweredMember.slot?, hlayout, reported]
    rfl
  · rw [reported]
    rfl
  · rw [hoffset]

/-- If all members have a known layout, the check is about the children that they stand for. -/
theorem Lowers.exists_slots {children : List Declaration} {members : List RecordMember}
    {lowered : List LoweredMember} (h : List.Forall₂ (Lowers mapper context) members lowered)
    (stands : List.Forall₂ StandsFor children members)
    (reported : ∀ child ∈ children, ∃ layout ∈ child.type.layout, 1 ≤ layout.align.toNat) :
    ∃ slots, LoweredMember.slots? lowered = some slots ∧
      List.Forall₂ Declaration.Measures children slots ∧ ∀ slot ∈ slots, 1 ≤ slot.align := by
  induction h generalizing children with
  | nil =>
      cases stands
      exact ⟨[], rfl, .nil, by simp⟩
  | cons head _ ih =>
      cases stands with
      | cons hstands hrest =>
          obtain ⟨layout, hlayout, halign⟩ := reported _ List.mem_cons_self
          obtain ⟨slot, hslot, hmeasures, heq⟩ := head.measures hstands hlayout
          obtain ⟨slots, hslots, hall, hpositive⟩ :=
            ih hrest fun child hchild => reported child (List.mem_cons_of_mem _ hchild)
          refine ⟨slot :: slots, by simp [LoweredMember.slots?, hslot, hslots],
            .cons hmeasures hall, ?_⟩
          rintro other hother
          rcases List.mem_cons.mp hother with rfl | htail
          · exact heq ▸ halign
          · exact hpositive other htail

end RecordMember

namespace Mapper

variable {mapper : Mapper} {record : Declaration} {group : SymbolGroup} {layout : Layout}

/-- A record whose members all have a known layout is bound only when the check of these layouts
accepts it, and it is packed as the check says. -/
theorem exists_pack?_of_lowerRecord (own : record.type.layout = some layout)
    (reported : record.ReportsMembers) (h : mapper.lowerRecord record = .ok group) :
    ∃ slots pack fields, slots ≠ [] ∧
      List.Forall₂ Declaration.Measures (record.children.filter Declaration.isMember) slots ∧
      (∀ slot ∈ slots, 1 ≤ slot.align) ∧
      layout.pack? (record.kind = .union) slots = .ok pack ∧
      group.main.body = .record (record.kind = .union) pack fields := by
  rw [lowerRecord] at h
  split at h
  next name hname =>
    obtain ⟨members, hmembers, hclose⟩ := lowerRecordAs_eq_ok_iff.mp h
    obtain ⟨hne, pack, hpack, rfl⟩ := RecordContext.close_eq_ok_iff.mp hclose
    obtain ⟨slots, hslots, hmeasures, hpositive⟩ := RecordMember.Lowers.exists_slots hmembers
      (RecordMember.standsFor_ofChildren 0 none none record.children) reported
    rw [RecordContext.packing, own, hslots] at hpack
    refine ⟨slots, pack, _, ?_, hmeasures, hpositive, hpack, rfl⟩
    rintro rfl
    cases members with
    | nil => exact hne rfl
    | cons member members => simp [LoweredMember.slots?, Option.bind_eq_some_iff] at hslots
  next => cases h

end Mapper

/-! ## Structures -/

/-- The members of a structure that is bound lie where the native structure has them: placed one
after another, without overlap and inside the native size. The structure is packed to its
alignment exactly if a member has a larger one. -/
def Declaration.LiesNatively (record : Declaration) (layout : Layout) (group : SymbolGroup) :
    Prop :=
  ∃ slots offsets finish fields,
    List.Forall₂ Declaration.Measures (record.children.filter Declaration.isMember) slots ∧
    layout.Reproduces slots offsets finish ∧
    (slots.zip offsets).Pairwise (fun earlier later => earlier.2 + earlier.1.size ≤ later.2) ∧
    (∀ placed ∈ slots.zip offsets, placed.2 + placed.1.size ≤ layout.size.toNat) ∧
    group.main.body = .record false (layout.packTo slots) fields

namespace Layout

/-- A structure of known layout is bound only if its members lie where the native structure has
them, and the check accepts every layout that placing the members reproduces, unless the
structure is aligned more strictly than each of them. -/
theorem liesNatively_and_accepts {layout : Layout} (aligned : 1 ≤ layout.align.toNat) :
    (∀ (mapper : Mapper) (record : Declaration) (group : SymbolGroup), record.kind ≠ .union →
      record.type.layout = some layout → record.ReportsMembers →
      mapper.lowerRecord record = .ok group → record.LiesNatively layout group) ∧
    ∀ slots offsets finish, (∀ slot ∈ slots, 1 ≤ slot.align) →
      (∃ slot ∈ slots, layout.align.toNat ≤ slot.align) →
      layout.Reproduces slots offsets finish →
      layout.pack? false slots = .ok (layout.packTo slots) := by
  constructor
  · intro mapper record group hkind own reported h
    obtain ⟨slots, pack, fields, hne, hmeasures, hpositive, hpack, hbody⟩ :=
      Mapper.exists_pack?_of_lowerRecord own reported h
    simp only [hkind, decide_false] at hpack hbody
    obtain ⟨-, ⟨offsets, finish, hreproduces⟩, rfl⟩ :=
      (pack?_eq_ok_iff_reproduces hne aligned hpositive).mp hpack
    obtain ⟨hpairwise, hbounds⟩ := hreproduces.placed.inOrder
    refine ⟨slots, offsets, finish, fields, hmeasures, hreproduces, hpairwise, ?_, hbody⟩
    intro placed hplaced
    exact Nat.le_trans (hbounds placed hplaced).2 hreproduces.size.le
  · intro slots offsets finish positive halign hreproduces
    obtain ⟨slot, hslot, hle⟩ := halign
    exact (pack?_eq_ok_iff_reproduces (List.ne_nil_of_mem hslot) aligned positive).mpr
      ⟨⟨slot, hslot, hle⟩, ⟨offsets, finish, hreproduces⟩, rfl⟩

/-- A structure packed to two bytes: a tag, a number in a record that stands by itself, and a
count. -/
def packet : Declaration :=
  let number : Declaration :=
    { Declaration.ofStruct "" [.ofField "number" .int] with
      type := (NativeType.anonymousRecord false).withLayout 4 4
      isAnonymousMember := true }
  { Declaration.ofStruct "Packet" [
      { Declaration.ofField "tag" (.char true) with fieldOffsetBits := some 0 }, number,
      { Declaration.ofField "count" (.integer 16 true) with fieldOffsetBits := some 48 }] with
    type := (NativeType.record "Packet").withLayout 8 2 }

theorem liesNatively_and_accepts_packet :
    (∃ group, (Mapper.mk ∅ true).lowerRecord packet = .ok group ∧
      packet.LiesNatively ⟨8, 2⟩ group) ∧
    (Layout.mk 8 2).pack? false [⟨"tag", 1, 1, some 0⟩, ⟨"Anonymous0", 4, 4, none⟩,
      ⟨"count", 2, 2, some 48⟩] = .ok (some 2) := by
  have haligned : 1 ≤ (Layout.mk 8 2).align.toNat := by decide
  obtain ⟨hlies, haccepts⟩ := liesNatively_and_accepts haligned
  constructor
  · obtain ⟨group, hgroup⟩ : ∃ group, (Mapper.mk ∅ true).lowerRecord packet = .ok group :=
      Outcome.exists_eq_ok_of_isOk (by decide +kernel)
    exact ⟨group, hgroup, hlies _ _ _ (by decide) rfl (by decide +kernel) hgroup⟩
  · refine haccepts _ [0, 2, 6] 8 (by decide) (by decide) ⟨?_, ?_, ?_⟩
    · refine .cons ((isRoundedUp_iff (by decide)).mpr rfl) (.cons ?_ (.cons ?_ .nil))
      · exact (isRoundedUp_iff (by decide)).mpr rfl
      · exact (isRoundedUp_iff (by decide)).mpr rfl
    · simp [MemberSlot.ConfirmsOffset]
    · exact (isRoundedUp_iff (by decide)).mpr rfl

end Layout

end Interop
