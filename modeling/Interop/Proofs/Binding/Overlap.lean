import Interop.Proofs.Binding.Containment
import Interop.Proofs.Lowering.Growth

/-!
# What overlaps in a union

The members of a union start at the same address, so none of them may hold a managed reference,
however deep inside. Whether a record holds one is found out round by round: a run asks the index
of the round before it about the records and wrappers that a type names, and looks into the
records lifted out of the same declaration by itself.

In a settled run these answers support one another. `Mapper.HoldsNone` collects the types that are
found to hold no managed reference. Looking into the symbol that such a type names leads to such
types again (`BindingRun.Accounts.holdsNone_parts`), so no chain of names leaves them, however
long it is and even if it comes back to where it began.
-/

namespace Interop

/-- Looking into what a type stores, through the records and wrappers among some symbols, one
arrives at a managed reference. -/
inductive ManagedType.LeadsToReference (symbols : List BindingSymbol) : ManagedType → Prop
  | string : LeadsToReference symbols .string
  | text (length : UInt64) : LeadsToReference symbols (.text length)
  | array (element : ManagedType) (length : UInt64) :
      LeadsToReference symbols (.array element length)
  | delegate (signature : Delegate) : LeadsToReference symbols (.delegate signature)
  /-- The name of a delegate that a typedef is bound as. -/
  | callback {name : String} {symbol : BindingSymbol} {signature : Delegate}
      (mem : symbol ∈ symbols) (declares : symbol.DeclaresType name)
      (body : symbol.body = .delegate signature) : LeadsToReference symbols (.named name)
  /-- The name of a record or wrapper that stores a type which leads to one. -/
  | stored {name : String} {symbol : BindingSymbol} {type : ManagedType}
      (mem : symbol ∈ symbols) (declares : symbol.DeclaresType name)
      (holder : symbol.body.isStructure = true) (part : type ∈ symbol.body.types)
      (inner : LeadsToReference symbols type) : LeadsToReference symbols (.named name)

namespace Mapper

variable {mapper : Mapper} {type : NativeType} {position : Position} {scope : MapScope}
  {mapped : ManagedType}

/-- What lies in a union holds no managed reference by the index, or is a nameless record. -/
theorem Maps.isBlittable_unionField (h : mapper.Maps type position scope mapped)
    (overlaps : position = .unionField) :
    mapper.isBlittable mapped = true ∨
      ∃ name, mapped = .named name ∧ scope.anonymousRecord = some name := by
  induction h with
  | overlapped | functionAddress | address => exact .inl rfl
  | aliased _ overlap => exact .inl (isBlittable_named.mpr (.inr (overlap overlaps).2))
  | underlying _ _ _ ih | integer _ _ ih => exact ih overlaps
  | void valueless =>
      subst overlaps
      simp at valueless
  | scalar fixed => exact .inl (isBlittable_of_scalar? fixed)
  | callback _ holds | delegate _ holds =>
      subst overlaps
      cases holds
  | string _ text =>
      subst overlaps
      simp [Position.passesStrings] at text
  | decayed => cases overlaps
  | text inline | array inline => exact absurd overlaps inline.1
  | openArray outside =>
      subst overlaps
      cases outside
  | record _ overlap => exact .inl (isBlittable_named.mpr (.inr (overlap overlaps)))
  | nameless given => exact .inr ⟨_, rfl, given⟩
  | enumeration bound => exact .inl (isBlittable_named.mpr (.inl bound))

/-! ## Types found to hold no managed reference -/

/-- The index says that a type holds no managed reference, or the type is a record among some
symbols, all of whose fields hold none. -/
inductive HoldsNone (mapper : Mapper) (symbols : List BindingSymbol) : ManagedType → Prop
  | listed {type : ManagedType} (plain : mapper.isBlittable type = true) :
      HoldsNone mapper symbols type
  | lifted {name : String} {symbol : BindingSymbol} {isUnion : Bool} {pack : Option UInt64}
      {fields : List FieldBinding} (mem : symbol ∈ symbols) (declares : symbol.DeclaresType name)
      (body : symbol.body = .record isUnion pack fields)
      (plain : ∀ field ∈ fields, HoldsNone mapper symbols field.type) :
      HoldsNone mapper symbols (.named name)

/-- Records that are among some symbols and declare their native names. -/
def DeclaredIn (symbols hoisted : List BindingSymbol) : Prop :=
  ∀ symbol ∈ hoisted, symbol ∈ symbols ∧ symbol.DeclaresType symbol.nativeName

variable {symbols : List BindingSymbol} {plain : NameSet} {group : SymbolGroup}

theorem holdsNone_of_isPlainType (known : ∀ name ∈ plain, HoldsNone mapper symbols (.named name))
    (h : mapper.isPlainType plain mapped = true) : HoldsNone mapper symbols mapped := by
  cases mapped with
  | named name =>
      rcases (Bool.or_eq_true _ _).mp h with hplain | hblittable
      · exact known name (NameSet.contains_iff.mp hplain)
      · exact .listed hblittable
  | _ => exact .listed h

/-- A record without managed references is one by its fields. -/
theorem exists_fields_of_isPlainRecord {symbol : BindingSymbol}
    (known : ∀ name ∈ plain, HoldsNone mapper symbols (.named name))
    (h : mapper.isPlainRecord plain symbol = true) :
    ∃ isUnion pack fields, symbol.body = .record isUnion pack fields ∧
      ∀ field ∈ fields, HoldsNone mapper symbols field.type := by
  cases hbody : symbol.body with
  | record isUnion pack fields =>
      rw [isPlainRecord_record hbody, List.all_eq_true] at h
      refine ⟨isUnion, pack, fields, rfl, ?_⟩
      intro field hfield
      exact holdsNone_of_isPlainType known (h field hfield)
  | enumeration | wrapper | delegate | function => simp [isPlainRecord, hbody] at h

/-- Records found to hold no managed reference, one after the other, hold none. -/
theorem holdsNone_of_mem_plainRecords {hoisted : List BindingSymbol}
    (declared : DeclaredIn symbols hoisted) :
    ∀ name ∈ mapper.plainRecords hoisted, HoldsNone mapper symbols (.named name) := by
  have hfold : ∀ plain : NameSet, (∀ name ∈ plain, HoldsNone mapper symbols (.named name)) →
      ∀ name ∈ hoisted.foldl (fun plain symbol =>
        if mapper.isPlainRecord plain symbol then plain.insert symbol.nativeName else plain) plain,
        HoldsNone mapper symbols (.named name) := by
    induction hoisted with
    | nil => exact fun _ known => known
    | cons symbol hoisted ih =>
        intro plain known
        obtain ⟨hmem, hdeclares⟩ := declared symbol List.mem_cons_self
        have hrest := ih fun other hother => declared other (List.mem_cons_of_mem _ hother)
        rw [List.foldl_cons]
        by_cases hplain : mapper.isPlainRecord plain symbol = true
        · rw [if_pos hplain]
          obtain ⟨isUnion, pack, fields, hbody, hfields⟩ :=
            exists_fields_of_isPlainRecord known hplain
          apply hrest
          intro name hname
          rcases NameSet.mem_insert.mp hname with rfl | hearlier
          · exact .lifted hmem hdeclares hbody hfields
          · exact known name hearlier
        · rw [if_neg hplain]
          exact hrest plain known
  exact hfold ∅ fun name hname => absurd hname (NameSet.not_mem_empty name)

theorem exists_fields_of_isBlittableGroup (declared : DeclaredIn symbols group.hoisted)
    (h : mapper.isBlittableGroup group = true) :
    ∃ isUnion pack fields, group.main.body = .record isUnion pack fields ∧
      ∀ field ∈ fields, HoldsNone mapper symbols field.type :=
  exists_fields_of_isPlainRecord (holdsNone_of_mem_plainRecords declared) h

/-- A declaration listed as holding no managed reference is a structure all of whose parts hold
none. -/
theorem holdsNone_of_holdsNoReference (declared : DeclaredIn symbols group.hoisted)
    (h : mapper.holdsNoReference group = true) :
    group.main.body.isStructure = true ∧
      ∀ type ∈ group.main.body.types, HoldsNone mapper symbols type := by
  cases hbody : group.main.body with
  | record isUnion pack fields =>
      rw [holdsNoReference, hbody] at h
      obtain ⟨_, _, _, hsame, hfields⟩ := exists_fields_of_isBlittableGroup declared h
      cases hbody.symm.trans hsame
      refine ⟨rfl, ?_⟩
      intro type htype
      obtain ⟨field, hfield, rfl⟩ := List.mem_map.mp htype
      exact hfields field hfield
  | wrapper field type =>
      rw [holdsNoReference, hbody] at h
      refine ⟨rfl, ?_⟩
      intro part hpart
      rw [List.mem_singleton.mp hpart]
      exact .listed h
  | enumeration | delegate | function => simp [holdsNoReference, hbody] at h

/-- A record that is lifted out of a union holds no managed reference. -/
theorem holdsNone_of_someProvides {context : RecordContext} {members : List RecordMember}
    {all : List LoweredMember} (overlaps : context.isUnion = true)
    (declared : DeclaredIn symbols (all.flatMap (·.hoisted))) {used : String}
    (h : RecordMember.SomeProvides mapper context members all used) :
    HoldsNone mapper symbols (.named used) := by
  obtain ⟨_, -, lowered, hlowered, label, nested, inner, -, hhoists, heq, rfl⟩ := h
  have hinner : DeclaredIn symbols inner.symbols := by
    intro symbol hsymbol
    exact declared symbol (List.mem_flatMap.mpr ⟨lowered, hlowered, heq ▸ hsymbol⟩)
  obtain ⟨isUnion, pack, fields, hbody, hplain⟩ :=
    exists_fields_of_isBlittableGroup
      (fun symbol hsymbol => hinner symbol (SymbolGroup.mem_symbols_of_mem_hoisted hsymbol))
      (hhoists.2 overlaps)
  obtain ⟨hkind, -, hemitted, -⟩ := main_of_lowerRecordAs hhoists.1
  refine .lifted (hinner _ SymbolGroup.main_mem_symbols).1 ⟨by simp [hkind], ?_⟩ hbody hplain
  rw [hemitted, ManagedType.source]

/-- The members of a union, lifted out or not, hold no managed reference. -/
theorem holdsNone_of_union {record : Declaration} {name : String}
    (h : mapper.lowerRecordAs record name = .ok group)
    (declared : DeclaredIn symbols group.hoisted) {symbol : BindingSymbol}
    (hsymbol : symbol ∈ group.symbols) {pack : Option UInt64} {fields : List FieldBinding}
    (hbody : symbol.body = .record true pack fields) :
    ∀ field ∈ fields, HoldsNone mapper symbols field.type := by
  induction record, name using Mapper.lowerRecordAs.induct generalizing group symbol with
  | case1 record name ih =>
      obtain ⟨members, hmembers, hclose⟩ := lowerRecordAs_eq_ok_iff.mp h
      obtain ⟨-, packing, -, rfl⟩ := RecordContext.close_eq_ok_iff.mp hclose
      rcases List.mem_append.mp hsymbol with hhoisted | hmain
      · obtain ⟨member, hmember, lowered, hlowered, label, nested, inner, hnested, hhoists, heq,
          hin⟩ := RecordMember.Lowers.exists_group_of_mem_hoisted hmembers hhoisted
        refine ih member hmember nested hnested _ hhoists.1 ?_ hin hbody
        -- what is lifted out for a member is lifted out of the whole record
        intro other hother
        apply declared other
        rw [RecordContext.structureOf, List.mem_flatMap]
        exact ⟨lowered, hlowered, heq ▸ SymbolGroup.mem_symbols_of_mem_hoisted hother⟩
      · cases List.mem_singleton.mp hmain
        injection hbody with hunion hpack hfields
        subst hfields
        intro field hfield
        obtain ⟨lowered, hlowered, rfl⟩ := List.mem_map.mp hfield
        rcases origin_of_mem hmembers hlowered with
          ⟨used, htype, hown⟩ | ⟨declaration, source, scope, -, hmaps, hgiven⟩
        · rw [htype]
          exact holdsNone_of_someProvides hunion declared hown
        · have hposition : Position.ofField (record.context name).isUnion = .unionField := by
            rw [hunion]
            rfl
          rcases hmaps.isBlittable_unionField hposition with hplain | ⟨used, htype, hlocal⟩
          · exact .listed hplain
          · rw [htype]
            exact holdsNone_of_someProvides hunion declared (hgiven used hlocal)

end Mapper

/-! ## Settled runs -/

namespace BindingRun.Accounts

open TranslationUnit

variable {options : BindingOptions} {units : List TranslationUnit} {index : SymbolIndex}
  {run : BindingRun}

/-- One type is declared by one symbol. -/
theorem eq_of_declaresType (h : Accounts options index (agenda units) run)
    {first second : BindingSymbol} (hfirst : first ∈ run.symbols) (hsecond : second ∈ run.symbols)
    {name : String} (hdeclares : first.DeclaresType name) (hother : second.DeclaresType name) :
    first = second :=
  h.eq_of_emittedName_eq hfirst hsecond hdeclares.1 hother.1 (hdeclares.2.trans hother.2.symm)

/-- Records lifted out of bound declarations declare their native names. -/
theorem declaredIn_hoisted (h : Accounts options index (agenda units) run)
    (nameless : AnonymousRecordsNameless units) {group : SymbolGroup}
    (hgroup : group ∈ run.groups) : Mapper.DeclaredIn run.symbols group.hoisted := by
  intro symbol hsymbol
  have hin := SymbolGroup.mem_symbols_of_mem_hoisted hsymbol
  obtain ⟨kind, declaration, hwork, hlowers⟩ := h.lowered group hgroup
  refine ⟨mem_symbols hgroup hin, ?_⟩
  cases hlowers with
  | record _ lowered =>
      refine ⟨by simp [(Mapper.record_of_mem_symbols lowered hin).1], ?_⟩
      rw [Mapper.emittedName_of_mem_hoisted lowered
        (fun node hnode => nameless node (nodes_of_mem_agenda hwork hnode)) hsymbol,
        ManagedType.source]
  | delegate | wrapper | enumeration | function => simp [SymbolGroup.single] at hsymbol

/-- What holds no managed reference does not name a delegate, and if it names a structure then
all parts of this hold none. -/
theorem holdsNone_parts (h : Accounts options index (agenda units) run)
    (settled : run.registry.discovered = index) (nameless : AnonymousRecordsNameless units)
    {name : String} (hnone : (options.mapper index).HoldsNone run.symbols (.named name))
    {symbol : BindingSymbol} (hsymbol : symbol ∈ run.symbols)
    (hdeclares : symbol.DeclaresType name) :
    (∀ signature, symbol.body ≠ .delegate signature) ∧
      (symbol.body.isStructure = true →
        ∀ type ∈ symbol.body.types, (options.mapper index).HoldsNone run.symbols type) := by
  cases hnone with
  | listed plain =>
      rcases Mapper.isBlittable_named.mp plain with henum | hblittable
      · have hlisted : name ∈ run.registry.discovered.names .enumeration := by
          rw [settled]
          exact henum
        obtain ⟨group, hgroup, declaration, -, hlowers, -, hname⟩ :=
          h.exists_lowered_of_mem_names hlisted
        have hmain : group.main.DeclaresType name :=
          hname ▸ h.declaresType_main hgroup (by simp [hlowers.kind_main])
        cases h.eq_of_declaresType hsymbol (mem_symbols hgroup SymbolGroup.main_mem_symbols)
          hdeclares hmain
        cases hlowers
        exact ⟨nofun, nofun⟩
      · have hlisted : name ∈ run.registry.discovered.blittable := by
          rw [settled]
          exact hblittable
        obtain ⟨group, hgroup, hplain, hname⟩ := (h.mem_blittable name).mp hlisted
        obtain ⟨hbody, hparts⟩ :=
          Mapper.holdsNone_of_holdsNoReference (h.declaredIn_hoisted nameless hgroup) hplain
        have hbound := mem_symbols hgroup SymbolGroup.main_mem_symbols
        have hmain : group.main.DeclaresType name :=
          hname ▸ h.declaresType_main hgroup (h.kind_ne_function_of_isStructure hbound hbody)
        cases h.eq_of_declaresType hsymbol hbound hdeclares hmain
        refine ⟨?_, fun _ => hparts⟩
        intro signature hdelegate
        rw [hdelegate] at hbody
        cases hbody
  | @lifted _ other isUnion pack fields mem declares body plain =>
      cases h.eq_of_declaresType hsymbol mem hdeclares declares
      rw [body]
      refine ⟨nofun, ?_⟩
      intro _ type htype
      obtain ⟨field, hfield, rfl⟩ := List.mem_map.mp htype
      exact plain field hfield

/-- In a settled run a type that is found to hold no managed reference leads to none. -/
theorem not_leadsToReference (h : Accounts options index (agenda units) run)
    (settled : run.registry.discovered = index) (nameless : AnonymousRecordsNameless units)
    {type : ManagedType} (hnone : (options.mapper index).HoldsNone run.symbols type) :
    ¬ type.LeadsToReference run.symbols := by
  intro hleads
  induction hleads with
  | string | text | array | delegate =>
      cases hnone with
      | listed plain => cases plain
  | callback mem declares body =>
      exact (h.holdsNone_parts settled nameless hnone mem declares).1 _ body
  | stored mem declares holder part _ ih =>
      exact ih ((h.holdsNone_parts settled nameless hnone mem declares).2 holder _ part)

end BindingRun.Accounts

namespace BindingOptions

open TranslationUnit

variable (options : BindingOptions) (units : List TranslationUnit)

/-- In a settled run no member of a union, lifted out or not, leads to a managed reference. -/
theorem unions_holdNoReference (settled : options.IsSettled units (options.buildIndex units))
    (nameless : AnonymousRecordsNameless units) :
    ∀ symbol ∈ (options.generate units).symbols, ∀ pack fields,
      symbol.body = .record true pack fields →
      ∀ field ∈ fields, ¬ field.type.LeadsToReference (options.generate units).symbols := by
  intro symbol hsymbol pack fields hbody field hfield
  have haccounts := options.accounts_run units (options.buildIndex units)
  obtain ⟨group, hgroup, hin⟩ := List.mem_flatMap.mp hsymbol
  obtain ⟨kind, declaration, -, hlowers⟩ := haccounts.lowered group hgroup
  have hnone : (options.mapper (options.buildIndex units)).HoldsNone
      (options.finalRun units).symbols field.type := by
    cases hlowers with
    | record _ lowered =>
        exact Mapper.holdsNone_of_union lowered (haccounts.declaredIn_hoisted nameless hgroup) hin
          hbody field hfield
    | delegate | wrapper | enumeration | function =>
        cases List.mem_singleton.mp hin
        cases hbody
  exact haccounts.not_leadsToReference settled nameless hnone

/-- A union over a record lifted out, a wrapper and another union, a union that is an anonymous
member, and one that would overlap with a string. -/
def overlaps : List TranslationUnit :=
  let number : Declaration :=
    { Declaration.ofType .union "" (.anonymousRecord true) with
      children := [.ofField "bits" .int, .ofField "corner" (.ofAlias "Corner" (.record "Point"))]
      isDefinition := true
      isAnonymousMember := true }
  [.ofDeclarations "value.h" [
    .ofUnion "Value" [
      .ofStruct "" [.ofField "corner" (.ofAlias "Corner" (.record "Point")), .ofField "n" .int],
      .ofField "at" (.anonymousRecord false),
      .ofField "number" (.record "Number"),
      .ofField "name" .text],
    .ofStruct "Number" [number],
    .ofAlias "Corner" (.record "Point"),
    .ofStruct "Point" [.ofField "x" .int, .ofField "y" .int],
    .ofStruct "Label" [.ofField "name" .text],
    .ofUnion "Refused" [.ofField "n" .int, .ofField "label" (.record "Label")]]]

theorem unions_holdNoReference_overlaps :
    sample.IsSettled overlaps (sample.buildIndex overlaps) ∧
      AnonymousRecordsNameless overlaps ∧
      (sample.generate overlaps).symbols.map (fun symbol =>
          (symbol.emittedName, symbol.body.stored)) =
        [("Value_at", ["Corner"]), ("Value", ["Value_at", "Number"]),
          ("Number_Anonymous0", ["Corner"]), ("Number", ["Number_Anonymous0"]), ("Point", []),
          ("Label", []), ("Corner", ["Point"])] ∧
      ∀ symbol ∈ (sample.generate overlaps).symbols, ∀ pack fields,
        symbol.body = .record true pack fields →
        ∀ field ∈ fields, ¬ field.type.LeadsToReference (sample.generate overlaps).symbols :=
  ⟨by decide +kernel, by decide +kernel, by decide +kernel,
    unions_holdNoReference sample overlaps (by decide +kernel) (by decide +kernel)⟩

end BindingOptions

end Interop
