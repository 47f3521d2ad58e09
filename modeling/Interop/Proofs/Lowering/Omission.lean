import Interop.Proofs.Native.Omission

/-!
# Lowering without functions below

Lowering never looks at functions below a declaration: the members of a record are its fields and
nested records, an enumeration reads its enumerators, and parameters are asked for as such. So a
declaration is lowered to the same symbols, or refused for the same reason, when functions below it
are taken out (`Mapper.lower_without`).
-/

namespace Interop

variable {drops : Declaration → Bool}

/-! ## Members -/

/-- Where a nameless record comes from, once nodes are dropped. -/
def FieldRecord.without (drops : Declaration → Bool) : FieldRecord → FieldRecord
  | .none => .none
  | .declared record => .declared (record.without drops)
  | .shared field => .shared field
  | .missing => .missing

namespace RecordMember

/-- A member of a record, once nodes are dropped. -/
def without (drops : Declaration → Bool) : RecordMember → RecordMember
  | .anonymous number record => .anonymous number (record.without drops)
  | .field declaration record => .field (declaration.without drops) (record.without drops)

theorem recordFor_without (pending : Option Declaration) (last : Option String) :
    recordFor (pending.map (Declaration.without drops)) last =
      (recordFor pending last).without drops := by
  cases pending <;> cases last <;> rfl

/-- The members of what is left are those of the record. -/
theorem ofChildren_withoutAll (only : Declaration.OnlyFunctions drops) (number : Nat)
    (pending : Option Declaration) (last : Option String) (children : List Declaration) :
    ofChildren number (pending.map (Declaration.without drops)) last
        (Declaration.withoutAll drops children) =
      (ofChildren number pending last children).map (without drops) := by
  induction children generalizing number pending last with
  | nil => rfl
  | cons child children ih =>
      rw [Declaration.withoutAll]
      by_cases hdrops : drops child = true
      -- a function is no member, and the record before it stays pending
      · have hfunction := only child hdrops
        rw [if_pos hdrops, ih, ofChildren]
        simp [hfunction, DeclarationKind.isRecord]
      -- what decides between the branches for any other child is not below it
      · rw [if_neg hdrops, ofChildren, ofChildren]
        simp only [Declaration.kind_without, Declaration.isDefinition_without,
          Declaration.isAnonymousMember_without, Declaration.typeName?_without,
          Declaration.type_without, Declaration.spelling_without, Option.isSome_map]
        split
        · split
          · rw [ih]
            rfl
          · split
            · exact ih number (some child) last
            · exact ih number pending last
        · split
          · split
            · rw [recordFor_without, List.map_cons, ← ih]
              rfl
            · rw [ih]
              rfl
          · exact ih number pending last

end RecordMember

theorem Declaration.members_without (only : OnlyFunctions drops) (record : Declaration) :
    (record.without drops).members = record.members.map (RecordMember.without drops) := by
  rw [members, members, children_without]
  exact RecordMember.ofChildren_withoutAll only 0 none none record.children

/-! ## Records -/

namespace RecordMember

variable (mapper : Mapper) (context : RecordContext)

/-- A member is lowered as before when the record that it lifts out is. -/
theorem lowerWith_without {member : RecordMember}
    (nested : ∀ record, member.nested? = some record → ∀ name,
      mapper.lowerRecordAs (record.without drops) name = mapper.lowerRecordAs record name) :
    (member.without drops).lowerWith mapper context (fun record _ => mapper.lowerRecordAs record) =
      member.lowerWith mapper context (fun record _ => mapper.lowerRecordAs record) := by
  cases member with
  | anonymous number record =>
      have hrecord := funext (nested record rfl)
      simp only [without, lowerWith, label, hrecord, Declaration.type_without]
  | field declaration source =>
      cases source with
      | none | shared | missing =>
          simp [without, FieldRecord.without, lowerWith, lowerField]
      | declared record =>
          have hrecord := funext (nested record rfl)
          simp [without, FieldRecord.without, lowerWith, lowerField, hrecord]

theorem lowerAll_without {members : List RecordMember}
    (nested : ∀ member ∈ members, ∀ record, member.nested? = some record → ∀ name,
      mapper.lowerRecordAs (record.without drops) name = mapper.lowerRecordAs record name) :
    lowerAll mapper context (members.map (without drops))
        (fun _ _ record _ => mapper.lowerRecordAs record) =
      lowerAll mapper context members (fun _ _ record _ => mapper.lowerRecordAs record) := by
  induction members with
  | nil => rfl
  | cons member members ih =>
      have hmember := lowerWith_without mapper context (nested member List.mem_cons_self)
      have hmembers := ih fun other hother => nested other (List.mem_cons_of_mem _ hother)
      rw [List.map_cons, lowerAll, lowerAll, hmember, hmembers]

end RecordMember

namespace Mapper

variable {mapper : Mapper}

theorem lowerRecordAs_without (only : Declaration.OnlyFunctions drops) (record : Declaration)
    (name : String) :
    mapper.lowerRecordAs (record.without drops) name = mapper.lowerRecordAs record name := by
  induction record, name using Mapper.lowerRecordAs.induct with
  | case1 record name ih =>
      have hmembers := RecordMember.lowerAll_without mapper ⟨name, record.kind = .union⟩
        fun member hmember nested hnested nestedName =>
          ih member hmember nested hnested nestedName
      rw [lowerRecordAs, lowerRecordAs, record.members_without only, Declaration.kind_without,
        hmembers]
      simp only [RecordContext.close, Declaration.type_without, Declaration.typeName?_without]

/-! ## Declarations -/

theorem ofConstants_map_without (previous : Option Int64) (constants : List Declaration) :
    EnumMember.ofConstants previous (constants.map (Declaration.without drops)) =
      EnumMember.ofConstants previous constants := by
  induction constants generalizing previous with
  | nil => rfl
  | cons constant constants ih =>
      simp [EnumMember.ofConstants, ih]

theorem parameterNames_without (only : Declaration.OnlyFunctions drops)
    (declaration : Declaration) :
    (declaration.without drops).parameterNames = declaration.parameterNames := by
  funext signature
  simp [Declaration.parameterNames, Declaration.childrenOfKind_without only, Function.comp_def]

theorem lowerRecord_without (only : Declaration.OnlyFunctions drops) (declaration : Declaration) :
    mapper.lowerRecord (declaration.without drops) = mapper.lowerRecord declaration := by
  rw [lowerRecord, lowerRecord, Declaration.typeName?_without]
  cases declaration.typeName? with
  | none => rfl
  | some name => exact lowerRecordAs_without only declaration name

theorem lowerTypedef_without (only : Declaration.OnlyFunctions drops)
    (declaration : Declaration) :
    mapper.lowerTypedef (declaration.without drops) = mapper.lowerTypedef declaration := by
  have htarget : (declaration.without drops).typedefTarget? = declaration.typedefTarget? := by
    rw [Declaration.without_eq]
    rfl
  have hbody : mapper.typedefBody (declaration.without drops) = mapper.typedefBody declaration := by
    funext name target
    rw [typedefBody, typedefBody, parameterNames_without only]
  rw [lowerTypedef, lowerTypedef, htarget, hbody, Declaration.spelling_without]

theorem lowerEnum_without (only : Declaration.OnlyFunctions drops) (declaration : Declaration) :
    (declaration.without drops).lowerEnum = declaration.lowerEnum := by
  have hprimitive : (declaration.without drops).enumPrimitive = declaration.enumPrimitive := by
    rw [Declaration.without_eq]
    rfl
  have hconstants := declaration.childrenOfKind_without only
    (nofun : DeclarationKind.enumerator ≠ .function)
  rw [Declaration.lowerEnum, Declaration.lowerEnum, hprimitive, hconstants,
    ofConstants_map_without, Declaration.typeName?_without]

theorem lowerFunction_without (only : Declaration.OnlyFunctions drops) (naming : NamingPolicy)
    (declaration : Declaration) :
    mapper.lowerFunction naming (declaration.without drops) =
      mapper.lowerFunction naming declaration := by
  have hsymbol : mapper.functionSymbol naming (declaration.without drops) =
      mapper.functionSymbol naming declaration := by
    rw [functionSymbol, functionSymbol, parameterNames_without only, Declaration.type_without,
      Declaration.spelling_without]
  rw [lowerFunction, lowerFunction, hsymbol, Declaration.linkage_without,
    Declaration.spelling_without]

/-- Taking out functions below a declaration does not change how it is lowered. -/
theorem lower_without (only : Declaration.OnlyFunctions drops) (naming : NamingPolicy)
    (kind : SymbolKind) (declaration : Declaration) :
    mapper.lower naming kind (declaration.without drops) =
      mapper.lower naming kind declaration := by
  cases kind with
  | struct => rw [lower, lower, lowerRecord_without only]
  | typedef => rw [lower, lower, lowerTypedef_without only]
  | enumeration => rw [lower, lower, lowerEnum_without only]
  | function => rw [lower, lower, lowerFunction_without only]

end Mapper

end Interop
