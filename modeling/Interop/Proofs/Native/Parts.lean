import Interop.Lowering.Members
import Interop.Lowering.Typedef
import Interop.Binding.Run
import Interop.Proofs.Native.Canonical

/-!
# The types written in a header

Every type that is written somewhere in a declaration tree, with all types it is made of:
`TranslationUnit.types` lists them for a whole tree. What is assumed of all types of a header
passes to every type that a run maps, because the runs and the mapping rules only ever go from a
node to its children and from a type to its parts.

At the end, declarations from their names and types.
-/

namespace Interop

/-! ## Parts of types -/

mutual

/-- A type and all types it is made of. -/
def NativeType.parts : NativeType → List NativeType
  | ⟨kind, layout, isConst⟩ => ⟨kind, layout, isConst⟩ :: kind.parts
termination_by structural type => type

/-- The types that a kind of type is made of. -/
def TypeKind.parts : TypeKind → List NativeType
  | .pointer pointee => pointee.parts
  | .array element _ => element.parts
  | .openArray element => element.parts
  | .function signature => signature.parts
  | .enumeration _ integer => integer.parts
  | .typedef _ underlying => underlying.parts
  | .void | .bool | .char _ | .integer _ _ | .float _ | .record _ _ | .unexposed _ => []
termination_by structural kind => kind

/-- The types that a signature is made of. -/
def Signature.parts : Signature → List NativeType
  | ⟨result, params, _, _⟩ => result.parts ++ NativeType.allParts params
termination_by structural signature => signature

/-- The types that a list of types is made of. -/
def NativeType.allParts : List NativeType → List NativeType
  | [] => []
  | type :: types => type.parts ++ NativeType.allParts types
termination_by structural types => types

end

@[simp] theorem NativeType.allParts_eq_flatMap (types : List NativeType) :
    NativeType.allParts types = types.flatMap NativeType.parts := by
  induction types with
  | nil => rfl
  | cons type types ih => simp [NativeType.allParts, ih]

mutual

/-- A type is no larger than a type that it is part of. -/
theorem NativeType.sizeOf_le_of_mem_parts : ∀ (type part : NativeType), part ∈ type.parts →
    sizeOf part ≤ sizeOf type
  | ⟨kind, layout, isConst⟩, part, h => by
    rw [NativeType.parts] at h
    rcases List.mem_cons.mp h with rfl | hkind
    · exact Nat.le_refl _
    · have := kind.sizeOf_lt_of_mem_parts part hkind
      simp only [NativeType.mk.sizeOf_spec]
      omega

theorem TypeKind.sizeOf_lt_of_mem_parts : ∀ (kind : TypeKind) (part : NativeType),
    part ∈ kind.parts → sizeOf part < sizeOf kind
  | .pointer inner, part, h | .array inner _, part, h | .openArray inner, part, h
  | .enumeration _ inner, part, h | .typedef _ inner, part, h => by
    have := inner.sizeOf_le_of_mem_parts part h
    simp only [TypeKind.pointer.sizeOf_spec, TypeKind.array.sizeOf_spec,
      TypeKind.openArray.sizeOf_spec, TypeKind.enumeration.sizeOf_spec,
      TypeKind.typedef.sizeOf_spec]
    omega
  | .function signature, part, h => by
    have := signature.sizeOf_lt_of_mem_parts part h
    simp only [TypeKind.function.sizeOf_spec]
    omega
  | .void, _, h | .bool, _, h | .char _, _, h | .integer _ _, _, h | .float _, _, h
  | .record _ _, _, h | .unexposed _, _, h => nomatch h

theorem Signature.sizeOf_lt_of_mem_parts : ∀ (signature : Signature) (part : NativeType),
    part ∈ signature.parts → sizeOf part < sizeOf signature
  | ⟨result, params, _, _⟩, part, h => by
    rw [Signature.parts] at h
    simp only [Signature.mk.sizeOf_spec]
    rcases List.mem_append.mp h with hresult | hparams
    · have := result.sizeOf_le_of_mem_parts part hresult
      omega
    · have := NativeType.sizeOf_lt_of_mem_allParts params part hparams
      omega

theorem NativeType.sizeOf_lt_of_mem_allParts : ∀ (types : List NativeType) (part : NativeType),
    part ∈ NativeType.allParts types → sizeOf part < sizeOf types
  | [], _, h => nomatch h
  | type :: types, part, h => by
    rw [NativeType.allParts] at h
    simp only [List.cons.sizeOf_spec]
    rcases List.mem_append.mp h with htype | htypes
    · have := type.sizeOf_le_of_mem_parts part htype
      omega
    · have := NativeType.sizeOf_lt_of_mem_allParts types part htypes
      omega

end

theorem Signature.parts_subset {signature : Signature} {type : NativeType}
    (h : type ∈ signature.types) : type.parts ⊆ signature.parts := by
  obtain ⟨result, params, variadic, convention⟩ := signature
  rw [Signature.parts, NativeType.allParts_eq_flatMap]
  rcases List.mem_cons.mp h with rfl | hparam
  · exact List.subset_append_left _ _
  · intro part hpart
    exact List.mem_append_right _ (List.mem_flatMap.mpr ⟨type, hparam, hpart⟩)

namespace NativeType

theorem mem_parts (type : NativeType) : type ∈ type.parts := by
  obtain ⟨kind, layout, isConst⟩ := type
  exact List.mem_cons_self

variable {layout : Option Layout} {isConst : Bool}

/-- The types that a type is made of are smaller. -/
theorem sizeOf_lt_of_mem_parts {kind : TypeKind} {part : NativeType} (h : part ∈ kind.parts) :
    sizeOf part < sizeOf (mk kind layout isConst) := by
  have := kind.sizeOf_lt_of_mem_parts part h
  simp only [NativeType.mk.sizeOf_spec]
  omega

theorem parts_underlying {name : String} {underlying : NativeType} :
    underlying.parts ⊆ (mk (.typedef name underlying) layout isConst).parts :=
  List.subset_cons_self _ _

theorem parts_pointee {pointee : NativeType} :
    pointee.parts ⊆ (mk (.pointer pointee) layout isConst).parts :=
  List.subset_cons_self _ _

theorem parts_integer {name : Option String} {integer : NativeType} :
    integer.parts ⊆ (mk (.enumeration name integer) layout isConst).parts :=
  List.subset_cons_self _ _

theorem parts_of_function? {type : NativeType} {signature : Signature}
    (h : type.function? = some signature) : signature.parts ⊆ type.parts := by
  fun_induction function? type with
  | case1 name underlying layout isConst ih => exact List.Subset.trans (ih h) parts_underlying
  | case2 signature layout isConst =>
      cases h
      exact List.subset_cons_self _ _
  | case3 => cases h

theorem parts_of_signature? {type : NativeType} {signature : Signature}
    (h : type.signature? = some signature) : signature.parts ⊆ type.parts := by
  fun_induction signature? type with
  | case1 name underlying layout isConst ih => exact List.Subset.trans (ih h) parts_underlying
  | case2 signature layout isConst =>
      cases h
      exact List.subset_cons_self _ _
  | case3 pointee layout isConst => exact List.Subset.trans (parts_of_function? h) parts_pointee
  | case4 => cases h

theorem parts_nested_element (type : NativeType) : type.nested.element.parts ⊆ type.parts := by
  fun_induction nested type with
  | case1 => exact List.Subset.refl _
  | case2 name underlying layout isConst inner ih => exact List.Subset.trans ih parts_underlying
  | case3 element length layout isConst inner =>
      rename_i ih
      exact List.Subset.trans ih (List.subset_cons_self _ _)
  | case4 => exact List.Subset.refl _

end NativeType

/-- The integer type of an enumeration. -/
def NativeType.enumInteger? (type : NativeType) : Option NativeType :=
  match type.kind with
  | .enumeration _ integer => some integer
  | _ => none

/-! ## Types of declarations -/

namespace Declaration

mutual

/-- A node and all nodes below it. -/
def nodes : Declaration → List Declaration
  | ⟨kind, spelling, type, children, location, isDefinition, isAnonymousMember, linkage,
      enumValue, bitWidth, fieldOffsetBits, underlying⟩ =>
    ⟨kind, spelling, type, children, location, isDefinition, isAnonymousMember, linkage,
      enumValue, bitWidth, fieldOffsetBits, underlying⟩ :: allNodes children
termination_by structural declaration => declaration

/-- The nodes of a list of siblings and all nodes below them. -/
def allNodes : List Declaration → List Declaration
  | [] => []
  | declaration :: siblings => declaration.nodes ++ allNodes siblings
termination_by structural declarations => declarations

end

theorem nodes_eq (declaration : Declaration) :
    declaration.nodes = declaration :: allNodes declaration.children := by
  obtain ⟨_, _, _, _, _, _, _, _, _, _, _, _⟩ := declaration
  rw [nodes]

theorem mem_nodes (declaration : Declaration) : declaration ∈ declaration.nodes := by
  rw [nodes_eq]
  exact List.mem_cons_self

theorem nodes_subset_allNodes {declaration : Declaration} {siblings : List Declaration}
    (h : declaration ∈ siblings) : declaration.nodes ⊆ allNodes siblings := by
  induction siblings with
  | nil => simp at h
  | cons head tail ih =>
      rw [allNodes]
      rcases List.mem_cons.mp h with rfl | htail
      · exact List.subset_append_left _ _
      · exact List.Subset.trans (ih htail) (List.subset_append_right _ _)

theorem nodes_child {declaration child : Declaration} (h : child ∈ declaration.children) :
    child.nodes ⊆ declaration.nodes := by
  rw [declaration.nodes_eq]
  exact List.Subset.trans (nodes_subset_allNodes h) (List.subset_cons_self _ _)

mutual

theorem nodes_of_mem_walk : ∀ declaration node : Declaration, node ∈ declaration.walk →
    node.nodes ⊆ declaration.nodes
  | ⟨_, _, _, children, _, _, _, _, _, _, _, _⟩, node, h => by
    rw [nodes]
    exact List.Subset.trans (nodes_of_mem_walkAll children node h) (List.subset_cons_self _ _)

theorem nodes_of_mem_walkAll : ∀ (siblings : List Declaration) (node : Declaration),
    node ∈ walkAll siblings → node.nodes ⊆ allNodes siblings
  | [], _, h => by simp [walkAll] at h
  | declaration :: siblings, node, h => by
    rw [walkAll, List.cons_append, List.mem_cons, List.mem_append] at h
    rw [allNodes]
    rcases h with rfl | hinside | hlater
    · exact List.subset_append_left _ _
    · by_cases hentered : declaration.isEntered = true
      · rw [if_pos hentered] at hinside
        exact List.Subset.trans (nodes_of_mem_walk declaration node hinside)
          (List.subset_append_left _ _)
      · simp [hentered] at hinside
    · exact List.Subset.trans (nodes_of_mem_walkAll siblings node hlater)
        (List.subset_append_right _ _)

end

/-- A field of a record is one of its children, declared as a field. -/
theorem field_mem_childrenOfKind {record declaration : Declaration} {source : FieldRecord}
    (h : .field declaration source ∈ record.members) :
    declaration ∈ record.childrenOfKind .field := by
  have hmem : ∀ number pending last children,
      RecordMember.field declaration source ∈
        RecordMember.ofChildren number pending last children →
      declaration ∈ children ∧ declaration.kind = .field := by
    intro number pending last children hmember
    fun_induction RecordMember.ofChildren number pending last children with
    | case1 => simp at hmember
    | case2 | case5 | case6 => grind
    | case3 | case4 | case7 => grind
  obtain ⟨hchild, hkind⟩ := hmem 0 none none record.children h
  exact List.mem_filter.mpr ⟨hchild, by simpa using hkind⟩

theorem field_mem_children {record declaration : Declaration} {source : FieldRecord}
    (h : .field declaration source ∈ record.members) : declaration ∈ record.children :=
  (List.mem_filter.mp (field_mem_childrenOfKind h)).1

/-- A record that a member lifts out is one of the children. -/
theorem nested_mem_children {record nested : Declaration} {member : RecordMember}
    (hmember : member ∈ record.members) (h : member.nested? = some nested) :
    nested ∈ record.children := by
  rcases RecordMember.nested_mem_of_mem_ofChildren hmember h with hchild | hpending
  · exact hchild
  · cases hpending

/-- All types written in a declaration. -/
def types (declaration : Declaration) : List NativeType :=
  declaration.nodes.flatMap fun node =>
    (node.type :: node.underlying.toList).flatMap NativeType.parts

theorem types_subset {declaration node : Declaration} (h : node.nodes ⊆ declaration.nodes) :
    node.types ⊆ declaration.types := by
  intro type htype
  obtain ⟨inner, hinner, hin⟩ := List.mem_flatMap.mp htype
  exact List.mem_flatMap.mpr ⟨inner, h hinner, hin⟩

theorem parts_type (declaration : Declaration) : declaration.type.parts ⊆ declaration.types := by
  intro part hpart
  exact List.mem_flatMap.mpr ⟨declaration, declaration.mem_nodes,
    List.mem_flatMap.mpr ⟨_, List.mem_cons_self, hpart⟩⟩

theorem parts_field {record declaration : Declaration} {source : FieldRecord}
    (h : .field declaration source ∈ record.members) : declaration.type.parts ⊆ record.types :=
  List.Subset.trans declaration.parts_type
    (types_subset (nodes_child (field_mem_children h)))

theorem types_nested {record nested : Declaration} {member : RecordMember}
    (hmember : member ∈ record.members) (h : member.nested? = some nested) :
    nested.types ⊆ record.types :=
  types_subset (nodes_child (nested_mem_children hmember h))

theorem parts_typedefTarget? {declaration : Declaration} {target : NativeType}
    (h : declaration.typedefTarget? = some target) : target.parts ⊆ declaration.types := by
  rw [typedefTarget?] at h
  cases hunderlying : declaration.underlying with
  | some underlying =>
      rw [hunderlying] at h
      cases h
      intro part hpart
      refine List.mem_flatMap.mpr ⟨declaration, declaration.mem_nodes, ?_⟩
      exact List.mem_flatMap.mpr ⟨target, by simp [hunderlying], hpart⟩
  | none =>
      rw [hunderlying] at h
      refine List.Subset.trans ?_ declaration.parts_type
      obtain ⟨_, _, ⟨kind, layout, isConst⟩, _, _, _, _, _, _, _, _, _⟩ := declaration
      cases kind with
      | typedef name underlying =>
          cases h
          exact NativeType.parts_underlying
      | _ => cases h

end Declaration

namespace TranslationUnit

/-- All nodes of the trees of some headers. -/
def nodes (units : List TranslationUnit) : List Declaration :=
  units.flatMap fun parsed => parsed.root.nodes

/-- All types written in some headers. -/
def types (units : List TranslationUnit) : List NativeType :=
  units.flatMap fun parsed => parsed.root.types

variable {units : List TranslationUnit} {kind : SymbolKind} {declaration : Declaration}

theorem mem_agenda_iff :
    (kind, declaration) ∈ agenda units ↔
      ∃ parsed ∈ units, declaration ∈ parsed.declarations ∧
        declaration.bindingKind? = some kind := by
  constructor
  · intro h
    obtain ⟨_, -, hunits⟩ := List.mem_flatMap.mp h
    obtain ⟨parsed, hparsed, hmem⟩ := List.mem_flatMap.mp hunits
    obtain ⟨_, hfilter, heq⟩ := List.mem_map.mp hmem
    cases heq
    obtain ⟨hoffered, hkind⟩ := List.mem_filter.mp hfilter
    exact ⟨parsed, hparsed, hoffered, of_decide_eq_true hkind⟩
  · rintro ⟨parsed, hparsed, hoffered, hkind⟩
    have hpasses : kind ∈ SymbolKind.passes := by cases kind <;> decide
    refine List.mem_flatMap.mpr ⟨kind, hpasses, List.mem_flatMap.mpr ⟨parsed, hparsed, ?_⟩⟩
    exact List.mem_map_of_mem (List.mem_filter.mpr ⟨hoffered, decide_eq_true hkind⟩)

theorem bindingKind?_of_mem_agenda (h : (kind, declaration) ∈ agenda units) :
    declaration.bindingKind? = some kind := by
  obtain ⟨parsed, -, -, hkind⟩ := mem_agenda_iff.mp h
  exact hkind

theorem nodes_of_mem_agenda (h : (kind, declaration) ∈ agenda units) :
    declaration.nodes ⊆ nodes units := by
  obtain ⟨parsed, hparsed, hmem, -⟩ := mem_agenda_iff.mp h
  intro node hnode
  exact List.mem_flatMap.mpr ⟨parsed, hparsed, Declaration.nodes_of_mem_walk _ _ hmem hnode⟩

theorem types_of_mem_agenda (h : (kind, declaration) ∈ agenda units) :
    declaration.types ⊆ types units := by
  obtain ⟨parsed, hparsed, hmem, -⟩ := mem_agenda_iff.mp h
  intro type htype
  exact List.mem_flatMap.mpr ⟨parsed, hparsed,
    Declaration.types_subset (Declaration.nodes_of_mem_walk _ _ hmem) htype⟩

theorem parts_of_typedefTarget? (h : (kind, declaration) ∈ agenda units) {target : NativeType}
    (htarget : declaration.typedefTarget? = some target) : target.parts ⊆ types units :=
  List.Subset.trans (Declaration.parts_typedefTarget? htarget) (types_of_mem_agenda h)

end TranslationUnit

/-! ## Building types and declarations -/

namespace NativeType

def int : NativeType := integer 32 true

/-- The type that a use of a typedef's name has. -/
def ofAlias (name : String) (target : NativeType) : NativeType := typedef name target

/-- A pointer to a function that takes and returns nothing. -/
def callback : NativeType := pointer (function void [])

/-- A pointer to read-only characters. -/
def text : NativeType := pointer (char true).constant

end NativeType

namespace Declaration

def ofField (name : String) (type : NativeType) : Declaration := ofType .field name type

/-- The definition of a structure; without a name it is that of a nameless one. -/
def ofStruct (name : String) (members : List Declaration) : Declaration :=
  let type := if name = "" then .anonymousRecord false else .record name
  { ofType .struct name type with children := members, isDefinition := true }

/-- The definition of a union. -/
def ofUnion (name : String) (members : List Declaration) : Declaration :=
  { ofType .union name (.ofKind (.record (some name) true)) with
    children := members, isDefinition := true }

def ofAlias (name : String) (target : NativeType) : Declaration :=
  { ofType .typedef name (.ofAlias name target) with underlying := some target }

def ofEnum (name : String) (integer : NativeType) : Declaration :=
  { ofType .enumeration name (.enumeration name integer) with isDefinition := true }

/-- A function without a result, with the names and types of its parameters. -/
def ofFunction (name : String) (params : List (String × NativeType)) : Declaration :=
  { ofType .function name (.function .void (params.map (·.2))) with
    children := params.map fun (param, type) => ofType .parameter param type }

end Declaration

end Interop
