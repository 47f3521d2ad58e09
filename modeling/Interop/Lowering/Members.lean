import Interop.Native.Declaration

/-!
# Members of a record

The children of a record definition, read as the members of the managed structure. A nameless
record that stands by itself is an anonymous member and is numbered. Any other nameless record is
the type of the field declared after it, and of the fields declared together with that one:
in `struct { int x; } a, *b;` the field `a` declares the record and `b` shares it. Named nested
records are declarations of their own and no members.
-/

namespace Interop

/-- Whether the type of a field is a record without a name, directly or through pointers and
arrays. -/
def NativeType.usesNamelessRecord : NativeType → Bool
  | ⟨.record none _, _, _⟩ => true
  | ⟨.pointer inner, _, _⟩ => inner.usesNamelessRecord
  | ⟨.array inner _, _, _⟩ => inner.usesNamelessRecord
  | ⟨.openArray inner, _, _⟩ => inner.usesNamelessRecord
  | _ => false
termination_by structural type => type

/-- Where the nameless record in the type of a field comes from. -/
inductive FieldRecord where
  /-- The type uses no nameless record. -/
  | none
  /-- The field declares the record. -/
  | declared (record : Declaration)
  /-- An earlier field declares the record. -/
  | shared (field : String)
  /-- No field declares the record. -/
  | missing

/-- A member of a record. -/
inductive RecordMember where
  /-- A nameless record that is a member by itself, with its number among such members. -/
  | anonymous (number : Nat) (record : Declaration)
  | field (declaration : Declaration) (record : FieldRecord)

namespace RecordMember

/-- The nested record that is lifted out for a member. -/
def nested? : RecordMember → Option Declaration
  | .anonymous _ record => some record
  | .field _ (.declared record) => some record
  | .field _ _ => none

/-- The native name of a member; anonymous members are called by their number. -/
def label : RecordMember → String
  | .anonymous number _ => "Anonymous" ++ toString number
  | .field declaration _ => declaration.spelling

/-- Where the nameless record in the type of a field comes from: the nameless record before it
if no other field has taken it, else the one that the last such field took. -/
def recordFor (pending : Option Declaration) (last : Option String) : FieldRecord :=
  match pending, last with
  | some record, _ => .declared record
  | none, some first => .shared first
  | none, none => .missing

/-- The members among the children of a record. `number` anonymous members came before,
`pending` is the nameless record that no field has taken yet, and `last` is the field that took
one last. -/
def ofChildren (number : Nat) (pending : Option Declaration) (last : Option String) :
    List Declaration → List RecordMember
  | [] => []
  | child :: children =>
    if child.kind.isRecord && child.isDefinition then
      if child.isAnonymousMember then
        .anonymous number child :: ofChildren (number + 1) pending last children
      else if child.typeName?.isNone then ofChildren number (some child) last children
      else ofChildren number pending last children
    else if child.kind = .field then
      if child.type.usesNamelessRecord then
        let last := if pending.isSome then some child.spelling else last
        .field child (recordFor pending last) :: ofChildren number none last children
      else .field child .none :: ofChildren number pending last children
    else ofChildren number pending last children

theorem recordFor_eq_declared {pending : Option Declaration} {last : Option String}
    {record : Declaration} (h : recordFor pending last = .declared record) :
    pending = some record := by
  unfold recordFor at h
  split at h <;> simp_all

/-- A record lifted out for a member is a child, or the one that was pending. -/
theorem nested_mem_of_mem_ofChildren {number : Nat} {pending : Option Declaration}
    {last : Option String} {children : List Declaration} {member : RecordMember}
    {record : Declaration} (hmem : member ∈ ofChildren number pending last children)
    (h : member.nested? = some record) : record ∈ children ∨ pending = some record := by
  fun_induction ofChildren number pending last children with
  | case1 => simp at hmem
  | case2 number pending last child children _ _ ih =>
    rcases List.mem_cons.mp hmem with rfl | hrest
    · simp_all [nested?]
    · have := ih hrest
      grind
  | case3 number pending last child children _ _ _ ih =>
    have := ih hmem
    grind
  | case4 number pending last child children _ _ _ ih =>
    have := ih hmem
    grind
  | case5 number pending last child children _ _ _ last' ih =>
    rcases List.mem_cons.mp hmem with rfl | hrest
    · cases hrecord : recordFor pending last' with
      | declared other =>
        have := recordFor_eq_declared hrecord
        simp_all [nested?]
      | none | shared _ | missing => simp_all [nested?]
    · have := ih hrest
      grind
  | case6 number pending last child children _ _ _ ih =>
    rcases List.mem_cons.mp hmem with rfl | hrest
    · simp [nested?] at h
    · have := ih hrest
      grind
  | case7 number pending last child children _ _ ih =>
    have := ih hmem
    grind

end RecordMember

namespace Declaration

/-- The members of a record definition. -/
def members (record : Declaration) : List RecordMember :=
  RecordMember.ofChildren 0 none none record.children

theorem sizeOf_nested_lt {record nested : Declaration} {member : RecordMember}
    (hmem : member ∈ record.members) (h : member.nested? = some nested) :
    sizeOf nested < sizeOf record := by
  rcases RecordMember.nested_mem_of_mem_ofChildren hmem h with hchild | hpending
  · obtain ⟨kind, spelling, type, children, location, isDefinition, isAnonymousMember, linkage,
      enumValue, bitWidth, fieldOffsetBits, underlying⟩ := record
    have : sizeOf nested < sizeOf children := List.sizeOf_lt_of_mem hchild
    simp only [Declaration.mk.sizeOf_spec]
    omega
  · cases hpending

end Declaration

end Interop
