import Interop.Native.Type

/-!
# Native declarations

The tree of declarations that a front end hands over for one header. A node carries its kind,
its spelling, its type and what C says about it; fields, parameters and enumerators are nodes
too.

Not every node is a declaration to bind. `Declaration.walk` lists, in the order of the source,
the nodes a header offers: it looks into `extern "C"` blocks and into record definitions, whose
nested tags have file scope in C, and into nothing else. `Walk.next?` delivers the same nodes one
at a time.
-/

namespace Interop

/-- What a node of the tree declares. -/
inductive DeclarationKind where
  | translationUnit
  | struct
  | union
  /-- A C++ class, which is never bound. -/
  | classType
  | enumeration
  | enumerator
  | typedef
  | function
  /-- A C++ member function, which is never bound. -/
  | method
  | field
  | parameter
  | variableObject
  | namespaceBlock
  /-- An `extern "C"` block. -/
  | linkageBlock
  | unexposed
  | other
deriving DecidableEq, Inhabited

namespace DeclarationKind

/-- Whether a node only groups the declarations inside it. -/
def isTransparent : DeclarationKind → Bool
  | .translationUnit | .linkageBlock | .unexposed => true
  | _ => false

/-- Whether a node declares a `struct` or a `union`. -/
def isRecord : DeclarationKind → Bool
  | .struct | .union => true
  | _ => false

end DeclarationKind

/-- Whether other translation units see a declaration. -/
inductive Linkage where
  | external
  | internal
  | absent
deriving DecidableEq, Inhabited

/-- Where a declaration stands. -/
structure SourceLocation where
  file : Option String
  line : UInt32
  column : UInt32
  /-- Whether the declaration stands in the header that was handed to the front end. -/
  inMainFile : Bool
deriving DecidableEq

namespace SourceLocation

/-- The location of a node for which none is given. -/
def unknown : SourceLocation := ⟨none, 0, 0, false⟩

instance : Inhabited SourceLocation := ⟨unknown⟩

/-- A line of the header itself. -/
def inHeader (line : UInt32) : SourceLocation := ⟨none, line, 1, true⟩

/-- A line of another header that the header includes. -/
def included (file : String) (line : UInt32) : SourceLocation := ⟨some file, line, 1, false⟩

end SourceLocation

/-- A node of the declaration tree. -/
structure Declaration where
  kind : DeclarationKind
  /-- The name in the source; empty for an anonymous declaration. -/
  spelling : String
  type : NativeType
  children : List Declaration
  location : SourceLocation
  isDefinition : Bool
  /-- Whether a record stands inside another one without declaring a field. -/
  isAnonymousMember : Bool
  linkage : Linkage
  /-- The value of an enumerator, when the source gives one. -/
  enumValue : Option Int64
  /-- The width of a bit-field. -/
  bitWidth : Option UInt32
  /-- The distance of a field from the start of its record, in bits. -/
  fieldOffsetBits : Option UInt64
  /-- What a typedef names, or the integer type of an enumeration. -/
  underlying : Option NativeType

namespace Declaration

/-- A declaration of the header itself, without children. -/
def ofType (kind : DeclarationKind) (spelling : String) (type : NativeType) : Declaration where
  kind := kind
  spelling := spelling
  type := type
  children := []
  location := .inHeader 1
  isDefinition := false
  isAnonymousMember := false
  linkage := .external
  enumValue := none
  bitWidth := none
  fieldOffsetBits := none
  underlying := none

instance : Inhabited Declaration := ⟨ofType .other "" .void⟩

/-- The root of a tree. -/
def root (children : List Declaration) : Declaration :=
  { ofType .translationUnit "" .void with children }

/-- The name of a record or enumeration: its tag or, without one, the name that its type
carries. -/
def typeName? (declaration : Declaration) : Option String :=
  if declaration.spelling = "" then
    match declaration.type.kind with
    | .record name _ | .enumeration name _ => name
    | _ => none
  else some declaration.spelling

/-- The children of one kind. -/
def childrenOfKind (declaration : Declaration) (kind : DeclarationKind) : List Declaration :=
  declaration.children.filter (·.kind = kind)

/-- Whether the walk looks inside a node: it groups declarations or defines a record. -/
def isEntered (declaration : Declaration) : Bool :=
  declaration.kind.isTransparent || (declaration.kind.isRecord && declaration.isDefinition)

mutual

/-- The nodes below a node, each before those inside it. -/
def walk : Declaration → List Declaration
  | ⟨_, _, _, children, _, _, _, _, _, _, _, _⟩ => walkAll children
termination_by structural declaration => declaration

/-- The nodes of a list of siblings, each before those inside it. -/
def walkAll : List Declaration → List Declaration
  | [] => []
  | declaration :: siblings =>
    declaration :: (if declaration.isEntered then declaration.walk else []) ++ walkAll siblings
termination_by structural declarations => declarations

end

end Declaration

/-! ## Walking step by step -/

/-- The siblings still to come at each level, the innermost level first. -/
abbrev Walk := List (List Declaration)

namespace Walk

/-- The walk over the nodes below a declaration. -/
def below (declaration : Declaration) : Walk := [declaration.children]

/-- The next node and the walk after it; exhausted levels are left. -/
def next? : Walk → Option (Declaration × Walk)
  | [] => none
  | [] :: outer => next? outer
  | (declaration :: siblings) :: outer =>
    if declaration.isEntered && !declaration.children.isEmpty then
      some (declaration, declaration.children :: siblings :: outer)
    else some (declaration, siblings :: outer)

end Walk

end Interop
