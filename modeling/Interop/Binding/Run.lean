import Interop.Lowering.Enumeration
import Interop.Lowering.Function
import Interop.Lowering.Record
import Interop.Native.Unit

/-!
# Runs over headers

A run goes four times through the declarations of all headers, once for each kind of binding, and
binds what it can. What it binds depends on the index it consults, which never changes during the
run, and on the names it has given away.

A declaration is bound at most once. It is lowered, and then all names of the resulting group are
claimed together or not at all, so a declaration that cannot be bound leaves nothing behind but
an entry in the list of skipped ones.
-/

namespace Interop

/-- What the user decides about the generated source. -/
structure BindingOptions where
  /-- The namespace of the generated declarations. -/
  nameSpace : String
  /-- The library that functions are imported from. -/
  library : String
  /-- The class that holds the functions. -/
  container : String
  /-- Whether read-only text is passed as strings. -/
  marshalStrings : Bool
  naming : NamingPolicy

/-- A declaration that has no binding, and why. -/
structure SkippedSymbol where
  kind : SymbolKind
  name : String
  reason : String
deriving DecidableEq, Inhabited

namespace SymbolKind

/-- The scope in which the names of a binding are claimed. -/
def scope : SymbolKind → NameScope
  | .function => .container
  | .struct | .typedef | .enumeration => .types

theorem scope_of_ne_function {kind : SymbolKind} (h : kind ≠ .function) :
    kind.scope = .types := by
  cases kind with
  | function => exact absurd rfl h
  | struct | typedef | enumeration => rfl

/-- The kinds in the order in which a run goes through them. -/
def passes : List SymbolKind := [.struct, .typedef, .enumeration, .function]

end SymbolKind

namespace Declaration

/-- The kind of binding that a declaration is given. Declarations of other headers have none, nor
have declarations that define nothing and records without a name. -/
def bindingKind? (declaration : Declaration) : Option SymbolKind :=
  if declaration.location.inMainFile then
    match declaration.kind with
    | .struct | .union =>
      if declaration.isDefinition && declaration.typeName?.isSome &&
          !declaration.isAnonymousMember then
        some .struct
      else none
    | .enumeration => if declaration.isDefinition then some .enumeration else none
    | .typedef => some .typedef
    | .function => some .function
    | _ => none
  else none

/-- The name by which a declaration of a kind is known. -/
def nativeName? (declaration : Declaration) : SymbolKind → Option String
  | .struct | .enumeration => declaration.typeName?
  | .typedef | .function => some declaration.spelling

/-- The entry for a declaration that has no binding. -/
def skipped (declaration : Declaration) (kind : SymbolKind) (error : MappingError) :
    SkippedSymbol :=
  ⟨kind, (declaration.nativeName? kind).getD "<anonymous>", error.message⟩

end Declaration

namespace Mapper

variable (mapper : Mapper)

/-- The symbols for a declaration of a kind, if it is to be bound. -/
def lower (naming : NamingPolicy) (kind : SymbolKind) (declaration : Declaration) :
    Except MappingError (Option SymbolGroup) :=
  match kind with
  | .struct => (mapper.lowerRecord declaration).map some
  | .typedef => (mapper.lowerTypedef declaration).map (·.map .single)
  | .enumeration => declaration.lowerEnum.map fun symbol => some (.single symbol)
  | .function => (mapper.lowerFunction naming declaration).map (·.map .single)

/-- Whether the declaration of a group is a structure that holds no managed reference. -/
def holdsNoReference (group : SymbolGroup) : Bool :=
  match group.main.body with
  | .record _ _ _ => mapper.isBlittableGroup group
  | .wrapper _ type => mapper.isBlittable type
  | .enumeration _ _ | .delegate _ | .function _ _ _ => false

end Mapper

namespace Registry

variable (registry : Registry)

/-- What the types of a run are mapped by. -/
def mapper (marshalStrings : Bool) : Mapper := ⟨registry.index, marshalStrings⟩

/-- Whether a declaration is bound already. -/
def isBound (kind : SymbolKind) (declaration : Declaration) : Bool :=
  match declaration.nativeName? kind with
  | some native => registry.isEmitted kind native
  | none => false

/-- Note what the main symbol of a group declares. -/
def markBody (native : String) : SymbolBody → Registry
  | .record _ _ _ => registry.markRecord native
  | .enumeration _ _ => registry.markEnum native
  | .wrapper _ _ | .delegate _ => registry.markAlias native
  | .function _ _ _ => registry

/-- The state after a group of a kind is bound. -/
def bind (kind : SymbolKind) (group : SymbolGroup) (blittable : Bool) : Registry :=
  let native := group.main.nativeName
  let bound := ((registry.claim kind.scope group.declaredNames).markEmitted kind native).markBody
    native group.main.body
  if blittable then bound.markBlittable native else bound

/-- Bind a declaration: the group of its symbols and the state after it, or nothing if it is
bound already or is not to be bound. -/
def process (options : BindingOptions) (kind : SymbolKind) (declaration : Declaration) :
    Except MappingError (Option (SymbolGroup × Registry)) := do
  if registry.isBound kind declaration then .ok none
  else
    let mapper := registry.mapper options.marshalStrings
    match ← mapper.lower options.naming kind declaration with
    | none => .ok none
    | some group =>
      match registry.firstConflict? kind.scope group.declaredNames with
      | some name => .error (.nameCollision name)
      | none => .ok (some (group, registry.bind kind group (mapper.holdsNoReference group)))

end Registry

/-- A run up to some declaration. -/
structure BindingRun where
  registry : Registry
  /-- The groups bound so far, in the order of the output. -/
  groups : List SymbolGroup
  /-- The declarations skipped so far, each once. -/
  skipped : List SkippedSymbol

namespace BindingRun

/-- A run before its first declaration. -/
def start (registry : Registry) : BindingRun := ⟨registry, [], []⟩

/-- Note that a declaration is skipped. -/
def skip (run : BindingRun) (entry : SkippedSymbol) : BindingRun :=
  if entry ∈ run.skipped then run else { run with skipped := run.skipped ++ [entry] }

/-- Go on with one declaration. -/
def step (options : BindingOptions) (run : BindingRun) (kind : SymbolKind)
    (declaration : Declaration) : BindingRun :=
  match run.registry.process options kind declaration with
  | .ok none => run
  | .ok (some (group, registry)) => { run with registry, groups := run.groups ++ [group] }
  | .error error => run.skip (declaration.skipped kind error)

/-- The bound symbols in the order of the output. -/
def symbols (run : BindingRun) : List BindingSymbol := run.groups.flatMap (·.symbols)

theorem mem_symbols {run : BindingRun} {group : SymbolGroup} {symbol : BindingSymbol}
    (hgroup : group ∈ run.groups) (hsymbol : symbol ∈ group.symbols) : symbol ∈ run.symbols :=
  List.mem_flatMap.mpr ⟨group, hgroup, hsymbol⟩

end BindingRun

/-- The declarations that a run comes to, with the kind of their binding: kind by kind, header by
header, in the order of the source. -/
def TranslationUnit.agenda (units : List TranslationUnit) : List (SymbolKind × Declaration) :=
  SymbolKind.passes.flatMap fun kind =>
    units.flatMap fun parsed =>
      (parsed.declarations.filter fun declaration => declaration.bindingKind? = some kind).map
        fun declaration => (kind, declaration)

/-- Run over all declarations of some headers. -/
def Registry.run (registry : Registry) (options : BindingOptions)
    (units : List TranslationUnit) : BindingRun :=
  (TranslationUnit.agenda units).foldl
    (fun run (kind, declaration) => run.step options kind declaration) (.start registry)

end Interop
