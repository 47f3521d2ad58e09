import Interop.Managed.Type

/-!
# Binding symbols

A symbol is one declaration of the generated source: what kind of native declaration it stands
for, the native name, the name it is declared under, and the body. Nameless records inside a
record have no native name; they are lifted out and declared in front of the record that holds
them, and the whole forms a `SymbolGroup`.
-/

namespace Interop

/-- The kinds of native declaration that have a binding. -/
inductive SymbolKind where
  | struct
  | typedef
  | enumeration
  | function
deriving DecidableEq, Inhabited

namespace SymbolKind

/-- The word for a kind in a message. -/
def label : SymbolKind → String
  | .struct => "struct"
  | .typedef => "typedef"
  | .enumeration => "enum"
  | .function => "function"

end SymbolKind

/-- A field of a structure. -/
structure FieldBinding where
  /-- The name in the generated source. -/
  name : String
  /-- The name in the header; empty for a member without one. -/
  nativeName : String
  type : ManagedType

/-- A named value of an enumeration. -/
structure EnumMember where
  name : String
  value : Int64
deriving DecidableEq, Inhabited

/-- What a symbol declares. -/
inductive SymbolBody where
  /-- A structure; `pack` is the alignment of a packed one. -/
  | record (isUnion : Bool) (pack : Option UInt64) (fields : List FieldBinding)
  | enumeration (underlying : Primitive) (members : List EnumMember)
  /-- A structure around one field, which keeps the name of a typedef. -/
  | wrapper (field : String) (type : ManagedType)
  | delegate (signature : Delegate)
  | function (result : ManagedType) (params : List Parameter) (convention : CallingConvention)

namespace SymbolBody

/-- The delegates that have to be declared beside a symbol. -/
def delegates : SymbolBody → List Delegate
  | .record _ _ fields => fields.flatMap (·.type.delegates)
  | .enumeration _ _ => []
  | .wrapper _ type => type.delegates
  | .delegate signature =>
    signature.result.delegates ++ signature.params.flatMap (·.type.delegates)
  | .function result params _ => result.delegates ++ params.flatMap (·.type.delegates)

end SymbolBody

/-- One declaration of the generated source. -/
structure BindingSymbol where
  kind : SymbolKind
  nativeName : String
  emittedName : String
  body : SymbolBody

namespace BindingSymbol

/-- The delegates that have to be declared beside a symbol. -/
def delegates (symbol : BindingSymbol) : List Delegate := symbol.body.delegates

end BindingSymbol

/-- The symbols that one native declaration gives rise to. -/
structure SymbolGroup where
  /-- The records lifted out of the declaration, in the order they are declared. -/
  hoisted : List BindingSymbol
  /-- The declaration itself. -/
  main : BindingSymbol

namespace SymbolGroup

/-- A declaration that nothing is lifted out of. -/
def single (symbol : BindingSymbol) : SymbolGroup := ⟨[], symbol⟩

/-- All symbols of a group, the declaration itself last. -/
def symbols (group : SymbolGroup) : List BindingSymbol := group.hoisted ++ [group.main]

/-- The names of all delegates of a group. -/
def delegateNames (group : SymbolGroup) : List String :=
  (group.symbols.flatMap (·.delegates)).map (·.name)

/-- Every name that a group declares: its symbols first, then their delegates. -/
def declaredNames (group : SymbolGroup) : List String :=
  group.symbols.map (·.emittedName) ++ group.delegateNames

@[simp] theorem symbols_single (symbol : BindingSymbol) :
    (single symbol).symbols = [symbol] := rfl

variable {group : SymbolGroup} {symbol : BindingSymbol}

theorem main_mem_symbols : group.main ∈ group.symbols :=
  List.mem_append_right _ List.mem_cons_self

theorem mem_symbols_of_mem_hoisted (h : symbol ∈ group.hoisted) : symbol ∈ group.symbols :=
  List.mem_append_left _ h

theorem emittedName_mem_declaredNames (h : symbol ∈ group.symbols) :
    symbol.emittedName ∈ group.declaredNames :=
  List.mem_append_left _ (List.mem_map_of_mem h)

end SymbolGroup

end Interop
