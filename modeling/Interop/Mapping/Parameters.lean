import Interop.Identifier
import Interop.Managed.Type
import Interop.Mapping.Position
import Interop.Native.Canonical

/-!
# Signatures of functions and delegates

The result and the parameters of a native signature in the generated source, given how each of
its types is mapped. Parameters keep their order and number; a parameter without a name in the
header is called by its position.

The mapping of types is an argument that is asked about types of the signature only. That makes
these definitions usable inside the recursion on types.
-/

namespace Interop

/-- The name of the parameter at a position: as in the header or, without a name there, from its
position. -/
def Parameter.nativeName (names : List String) (index : Nat) : String :=
  match names[index]? with
  | some name => if name = "" then "arg" ++ toString index else name
  | none => "arg" ++ toString index

/-- Map parameter types from a position on. -/
def Parameter.ofTypes (owner : String) (names : List String) (index : Nat) :
    (types : List NativeType) →
    ((type : NativeType) → type ∈ types → MapScope → Except MappingError ManagedType) →
    Except MappingError (List Parameter)
  | [], _ => .ok []
  | type :: types, mapType => do
    let native := nativeName names index
    let mapped ← (mapType type List.mem_cons_self (.ofMember owner native)).mapError
      (.inParameter native)
    let params ← ofTypes owner names (index + 1) types fun type h =>
      mapType type (List.mem_cons_of_mem _ h)
    .ok (⟨Identifier.escape native, mapped⟩ :: params)

namespace Signature

variable (signature : Signature)
  (mapType : (type : NativeType) → type ∈ signature.types → Position → MapScope →
    Except MappingError ManagedType)

/-- The result and the parameters of a function or delegate called `owner`. -/
def mapWith (owner : String) (names : List String) :
    Except MappingError (ManagedType × List Parameter) := do
  let result ← mapType signature.result List.mem_cons_self .result (.ofMember owner "return")
  let params ← Parameter.ofTypes owner names 0 signature.params fun type h =>
    mapType type (List.mem_cons_of_mem _ h) .parameter
  .ok (result, params)

/-- The convention of a function that managed code can call: its parameters are fixed and its
convention has a name. -/
def callable : Except MappingError CallingConvention :=
  if signature.variadic then .error .variadic else signature.convention.checked

/-- The delegate called `name` for a function pointer. -/
def delegateWith (name : String) (names : List String) : Except MappingError Delegate := do
  let convention ← signature.callable
  let (result, params) ← signature.mapWith mapType name names
  .ok ⟨name, result, params, convention⟩

end Signature

end Interop
