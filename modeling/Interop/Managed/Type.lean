import Interop.Managed.Primitive
import Interop.Native.Type

/-!
# Managed types

How a native type appears in the generated source. A pointer becomes a `handle`, the size of an
address, which remembers what it points to; a function pointer without a typedef name becomes a
`delegate` of its own; structures, enumerations and wrappers are referred to by name.

`ManagedType.delegates` lists the delegates that a type declares, innermost first. What stands
behind a handle is a description only and declares nothing.
-/

namespace Interop

mutual

/-- A type of the generated source. -/
inductive ManagedType where
  | void
  | primitive (type : Primitive)
  /-- A truth value, one byte wide. -/
  | bool
  /-- An address, with a description of what it points to. -/
  | handle (pointee : ManagedType)
  /-- A pointee that managed code cannot describe. -/
  | untyped
  /-- A read-only character pointer passed as a string. -/
  | string
  /-- An inline array. -/
  | array (element : ManagedType) (length : UInt64)
  /-- An inline character array passed as a string. -/
  | text (length : UInt64)
  | delegate (signature : Delegate)
  /-- A structure, enumeration, wrapper or delegate declared elsewhere. -/
  | named (name : String)

/-- A function pointer type of the generated source. -/
structure Delegate where
  name : String
  result : ManagedType
  params : List Parameter
  convention : CallingConvention

/-- A parameter of a function or delegate. -/
structure Parameter where
  name : String
  type : ManagedType

end

instance : Inhabited ManagedType := ⟨.void⟩

mutual

/-- The delegates that a type declares, each after those its own signature mentions. -/
def ManagedType.delegates : ManagedType → List Delegate
  | .delegate signature => signature.withInner
  | .array element _ => element.delegates
  | _ => []
termination_by structural type => type

/-- A delegate after the delegates that its signature mentions. -/
def Delegate.withInner : Delegate → List Delegate
  | ⟨name, result, params, convention⟩ =>
    result.delegates ++ Parameter.allDelegates params ++ [⟨name, result, params, convention⟩]
termination_by structural signature => signature

/-- The delegates that a list of parameters declares. -/
def Parameter.allDelegates : List Parameter → List Delegate
  | [] => []
  | param :: params => param.delegates ++ Parameter.allDelegates params
termination_by structural params => params

/-- The delegates that the type of a parameter declares. -/
def Parameter.delegates : Parameter → List Delegate
  | ⟨_, type⟩ => type.delegates
termination_by structural param => param

end

@[simp] theorem Parameter.allDelegates_eq_flatMap (params : List Parameter) :
    Parameter.allDelegates params = params.flatMap fun param => param.type.delegates := by
  induction params with
  | nil => rfl
  | cons param params ih =>
    cases param
    simp [Parameter.allDelegates, Parameter.delegates, ih]

end Interop
