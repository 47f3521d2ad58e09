import Interop.Identifier
import Interop.NameSet

/-!
# Naming of functions

Which functions a user wants left out, and the name under which a bound function is called. A
leading part of the native name may be dropped, but only when what remains is an identifier.
-/

namespace Interop

/-- The user's wishes about function names. -/
structure NamingPolicy where
  /-- Leading text dropped from function names; never the empty text. -/
  dropped : Option String := none
  /-- Native names of functions that are not bound. -/
  excluded : NameSet := ∅

namespace NamingPolicy

instance : Inhabited NamingPolicy := ⟨{}⟩

/-- A policy from the settings of a user; an empty leading text means none. -/
def ofSettings (dropped : Option String) (excluded : List String) : NamingPolicy where
  dropped := dropped.filter (· ≠ "")
  excluded := .ofList excluded

variable (policy : NamingPolicy)

/-- Whether a function is left out. -/
def isExcluded (native : String) : Bool :=
  policy.excluded.contains native

/-- What remains of a native name without the dropped leading text, if it is an identifier. -/
def remainder? (native : String) : Option String := do
  let dropped ← policy.dropped
  let rest ← dropped.toList.isPrefixOf? native.toList
  if Identifier.isValidChars rest then some (String.ofList rest) else none

/-- The name under which a function is called in the generated source. -/
def functionName (native : String) : String :=
  Identifier.escape ((policy.remainder? native).getD native)

@[simp] theorem isExcluded_ofSettings (dropped : Option String) (excluded : List String)
    (native : String) :
    (ofSettings dropped excluded).isExcluded native = true ↔ native ∈ excluded := by
  simp [isExcluded, ofSettings]

end NamingPolicy

end Interop
