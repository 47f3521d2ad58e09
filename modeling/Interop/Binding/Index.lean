import Interop.Binding.Run

/-!
# Settling the index

What a run binds depends on the index, and the index is to say what the run binds. So runs are
repeated, each with the index that the one before it discovered, until the index does not change
any more. The number of rounds is bounded, so an index that keeps changing is used as it is then.
-/

namespace Interop.BindingOptions

variable (options : BindingOptions)

/-- The state in which a run with an index starts. The members of the class that holds the
functions may not be called like the class. -/
def registry (index : SymbolIndex) : Registry :=
  (Registry.ofIndex index).claim .container [options.container]

/-- The index that a run discovers. -/
def discover (units : List TranslationUnit) (index : SymbolIndex) : SymbolIndex :=
  ((options.registry index).run options units).registry.discovered

/-- Repeat runs from an index until it does not change, for at most so many rounds. -/
def settle (units : List TranslationUnit) : Nat → SymbolIndex → SymbolIndex
  | 0, index => index
  | rounds + 1, index =>
    let discovered := options.discover units index
    if discovered = index then index else settle units rounds discovered

/-- The number of rounds after which an index is used even if it has not settled. -/
def maxRounds : Nat := 32

/-- The index for some headers. -/
def buildIndex (units : List TranslationUnit) : SymbolIndex :=
  options.settle units maxRounds ∅

/-- An index that a run discovers again. -/
def IsSettled (units : List TranslationUnit) (index : SymbolIndex) : Prop :=
  options.discover units index = index

instance (units : List TranslationUnit) (index : SymbolIndex) :
    Decidable (options.IsSettled units index) :=
  inferInstanceAs (Decidable (options.discover units index = index))

end Interop.BindingOptions
