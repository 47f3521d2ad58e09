import Interop.Binding.Index
import Interop.Source.CompilationUnit
import Interop.Source.Fragment

/-!
# Generating bindings

The generated file for some headers: the index is settled, a last run binds the declarations, and
each symbol is written after the delegates that it declares. Functions and their delegates go
into the class, all other declarations into the namespace.
-/

namespace Interop

/-- What is generated for some headers. -/
structure GeneratedBindings where
  source : String
  symbols : List BindingSymbol
  skipped : List SkippedSymbol

namespace GeneratedBindings

/-- How many symbols of a kind are bound. -/
def count (bindings : GeneratedBindings) (kind : SymbolKind) : Nat :=
  bindings.symbols.countP (·.kind = kind)

end GeneratedBindings

namespace BindingSymbol

/-- Whether a symbol is a member of the class that holds the functions. -/
def isContained (symbol : BindingSymbol) : Bool := symbol.kind = .function

/-- The declarations of a symbol: its delegates, then the symbol itself. -/
def fragments (library : String) (symbol : BindingSymbol) : List String :=
  let indent := if symbol.isContained then Source.memberIndent else Source.typeIndent
  symbol.delegates.map (·.fragment indent) ++ [symbol.fragment library]

end BindingSymbol

namespace CompilationUnit

/-- Add the declarations of a symbol to a file. -/
def pushSymbol (library : String) (file : CompilationUnit) (symbol : BindingSymbol) :
    CompilationUnit :=
  (symbol.fragments library).foldl (if symbol.isContained then pushFunction else pushType) file

end CompilationUnit

namespace BindingOptions

variable (options : BindingOptions)

/-- The last run over some headers, with the index for them. -/
def finalRun (units : List TranslationUnit) : BindingRun :=
  (options.registry (options.buildIndex units)).run options units

/-- The text of the file that declares some symbols. -/
def sourceOf (symbols : List BindingSymbol) : String :=
  (symbols.foldl (CompilationUnit.pushSymbol options.library) CompilationUnit.empty).text
    .current options.nameSpace options.container

/-- The bindings for some headers. -/
def generate (units : List TranslationUnit) : GeneratedBindings :=
  let run := options.finalRun units
  ⟨options.sourceOf run.symbols, run.symbols, run.skipped⟩

end BindingOptions

end Interop
