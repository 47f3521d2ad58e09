import Interop.Text.Lines

/-!
# The generated file

The text of the whole file: a header that names the generator, then one namespace with the types
and, in a static class, the functions. Types and functions are collected separately, so only the
order among the types and the order among the functions matter.
-/

namespace Interop

/-- What writes a generated file. -/
structure Generator where
  name : String
  version : String

namespace Generator

/-- This program. -/
def current : Generator := ⟨"pinvoke-bindgen", "0.1.0"⟩

/-- The comment at the start of a generated file. -/
def header (generator : Generator) : String :=
  "// <auto-generated>\n" ++
    "//     Generated by " ++ generator.name ++ " " ++ generator.version ++
      ". Do not edit by hand.\n" ++
    "// </auto-generated>"

end Generator

/-- The fragments of a generated file. -/
structure CompilationUnit where
  types : List String
  functions : List String

namespace CompilationUnit

/-- A file without declarations. -/
def empty : CompilationUnit := ⟨[], []⟩

variable (file : CompilationUnit)

/-- Add a declaration of the namespace. -/
def pushType (fragment : String) : CompilationUnit :=
  { file with types := file.types ++ [fragment] }

/-- Add a member of the class that holds the functions. -/
def pushFunction (fragment : String) : CompilationUnit :=
  { file with functions := file.functions ++ [fragment] }

/-- The types with the empty line that separates them from the class. -/
def typeSection : String :=
  let text := "\n".intercalate file.types
  if text = "" then "" else text ++ "\n"

/-- The text of the file before its line ends are unified. -/
def rawText (generator : Generator) (nameSpace container : String) : String :=
  generator.header ++ "\n" ++
    "namespace " ++ nameSpace ++ "\n\x7b\n" ++
    "    using System;\n" ++
    "    using System.Runtime.InteropServices;\n" ++
    "\n" ++
    file.typeSection ++
    "    public static partial class " ++ container ++ "\n    \x7b\n" ++
    "\n".intercalate file.functions ++
    "    \x7d\n\x7d\n"

/-- The text of the file. -/
def text (generator : Generator) (nameSpace container : String) : String :=
  Text.normalizeLines (file.rawText generator nameSpace container)

end CompilationUnit

end Interop
