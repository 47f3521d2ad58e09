import Interop.Binding.Generate
import Interop.Report.Log

/-!
# Report of a run

What a run that came to its end has done: the headers it could parse and those it could not, how
many declarations of each kind it bound, and the ones it left out.
-/

namespace Interop

/-- What a run has done. -/
structure GenerationReport where
  /-- The path of the generated file. -/
  outputPath : String
  parsedFiles : List String := []
  failedFiles : List String := []
  structs : Nat := 0
  typedefs : Nat := 0
  enums : Nat := 0
  functions : Nat := 0
  skipped : List SkippedSymbol := []

namespace GenerationReport

variable (report : GenerationReport)

/-- How many declarations are bound. -/
def emitted : Nat := report.structs + report.typedefs + report.enums + report.functions

/-- A number of things. -/
def counted (count : Nat) (noun : String) : String :=
  toString count ++ " " ++ noun ++ if count = 1 then "" else "s"

/-- A run in one line. -/
def summaryLine : String :=
  "Generated " ++ counted report.structs "struct" ++ ", " ++
    counted report.typedefs "typedef" ++ ", " ++ counted report.enums "enum" ++ " and " ++
    counted report.functions "function" ++ " into " ++ report.outputPath

/-- What is told of all that a run left out. -/
def warnings (logger : Logger) : List OutputLine :=
  (if report.failedFiles = [] then []
    else logger.log .warning
      (counted report.failedFiles.length "file" ++ " could not be parsed")) ++
  (if report.skipped.isEmpty then []
    else logger.log .warning
      (counted report.skipped.length "declaration" ++ " skipped (see warnings above)"))

end GenerationReport

end Interop
