import Interop.Codec.Managed
import Interop.Report.Summary

/-!
# Reports in JSON

The form in which the report of a run is handed on: an object with keys in camel case.
-/

namespace Interop.GenerationReport

open Json

def toJson (report : GenerationReport) : Value :=
  .object [("outputPath", .text report.outputPath),
    ("parsedFiles", .ofList .text report.parsedFiles),
    ("failedFiles", .ofList .text report.failedFiles),
    ("structs", .ofNat report.structs), ("typedefs", .ofNat report.typedefs),
    ("enums", .ofNat report.enums), ("functions", .ofNat report.functions),
    ("skipped", .ofList SkippedSymbol.toJson report.skipped)]

end Interop.GenerationReport
