import Interop.Codec.Native
import Interop.Json.Text
import Interop.Run.FrontEnd

/-!
# Answers of a front end in JSON

A front end outside the program hands over a header as text: its declarations, or why it could not
be parsed. Text that is neither counts as a failure too.
-/

namespace Interop.ParseAnswer

/-- The answer for a header, from the text in which it is handed over. -/
def ofText (path text : String) : ParseAnswer :=
  match Json.parse? text with
  | none => .error ⟨path, "the declarations are not JSON", []⟩
  | some value =>
    match TranslationUnit.ofJson? value, ParseFailure.ofJson? value with
    | some parsed, _ => .ok { parsed with path := path }
    | none, some failure => .error { failure with path := path }
    | none, none => .error ⟨path, "the declarations are not well formed", []⟩

end Interop.ParseAnswer
