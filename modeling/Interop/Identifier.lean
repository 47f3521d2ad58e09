/-!
# Identifiers of the generated source

Which names the generated language reserves, which texts can serve as an identifier, and how a
reserved name is written so that it can. Escaping puts an `@` in front of a keyword and leaves
every other name alone, so on names without an `@` it is injective (`escape_injective`).
-/

namespace Interop.Identifier

/-- The reserved words of C#. -/
def keywords : List String :=
  ["abstract", "as", "base", "bool", "break", "byte", "case", "catch", "char", "checked",
   "class", "const", "continue", "decimal", "default", "delegate", "do", "double", "else",
   "enum", "event", "explicit", "extern", "false", "finally", "fixed", "float", "for",
   "foreach", "goto", "if", "implicit", "in", "int", "interface", "internal", "is", "lock",
   "long", "namespace", "new", "null", "object", "operator", "out", "override", "params",
   "private", "protected", "public", "readonly", "ref", "return", "sbyte", "sealed", "short",
   "sizeof", "stackalloc", "static", "string", "struct", "switch", "this", "throw", "true",
   "try", "typeof", "uint", "ulong", "unchecked", "unsafe", "ushort", "using", "virtual",
   "void", "volatile", "while"]

/-- Whether a name is a reserved word. -/
def isKeyword (name : String) : Bool :=
  keywords.contains name

/-- Whether an identifier may start with a character: an ASCII letter or an underscore. -/
def isStart (c : Char) : Bool :=
  c = '_' || c.isAlpha

/-- Whether an identifier may go on with a character: an ASCII letter or digit, or an
underscore. -/
def isPart (c : Char) : Bool :=
  c = '_' || c.isAlphanum

/-- Whether a list of characters is an identifier, reserved or not. -/
def isValidChars : List Char → Bool
  | [] => false
  | c :: rest => isStart c && rest.all isPart

/-- Whether a text is an identifier, reserved or not. -/
def isValid (name : String) : Bool :=
  isValidChars name.toList

/-- A name as it is written in source: a reserved word takes an `@`. -/
def escape (name : String) : String :=
  if isKeyword name then "@" ++ name else name

/-- Whether a text names something in source: an identifier that is not reserved, or an `@` with
any identifier after it. -/
def isWritten (text : String) : Bool :=
  match text.toList with
  | '@' :: rest => isValidChars rest
  | chars => isValidChars chars && !isKeyword text

theorem escape_of_isKeyword {name : String} (h : isKeyword name = true) :
    escape name = "@" ++ name := by
  simp [escape, h]

theorem escape_of_not_isKeyword {name : String} (h : isKeyword name = false) :
    escape name = name := by
  simp [escape, h]

/-- No identifier starts with the escape character. -/
theorem not_isValid_at (rest : String) : isValid ("@" ++ rest) = false := by
  simp [isValid, isValidChars, isStart]

/-- Escaping keeps valid names apart. -/
theorem escape_injective {a b : String} (ha : isValid a = true) (hb : isValid b = true)
    (h : escape a = escape b) : a = b := by
  unfold escape at h
  split at h <;> split at h
  · simpa using h
  · rw [← h, not_isValid_at] at hb
    cases hb
  · rw [h, not_isValid_at] at ha
    cases ha
  · exact h

end Interop.Identifier
