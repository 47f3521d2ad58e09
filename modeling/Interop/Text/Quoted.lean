/-!
# Quoted strings

A value written as a regular string literal of the generated source. Six characters are escaped
by a backslash and a letter, all others stand for themselves, and reading a literal gives back
the value and the text after the closing quote (`decode_encode_append`).
-/

namespace Interop.Text.Quoted

/-- The character that follows the backslash when `c` has to be escaped. -/
def escape? : Char → Option Char
  | '\\' => some '\\'
  | '"' => some '"'
  | '\n' => some 'n'
  | '\r' => some 'r'
  | '\t' => some 't'
  | '\x00' => some '0'
  | _ => none

/-- The character that a backslash and `c` stand for. -/
def unescape? : Char → Option Char
  | '\\' => some '\\'
  | '"' => some '"'
  | 'n' => some '\n'
  | 'r' => some '\r'
  | 't' => some '\t'
  | '0' => some '\x00'
  | _ => none

/-- The written form of one character. -/
def encodeChar (c : Char) : List Char :=
  match escape? c with
  | some letter => ['\\', letter]
  | none => [c]

/-- The characters between the quotes. -/
def encodeBody (value : List Char) : List Char :=
  value.flatMap encodeChar

/-- A value as a string literal, quotes included. -/
def encode (value : String) : String :=
  String.ofList ('"' :: encodeBody value.toList ++ ['"'])

/-- Read from after the opening quote to the first quote that is not escaped: the value, and
the text after that quote. -/
def decodeBody : List Char → Option (List Char × List Char)
  | [] => none
  | '"' :: rest => some ([], rest)
  | '\\' :: letter :: rest =>
    match unescape? letter, decodeBody rest with
    | some c, some (value, after) => some (c :: value, after)
    | _, _ => none
  | c :: rest => (decodeBody rest).map fun (value, after) => (c :: value, after)

/-- Read a string literal at the start of a text. -/
def decode (text : List Char) : Option (List Char × List Char) :=
  match text with
  | '"' :: rest => decodeBody rest
  | _ => none

theorem unescape?_of_escape? {c letter : Char} (h : escape? c = some letter) :
    unescape? letter = some c := by
  unfold escape? at h
  split at h <;> simp_all <;> subst h <;> rfl

/-- A character that needs no escape is neither a quote nor a backslash. -/
theorem plain_of_escape?_eq_none {c : Char} (h : escape? c = none) : c ≠ '"' ∧ c ≠ '\\' := by
  constructor <;> rintro rfl <;> simp [escape?] at h

/-- A literal reads back as its value, whatever follows it. -/
theorem decodeBody_encodeBody_append (value rest : List Char) :
    decodeBody (encodeBody value ++ '"' :: rest) = some (value, rest) := by
  induction value with
  | nil => simp [encodeBody, decodeBody]
  | cons c value ih =>
    simp only [encodeBody, List.flatMap_cons, List.append_assoc] at ih ⊢
    cases h : escape? c with
    | some letter =>
      simp [encodeChar, h, decodeBody, unescape?_of_escape? h, ih]
    | none =>
      obtain ⟨_, backslash⟩ := plain_of_escape?_eq_none h
      simp [encodeChar, h, decodeBody, backslash, ih]

theorem decode_encode_append (value : String) (rest : List Char) :
    decode ((encode value).toList ++ rest) = some (value.toList, rest) := by
  simp [encode, decode, decodeBody_encodeBody_append]

end Interop.Text.Quoted
