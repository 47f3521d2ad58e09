import Interop.Json.Value

/-!
# JSON text

Reading and writing JSON. The reader follows the grammar of JSON strictly: no comments, no final
commas, nothing after the value, no control characters inside strings. The writer puts members on
lines of their own or everything on one line, and escapes what the grammar demands; a text for
channels that carry ASCII only escapes all other characters as well.
-/

namespace Interop.Json

/-! ## Reading -/

/-! A reader answers what it has read and the text after it. -/

def isSpace (c : Char) : Bool := c = ' ' || c = '\n' || c = '\r' || c = '\t'

def skipSpace (text : List Char) : List Char := text.dropWhile isSpace

/-- The value of a hexadecimal digit. -/
def hexDigit? (c : Char) : Option Nat :=
  if '0' ≤ c ∧ c ≤ '9' then some (c.toNat - '0'.toNat)
  else if 'a' ≤ c ∧ c ≤ 'f' then some (c.toNat - 'a'.toNat + 10)
  else if 'A' ≤ c ∧ c ≤ 'F' then some (c.toNat - 'A'.toNat + 10)
  else none

/-- The number that four hexadecimal digits write. -/
def hexUnit? (a b c d : Char) : Option Nat := do
  let a ← hexDigit? a
  let b ← hexDigit? b
  let c ← hexDigit? c
  let d ← hexDigit? d
  some (((a * 16 + b) * 16 + c) * 16 + d)

/-- The character that a backslash and a letter write. -/
def unescape? : Char → Option Char
  | '"' => some '"'
  | '\\' => some '\\'
  | '/' => some '/'
  | 'b' => some '\x08'
  | 'f' => some '\x0c'
  | 'n' => some '\n'
  | 'r' => some '\r'
  | 't' => some '\t'
  | _ => none

/-- The UTF-16 units of a string literal, read from after its opening quote. Escapes may write
units that pair up to no character. -/
def readUnits : List Char → Option (List (Nat ⊕ Char) × List Char)
  | [] => none
  | '"' :: rest => some ([], rest)
  | '\\' :: 'u' :: a :: b :: c :: d :: rest => do
    let code ← hexUnit? a b c d
    let (parts, rest) ← readUnits rest
    some (.inl code :: parts, rest)
  | '\\' :: letter :: rest => do
    let c ← unescape? letter
    let (parts, rest) ← readUnits rest
    some (.inr c :: parts, rest)
  | c :: rest =>
    if c.toNat < 0x20 then none
    else do
      let (parts, rest) ← readUnits rest
      some (.inr c :: parts, rest)

/-- The characters that units and characters write, if every surrogate is one of a pair. -/
def joinUnits : List (Nat ⊕ Char) → Option (List Char)
  | [] => some []
  | .inr c :: rest => (joinUnits rest).map (c :: ·)
  | .inl high :: .inl low :: rest =>
    if 0xD800 ≤ high ∧ high < 0xDC00 ∧ 0xDC00 ≤ low ∧ low < 0xE000 then
      (joinUnits rest).map
        (Char.ofNat (0x10000 + (high - 0xD800) * 0x400 + (low - 0xDC00)) :: ·)
    else if 0xD800 ≤ high ∧ high < 0xE000 then none
    else (joinUnits (.inl low :: rest)).map (Char.ofNat high :: ·)
  | .inl code :: rest =>
    if 0xD800 ≤ code ∧ code < 0xE000 then none
    else (joinUnits rest).map (Char.ofNat code :: ·)

/-- A string literal, read from after its opening quote; nothing when it denotes no text. -/
def readString (text : List Char) : Option (Option String × List Char) := do
  let (parts, rest) ← readUnits text
  some ((joinUnits parts).map String.ofList, rest)

/-- The digits at the start of a text. -/
def readDigits (text : List Char) : List Char × List Char :=
  (text.takeWhile Char.isDigit, text.dropWhile Char.isDigit)

/-- The digits at the start of a text, at least one. -/
def readSomeDigits (text : List Char) : Option (List Char × List Char) :=
  match readDigits text with
  | ([], _) => none
  | digits => some digits

/-- The digits before the point: a zero is the only digit it starts. -/
def readWhole (text : List Char) : Option (List Char × List Char) :=
  match text with
  | '0' :: rest => some (['0'], rest)
  | _ => readSomeDigits text

/-- The fraction of a number, possibly none. -/
def readFraction (text : List Char) : Option (List Char × List Char) :=
  match text with
  | '.' :: rest => do
    let (digits, rest) ← readSomeDigits rest
    some ('.' :: digits, rest)
  | _ => some ([], text)

/-- The exponent of a number, possibly none. -/
def readExponent (text : List Char) : Option (List Char × List Char) :=
  match text with
  | c :: rest =>
    if c = 'e' ∨ c = 'E' then
      match rest with
      | sign :: digits =>
        if sign = '+' ∨ sign = '-' then do
          let (digits, rest) ← readSomeDigits digits
          some (c :: sign :: digits, rest)
        else do
          let (digits, rest) ← readSomeDigits rest
          some (c :: digits, rest)
      | [] => none
    else some ([], text)
  | [] => some ([], [])

/-- The number that digits write. -/
def ofDigits (digits : List Char) : Nat :=
  digits.foldl (fun total digit => total * 10 + (digit.toNat - '0'.toNat)) 0

/-- A number without its sign. -/
def readMagnitude (isNegative : Bool) (text : List Char) : Option (Value × List Char) := do
  let (whole, rest) ← readWhole text
  let (fraction, rest) ← readFraction rest
  let (exponent, rest) ← readExponent rest
  let magnitude := ofDigits whole
  if fraction.isEmpty && exponent.isEmpty && !(isNegative && magnitude = 0) then
    some (.integer (if isNegative then -(magnitude : Int) else magnitude), rest)
  else
    let sign := if isNegative then "-" else ""
    some (.real (sign ++ String.ofList (whole ++ fraction ++ exponent)), rest)

/-- A number. -/
def readNumber (text : List Char) : Option (Value × List Char) :=
  match text with
  | '-' :: rest => readMagnitude true rest
  | _ => readMagnitude false text

/-- Drop a word from the start of a text. -/
def expect (word : String) (text : List Char) : Option (List Char) :=
  word.toList.isPrefixOf? text

/-- An object whose keys are read. One with a key that denotes no text denotes nothing itself. -/
def objectOf (members : List (Option String × Value)) : Value :=
  match members.mapM fun (key, value) => key.map (·, value) with
  | some members => .object members
  | none => .unpaired

mutual

/-- A value without the blanks before it. `fuel` bounds the number of steps. -/
def readValue (fuel : Nat) (text : List Char) : Option (Value × List Char) :=
  match fuel with
  | 0 => none
  | fuel + 1 =>
    match skipSpace text with
    | '"' :: rest => do
      let (string, rest) ← readString rest
      some ((string.map Value.text).getD .unpaired, rest)
    | '[' :: rest =>
      match skipSpace rest with
      | ']' :: rest => some (.array [], rest)
      | rest => do
        let (elements, rest) ← readElements fuel rest
        some (.array elements, rest)
    | '\x7b' :: rest =>
      match skipSpace rest with
      | '\x7d' :: rest => some (.object [], rest)
      | rest => do
        let (members, rest) ← readMembers fuel rest
        some (objectOf members, rest)
    | 'n' :: rest => (expect "ull" rest).map (.null, ·)
    | 't' :: rest => (expect "rue" rest).map (.bool true, ·)
    | 'f' :: rest => (expect "alse" rest).map (.bool false, ·)
    | text => readNumber text

/-- The elements of an array up to its closing bracket, at least one. -/
def readElements (fuel : Nat) (text : List Char) : Option (List Value × List Char) :=
  match fuel with
  | 0 => none
  | fuel + 1 => do
    let (value, rest) ← readValue fuel text
    match skipSpace rest with
    | ',' :: rest => do
      let (values, rest) ← readElements fuel rest
      some (value :: values, rest)
    | ']' :: rest => some ([value], rest)
    | _ => none

/-- The members of an object up to its closing brace, at least one. -/
def readMembers (fuel : Nat) (text : List Char) :
    Option (List (Option String × Value) × List Char) :=
  match fuel with
  | 0 => none
  | fuel + 1 =>
    match skipSpace text with
    | '"' :: rest => do
      let (key, rest) ← readString rest
      match skipSpace rest with
      | ':' :: rest => do
        let (value, rest) ← readValue fuel rest
        match skipSpace rest with
        | ',' :: rest => do
          let (members, rest) ← readMembers fuel rest
          some ((key, value) :: members, rest)
        | '\x7d' :: rest => some ([(key, value)], rest)
        | _ => none
      | _ => none
    | _ => none

end

/-- The value that a text writes. A step takes a character from the text or descends into a value
just opened, so twice the length of the text bounds their number. -/
def parse? (text : String) : Option Value := do
  let characters := text.toList
  let (value, rest) ← readValue (2 * characters.length + 1) characters
  if (skipSpace rest).isEmpty then some value else none

/-! ## Writing -/

/-- A digit of a hexadecimal number. -/
def hexDigit (n : Nat) : Char :=
  if n < 10 then Char.ofNat ('0'.toNat + n) else Char.ofNat ('a'.toNat + (n - 10))

/-- The escape for a UTF-16 unit. -/
def escapeUnit (code : Nat) : List Char :=
  ['\\', 'u', hexDigit (code / 0x1000 % 16), hexDigit (code / 0x100 % 16),
    hexDigit (code / 0x10 % 16), hexDigit (code % 16)]

/-- The escape for a character. -/
def escapeChar (c : Char) : List Char :=
  if c.toNat < 0x10000 then escapeUnit c.toNat
  else
    let offset := c.toNat - 0x10000
    escapeUnit (0xD800 + offset / 0x400) ++ escapeUnit (0xDC00 + offset % 0x400)

/-- A character inside a string literal. -/
def encodeChar (asciiOnly : Bool) (c : Char) : List Char :=
  match c with
  | '"' => ['\\', '"']
  | '\\' => ['\\', '\\']
  | '\x08' => ['\\', 'b']
  | '\x0c' => ['\\', 'f']
  | '\n' => ['\\', 'n']
  | '\r' => ['\\', 'r']
  | '\t' => ['\\', 't']
  | c =>
    if c.toNat < 0x20 || (asciiOnly && 0x7F ≤ c.toNat) then escapeChar c else [c]

/-- A text as a string literal. -/
def quote (asciiOnly : Bool) (text : String) : String :=
  "\"" ++ String.ofList (text.toList.flatMap (encodeChar asciiOnly)) ++ "\""

namespace Value

mutual

/-- A value on one line, in ASCII only. -/
def compact : Value → String
  | .null => "null"
  | .bool value => if value then "true" else "false"
  | .integer value => toString value
  | .real spelling => spelling
  | .text value => quote true value
  | .unpaired => "null"
  | .array elements => "[" ++ ",".intercalate (compactAll elements) ++ "]"
  | .object members => "\x7b" ++ ",".intercalate (compactMembers members) ++ "\x7d"
termination_by structural value => value

def compactAll : List Value → List String
  | [] => []
  | value :: values => value.compact :: compactAll values
termination_by structural values => values

def compactMembers : List (String × Value) → List String
  | [] => []
  | member :: members => compactMember member :: compactMembers members
termination_by structural members => members

def compactMember : String × Value → String
  | (key, value) => quote true key ++ ":" ++ value.compact
termination_by structural member => member

end

/-- Items between brackets, each on a line of its own; nothing between them if there are none. -/
def enclose (opening closing indent : String) (items : List String) : String :=
  if items.isEmpty then opening ++ closing
  else
    opening ++ "\n" ++ ",\n".intercalate (items.map fun item => indent ++ "  " ++ item) ++ "\n" ++
      indent ++ closing

mutual

/-- A value with its parts on lines of their own, each level indented by two blanks. -/
def pretty (indent : String) : Value → String
  | .null => "null"
  | .bool value => if value then "true" else "false"
  | .integer value => toString value
  | .real spelling => spelling
  | .text value => quote false value
  | .unpaired => "null"
  | .array elements => enclose "[" "]" indent (prettyAll (indent ++ "  ") elements)
  | .object members => enclose "\x7b" "\x7d" indent (prettyMembers (indent ++ "  ") members)
termination_by structural value => value

def prettyAll (indent : String) : List Value → List String
  | [] => []
  | value :: values => value.pretty indent :: prettyAll indent values
termination_by structural values => values

def prettyMembers (indent : String) : List (String × Value) → List String
  | [] => []
  | member :: members => prettyMember indent member :: prettyMembers indent members
termination_by structural members => members

def prettyMember (indent : String) : String × Value → String
  | (key, value) => quote false key ++ ": " ++ value.pretty indent
termination_by structural member => member

end

end Value

end Interop.Json
