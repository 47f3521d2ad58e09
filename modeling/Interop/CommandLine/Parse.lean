import Interop.CommandLine.Arguments

/-!
# Reading a command line

Reading goes from left to right and stops at the first error. An option without a value beside it
is pending: the arguments after it are its values, until it has enough or another option comes.
Only then are its values judged. So of two errors the one met first counts, where a missing value
is met at the next option.
-/

namespace Interop.CommandLine

/-- One argument of a command line, by its form. -/
inductive Argument where
  /-- The mark after which no option can follow. -/
  | stop
  /-- A long name, perhaps with a value beside it. -/
  | long (name : String) (value : Option String)
  /-- A letter, and all that stands beside it. -/
  | short (letter : Char) (rest : List Char)
  /-- Anything else. -/
  | plain (text : String)

namespace Argument

/-- A long name and the value behind its equals sign. -/
def ofLong (chars : List Char) : Argument :=
  let name := String.ofList (chars.takeWhile (· ≠ '='))
  match chars.dropWhile (· ≠ '=') with
  | [] => .long name none
  | _ :: value => .long name (some (String.ofList value))

/-- The form of an argument. A dash alone is a value. -/
def ofText (text : String) : Argument :=
  match text.toList with
  | ['-', '-'] => .stop
  | '-' :: '-' :: chars => ofLong chars
  | '-' :: letter :: rest => .short letter rest
  | _ => .plain text

end Argument

/-- How far a command line is read. -/
structure Reading where
  /-- What is found so far. -/
  line : CommandLine := {}
  /-- The option whose values are being read, and those read. -/
  pending : Option (Setting × List String) := none

namespace Reading

variable (reading : Reading)

/-- The command line when the pending option gets no more values. -/
def settle : Except UsageError CommandLine :=
  match reading.pending with
  | none => .ok reading.line
  | some (setting, values) => reading.line.give setting values

/-- Settle the pending option and go on with a change. -/
def settleWith (change : CommandLine → Except UsageError CommandLine) :
    Except UsageError Reading := do
  let line ← reading.settle
  let line ← change line
  .ok ⟨line, none⟩

/-- Meet an option, perhaps with a value beside it. -/
def meet (option : CommandOption) (value : Option String) : Except UsageError Reading :=
  match option, value with
  | .switch switch, none => reading.settleWith (·.turnOn switch)
  | .switch _, some _ => .error .tooManyValues
  | .setting setting, some value => reading.settleWith (·.give setting [value])
  | .setting setting, none => do
    let line ← reading.settle
    .ok ⟨line, some (setting, [])⟩

/-- Meet a letter. What stands beside the letter of a setting is its value, from which an equals
sign at the start is taken away; what stands beside the letter of a switch does not matter,
since both such switches stop the reading. -/
def meetLetter (letter : Char) (rest : List Char) : Except UsageError Reading :=
  match CommandOption.ofLetter? letter, rest with
  | none, _ => .error .unknownArgument
  | some (.switch switch), _ => reading.meet (.switch switch) none
  | some (.setting setting), [] => reading.meet (.setting setting) none
  | some (.setting setting), '=' :: value =>
    reading.meet (.setting setting) (some (String.ofList value))
  | some (.setting setting), value =>
    reading.meet (.setting setting) (some (String.ofList value))

/-- Meet a value, which only a pending option can take. -/
def meetValue (text : String) : Except UsageError Reading :=
  match reading.pending with
  | some (setting, values) =>
    if values = [] || setting.takesMany then
      .ok { reading with pending := some (setting, values ++ [text]) }
    else .error .unknownArgument
  | none => .error .unknownArgument

/-- Whether the pending option takes the next argument as its value, whatever its form. -/
def takesAnything : Bool :=
  match reading.pending with
  | some (setting, values) => setting.takesHyphens && values.isEmpty
  | none => false

/-- Meet an argument by its form. The mark alone changes nothing. -/
def meetArgument : Argument → Except UsageError Reading
  | .stop => .ok reading
  | .long name value =>
    match CommandOption.ofName? name with
    | some option => reading.meet option value
    | none => .error .unknownArgument
  | .short letter rest => reading.meetLetter letter rest
  | .plain text => reading.meetValue text

/-- Read the rest of a command line. -/
def finish (reading : Reading) : List String → Except UsageError CommandLine
  | [] => reading.settle
  | text :: rest =>
    if reading.takesAnything then
      match reading.meetValue text with
      | .ok reading => finish reading rest
      | .error error => .error error
    else
      match Argument.ofText text with
      | .stop => if rest = [] then reading.settle else .error .unknownArgument
      | argument =>
        match reading.meetArgument argument with
        | .ok reading => finish reading rest
        | .error error => .error error

end Reading

/-- Read a command line. -/
def parse (arguments : List String) : Except UsageError CommandLine :=
  Reading.finish {} arguments

@[simp] theorem parse_nil : parse [] = .ok {} := rfl

end Interop.CommandLine
