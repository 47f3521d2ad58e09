import Interop.Files.Path
import Interop.Native.Unit

/-!
# Front ends

A front end parses headers. Bindings are generated from what it answers, and how it parses is of
no concern: any function from paths and arguments to answers will do, such as one whose answers
are all known beforehand. A front end notes every call that it receives.
-/

namespace Interop

/-- What a front end answers for a header. -/
abbrev ParseAnswer := Except ParseFailure TranslationUnit

namespace ParseAnswer

/-- The path that an answer is for. -/
def path : ParseAnswer → String
  | .ok parsed => parsed.path
  | .error failure => failure.path

end ParseAnswer

/-- A call of a front end: a path and arguments. -/
abbrev ParseCall := String × List String

/-- A parser of headers. -/
structure FrontEnd where
  /-- The answer for a path and the arguments of a call. -/
  answer : (path : String) → (args : List String) → ParseAnswer
  /-- The calls received so far, in order. -/
  received : List ParseCall

namespace FrontEnd

/-- A front end that has received some calls more. -/
def receive (frontEnd : FrontEnd) (calls : List ParseCall) : FrontEnd :=
  { frontEnd with received := frontEnd.received ++ calls }

@[simp] theorem answer_receive (frontEnd : FrontEnd) (calls : List ParseCall) :
    (frontEnd.receive calls).answer = frontEnd.answer := rfl

@[simp] theorem received_receive (frontEnd : FrontEnd) (calls : List ParseCall) :
    (frontEnd.receive calls).received = frontEnd.received ++ calls := rfl

@[simp] theorem receive_nil (frontEnd : FrontEnd) : frontEnd.receive [] = frontEnd := by
  rw [receive, List.append_nil]

@[simp] theorem receive_receive (frontEnd : FrontEnd) (calls later : List ParseCall) :
    (frontEnd.receive calls).receive later = frontEnd.receive (calls ++ later) := by
  simp only [receive, List.append_assoc]

/-- Call the front end for a header. -/
def parse (path : String) (args : List String) : StateM FrontEnd ParseAnswer := do
  modify fun frontEnd => frontEnd.receive [(path, args)]
  return (← get).answer path args

@[simp] theorem run_parse (path : String) (args : List String) (frontEnd : FrontEnd) :
    (parse path args).run frontEnd =
      (frontEnd.answer path args, frontEnd.receive [(path, args)]) := rfl

/-- The last answer for a path. -/
def lookup (answers : List ParseAnswer) (path : String) : Option ParseAnswer :=
  answers.reverse.find? fun answer => Path.same answer.path path

/-- A front end that knows its answers beforehand. Of two answers for a path the later one
counts. -/
def ofAnswers (answers : List ParseAnswer) : FrontEnd where
  answer path _ := (lookup answers path).getD (.error ⟨path, "no such translation unit", []⟩)
  received := []

/-- A front end that knows some headers and some failures. -/
def ofKnown (units : List TranslationUnit) (failures : List ParseFailure) : FrontEnd :=
  ofAnswers (units.map .ok ++ failures.map .error)

end FrontEnd

end Interop
