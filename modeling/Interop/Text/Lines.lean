/-!
# Line ends

Generated source uses line feeds only and ends in exactly one. Line ends are unified character
by character, so the operation is defined on lists of characters.
-/

namespace Interop.Text

/-- Carriage returns, alone or before a line feed, become line feeds. -/
def unifyLineEnds : List Char → List Char
  | '\r' :: '\n' :: rest => '\n' :: unifyLineEnds rest
  | c :: rest => (if c = '\r' then '\n' else c) :: unifyLineEnds rest
  | [] => []

/-- No carriage return is left. -/
theorem not_mem_unifyLineEnds (text : List Char) : '\r' ∉ unifyLineEnds text := by
  fun_induction unifyLineEnds text with
  | case1 rest ih => simp [ih]
  | case2 c rest _ ih => by_cases h : c = '\r' <;> simp [h, ih, eq_comm]
  | case3 => simp

/-- A list of characters without the line feeds at its end. -/
def dropFinalLineFeeds (text : List Char) : List Char :=
  (text.reverse.dropWhile (· = '\n')).reverse

/-- A list of characters that ends in exactly one line feed. -/
def endLine (text : List Char) : List Char :=
  dropFinalLineFeeds text ++ ['\n']

/-- A text whose lines end in line feeds, the last line too and only once. -/
def normalizeLines (text : String) : String :=
  String.ofList (endLine (unifyLineEnds text.toList))

/-- A text that ends in exactly one line feed; its other line ends are kept. -/
def closeLine (text : String) : String :=
  String.ofList (endLine text.toList)

/-- Lines, each with its line feed. -/
def ofLines (lines : List String) : String :=
  lines.foldr (fun line rest => line ++ "\n" ++ rest) ""

@[simp] theorem ofLines_nil : ofLines [] = "" := rfl

@[simp] theorem ofLines_cons (line : String) (lines : List String) :
    ofLines (line :: lines) = line ++ "\n" ++ ofLines lines := rfl

end Interop.Text
