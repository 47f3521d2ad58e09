/-!
# Blank characters and trimming

The characters that Unicode calls `White_Space`, and the operation that removes them from both
ends of a text. Names in comma-separated lists, output paths and library names are judged blank
or trimmed by this one rule; every character that `Char.isWhitespace` knows is among them
(`isBlank_of_isWhitespace`).
-/

namespace Interop.Text

/-- The closed ranges of code points with the Unicode property `White_Space`. -/
def blankRanges : List (Nat × Nat) :=
  [(0x09, 0x0D), (0x20, 0x20), (0x85, 0x85), (0xA0, 0xA0), (0x1680, 0x1680), (0x2000, 0x200A),
   (0x2028, 0x2029), (0x202F, 0x202F), (0x205F, 0x205F), (0x3000, 0x3000)]

/-- Whether a character has the Unicode property `White_Space`. -/
def isBlank (c : Char) : Bool :=
  blankRanges.any fun (low, high) => low ≤ c.toNat && c.toNat ≤ high

theorem isBlank_of_isWhitespace {c : Char} (h : c.isWhitespace = true) : isBlank c = true := by
  simp only [Char.isWhitespace, Bool.or_eq_true, decide_eq_true_eq] at h
  rcases h with ((rfl | rfl) | rfl) | rfl <;> decide

/-- A list of characters without its leading blanks. -/
def trimStart (text : List Char) : List Char :=
  text.dropWhile isBlank

/-- A list of characters without its blanks at either end. -/
def trimChars (text : List Char) : List Char :=
  (trimStart (trimStart text).reverse).reverse

/-- A text without its blanks at either end. -/
def trim (text : String) : String :=
  String.ofList (trimChars text.toList)

/-- Whether a text holds nothing but blanks. -/
def isBlankText (text : String) : Bool :=
  text.toList.all isBlank

@[simp] theorem trimChars_nil : trimChars [] = [] := rfl

end Interop.Text
