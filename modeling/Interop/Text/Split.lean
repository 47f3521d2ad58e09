import Interop.Text.Blank

/-!
# Splitting at a separator

Splitting a text at one character, and the comma-separated name lists built on it. Splitting
keeps every piece, the empty ones too, so joining the pieces gives the text back
(`intercalate_splitChars`).
-/

namespace Interop.Text

/-- The pieces of a list between the occurrences of `separator`; there is always at least one. -/
def splitChars (separator : Char) : List Char → List (List Char)
  | [] => [[]]
  | c :: rest =>
    if c = separator then [] :: splitChars separator rest
    else
      match splitChars separator rest with
      | [] => [[c]]
      | piece :: pieces => (c :: piece) :: pieces

/-- The pieces of a text between the occurrences of `separator`. -/
def split (separator : Char) (text : String) : List String :=
  (splitChars separator text.toList).map String.ofList

theorem splitChars_ne_nil (separator : Char) (text : List Char) :
    splitChars separator text ≠ [] := by
  cases text with
  | nil => simp [splitChars]
  | cons c rest =>
    simp only [splitChars]
    split
    · simp
    · split <;> simp

/-- Nothing is lost: the pieces, with the separator between them, are the text. -/
theorem intercalate_splitChars (separator : Char) (text : List Char) :
    [separator].intercalate (splitChars separator text) = text := by
  induction text with
  | nil => rfl
  | cons c rest ih =>
    simp only [splitChars]
    split
    · next h =>
      subst h
      cases h : splitChars c rest with
      | nil => exact absurd h (splitChars_ne_nil c rest)
      | cons piece pieces =>
        rw [h] at ih
        simp_all [List.intercalate, List.intersperse]
    · cases h : splitChars separator rest with
      | nil => exact absurd h (splitChars_ne_nil separator rest)
      | cons piece pieces =>
        rw [h] at ih
        cases pieces <;> simp_all [List.intercalate, List.intersperse]

/-- The names of a comma-separated list: each piece trimmed, the empty ones dropped. -/
def splitNames (list : String) : List String :=
  ((split ',' list).map trim).filter (· ≠ "")

end Interop.Text
