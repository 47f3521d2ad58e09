import Interop.Proofs.Text.LineEnds
import Mathlib.Data.List.Forall2

/-!
# Pieces of a text in their order

When several pieces stand in a text, each behind the end of the one before it, so that no two share
a character (`OccurInOrder`). Texts with such pieces can be joined, pieces can be left out and
narrowed down to parts of them, and pieces that stand within a line stay where they are when line
ends are unified (`OccurInOrder.normalizeLines`).
-/

namespace Interop.Text

variable {pieces inner more : List String} {text rest piece : String}

/-- The pieces occur in the text one after the other: a piece starts where the one before it has
ended, or later. -/
def OccurInOrder : List String → String → Prop
  | [], _ => True
  | piece :: pieces, text =>
    ∃ gap rest, text = gap ++ piece ++ rest ∧ OccurInOrder pieces rest

/-- One text is a stretch of another. -/
def IsPart (piece text : String) : Prop := ∃ before after, text = before ++ piece ++ after

namespace OccurInOrder

theorem singleton (text : String) : OccurInOrder [text] text :=
  ⟨"", "", by simp, trivial⟩

theorem behind (h : OccurInOrder pieces text) (before : String) :
    OccurInOrder pieces (before ++ text) := by
  cases pieces with
  | nil => trivial
  | cons piece pieces =>
      obtain ⟨gap, rest, rfl, hrest⟩ := h
      exact ⟨before ++ gap, rest, by simp only [String.append_assoc], hrest⟩

theorem append (h : OccurInOrder pieces text) (hmore : OccurInOrder more rest) :
    OccurInOrder (pieces ++ more) (text ++ rest) := by
  induction pieces generalizing text with
  | nil => exact hmore.behind text
  | cons piece pieces ih =>
      obtain ⟨gap, remaining, rfl, hremaining⟩ := h
      exact ⟨gap, remaining ++ rest, by simp only [String.append_assoc], ih hremaining⟩

theorem before (h : OccurInOrder pieces text) (after : String) :
    OccurInOrder pieces (text ++ after) := by
  have hnone : OccurInOrder [] after := trivial
  simpa using h.append hnone

theorem intercalate (separator : String) (pieces : List String) :
    OccurInOrder pieces (separator.intercalate pieces) := by
  induction pieces with
  | nil => trivial
  | cons first pieces ih =>
      cases pieces with
      | nil =>
          rw [String.intercalate_singleton]
          exact singleton first
      | cons second pieces =>
          rw [String.intercalate_cons_cons, String.append_assoc]
          exact (singleton first).append (ih.behind separator)

/-- Pieces can be left out, and others narrowed down to parts of them. -/
theorem of_sublistForall₂ (h : OccurInOrder pieces text)
    (parts : List.SublistForall₂ IsPart inner pieces) : OccurInOrder inner text := by
  induction parts generalizing text with
  | nil => trivial
  | cons part _ ih =>
      obtain ⟨gap, rest, rfl, hrest⟩ := h
      obtain ⟨before, after, rfl⟩ := part
      refine ⟨gap ++ before, after ++ rest, ?_, (ih hrest).behind after⟩
      simp only [String.append_assoc]
  | @cons_right skipped inner pieces _ ih =>
      obtain ⟨gap, rest, rfl, hrest⟩ := h
      exact (ih hrest).behind (gap ++ skipped)

/-- Pieces that stand within a line are not touched when line ends are unified. -/
theorem normalizeLines (h : OccurInOrder pieces text)
    (within : ∀ piece ∈ pieces, IsWithinLine piece) :
    OccurInOrder pieces (normalizeLines text) := by
  induction pieces generalizing text with
  | nil => trivial
  | cons piece pieces ih =>
      obtain ⟨gap, rest, rfl, hrest⟩ := h
      obtain ⟨hpiece, hpieces⟩ := List.forall_mem_cons.mp within
      exact ⟨unifyLines gap, Text.normalizeLines rest, normalizeLines_within hpiece gap rest,
        ih hrest hpieces⟩

end OccurInOrder

end Interop.Text
