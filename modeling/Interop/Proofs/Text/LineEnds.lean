import Interop.Text.Lines
import Mathlib.Data.List.Basic

/-!
# Line ends where texts meet

Line ends are unified in a text that has been put together from parts. A carriage return at the end
of one part and a line feed at the start of the next are then one line end, and not two. This is
the only thing that can happen where parts meet: without it, unifying goes part by part
(`unifyLineEnds_append`). A text that stands within a line is therefore left as it is, whatever is
around it (`normalizeLines_within`).
-/

namespace Interop.Text

/-! ## Characters -/

section Characters

variable {c : Char} {text before after : List Char}

theorem unifyLineEnds_cons (h : c = '\r' → after.head? ≠ some '\n') :
    unifyLineEnds (c :: after) = (if c = '\r' then '\n' else c) :: unifyLineEnds after := by
  rw [unifyLineEnds]
  rintro rest hc rfl
  exact h hc rfl

/-- Unifying goes part by part unless a line end is cut in two. -/
theorem unifyLineEnds_append (h : before.getLast? ≠ some '\r' ∨ after.head? ≠ some '\n') :
    unifyLineEnds (before ++ after) = unifyLineEnds before ++ unifyLineEnds after := by
  fun_induction unifyLineEnds before with
  | case1 rest ih =>
      have hrest : rest.getLast? ≠ some '\r' ∨ after.head? ≠ some '\n' := by
        refine h.imp_left fun hlast => ?_
        cases rest with
        | nil => simp
        | cons second rest => simpa [List.getLast?_cons_cons] using hlast
      simp only [List.cons_append, unifyLineEnds, ih hrest]
  | case2 c rest hpair ih =>
      cases rest with
      | nil =>
          have hborder : c = '\r' → after.head? ≠ some '\n' := by
            rintro rfl
            simpa using h
          rw [List.singleton_append, unifyLineEnds_cons hborder]
          rfl
      | cons second rest =>
          have hinside : c = '\r' → (second :: (rest ++ after)).head? ≠ some '\n' := by
            intro hc hsecond
            cases hsecond
            exact hpair rest hc rfl
          rw [List.getLast?_cons_cons] at h
          rw [List.cons_append, List.cons_append, unifyLineEnds_cons hinside, ← List.cons_append,
            ih h]
          rfl
  | case3 => rfl

theorem unifyLineEnds_of_not_mem (h : '\r' ∉ text) : unifyLineEnds text = text := by
  induction text with
  | nil => rfl
  | cons c rest ih =>
      rw [List.mem_cons, not_or] at h
      rw [unifyLineEnds_cons fun hc => absurd hc.symm h.1, if_neg (Ne.symm h.1), ih h.2]

theorem getLast?_unifyLineEnds :
    (unifyLineEnds text).getLast? = text.getLast?.map fun c => if c = '\r' then '\n' else c := by
  fun_induction unifyLineEnds text with
  | case1 rest ih =>
      rw [List.getLast?_cons, ih, List.getLast?_cons_cons, List.getLast?_cons]
      cases rest.getLast? <;> simp
  | case2 c rest _ ih =>
      rw [List.getLast?_cons, ih, List.getLast?_cons]
      cases rest.getLast? <;> simp
  | case3 => rfl

theorem dropFinalLineFeeds_append (h : before.getLast? ≠ some '\n') :
    dropFinalLineFeeds (before ++ after) = before ++ dropFinalLineFeeds after := by
  have hkept : before.reverse.dropWhile (· = '\n') = before.reverse := by
    cases hbefore : before.reverse with
    | nil => rfl
    | cons last rest =>
        rw [← List.head?_reverse, hbefore] at h
        rw [List.dropWhile_cons_of_neg (by simpa using h)]
  rw [dropFinalLineFeeds, dropFinalLineFeeds, List.reverse_append, List.dropWhile_append, hkept]
  cases after.reverse.dropWhile (· = '\n') with
  | nil => simp
  | cons last rest => simp

theorem getLast?_dropFinalLineFeeds_ne : (dropFinalLineFeeds text).getLast? ≠ some '\n' := by
  intro hlast
  have hkept := List.head?_dropWhile_not (· = '\n') text.reverse
  rw [dropFinalLineFeeds, List.getLast?_reverse] at hlast
  simp [hlast] at hkept

end Characters

/-! ## Texts -/

variable {text before after : String}

/-- A text with line feeds for its line ends. -/
def unifyLines (text : String) : String := String.ofList (unifyLineEnds text.toList)

/-- Whether the last line of a text is ended by a line feed. -/
def EndsLine (text : String) : Prop := text.toList.getLast? = some '\n'

instance : Decidable (EndsLine text) := inferInstanceAs (Decidable (_ = _))

@[simp] theorem toList_unifyLines : (unifyLines text).toList = unifyLineEnds text.toList :=
  String.toList_ofList

theorem getLast?_append (h : after ≠ "") :
    (before ++ after).toList.getLast? = after.toList.getLast? := by
  have hchars : after.toList ≠ [] := by simpa using h
  rw [String.toList_append, List.getLast?_append_of_ne_nil _ hchars]

theorem endsLine_append_iff (h : after ≠ "") : EndsLine (before ++ after) ↔ EndsLine after := by
  rw [EndsLine, EndsLine, getLast?_append h]

theorem EndsLine.ne_empty (h : EndsLine text) : text ≠ "" := by
  rintro rfl
  cases h

theorem EndsLine.append (h : EndsLine after) : EndsLine (before ++ after) :=
  (endsLine_append_iff h.ne_empty).mpr h

theorem EndsLine.ne_return (h : EndsLine text) : text.toList.getLast? ≠ some '\r' := by
  rw [h]
  decide

theorem EndsLine.unifyLines (h : EndsLine text) : EndsLine (unifyLines text) := by
  rw [EndsLine, toList_unifyLines, getLast?_unifyLineEnds, h]
  rfl

theorem unifyLines_append
    (h : before.toList.getLast? ≠ some '\r' ∨ after.toList.head? ≠ some '\n') :
    unifyLines (before ++ after) = unifyLines before ++ unifyLines after := by
  rw [unifyLines, String.toList_append, unifyLineEnds_append h, String.ofList_append]
  rfl

theorem unifyLines_of_not_mem (h : '\r' ∉ text.toList) : unifyLines text = text := by
  rw [unifyLines, unifyLineEnds_of_not_mem h, String.ofList_toList]

theorem not_mem_unifyLines : '\r' ∉ (unifyLines text).toList := by
  rw [toList_unifyLines]
  exact not_mem_unifyLineEnds _

@[simp] theorem unifyLines_unifyLines : unifyLines (unifyLines text) = unifyLines text :=
  unifyLines_of_not_mem not_mem_unifyLines

theorem normalizeLines_eq : normalizeLines text = closeLine (unifyLines text) := by
  rw [closeLine, toList_unifyLines, normalizeLines]

theorem closeLine_append (h : ¬ EndsLine before) :
    closeLine (before ++ after) = before ++ closeLine after := by
  rw [closeLine, closeLine, endLine, endLine, String.toList_append, dropFinalLineFeeds_append h,
    List.append_assoc, String.ofList_append, String.ofList_toList]

theorem not_mem_normalizeLines : '\r' ∉ (normalizeLines text).toList := by
  intro hmem
  rw [normalizeLines, String.toList_ofList, endLine, dropFinalLineFeeds] at hmem
  obtain hkept | hlast := List.mem_append.mp hmem
  · have hdropped := List.dropWhile_subset _ (List.mem_reverse.mp hkept)
    exact not_mem_unifyLineEnds _ (List.mem_reverse.mp hdropped)
  · simp at hlast

/-- A text is ended by one line feed and no more. -/
theorem exists_normalizeLines_eq :
    ∃ body, normalizeLines text = body ++ "\n" ∧ ¬ EndsLine body := by
  refine ⟨String.ofList (dropFinalLineFeeds (unifyLineEnds text.toList)), ?_, ?_⟩
  · rw [normalizeLines, endLine, String.ofList_append]
  · rw [EndsLine, String.toList_ofList]
    exact getLast?_dropFinalLineFeeds_ne

/-! ## Within a line -/

/-- A text that stands within one line. -/
structure IsWithinLine (text : String) : Prop where
  ne_empty : text ≠ ""
  no_return : '\r' ∉ text.toList
  no_feed : '\n' ∉ text.toList

/-- What stands within a line is left as it is, and parts what comes before it from what comes
after it. -/
theorem normalizeLines_within (h : IsWithinLine text) (before after : String) :
    normalizeLines (before ++ text ++ after) =
      unifyLines before ++ text ++ normalizeLines after := by
  have hreturn : (before ++ text).toList.getLast? ≠ some '\r' := by
    rw [getLast?_append h.ne_empty]
    exact fun hlast => h.no_return (List.mem_of_getLast? hlast)
  have hstart : text.toList.head? ≠ some '\n' := fun hhead =>
    h.no_feed (List.mem_of_head? hhead)
  have hunified : unifyLines (before ++ text) = unifyLines before ++ text := by
    rw [unifyLines_append (.inr hstart), unifyLines_of_not_mem h.no_return]
  have hopen : ¬ EndsLine (unifyLines before ++ text) := by
    rw [endsLine_append_iff h.ne_empty]
    exact fun hlast => h.no_feed (List.mem_of_getLast? hlast)
  rw [normalizeLines_eq, unifyLines_append (.inl hreturn), hunified, closeLine_append hopen,
    ← normalizeLines_eq]

end Interop.Text
