import Interop.Text.Split
import Mathlib.Data.List.Basic
import Mathlib.Data.List.TakeWhile

/-!
# Names in comma-separated lists

Splitting leaves no separator in a piece, and trimming no blank at an end. So a name that is found
in a comma-separated list is not empty, has no comma and is trimmed (`IsListed`), and such a name
alone is the list of itself. Lists are therefore the same after they are split once more, and a
list of texts is the same after splitting if and only if each text is such a name
(`flatMap_splitNames_eq_self_iff`).
-/

namespace Interop.Text

variable {separator : Char} {text piece : List Char} {name list : String} {names : List String}

/-! ## Splitting -/

theorem splitChars_cons_of_ne {c : Char} (h : c ≠ separator) :
    ∃ piece pieces, splitChars separator text = piece :: pieces ∧
      splitChars separator (c :: text) = (c :: piece) :: pieces := by
  cases hpieces : splitChars separator text with
  | nil => exact absurd hpieces (splitChars_ne_nil separator text)
  | cons piece pieces =>
      refine ⟨piece, pieces, rfl, ?_⟩
      rw [splitChars, if_neg h, hpieces]

theorem not_mem_of_mem_splitChars (h : piece ∈ splitChars separator text) : separator ∉ piece := by
  induction text generalizing piece with
  | nil =>
      rw [splitChars, List.mem_singleton] at h
      simp [h]
  | cons c rest ih =>
      by_cases hc : c = separator
      · rw [splitChars, if_pos hc] at h
        rcases List.mem_cons.mp h with rfl | hrest
        · exact List.not_mem_nil
        · exact ih hrest
      · obtain ⟨first, pieces, hpieces, hsplit⟩ := @splitChars_cons_of_ne separator rest c hc
        rw [hpieces] at ih
        rw [hsplit] at h
        rcases List.mem_cons.mp h with rfl | hrest
        · exact List.not_mem_cons_of_ne_of_not_mem (Ne.symm hc) (ih List.mem_cons_self)
        · exact ih (List.mem_cons_of_mem _ hrest)

/-- A text without the separator is its only piece. -/
theorem splitChars_of_not_mem (h : separator ∉ text) : splitChars separator text = [text] := by
  induction text with
  | nil => rfl
  | cons c rest ih =>
      have hc : c ≠ separator := Ne.symm (List.ne_of_not_mem_cons h)
      rw [splitChars, if_neg hc, ih (List.not_mem_of_not_mem_cons h)]

theorem split_ne_nil (separator : Char) (text : String) : split separator text ≠ [] := by
  rw [split, ne_eq, List.map_eq_nil_iff]
  exact splitChars_ne_nil separator _

/-- The pieces of a text, with the separator between them, are the text. -/
theorem intercalate_split (separator : Char) (text : String) :
    (String.singleton separator).intercalate (split separator text) = text := by
  have hchars : (split separator text).map String.toList = splitChars separator text.toList := by
    rw [split, List.map_map]
    exact (List.map_congr_left fun piece _ => String.toList_ofList).trans (List.map_id _)
  rw [← String.toList_inj, String.toList_intercalate, hchars, String.toList_singleton,
    intercalate_splitChars]

/-! ## Trimming -/

theorem not_isBlank_head_trimStart : ∀ c ∈ (trimStart text).head?, isBlank c = false := by
  intro c hc
  have hhead := List.head?_dropWhile_not isBlank text
  rw [trimStart] at hc
  rw [hc] at hhead
  exact hhead

theorem trimStart_eq_self (h : ∀ c ∈ text.head?, isBlank c = false) : trimStart text = text := by
  cases text with
  | nil => rfl
  | cons c rest =>
      rw [trimStart, List.dropWhile_cons_of_neg]
      rw [h c rfl]
      exact Bool.false_ne_true

theorem trimStart_suffix (text : List Char) : trimStart text <:+ text :=
  List.dropWhile_suffix isBlank

/-- No blank stands at either end of a text. -/
structure IsTrimmed (text : List Char) : Prop where
  head : ∀ c ∈ text.head?, isBlank c = false
  last : ∀ c ∈ text.getLast?, isBlank c = false

theorem trimChars_isPrefix (text : List Char) : trimChars text <+: trimStart text := by
  rw [← List.reverse_suffix, trimChars, List.reverse_reverse]
  exact trimStart_suffix _

theorem trimChars_subset (text : List Char) : trimChars text ⊆ text :=
  List.Subset.trans (trimChars_isPrefix text).subset (trimStart_suffix text).subset

theorem isTrimmed_trimChars (text : List Char) : IsTrimmed (trimChars text) where
  head := by
    intro c hc
    obtain ⟨rest, hrest⟩ := trimChars_isPrefix text
    apply @not_isBlank_head_trimStart text
    rw [← hrest, List.head?_append, hc]
    rfl
  last := by
    rw [trimChars, List.getLast?_reverse]
    exact not_isBlank_head_trimStart

theorem trimChars_eq_self (h : IsTrimmed text) : trimChars text = text := by
  have hlast : ∀ c ∈ text.reverse.head?, isBlank c = false := by
    rw [List.head?_reverse]
    exact h.last
  rw [trimChars, trimStart_eq_self h.head, trimStart_eq_self hlast, List.reverse_reverse]

/-- Nothing is left of a text if and only if it holds nothing but blanks. -/
theorem trim_eq_empty_iff : trim name = "" ↔ isBlankText name = true := by
  rw [isBlankText, List.all_eq_true, trim, String.ofList_eq_empty_iff, trimChars,
    List.reverse_eq_nil_iff, trimStart, List.dropWhile_eq_nil_iff]
  constructor
  · intro h c hc
    rw [← List.takeWhile_append_dropWhile (p := isBlank) (l := name.toList)] at hc
    rcases List.mem_append.mp hc with hblank | hrest
    · exact List.mem_takeWhile_imp hblank
    · exact h c (List.mem_reverse.mpr hrest)
  · intro h c hc
    exact h c ((trimStart_suffix _).subset (List.mem_reverse.mp hc))

/-! ## Names -/

/-- A text that a comma-separated list can name: it is not empty, has no comma and no blank at
either end. -/
structure IsListed (name : String) : Prop where
  nonempty : name ≠ ""
  noComma : ',' ∉ name.toList
  trimmed : IsTrimmed name.toList

theorem isListed_of_mem_splitNames (h : name ∈ splitNames list) : IsListed name := by
  rw [splitNames, List.mem_filter, decide_eq_true_iff] at h
  obtain ⟨hname, hnonempty⟩ := h
  obtain ⟨text, htext, rfl⟩ := List.mem_map.mp hname
  obtain ⟨piece, hpiece, rfl⟩ := List.mem_map.mp htext
  have hchars : (trim (String.ofList piece)).toList = trimChars piece := by
    rw [trim, String.toList_ofList, String.toList_ofList]
  constructor
  · exact hnonempty
  · rw [hchars]
    intro hcomma
    exact not_mem_of_mem_splitChars hpiece (trimChars_subset piece hcomma)
  · rw [hchars]
    exact isTrimmed_trimChars piece

/-- A name that a list can have is by itself the list of that name. -/
theorem splitNames_of_isListed (h : IsListed name) : splitNames name = [name] := by
  have hsplit : split ',' name = [name] := by
    rw [split, splitChars_of_not_mem h.noComma, List.map_singleton, String.ofList_toList]
  have htrim : trim name = name := by
    rw [trim, trimChars_eq_self h.trimmed, String.ofList_toList]
  rw [splitNames, hsplit, List.map_singleton, htrim]
  exact List.filter_cons_of_pos (decide_eq_true h.nonempty)

theorem flatMap_splitNames_eq_self_iff :
    names.flatMap splitNames = names ↔ ∀ name ∈ names, IsListed name := by
  constructor
  · intro h name hname
    rw [← h] at hname
    obtain ⟨text, -, hin⟩ := List.mem_flatMap.mp hname
    exact isListed_of_mem_splitNames hin
  · intro h
    rw [List.flatMap_congr fun name hname => splitNames_of_isListed (h name hname)]
    exact List.flatMap_singleton' names

end Interop.Text
