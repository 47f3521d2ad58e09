import Interop.Proofs.Text.LineEnds
import Interop.Text.Quoted

/-!
# String literals in a text

Where a string literal ends. A quote is escaped when an odd number of backslashes leads up to it,
and reading a literal stops at the first quote that is not (`closesAfter_of_decodeBody`). In a
literal that was written for a value that quote is the last character, so whatever follows, the
value is read back and the rest of the text is left (`isLiteral_encode`). Two different values
therefore have different literals, and even texts that start with them differ
(`encode_append_injective`).
-/

namespace Interop.Text.Quoted

variable {c : Char} {before inside text value rest : List Char}

/-! ## Escaped characters -/

/-- How many backslashes a text ends in. -/
def finalBackslashes (text : List Char) : Nat := (text.reverse.takeWhile (· = '\\')).length

/-- Whether a character behind a text is escaped: an odd number of backslashes leads up to it. -/
def IsEscaped (before : List Char) : Prop := finalBackslashes before % 2 = 1

theorem finalBackslashes_le : finalBackslashes text ≤ text.length := by
  have hlength := (List.takeWhile_sublist (· = '\\') (l := text.reverse)).length_le
  rwa [List.length_reverse] at hlength

theorem finalBackslashes_cons :
    finalBackslashes (c :: text) =
      if finalBackslashes text = text.length ∧ c = '\\' then text.length + 1
      else finalBackslashes text := by
  simp only [finalBackslashes, List.reverse_cons, List.takeWhile_append, List.length_reverse]
  by_cases hall : (text.reverse.takeWhile (· = '\\')).length = text.length
  · by_cases hc : c = '\\' <;> simp [hall, hc]
  · simp [hall]

theorem not_isEscaped_nil : ¬ IsEscaped [] := by
  simp [IsEscaped, finalBackslashes]

theorem isEscaped_cons_iff (h : c ≠ '\\') : IsEscaped (c :: before) ↔ IsEscaped before := by
  rw [IsEscaped, finalBackslashes_cons, if_neg fun hboth => h hboth.2, IsEscaped]

/-- A backslash and the character that it escapes do not count for what comes behind them. -/
theorem isEscaped_pair_iff : IsEscaped ('\\' :: c :: before) ↔ IsEscaped before := by
  have hle : finalBackslashes before ≤ before.length := finalBackslashes_le
  rw [IsEscaped, IsEscaped, finalBackslashes_cons, finalBackslashes_cons, List.length_cons]
  by_cases hall : finalBackslashes before = before.length
  · by_cases hc : c = '\\'
    · simp only [hall, hc, and_self, if_true]
      omega
    · simp only [hall, hc, and_false, if_false]
      rw [if_neg (by omega)]
  · simp only [hall, false_and, if_false]
    rw [if_neg (by omega)]

/-! ## The closing quote -/

/-- The first quote that is not escaped can only stand right behind `inside`, and a quote that
stands there is not escaped. -/
structure ClosesAfter (inside : List Char) : Prop where
  unescaped : ¬ IsEscaped inside
  escaped : ∀ before after, inside = before ++ '"' :: after → IsEscaped before

namespace ClosesAfter

theorem nil : ClosesAfter [] where
  unescaped := not_isEscaped_nil
  escaped before after h := by simp at h

theorem cons (h : ClosesAfter inside) (plain : c ≠ '\\') (unquoted : c ≠ '"') :
    ClosesAfter (c :: inside) where
  unescaped := by
    rw [isEscaped_cons_iff plain]
    exact h.unescaped
  escaped before after heq := by
    cases before with
    | nil => exact absurd (List.cons_eq_cons.mp heq).1 unquoted
    | cons first before =>
        obtain ⟨rfl, hinside⟩ := List.cons_eq_cons.mp heq
        rw [isEscaped_cons_iff plain]
        exact h.escaped before after hinside

theorem pair (h : ClosesAfter inside) (c : Char) : ClosesAfter ('\\' :: c :: inside) where
  unescaped := by
    rw [isEscaped_pair_iff]
    exact h.unescaped
  escaped before after heq := by
    match before with
    | [] => cases heq
    | [first] =>
        obtain ⟨rfl, -⟩ := List.cons_eq_cons.mp heq
        exact (by decide : finalBackslashes ['\\'] % 2 = 1)
    | first :: second :: before =>
        obtain ⟨rfl, hrest⟩ := List.cons_eq_cons.mp heq
        obtain ⟨rfl, hinside⟩ := List.cons_eq_cons.mp hrest
        rw [isEscaped_pair_iff]
        exact h.escaped before after hinside

end ClosesAfter

/-- Reading stops at the first quote that is not escaped. -/
theorem closesAfter_of_decodeBody (h : decodeBody text = some (value, rest)) :
    ∃ inside, text = inside ++ '"' :: rest ∧ ClosesAfter inside := by
  fun_induction decodeBody text generalizing value with
  | case1 => cases h
  | case2 after =>
      cases h
      exact ⟨[], rfl, .nil⟩
  | case3 letter after c found left hrest hletter ih =>
      cases h
      obtain ⟨inside, rfl, hinside⟩ := ih hrest
      exact ⟨'\\' :: letter :: inside, rfl, hinside.pair letter⟩
  | case4 => cases h
  | case5 c after hquote hpair ih =>
      obtain ⟨⟨found, left⟩, hrest, heq⟩ := Option.map_eq_some_iff.mp h
      cases heq
      have hplain : c ≠ '\\' := by
        -- a backslash at the very end escapes nothing, and no quote follows it
        rintro rfl
        cases after with
        | nil => cases hrest
        | cons letter after => exact hpair letter after rfl rfl
      obtain ⟨inside, rfl, hinside⟩ := ih hrest
      exact ⟨c :: inside, rfl, hinside.cons hplain hquote⟩

/-! ## Written values -/

/-- What makes a text the literal of a value. -/
structure IsLiteral (value text : String) : Prop where
  /-- It stands between quotes, and the closing one is the first that is not escaped. -/
  quoted : ∃ inside, text.toList = '"' :: (inside ++ ['"']) ∧ ClosesAfter inside
  no_return : '\r' ∉ text.toList
  no_feed : '\n' ∉ text.toList
  no_nul : '\x00' ∉ text.toList
  /-- Reading it gives the value back and leaves what follows. -/
  reads : ∀ rest, decode (text.toList ++ rest) = some (value.toList, rest)

theorem toList_encode (value : String) :
    (encode value).toList = '"' :: (encodeBody value.toList ++ ['"']) :=
  String.toList_ofList

/-- A character that has to be escaped and stands for nothing behind a backslash is not written. -/
theorem not_mem_encode (escaped : (escape? c).isSome = true) (hidden : unescape? c = none)
    (value : String) : c ∉ (encode value).toList := by
  intro hmem
  rw [toList_encode, List.mem_cons, List.mem_append, List.mem_singleton] at hmem
  obtain rfl | hbody | rfl := hmem
  · cases hidden
  · obtain ⟨original, -, hwritten⟩ := List.mem_flatMap.mp hbody
    unfold encodeChar at hwritten
    split at hwritten
    next letter hletter =>
      obtain rfl | hlast := List.mem_cons.mp hwritten
      · cases hidden
      · rw [List.mem_singleton.mp hlast, unescape?_of_escape? hletter] at hidden
        cases hidden
    next hplain =>
      rw [List.mem_singleton.mp hwritten, hplain] at escaped
      cases escaped
  · cases hidden

theorem isLiteral_encode (value : String) : IsLiteral value (encode value) where
  quoted := by
    have hreads := decodeBody_encodeBody_append value.toList []
    obtain ⟨inside, hinside, hcloses⟩ := closesAfter_of_decodeBody hreads
    refine ⟨inside, ?_, hcloses⟩
    rw [toList_encode, hinside]
  no_return := not_mem_encode rfl rfl value
  no_feed := not_mem_encode rfl rfl value
  no_nul := not_mem_encode rfl rfl value
  reads := decode_encode_append value

/-- A literal and the text behind it determine the value and that text. -/
theorem encode_append_injective :
    Function.Injective fun written : String × String => encode written.1 ++ written.2 := by
  rintro ⟨first, rest⟩ ⟨second, rest'⟩ heq
  have hread := decode_encode_append first rest.toList
  rw [← String.toList_append, show encode first ++ rest = encode second ++ rest' from heq,
    String.toList_append, decode_encode_append] at hread
  obtain ⟨hvalue, hrest⟩ := Prod.mk.inj (Option.some.inj hread)
  rw [String.toList_inj.mp hvalue, String.toList_inj.mp hrest]

theorem encode_injective : Function.Injective encode := by
  intro first second heq
  have hpair : (first, "") = (second, "") := encode_append_injective (congrArg (· ++ "") heq)
  exact (Prod.mk.inj hpair).1

/-- A literal stands within a line. -/
theorem isWithinLine_encode (value : String) : IsWithinLine (encode value) where
  ne_empty h := by
    have hchars := toList_encode value
    rw [h] at hchars
    cases hchars
  no_return := (isLiteral_encode value).no_return
  no_feed := (isLiteral_encode value).no_feed

end Interop.Text.Quoted
