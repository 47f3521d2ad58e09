import Interop.Proofs.Native.Parts
import Interop.Proofs.Source.Names
import Mathlib.Data.List.Nodup

/-!
# The names of parameters

A parameter keeps the name that the header gives it, escaped if it is reserved, and one without a
name is called by its position. Nothing compares the two kinds of names. So parameters with
different names in the header are kept apart unless one of them is called what another one is
written as, the number of a nameless parameter or a reserved word with its `@`
(`Parameter.Clashes`). Without names in the header none clash, as in every delegate that is
invented for a function pointer.
-/

namespace Interop

open Identifier

namespace Identifier

variable {left right : String}

/-- Two names that are escaped alike are the same, or one is the other one escaped. -/
theorem escape_eq_escape_iff :
    escape left = escape right ↔ left = right ∨
      isKeyword right = true ∧ left = "@" ++ right ∨
      isKeyword left = true ∧ right = "@" ++ left := by
  constructor
  · intro h
    unfold escape at h
    split at h
    next hleft =>
      split at h
      next hright => exact .inl ((String.append_right_inj "@").mp h)
      next hright => exact .inr (.inr ⟨hleft, h.symm⟩)
    next hleft =>
      split at h
      next hright => exact .inr (.inl ⟨hright, h⟩)
      next hright => exact .inl h
  · rintro (rfl | ⟨hkeyword, rfl⟩ | ⟨hkeyword, rfl⟩)
    · rfl
    · rw [escape_of_isKeyword hkeyword, escape_of_not_isKeyword (isKeyword_at right)]
    · rw [escape_of_isKeyword hkeyword, escape_of_not_isKeyword (isKeyword_at left)]

end Identifier

/-! ## Clashes -/

namespace Parameter

variable {names : List String} {i j : Nat}

/-- The name that the header gives to the parameter at a position, empty if there is none. -/
def headerName (names : List String) (index : Nat) : String := names[index]?.getD ""

/-- What a parameter without a name in the header is called. -/
def numberName (index : Nat) : String := "arg" ++ toString index

theorem nativeName_eq (names : List String) (index : Nat) :
    nativeName names index =
      if headerName names index = "" then numberName index else headerName names index := by
  unfold nativeName headerName
  cases names[index]? with
  | none => rfl
  | some name => rfl

theorem nativeName_of_nameless (h : headerName names i = "") :
    nativeName names i = numberName i := by
  rw [nativeName_eq, if_pos h]

theorem nativeName_of_named (h : headerName names i ≠ "") :
    nativeName names i = headerName names i := by
  rw [nativeName_eq, if_neg h]

theorem numberName_injective (h : numberName i = numberName j) : i = j := numbered_injective h

theorem numberName_ne_at (index : Nat) (name : String) : numberName index ≠ "@" ++ name := by
  intro h
  have hvalid : isValid (numberName index) = true := isValid_numbered (by decide +kernel) index
  rw [h, not_isValid_at] at hvalid
  cases hvalid

theorem not_isKeyword_numberName (index : Nat) : isKeyword (numberName index) = false :=
  isKeyword_numbered _ _

/-- The header calls one parameter what another one is written as: the number of a nameless one,
or a reserved word with its `@`. -/
def Clashes (names : List String) (i j : Nat) : Prop :=
  headerName names j = "" ∧ headerName names i = numberName j ∨
    isKeyword (headerName names j) = true ∧ headerName names i = "@" ++ headerName names j

instance (names : List String) (i j : Nat) : Decidable (Clashes names i j) :=
  inferInstanceAs (Decidable (_ ∨ _))

theorem numberName_ne_empty (index : Nat) : numberName index ≠ "" := by
  simp [numberName]

theorem isKeyword_empty : isKeyword "" = false := by decide +kernel

/-- No parameters clash if the header names none. -/
theorem not_clashes_nil (i j : Nat) : ¬ Clashes [] i j := by
  simp [Clashes, headerName, isKeyword_empty, (numberName_ne_empty j).symm]

theorem not_clashes_self (i : Nat) : ¬ Clashes names i i := by
  rintro (⟨hnameless, hnumber⟩ | ⟨hkeyword, hat⟩)
  · exact numberName_ne_empty i (hnumber.symm.trans hnameless)
  · rw [hat, isKeyword_at] at hkeyword
    cases hkeyword

theorem exists_headerName_eq (named : headerName names i ≠ "") :
    ∃ hi : i < names.length, headerName names i = names[i] := by
  unfold headerName at named ⊢
  cases hname : names[i]? with
  | none =>
      rw [hname] at named
      exact absurd rfl named
  | some name =>
      obtain ⟨hi, rfl⟩ := List.getElem?_eq_some_iff.mp hname
      exact ⟨hi, rfl⟩

theorem headerName_ne_of_lt (distinct : (names.filter (· ≠ "")).Nodup) (hlt : i < j)
    (named : headerName names i ≠ "") : headerName names i ≠ headerName names j := by
  intro heq
  obtain ⟨hi, hnamei⟩ := exists_headerName_eq named
  obtain ⟨hj, hnamej⟩ := exists_headerName_eq (heq ▸ named)
  have hpairwise := List.pairwise_iff_getElem.mp (List.pairwise_filter.mp distinct)
  refine hpairwise i j hi hj hlt ?_ ?_ ?_
  · simpa [← hnamei] using named
  · simpa [← hnamej, ← heq] using named
  · rw [← hnamei, ← hnamej, heq]

/-- A name that differs from all others in the header belongs to one parameter. -/
theorem eq_of_headerName_eq (distinct : (names.filter (· ≠ "")).Nodup)
    (named : headerName names i ≠ "") (h : headerName names i = headerName names j) : i = j := by
  rcases Nat.lt_trichotomy i j with hlt | rfl | hlt
  · exact absurd h (headerName_ne_of_lt distinct hlt named)
  · rfl
  · exact absurd h.symm (headerName_ne_of_lt distinct hlt (h ▸ named))

/-- A parameter is written like a nameless one if the header calls it by that one's number. -/
theorem escape_eq_numberName_iff {name : String} :
    escape name = escape (numberName j) ↔ name = numberName j := by
  rw [escape_eq_escape_iff]
  constructor
  · rintro (heq | ⟨hkeyword, -⟩ | ⟨-, heq⟩)
    · exact heq
    · rw [not_isKeyword_numberName] at hkeyword
      cases hkeyword
    · exact absurd heq (numberName_ne_at _ _)
  · exact .inl

/-- Two parameters are written alike exactly if one of them clashes with the other. -/
theorem escape_nativeName_eq_iff (distinct : (names.filter (· ≠ "")).Nodup) (hne : i ≠ j) :
    escape (nativeName names i) = escape (nativeName names j) ↔
      Clashes names i j ∨ Clashes names j i := by
  by_cases hi : headerName names i = ""
  · by_cases hj : headerName names j = ""
    · rw [nativeName_of_nameless hi, nativeName_of_nameless hj, escape_eq_numberName_iff]
      constructor
      · intro heq
        exact absurd (numberName_injective heq) hne
      · simp [Clashes, hi, hj, isKeyword_empty, (numberName_ne_empty _).symm]
    · rw [nativeName_of_nameless hi, nativeName_of_named hj, eq_comm, escape_eq_numberName_iff]
      simp [Clashes, hi, hj, isKeyword_empty]
  · by_cases hj : headerName names j = ""
    · rw [nativeName_of_named hi, nativeName_of_nameless hj, escape_eq_numberName_iff]
      simp [Clashes, hi, hj, isKeyword_empty]
    · have hdiffer : headerName names i ≠ headerName names j :=
        fun heq => hne (eq_of_headerName_eq distinct hi heq)
      rw [nativeName_of_named hi, nativeName_of_named hj, escape_eq_escape_iff]
      simp [Clashes, hi, hj, hdiffer]

/-- Parameters that are written as the header has them, or by their positions, are kept apart
exactly if none of them clash. -/
theorem nodup_names_iff {params : List Parameter} (distinct : (names.filter (· ≠ "")).Nodup)
    (named : ∀ i (hi : i < params.length), params[i].name = escape (nativeName names i)) :
    (params.map (·.name)).Nodup ↔
      ∀ i < params.length, ∀ j < params.length, ¬ Clashes names i j := by
  have hnames : params.map (·.name) =
      (List.range params.length).map fun i => escape (nativeName names i) := by
    apply List.ext_getElem (by simp)
    intro i hi _
    rw [List.getElem_map, List.getElem_map, List.getElem_range]
    exact named i (by simpa using hi)
  rw [hnames, List.nodup_map_iff_inj_on List.nodup_range]
  simp only [List.mem_range]
  constructor
  · intro hinjective i hi j hj hclash
    have hne : i ≠ j := by
      rintro rfl
      exact not_clashes_self i hclash
    exact hne (hinjective i hi j hj ((escape_nativeName_eq_iff distinct hne).mpr (.inl hclash)))
  · intro hapart i hi j hj heq
    by_contra hne
    rcases (escape_nativeName_eq_iff distinct hne).mp heq with hclash | hclash
    · exact hapart i hi j hj hclash
    · exact hapart j hj i hi hclash

end Parameter

/-! ## Signatures -/

namespace Mapper

variable {mapper : Mapper} {type : NativeType} {position : Position} {scope : MapScope}
  {mapped : ManagedType}

/-- A delegate in plain view is what some signature is mapped to, without names from the header. -/
theorem Maps.exists_mapSignature_of_exposes (h : mapper.Maps type position scope mapped)
    {inner : Delegate} (hexposes : mapped.Exposes (.delegate inner)) :
    ∃ signature,
      mapper.mapSignature inner.name signature [] = .ok (inner.result, inner.params) := by
  induction h with
  | overlapped | aliased | void | callback | functionAddress | string | address | decayed | text
  | openArray | record | nameless | enumeration => cases hexposes
  | scalar fixed =>
      rcases TypeKind.eq_bool_or_primitive_of_scalar? fixed with rfl | ⟨_, rfl⟩ <;> cases hexposes
  | underlying _ _ _ ih | integer _ _ ih => exact ih hexposes
  | array _ _ _ _ ih =>
      cases hexposes with
      | element inner => exact ih inner
  | @delegate _ _ _ _ _ signature _ _ _ _ _ _ _ returned count named passed ihresult ihparams =>
      cases hexposes with
      | self =>
          refine ⟨signature, mapSignature_eq_ok_iff.mpr ⟨returned.map_eq, count, ?_⟩⟩
          intro i hi hi'
          exact ⟨named i hi, (passed i hi hi').map_eq⟩
      | result inner => exact ihresult inner
      | param mem inner =>
          obtain ⟨i, hi, rfl⟩ := List.getElem_of_mem mem
          exact ihparams i hi (count ▸ hi) inner

variable {owner : String} {signature : Signature} {names : List String} {result : ManagedType}
  {params : List Parameter}

theorem nodup_params_iff (distinct : (names.filter (· ≠ "")).Nodup)
    (h : mapper.mapSignature owner signature names = .ok (result, params)) :
    (params.map (·.name)).Nodup ↔
      ∀ i < params.length, ∀ j < params.length, ¬ Parameter.Clashes names i j := by
  obtain ⟨-, hcount, hparams⟩ := mapSignature_eq_ok_iff.mp h
  apply Parameter.nodup_names_iff distinct
  intro i hi
  exact (hparams i hi (hcount ▸ hi)).1

/-- In a delegate that is invented for a function pointer, at any depth in a type, the parameters
have different names. -/
theorem Maps.nodup_params (h : mapper.Maps type position scope mapped) {inner : Delegate}
    (hexposes : mapped.Exposes (.delegate inner)) : (inner.params.map (·.name)).Nodup := by
  obtain ⟨signature, hmapped⟩ := h.exists_mapSignature_of_exposes hexposes
  have hnone : (([] : List String).filter (· ≠ "")).Nodup := List.nodup_nil
  apply (nodup_params_iff hnone hmapped).mpr
  intro i _ j _
  exact Parameter.not_clashes_nil i j

/-- A mapped signature has a parameter for each native one, in order. If the header gives no name
twice, the names of the parameters differ exactly if none of them clash. In the delegates of its
types the names always differ. -/
theorem separatesParameters_iff (distinct : (names.filter (· ≠ "")).Nodup)
    (h : mapper.mapSignature owner signature names = .ok (result, params)) :
    params.length = signature.params.length ∧
    (∀ i (hi : i < params.length) (hi' : i < signature.params.length),
      params[i].name = escape (Parameter.nativeName names i) ∧
      mapper.map signature.params[i] .parameter
        (.ofMember owner (Parameter.nativeName names i)) = .ok params[i].type) ∧
    ((params.map (·.name)).Nodup ↔
      ∀ i < params.length, ∀ j < params.length, ¬ Parameter.Clashes names i j) ∧
    ∀ mapped ∈ result :: params.map (·.type), ∀ inner, mapped.Exposes (.delegate inner) →
      (inner.params.map (·.name)).Nodup := by
  obtain ⟨-, hcount, hparams⟩ := mapSignature_eq_ok_iff.mp h
  refine ⟨hcount, hparams, nodup_params_iff distinct h, ?_⟩
  intro mapped hmapped inner hexposes
  obtain ⟨_, _, _, hmaps⟩ := exists_maps_of_mapSignature h hmapped
  exact hmaps.nodup_params hexposes

/-- A function of so many numbers without a result. -/
def ofInts (count : Nat) : Signature := ⟨.void, List.replicate count .int, false, .c⟩

theorem mapSignature_ofInts (count : Nat) :
    mapper.mapSignature owner (ofInts count) names =
      .ok (.void, (List.range count).map fun i =>
        ⟨escape (Parameter.nativeName names i), .primitive .int⟩) := by
  refine mapSignature_eq_ok_iff.mpr ⟨Maps.map_eq (.void (.inl rfl)), by simp [ofInts], ?_⟩
  intro i hi hi'
  refine ⟨by simp, ?_⟩
  simp only [ofInts, List.getElem_replicate, List.getElem_map]
  exact Maps.map_eq (.scalar rfl)

theorem separatesParameters_iff_numbered :
    (["in", ""].filter (· ≠ "")).Nodup ∧
    (Mapper.mk ∅ true).mapSignature "add" (ofInts 2) ["in", ""] =
      .ok (.void, [⟨"@in", .primitive .int⟩, ⟨"arg1", .primitive .int⟩]) ∧
    ["@in", "arg1"].Nodup := by
  have hdistinct : (["in", ""].filter (· ≠ "")).Nodup := by decide
  have hmapped : (Mapper.mk ∅ true).mapSignature "add" (ofInts 2) ["in", ""] =
      .ok (.void, [⟨"@in", .primitive .int⟩, ⟨"arg1", .primitive .int⟩]) :=
    mapSignature_ofInts 2
  refine ⟨hdistinct, hmapped, ?_⟩
  exact (separatesParameters_iff hdistinct hmapped).2.2.1.mpr (by decide +kernel)

/-- A parameter may be called by the number that a nameless one takes. -/
theorem not_separatesParameters_numbered :
    ¬ ∀ (mapper : Mapper) (owner : String) (signature : Signature) (names : List String)
        (result : ManagedType) (params : List Parameter), (names.filter (· ≠ "")).Nodup →
      mapper.mapSignature owner signature names = .ok (result, params) →
      (params.map (·.name)).Nodup := by
  intro h
  have hdiffer := h ⟨∅, true⟩ "add" (ofInts 2) ["arg1", ""] _ _ (by decide) (mapSignature_ofInts 2)
  exact absurd hdiffer (by decide +kernel)

end Mapper

end Interop
