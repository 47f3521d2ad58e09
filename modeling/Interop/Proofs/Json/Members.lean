import Interop.Json.Decode
import Mathlib.Data.List.Nodup

/-!
# Reading what was written

The readers for records and variants, applied to values of the form that a writer makes. The
reader of a member looks the member up and sees nothing else of the record; on an object that is
written out the readers take its members one by one.

A writer may leave members out. `Value.Keeps` says that of all members of a record some are there
and every other one may be missing. Then a required member is read as if all were there, and so
is an optional one if it may be missing only when it has its default.
-/

namespace Interop.Json.Value

variable {α : Type} {value part : Value} {key : String} {read : Value → Option α}

/-! ## Scalars -/

@[simp] theorem text?_text (text : String) : (Value.text text).text? = some text := by
  simp [text?]

@[simp] theorem bool?_bool (b : Bool) : (Value.bool b).bool? = some b := by
  simp [bool?]

@[simp] theorem word?_text (word : String) : (Value.text word).word? = some word := by
  simp [word?, tagged?]

@[simp] theorem uint32?_ofNat (n : UInt32) : (ofNat n.toNat).uint32? = some n := by
  have hbound := n.toNat_lt
  simp [uint32?, ofNat, intBetween?, UInt32.size]
  omega

@[simp] theorem uint64?_ofNat (n : UInt64) : (ofNat n.toNat).uint64? = some n := by
  have hbound := n.toNat_lt
  simp [uint64?, ofNat, intBetween?, UInt64.size]
  omega

@[simp] theorem int32?_integer (n : Int32) : (Value.integer n.toInt).int32? = some n := by
  have hlow := n.le_toInt
  have hhigh := n.toInt_le
  simp [int32?, intBetween?]
  omega

@[simp] theorem int64?_integer (n : Int64) : (Value.integer n.toInt).int64? = some n := by
  have hlow := n.le_toInt
  have hhigh := n.toInt_le
  simp [int64?, intBetween?]
  omega

@[simp] theorem ofNat_ne_null (n : Nat) : ofNat n ≠ .null := by
  simp [ofNat]

/-! ## Members -/

theorem required_of_member? (h : value.member? key = some part) :
    value.required key (fun part _ => read part) = read part := by
  unfold required
  split <;> simp_all

theorem optional_of_member? {default : α} (h : value.member? key = some part) :
    value.optional key default (fun part _ => read part) = read part := by
  unfold optional
  split <;> simp_all

theorem optional_of_missing {default : α} (h : value.member? key = none) :
    value.optional key default (fun part _ => read part) = some default := by
  unfold optional
  split <;> simp_all

theorem read_of_optional {default a : α}
    (h : value.optional key default (fun part _ => read part) = some a) :
    a = default ∨ ∃ part, read part = some a := by
  cases hmember : value.member? key with
  | none =>
      rw [optional_of_missing hmember] at h
      exact .inl (Option.some.inj h).symm
  | some part =>
      rw [optional_of_member? hmember] at h
      exact .inr ⟨part, h⟩

theorem nullable_of_missing (h : value.member? key = none) :
    value.nullable key (fun part _ => read part) = some none := by
  unfold nullable
  split <;> simp_all

/-- A member that may be null, read part by part. -/
theorem nullable_of_rel {β : Type} {encode : β → Value} {written : Option β}
    {result : Option α} (h : value.member? key = some (ofOption encode written))
    (back : Option.Rel (fun b a => encode b ≠ .null ∧ read (encode b) = some a) written result) :
    value.nullable key (fun part _ => read part) = some result := by
  unfold nullable
  cases back with
  | none => split <;> simp_all [ofOption]
  | some hback =>
      obtain ⟨hpresent, hread⟩ := hback
      split <;> simp_all [ofOption]

theorem rel_self {encode : α → Value} (written : Option α) (present : ∀ a, encode a ≠ .null)
    (back : ∀ a, read (encode a) = some a) :
    Option.Rel (fun b a => encode b ≠ .null ∧ read (encode b) = some a) written written := by
  cases written with
  | none => exact .none
  | some a => exact .some ⟨present a, back a⟩

/-! A reader looks at nothing but its member. -/

section

variable {other : Value}

theorem required_congr (h : value.member? key = other.member? key) :
    value.required key (fun part _ => read part) =
      other.required key (fun part _ => read part) := by
  unfold required
  split <;> split <;> simp_all

theorem nullable_congr (h : value.member? key = other.member? key) :
    value.nullable key (fun part _ => read part) =
      other.nullable key (fun part _ => read part) := by
  unfold nullable
  split <;> split <;> simp_all

end

/-! On an object that is written out, the readers find their members one by one. -/

section

variable {other : String} {first : Value} {members : List (String × Value)}

theorem member?_cons_self : (object ((key, part) :: members)).member? key = some part := by
  simp [member?, lookup]

theorem member?_cons_of_ne (h : other ≠ key) :
    (object ((other, first) :: members)).member? key = (object members).member? key := by
  simp [member?, lookup, h]

@[simp] theorem required_cons_self :
    (object ((key, part) :: members)).required key (fun part _ => read part) = read part :=
  required_of_member? member?_cons_self

@[simp] theorem required_cons_of_ne (h : other ≠ key) :
    (object ((other, first) :: members)).required key (fun part _ => read part) =
      (object members).required key (fun part _ => read part) :=
  required_congr (member?_cons_of_ne h)

@[simp] theorem nullable_cons_self {encode : α → Value} {written : Option α}
    (present : ∀ a, encode a ≠ .null) (back : ∀ a, read (encode a) = some a) :
    (object ((key, ofOption encode written) :: members)).nullable key
      (fun part _ => read part) = some written :=
  nullable_of_rel member?_cons_self (rel_self written present back)

@[simp] theorem nullable_cons_of_ne (h : other ≠ key) :
    (object ((other, first) :: members)).nullable key (fun part _ => read part) =
      (object members).nullable key (fun part _ => read part) :=
  nullable_congr (member?_cons_of_ne h)

end

/-! ## Elements and variants -/

theorem elements_array {values : List Value} :
    (Value.array values).elements (fun part _ => read part) = values.mapM read := by
  show readAll values _ = _
  induction values with
  | nil => rfl
  | cons value values ih => simp [readAll, ih]

theorem mapM_eq_some_of_forall₂ {written : List α} {values : List Value}
    (h : List.Forall₂ (fun a value => read value = some a) written values) :
    values.mapM read = some written := by
  induction h with
  | nil => rfl
  | cons head _ ih => simp [head, ih]

/-- A list is read back when each of its elements is. -/
theorem elements_map {encode : α → Value} {list : List α}
    (back : ∀ a ∈ list, read (encode a) = some a) :
    (Value.array (list.map encode)).elements (fun part _ => read part) = some list := by
  rw [elements_array]
  apply mapM_eq_some_of_forall₂
  rw [List.forall₂_map_right_iff, List.forall₂_same]
  exact back

/-- The data of a variant; null would stand for a variant without data. -/
theorem tagged?_object {name : String} (h : part ≠ .null) :
    (Value.object [(name, part)]).tagged? = some (.data name part (by
      simp only [Value.object.sizeOf_spec, List.cons.sizeOf_spec, Prod.mk.sizeOf_spec]
      omega)) := by
  cases part <;> simp_all [tagged?]

/-! ## Members that are left out -/

theorem mem_of_lookup {members : List (String × Value)} (h : lookup key members = some part) :
    (key, part) ∈ members := by
  induction members with
  | nil => cases h
  | cons head tail ih =>
      obtain ⟨other, first⟩ := head
      by_cases hother : other = key
      · subst hother
        simp [lookup] at h
        simp [h]
      · rw [lookup, if_neg hother] at h
        exact List.mem_cons_of_mem _ (ih h)

theorem lookup_eq_none_iff {members : List (String × Value)} :
    lookup key members = none ↔ key ∉ members.map (·.1) := by
  induction members with
  | nil => simp [lookup]
  | cons head tail ih =>
      obtain ⟨other, first⟩ := head
      by_cases hother : other = key
      · simp [lookup, hother]
      · rw [lookup, if_neg hother, ih]
        simp [Ne.symm hother]

/-- Some members of a record, in its order; those that are not among them may be missing. -/
structure Keeps (all kept : List (String × Value)) (mayMiss : String → Prop) : Prop where
  sublist : kept.Sublist all
  missing : ∀ key ∈ all.map (·.1), key ∉ kept.map (·.1) → mayMiss key

namespace Keeps

variable {all kept : List (String × Value)} {mayMiss : String → Prop}

theorem refl (all : List (String × Value)) (mayMiss : String → Prop) : Keeps all all mayMiss :=
  ⟨List.Sublist.refl all, fun _ hmem hmissing => absurd hmem hmissing⟩

/-- Any members that may be missing can be left out. -/
theorem of_filter (dropped : List String) (usual : ∀ key ∈ dropped, mayMiss key) :
    Keeps all (all.filter (·.1 ∉ dropped)) mayMiss := by
  refine ⟨List.filter_sublist, ?_⟩
  intro key hkey hmissing
  apply usual
  by_contra hkept
  obtain ⟨member, hmember, rfl⟩ := List.mem_map.mp hkey
  apply hmissing
  exact List.mem_map_of_mem (List.mem_filter.mpr ⟨hmember, by simpa using hkept⟩)

/-- A member is there with its value, or it is missing and may be. -/
theorem member?_eq (h : Keeps all kept mayMiss) (distinct : (all.map (·.1)).Nodup)
    (found : lookup key all = some part) :
    (object kept).member? key = some part ∨
      (object kept).member? key = none ∧ mayMiss key := by
  have hall : (key, part) ∈ all := mem_of_lookup found
  rw [member?]
  cases hlookup : lookup key kept with
  | none =>
      have hkey : key ∈ all.map (·.1) := List.mem_map_of_mem hall
      exact .inr ⟨rfl, h.missing key hkey (lookup_eq_none_iff.mp hlookup)⟩
  | some other =>
      have hother : (key, other) ∈ all := h.sublist.subset (mem_of_lookup hlookup)
      have hsame := List.inj_on_of_nodup_map distinct hother hall rfl
      cases hsame
      exact .inl rfl

theorem required_eq (h : Keeps all kept mayMiss) (distinct : (all.map (·.1)).Nodup)
    (found : lookup key all = some part) {a : α} (back : read part = some a)
    (needed : ¬ mayMiss key) :
    (object kept).required key (fun part _ => read part) = some a := by
  rcases h.member?_eq distinct found with hthere | ⟨-, hmissing⟩
  · rw [required_of_member? hthere, back]
  · exact absurd hmissing needed

/-- A member that may be missing only when it has its default. -/
theorem optional_eq (h : Keeps all kept mayMiss) (distinct : (all.map (·.1)).Nodup)
    (found : lookup key all = some part) {a default : α} (back : read part = some a)
    (usual : mayMiss key → a = default) :
    (object kept).optional key default (fun part _ => read part) = some a := by
  rcases h.member?_eq distinct found with hthere | ⟨hnone, hmissing⟩
  · rw [optional_of_member? hthere, back]
  · rw [optional_of_missing hnone, usual hmissing]

/-- A member that may be null, and may be missing only when it would be. -/
theorem nullable_eq (h : Keeps all kept mayMiss) (distinct : (all.map (·.1)).Nodup)
    {β : Type} {encode : β → Value} {written : Option β} {result : Option α}
    (found : lookup key all = some (ofOption encode written))
    (back : Option.Rel (fun b a => encode b ≠ .null ∧ read (encode b) = some a) written result)
    (usual : mayMiss key → result = none) :
    (object kept).nullable key (fun part _ => read part) = some result := by
  rcases h.member?_eq distinct found with hthere | ⟨hnone, hmissing⟩
  · exact nullable_of_rel hthere back
  · rw [nullable_of_missing hnone, usual hmissing]

end Keeps

end Interop.Json.Value
