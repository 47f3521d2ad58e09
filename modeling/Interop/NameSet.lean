/-!
# Finite sets of names

A set of names kept as a strictly increasing list, so that two sets with the same members are
equal (`NameSet.ext`) and the list is the order in which a set is shown. Names are ordered by
code point.
-/

namespace Interop

/-- A finite set of names. -/
structure NameSet where
  /-- The members in increasing order. -/
  toList : List String
  sorted : toList.Pairwise (· < ·)
deriving DecidableEq

namespace NameSet

/-- The set without members. -/
def empty : NameSet := ⟨[], .nil⟩

instance : EmptyCollection NameSet := ⟨empty⟩
instance : Inhabited NameSet := ⟨empty⟩

/-- Whether a name is a member. -/
def contains (names : NameSet) (name : String) : Bool :=
  names.toList.contains name

instance : Membership String NameSet := ⟨fun names name => name ∈ names.toList⟩

instance (name : String) (names : NameSet) : Decidable (name ∈ names) :=
  inferInstanceAs (Decidable (name ∈ names.toList))

theorem mem_def {name : String} {names : NameSet} : name ∈ names ↔ name ∈ names.toList := Iff.rfl

@[simp] theorem contains_iff {names : NameSet} {name : String} :
    names.contains name = true ↔ name ∈ names := by
  simp [contains, mem_def]

@[simp] theorem not_mem_empty (name : String) : name ∉ (∅ : NameSet) := by
  simp [mem_def, EmptyCollection.emptyCollection, empty]

/-- Put a name into an increasing list, at its place and once. -/
def insertSorted (name : String) : List String → List String
  | [] => [name]
  | head :: tail =>
    if name < head then name :: head :: tail
    else if name = head then head :: tail
    else head :: insertSorted name tail

theorem mem_insertSorted {name other : String} {list : List String} :
    other ∈ insertSorted name list ↔ other = name ∨ other ∈ list := by
  induction list with
  | nil => simp [insertSorted]
  | cons head tail ih =>
    simp only [insertSorted]
    split
    · simp
    · split
      · next h => subst h; simp
      · simp [ih, or_left_comm]

theorem insertSorted_sorted {name : String} {list : List String}
    (h : list.Pairwise (· < ·)) : (insertSorted name list).Pairwise (· < ·) := by
  induction list with
  | nil => simp [insertSorted]
  | cons head tail ih =>
    obtain ⟨hhead, htail⟩ := List.pairwise_cons.mp h
    simp only [insertSorted]
    split
    · next hlt =>
      refine List.pairwise_cons.mpr ⟨fun other hother => ?_, h⟩
      rcases List.mem_cons.mp hother with rfl | hmem
      · exact hlt
      · exact String.lt_trans hlt (hhead other hmem)
    · split
      · exact h
      · next hlt hne =>
        refine List.pairwise_cons.mpr ⟨fun other hother => ?_, ih htail⟩
        rcases mem_insertSorted.mp hother with rfl | hmem
        · refine Decidable.byContradiction fun hnot => hne ?_
          exact String.le_antisymm (String.not_lt.mp hnot) (String.not_lt.mp hlt)
        · exact hhead other hmem

/-- Add a name. -/
def insert (names : NameSet) (name : String) : NameSet :=
  ⟨insertSorted name names.toList, insertSorted_sorted names.sorted⟩

/-- Add the names of a list. -/
def insertAll (names : NameSet) (list : List String) : NameSet :=
  list.foldl insert names

/-- The set of the names of a list. -/
def ofList (list : List String) : NameSet :=
  insertAll ∅ list

@[simp] theorem mem_insert {names : NameSet} {name other : String} :
    other ∈ names.insert name ↔ other = name ∨ other ∈ names :=
  mem_insertSorted

@[simp] theorem mem_insertAll {names : NameSet} {list : List String} {other : String} :
    other ∈ names.insertAll list ↔ other ∈ list ∨ other ∈ names := by
  induction list generalizing names with
  | nil => simp [insertAll]
  | cons head tail ih =>
    have step : names.insertAll (head :: tail) = (names.insert head).insertAll tail := rfl
    rw [step, ih, mem_insert, List.mem_cons]
    grind

@[simp] theorem mem_ofList {list : List String} {name : String} :
    name ∈ ofList list ↔ name ∈ list := by
  simp [ofList]

private theorem eq_of_sorted_of_mem_iff {left right : List String}
    (hleft : left.Pairwise (· < ·)) (hright : right.Pairwise (· < ·))
    (h : ∀ name, name ∈ left ↔ name ∈ right) : left = right := by
  induction left generalizing right with
  | nil =>
    cases right with
    | nil => rfl
    | cons head tail => simpa using h head
  | cons a as ih =>
    cases right with
    | nil => simpa using h a
    | cons b bs =>
      obtain ⟨ha, has⟩ := List.pairwise_cons.mp hleft
      obtain ⟨hb, hbs⟩ := List.pairwise_cons.mp hright
      have hab : a = b := by
        rcases List.mem_cons.mp ((h a).mp (by simp)) with hEq | hmem
        · exact hEq
        · rcases List.mem_cons.mp ((h b).mpr (by simp)) with hEq | hmem'
          · exact hEq.symm
          · exact absurd (String.lt_trans (hb a hmem) (ha b hmem')) (String.lt_irrefl b)
      subst hab
      congr 1
      refine ih has hbs fun name => ?_
      have hname := h name
      simp only [List.mem_cons] at hname
      constructor
      · intro hmem
        rcases hname.mp (Or.inr hmem) with rfl | hres
        · exact absurd (ha name hmem) (String.lt_irrefl name)
        · exact hres
      · intro hmem
        rcases hname.mpr (Or.inr hmem) with rfl | hres
        · exact absurd (hb name hmem) (String.lt_irrefl name)
        · exact hres

/-- Sets with the same members are equal. -/
@[ext] theorem ext {left right : NameSet} (h : ∀ name, name ∈ left ↔ name ∈ right) :
    left = right := by
  obtain ⟨left, hleft⟩ := left
  obtain ⟨right, hright⟩ := right
  congr 1
  exact eq_of_sorted_of_mem_iff hleft hright h

end NameSet

end Interop
