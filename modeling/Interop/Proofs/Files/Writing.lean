import Interop.Files.Tree

/-!
# What a written file changes

Putting an entry at a place changes that place alone. Making directories only adds directories, on
the way to the place that they are made for. So after a file is written its path leads to its
content, and whatever stood at any other place still stands there; what is new besides the file
are the directories above it.
-/

namespace Interop.FileTree

variable {tree made : FileTree} {names place above : List String} {entry : FileEntry}

/-! ## One entry -/

theorem lookup_filter_ne {entries : List (List String × FileEntry)} (h : place ≠ names) :
    (entries.filter (·.1 ≠ names)).lookup place = entries.lookup place := by
  induction entries with
  | nil => rfl
  | cons head entries ih =>
      obtain ⟨here, entry⟩ := head
      by_cases hhere : here = names
      · have hplace : (place == here) = false := by simpa [hhere] using h
        simpa [List.lookup_cons, hhere, hhere ▸ hplace] using ih
      · simp only [ne_eq, hhere, not_false_eq_true, decide_true, List.filter_cons_of_pos,
          List.lookup_cons, ih]

theorem lookup_filter_self {entries : List (List String × FileEntry)} :
    (entries.filter (·.1 ≠ names)).lookup names = none := by
  rw [List.lookup_eq_none_iff]
  intro member hmember
  obtain ⟨-, hne⟩ := List.mem_filter.mp hmember
  rw [bne_iff_ne]
  exact Ne.symm (of_decide_eq_true hne)

theorem entry?_put_self (h : names ≠ []) :
    FileTree.entry? (tree.put names entry) names = some entry := by
  rw [ entry?, if_neg h, put, List.lookup_append, lookup_filter_self]
  simp

theorem entry?_put_of_ne (h : place ≠ names) :
    FileTree.entry? (tree.put names entry) place = tree.entry? place := by
  have hbeq : (place == names) = false := beq_eq_false_iff_ne.mpr h
  have hsingle : [(names, entry)].lookup place = none := by simp [List.lookup_cons, hbeq]
  rw [ entry?, entry?, put, List.lookup_append, lookup_filter_ne h, hsingle, Option.or_none]

/-! ## Directories -/

/-- A tree has all that another one has, and what it has besides are directories of which `isNew`
holds. -/
def AddsDirectories (tree made : FileTree) (isNew : List String → Prop) : Prop :=
  ∀ place, made.entry? place = tree.entry? place ∨
    tree.entry? place = none ∧ made.entry? place = some .directory ∧ isNew place

namespace AddsDirectories

variable {isNew isOther : List String → Prop} {last : FileTree}

theorem refl (tree : FileTree) (isNew : List String → Prop) : tree.AddsDirectories tree isNew :=
  fun _ => .inl rfl

theorem mono (h : tree.AddsDirectories made isNew) (himp : ∀ place, isNew place → isOther place) :
    tree.AddsDirectories made isOther := by
  intro place
  rcases h place with hsame | ⟨hnone, hmade, hnew⟩
  · exact .inl hsame
  · exact .inr ⟨hnone, hmade, himp place hnew⟩

theorem trans (first : tree.AddsDirectories made isNew)
    (second : made.AddsDirectories last isNew) : tree.AddsDirectories last isNew := by
  intro place
  rcases second place with hsame | ⟨hnone, hlast, hnew⟩
  · rw [hsame]
    exact first place
  · rcases first place with hsame | ⟨_, hmade, _⟩
    · exact .inr ⟨hsame ▸ hnone, hlast, hnew⟩
    · simp [hnone] at hmade

end AddsDirectories

theorem addsDirectories_put (hnone : tree.entry? names = none) :
    tree.AddsDirectories (tree.put names .directory) (· = names) := by
  intro place
  by_cases hplace : place = names
  · subst hplace
    have hnames : place ≠ [] := by
      rintro rfl
      simp [ entry?] at hnone
    exact .inr ⟨hnone, entry?_put_self hnames, rfl⟩
  · exact .inl (entry?_put_of_ne hplace)

/-- The directories that are made are on the way to the place they are made for. -/
theorem addsDirectories_makeDirectoriesFrom
    (h : tree.makeDirectoriesFrom above names = .ok made) :
    tree.AddsDirectories made (· <+: above ++ names) := by
  induction names generalizing tree above with
  | nil =>
      cases h
      exact .refl _ _
  | cons name names ih =>
      have hpath : above ++ name :: names = above ++ [name] ++ names := by simp
      rw [makeDirectoriesFrom] at h
      rw [hpath]
      split at h
      · cases h
      · exact ih h
      next hnone =>
        split at h
        · refine ((addsDirectories_put hnone).mono ?_).trans (ih h)
          rintro place rfl
          exact List.prefix_append _ names
        · cases h

theorem addsDirectories_prepare {path : String} (h : tree.prepare path = .ok made) :
    tree.AddsDirectories made (· <+: (Path.names path).dropLast) := by
  rw [prepare] at h
  split at h
  · exact addsDirectories_makeDirectoriesFrom h
  · cases h

/-! ## A file -/

/-- A tree after a file is written: the file is read back, and every other place has what it had
or, above the file, a new directory. -/
structure Receives (tree written : FileTree) (path content : String) : Prop where
  read : written.read? path = some content
  others : ∀ place, place ≠ Path.names path → written.entry? place = tree.entry? place ∨
    tree.entry? place = none ∧ written.entry? place = some .directory ∧
      place <+: (Path.names path).dropLast

theorem receives_replace? {path content : String} {written : FileTree}
    (h : tree.replace? path content = some written) :
    written.read? path = some content ∧
      ∀ place, place ≠ Path.names path → written.entry? place = tree.entry? place := by
  rw [replace?] at h
  split at h
  · cases h
  next hpath =>
    rw [putFile?] at h
    split at h
    next name hlast =>
      split at h
      · cases h
        have hnames : Path.names path ≠ [] := by
          intro hnil
          simp [hnil] at hlast
        refine ⟨?_, fun place hplace => entry?_put_of_ne hplace⟩
        rw [read?, entry?_put_self hnames]
        exact if_neg hpath
      · cases h
    · cases h

/-- A file that is written is read back, and nothing else is lost. -/
theorem receives_write {path content : String} {written : FileTree}
    (h : tree.write path content = (.ok (), written)) : tree.Receives written path content := by
  rw [write] at h
  split at h
  · cases h
  next prepared hprepared =>
    split at h
    · cases hreplaced : prepared.replace? path content with
      | none => simp [hreplaced] at h
      | some after =>
          simp only [hreplaced, Prod.mk.injEq, true_and] at h
          subst h
          obtain ⟨hread, hothers⟩ := receives_replace? hreplaced
          refine ⟨hread, ?_⟩
          intro place hplace
          rw [hothers place hplace]
          exact addsDirectories_prepare hprepared place
    · cases h

end Interop.FileTree
