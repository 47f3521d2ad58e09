import Interop.Proofs.Native.Parts

/-!
# Headers without some of their nodes

`Declaration.without` takes nodes out of a declaration tree, wherever in the tree they stand. What
is said here holds when only functions are taken out: nothing below a function is ever walked
through, so the walk over what is left comes to the same declarations in the same order, without
those that were taken out (`TranslationUnit.agenda_without`).

`Declaration.OmitsFunctions` relates two lists of siblings of which the second lacks some functions
of the first, at any depth and each on its own. Taking out the remaining functions too makes them
equal.
-/

namespace Interop

namespace Declaration

mutual

/-- A node without the dropped nodes below it, at any depth. -/
def without (drops : Declaration → Bool) : Declaration → Declaration
  | ⟨kind, spelling, type, children, location, isDefinition, isAnonymousMember, linkage,
      enumValue, bitWidth, fieldOffsetBits, underlying⟩ =>
    ⟨kind, spelling, type, withoutAll drops children, location, isDefinition, isAnonymousMember,
      linkage, enumValue, bitWidth, fieldOffsetBits, underlying⟩
termination_by structural declaration => declaration

/-- The siblings that are not dropped, each without the dropped nodes below it. -/
def withoutAll (drops : Declaration → Bool) : List Declaration → List Declaration
  | [] => []
  | declaration :: siblings =>
    if drops declaration then withoutAll drops siblings
    else declaration.without drops :: withoutAll drops siblings
termination_by structural declarations => declarations

end

/-- Nothing but functions is dropped. -/
def OnlyFunctions (drops : Declaration → Bool) : Prop :=
  ∀ declaration, drops declaration = true → declaration.kind = .function

variable {drops : Declaration → Bool} {declaration : Declaration}

theorem without_eq (drops : Declaration → Bool) (declaration : Declaration) :
    declaration.without drops =
      { declaration with children := withoutAll drops declaration.children } := by
  obtain ⟨_, _, _, _, _, _, _, _, _, _, _, _⟩ := declaration
  rw [without]

@[simp] theorem kind_without : (declaration.without drops).kind = declaration.kind := by
  rw [without_eq]

@[simp] theorem spelling_without :
    (declaration.without drops).spelling = declaration.spelling := by
  rw [without_eq]

@[simp] theorem type_without : (declaration.without drops).type = declaration.type := by
  rw [without_eq]

@[simp] theorem isDefinition_without :
    (declaration.without drops).isDefinition = declaration.isDefinition := by
  rw [without_eq]

@[simp] theorem isAnonymousMember_without :
    (declaration.without drops).isAnonymousMember = declaration.isAnonymousMember := by
  rw [without_eq]

@[simp] theorem linkage_without : (declaration.without drops).linkage = declaration.linkage := by
  rw [without_eq]

@[simp] theorem enumValue_without :
    (declaration.without drops).enumValue = declaration.enumValue := by
  rw [without_eq]

@[simp] theorem bitWidth_without :
    (declaration.without drops).bitWidth = declaration.bitWidth := by
  rw [without_eq]

@[simp] theorem fieldOffsetBits_without :
    (declaration.without drops).fieldOffsetBits = declaration.fieldOffsetBits := by
  rw [without_eq]

@[simp] theorem children_without :
    (declaration.without drops).children = withoutAll drops declaration.children := by
  rw [without_eq]

@[simp] theorem typeName?_without :
    (declaration.without drops).typeName? = declaration.typeName? := by
  rw [without_eq]
  rfl

@[simp] theorem isEntered_without :
    (declaration.without drops).isEntered = declaration.isEntered := by
  rw [without_eq]
  rfl

@[simp] theorem bindingKind?_without :
    (declaration.without drops).bindingKind? = declaration.bindingKind? := by
  rw [without_eq]
  rfl

@[simp] theorem nativeName?_without {kind : SymbolKind} :
    (declaration.without drops).nativeName? kind = declaration.nativeName? kind := by
  rw [without_eq]
  cases kind <;> rfl

theorem withoutAll_eq (drops : Declaration → Bool) (siblings : List Declaration) :
    withoutAll drops siblings =
      (siblings.filter fun declaration => !drops declaration).map (without drops) := by
  induction siblings with
  | nil => rfl
  | cons declaration siblings ih =>
      rw [withoutAll, ih]
      by_cases hdrops : drops declaration = true
      · simp [hdrops]
      · simp [hdrops]

theorem withoutAll_append (before after : List Declaration) :
    withoutAll drops (before ++ after) = withoutAll drops before ++ withoutAll drops after := by
  simp [withoutAll_eq]

/-- Children that are no functions are all kept. -/
theorem childrenOfKind_without (only : OnlyFunctions drops) {kind : DeclarationKind}
    (hkind : kind ≠ .function) :
    (declaration.without drops).childrenOfKind kind =
      (declaration.childrenOfKind kind).map (without drops) := by
  rw [childrenOfKind, childrenOfKind, children_without, withoutAll_eq, List.filter_map,
    List.filter_filter]
  congr 1
  refine List.filter_congr fun child _ => ?_
  simp only [Function.comp_apply, kind_without]
  by_cases hdrops : drops child = true
  · have hfunction := only child hdrops
    simp [hdrops, hfunction, hkind.symm]
  · simp [hdrops]

mutual

theorem not_drops_of_mem_allNodes_without
    (stable : ∀ declaration : Declaration, drops (declaration.without drops) = drops declaration) :
    ∀ declaration node : Declaration,
      node ∈ allNodes (declaration.without drops).children → drops node = false
  | ⟨_, _, _, children, _, _, _, _, _, _, _, _⟩, node, h => by
    rw [children_without] at h
    exact not_drops_of_mem_allNodes stable children node h

/-- Nothing that is dropped is left at any depth, if nodes are dropped for what they are and not for
what is below them. -/
theorem not_drops_of_mem_allNodes
    (stable : ∀ declaration : Declaration, drops (declaration.without drops) = drops declaration) :
    ∀ (siblings : List Declaration) (node : Declaration),
      node ∈ allNodes (withoutAll drops siblings) → drops node = false
  | [], _, h => absurd h List.not_mem_nil
  | declaration :: siblings, node, h => by
    have hsiblings := not_drops_of_mem_allNodes stable siblings node
    rw [withoutAll] at h
    split at h
    next => exact hsiblings h
    next hkept =>
      rw [allNodes, nodes_eq, List.cons_append, List.mem_cons, List.mem_append] at h
      obtain hhead | hbelow | hlater := h
      · rw [hhead, stable]
        exact (Bool.not_eq_true _).mp hkept
      · exact not_drops_of_mem_allNodes_without stable declaration node hbelow
      · exact hsiblings hlater

end

/-! ## Walks -/

theorem isEntered_of_kind_eq_function (h : declaration.kind = .function) :
    declaration.isEntered = false := by
  simp [isEntered, h, DeclarationKind.isTransparent, DeclarationKind.isRecord]

mutual

theorem walk_without (only : OnlyFunctions drops) : ∀ declaration : Declaration,
    (declaration.without drops).walk = withoutAll drops declaration.walk
  | ⟨_, _, _, children, _, _, _, _, _, _, _, _⟩ => by
    rw [without, walk, walk]
    exact walkAll_withoutAll only children

/-- The walk over what is left leaves out what was dropped. -/
theorem walkAll_withoutAll (only : OnlyFunctions drops) : ∀ siblings : List Declaration,
    walkAll (withoutAll drops siblings) = withoutAll drops (walkAll siblings)
  | [] => rfl
  | declaration :: siblings => by
    have hsiblings := walkAll_withoutAll only siblings
    by_cases hdrops : drops declaration = true
    -- the walk does not look below a function, so only the node itself is missing
    · have hentered := isEntered_of_kind_eq_function (only declaration hdrops)
      rw [withoutAll, if_pos hdrops, walkAll, hentered, if_neg Bool.false_ne_true,
        List.singleton_append, withoutAll, if_pos hdrops, hsiblings]
    · have hbelow := walk_without only declaration
      rw [withoutAll, if_neg hdrops, walkAll, walkAll, List.cons_append, List.cons_append,
        withoutAll, if_neg hdrops, withoutAll_append, isEntered_without, hsiblings, hbelow]
      by_cases hentered : declaration.isEntered = true
      · rw [if_pos hentered, if_pos hentered]
      · rw [if_neg hentered, if_neg hentered]
        rfl

end

/-! ## Leaving out functions one by one -/

/-- Some functions of the first siblings are missing in the second, at any depth. -/
inductive OmitsFunctions : List Declaration → List Declaration → Prop
  | nil : OmitsFunctions [] []
  | drop {declaration : Declaration} {siblings kept : List Declaration}
      (function : declaration.kind = .function) (rest : OmitsFunctions siblings kept) :
      OmitsFunctions (declaration :: siblings) kept
  | keep {declaration : Declaration} {siblings kept children : List Declaration}
      (below : OmitsFunctions declaration.children children)
      (rest : OmitsFunctions siblings kept) :
      OmitsFunctions (declaration :: siblings) ({ declaration with children } :: kept)

mutual

theorem omitsFunctions_children_without (only : OnlyFunctions drops) :
    ∀ declaration : Declaration,
      OmitsFunctions declaration.children (declaration.without drops).children
  | ⟨_, _, _, children, _, _, _, _, _, _, _, _⟩ => by
    rw [without]
    exact omitsFunctions_withoutAll only children

/-- Dropping functions leaves some of them out. -/
theorem omitsFunctions_withoutAll (only : OnlyFunctions drops) : ∀ siblings : List Declaration,
    OmitsFunctions siblings (withoutAll drops siblings)
  | [] => .nil
  | declaration :: siblings => by
    have hsiblings := omitsFunctions_withoutAll only siblings
    have hbelow := omitsFunctions_children_without only declaration
    rw [withoutAll]
    split
    next hdrops => exact .drop (only declaration hdrops) hsiblings
    next =>
      rw [without_eq]
      rw [without_eq] at hbelow
      exact .keep hbelow hsiblings

end

/-- Whether a node declares a function. -/
def isFunction (declaration : Declaration) : Bool := declaration.kind = .function

theorem onlyFunctions_isFunction : OnlyFunctions isFunction :=
  fun _ hfunction => of_decide_eq_true hfunction

/-- Which functions were left out cannot be told once all are. -/
theorem OmitsFunctions.withoutAll_eq {siblings kept : List Declaration}
    (h : OmitsFunctions siblings kept) :
    withoutAll isFunction kept = withoutAll isFunction siblings := by
  induction h with
  | nil => rfl
  | @drop declaration siblings kept function _ ih =>
      have hdrops : declaration.isFunction = true := decide_eq_true function
      rw [ih, withoutAll, if_pos hdrops]
  | @keep declaration siblings kept children _ _ hbelow hrest =>
      rw [withoutAll, withoutAll, hrest, without_eq, without_eq]
      simp only [hbelow]
      rfl

end Declaration

/-! ## Headers -/

namespace TranslationUnit

/-- A header without the dropped nodes of its tree. -/
def without (drops : Declaration → Bool) (parsed : TranslationUnit) : TranslationUnit :=
  { parsed with root := parsed.root.without drops }

/-- Some functions of the first header are missing in the second. -/
def OmitsFunctions (parsed kept : TranslationUnit) : Prop :=
  ∃ children, Declaration.OmitsFunctions parsed.root.children children ∧
    kept = { parsed with root := { parsed.root with children } }

variable {drops : Declaration → Bool}

theorem declarations_without (only : Declaration.OnlyFunctions drops) (parsed : TranslationUnit) :
    (parsed.without drops).declarations = Declaration.withoutAll drops parsed.declarations :=
  Declaration.walk_without only parsed.root

theorem omitsFunctions_without (only : Declaration.OnlyFunctions drops)
    (parsed : TranslationUnit) : OmitsFunctions parsed (parsed.without drops) :=
  ⟨_, Declaration.omitsFunctions_withoutAll only parsed.root.children, by
    rw [without, Declaration.without_eq]⟩

/-- A run over what is left comes to the declarations that are not dropped. -/
theorem agenda_without (only : Declaration.OnlyFunctions drops) (units : List TranslationUnit) :
    agenda (units.map (without drops)) =
      ((agenda units).filter fun work => !drops work.2).map
        fun work => (work.1, work.2.without drops) := by
  have hpass : ∀ kind (parsed : TranslationUnit),
      (((parsed.without drops).declarations.filter fun declaration =>
        declaration.bindingKind? = some kind).map fun declaration => (kind, declaration)) =
      ((((parsed.declarations.filter fun declaration =>
        declaration.bindingKind? = some kind).map fun declaration => (kind, declaration)).filter
          fun work => !drops work.2).map fun work => (work.1, work.2.without drops)) := by
    intro kind parsed
    rw [declarations_without only, Declaration.withoutAll_eq]
    simp only [List.filter_map, List.map_map, List.filter_filter, Function.comp_def,
      Declaration.bindingKind?_without]
    congr 1
    exact List.filter_congr fun declaration _ => Bool.and_comm _ _
  simp only [agenda, List.flatMap_map, List.filter_flatMap, List.map_flatMap, hpass]

theorem OmitsFunctions.without_eq {parsed kept : TranslationUnit}
    (h : OmitsFunctions parsed kept) :
    kept.without Declaration.isFunction = parsed.without Declaration.isFunction := by
  obtain ⟨children, homits, rfl⟩ := h
  rw [without, without, Declaration.without_eq, Declaration.without_eq]
  simp only [homits.withoutAll_eq]

end TranslationUnit

end Interop
