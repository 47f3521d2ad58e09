import Interop.Native.Declaration

/-!
# Walking a header step by step

`Declaration.walk` is a recursion over the tree of declarations. `Walk.next?` has no tree to
recurse over: it holds, for every level that it is inside of, the siblings still to come there.
The nodes that such a walk has still to deliver are those of its levels, the innermost first
(`Walk.pending`), and one call takes the first of them away. So calling again and again comes to
an end, and delivers the nodes of the recursion (`Walk.delivers_below_iff`).
-/

namespace Interop

/-! ## The recursion -/

namespace Declaration

theorem walk_eq (declaration : Declaration) :
    declaration.walk = walkAll declaration.children := by
  obtain ⟨_, _, _, _, _, _, _, _, _, _, _, _⟩ := declaration
  rw [walk]

theorem walkAll_eq_flatMap (siblings : List Declaration) :
    walkAll siblings = siblings.flatMap fun declaration =>
      declaration :: if declaration.isEntered then declaration.walk else [] := by
  induction siblings with
  | nil => rfl
  | cons declaration siblings ih => rw [walkAll, List.flatMap_cons, ih, List.cons_append]

theorem walk_of_children_eq_nil {declaration : Declaration} (h : declaration.children = []) :
    declaration.walk = [] := by
  rw [walk_eq, h, walkAll]

end Declaration

/-! ## The calls -/

namespace Walk

variable {levels later : Walk} {declaration : Declaration} {nodes : List Declaration}

/-- The nodes that a walk has still to deliver. -/
def pending (levels : Walk) : List Declaration := levels.flatMap Declaration.walkAll

@[simp] theorem pending_nil : pending [] = [] := rfl

@[simp] theorem pending_cons (siblings : List Declaration) (outer : Walk) :
    pending (siblings :: outer) = Declaration.walkAll siblings ++ pending outer := rfl

theorem pending_below (declaration : Declaration) :
    (below declaration).pending = declaration.walk := by
  rw [below, pending_cons, pending_nil, List.append_nil, Declaration.walk_eq]

/-- A call delivers the first pending node and leaves the others pending. -/
theorem pending_of_next? (h : levels.next? = some (declaration, later)) :
    levels.pending = declaration :: later.pending := by
  fun_induction next? levels with
  | case1 => cases h
  | case2 outer ih => exact ih h
  | case3 node siblings outer hentered =>
      cases h
      obtain ⟨hisEntered, -⟩ := Bool.and_eq_true_iff.mp hentered
      simp only [pending_cons, Declaration.walkAll, hisEntered, if_true, Declaration.walk_eq,
        List.cons_append, List.append_assoc]
  | case4 node siblings outer hnot =>
      -- A node that is entered in vain has no nodes below it.
      have hinside : (if node.isEntered then node.walk else []) = [] := by
        split
        next hisEntered =>
          apply Declaration.walk_of_children_eq_nil
          simpa [hisEntered] using hnot
        next => rfl
      cases h
      simp only [pending_cons, Declaration.walkAll, hinside, List.cons_append, List.nil_append]

/-- A call delivers nothing only when no node is pending: exhausted levels do not stop a walk. -/
theorem next?_eq_none_iff : levels.next? = none ↔ levels.pending = [] := by
  constructor
  · intro h
    fun_induction next? levels with
    | case1 => rfl
    | case2 outer ih => exact ih h
    | case3 => cases h
    | case4 => cases h
  · intro h
    cases hnext : levels.next? with
    | none => rfl
    | some answer =>
        rw [pending_of_next? hnext] at h
        cases h

/-- What calls deliver, made again and again until one delivers nothing. -/
inductive Delivers : Walk → List Declaration → Prop
  | done {levels : Walk} (exhausted : levels.next? = none) : Delivers levels []
  | node {levels later : Walk} {declaration : Declaration} {nodes : List Declaration}
      (call : levels.next? = some (declaration, later)) (calls : Delivers later nodes) :
      Delivers levels (declaration :: nodes)

theorem Delivers.eq_pending (h : levels.Delivers nodes) : nodes = levels.pending := by
  induction h with
  | done exhausted => exact (next?_eq_none_iff.mp exhausted).symm
  | node call _ ih => rw [pending_of_next? call, ih]

/-- Every walk ends: each call leaves one pending node less. -/
theorem delivers_pending (levels : Walk) : levels.Delivers levels.pending := by
  generalize hpending : levels.pending = nodes
  induction nodes generalizing levels with
  | nil => exact .done (next?_eq_none_iff.mpr hpending)
  | cons first rest ih =>
      cases hnext : levels.next? with
      | none =>
          rw [next?_eq_none_iff.mp hnext] at hpending
          cases hpending
      | some answer =>
          obtain ⟨declaration, later⟩ := answer
          have hstep := (pending_of_next? hnext).symm.trans hpending
          obtain ⟨rfl, hlater⟩ := List.cons_eq_cons.mp hstep
          exact .node hnext (ih later hlater)

theorem delivers_iff : levels.Delivers nodes ↔ nodes = levels.pending := by
  constructor
  · exact Delivers.eq_pending
  · rintro rfl
    exact delivers_pending levels

/-- The calls of a walk below a declaration come to an end and deliver the nodes of the recursion:
each child, followed by the nodes below it if it groups declarations or defines a record. -/
theorem delivers_below_iff (declaration : Declaration) :
    (∀ nodes, (below declaration).Delivers nodes ↔ nodes = declaration.walk) ∧
      declaration.walk = declaration.children.flatMap fun child =>
        child :: if child.kind.isTransparent || (child.kind.isRecord && child.isDefinition) then
          child.walk else [] := by
  constructor
  · intro nodes
    rw [delivers_iff, pending_below]
  · rw [Declaration.walk_eq, Declaration.walkAll_eq_flatMap]
    rfl

end Walk

end Interop
