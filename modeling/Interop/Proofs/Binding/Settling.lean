import Interop.Proofs.Binding.Runs
import Interop.Proofs.Native.Parts
import Mathlib.Logic.Function.Iterate

/-!
# From the empty index to the settled one

What holds of the empty index and passes from every index to the one that a run with it
discovers holds of the index that the last run consults (`BindingOptions.buildIndex_induction`).
The facts of this kind rest on headers that do not contradict themselves: a name declared once,
typedefs that mean everywhere what their declaration says, anonymous members without a name.
-/

namespace Interop

/-- What a type stands for, if it is the typedef called `name`. -/
def NativeType.standsFor? (type : NativeType) (name : String) : Option NativeType :=
  match type.kind with
  | .typedef other underlying => if other = name then some underlying else none
  | _ => none

/-- Items whose keys differ are determined by their key. -/
theorem eq_of_nodup_filterMap {α β : Type} {key? : α → Option β} {list : List α}
    (distinct : (list.filterMap key?).Nodup) {first second : α} (hfirst : first ∈ list)
    (hsecond : second ∈ list) {key : β} (hkey : key? first = some key)
    (hkey' : key? second = some key) : first = second := by
  have hpairwise := List.pairwise_filterMap.mp distinct
  have hsymm : Std.Symm fun item other => ∀ key, key? item = some key →
      ∀ key', key? other = some key' → key ≠ key' :=
    ⟨fun _ _ hdiffer key hkey key' hkey' heq => hdiffer key' hkey' key hkey heq.symm⟩
  by_contra hne
  exact hpairwise.forall hfirst hsecond hne key hkey key hkey' rfl

namespace TranslationUnit

variable (units : List TranslationUnit)

/-- The kind and the native name of every declaration that a run comes to. -/
def keys : List (SymbolKind × String) :=
  (agenda units).filterMap fun (kind, declaration) =>
    (declaration.nativeName? kind).map fun native => (kind, native)

/-- Declarations of one kind that share their name are the same. -/
def NamesDetermine : Prop :=
  ∀ kind first second name, (kind, first) ∈ agenda units → (kind, second) ∈ agenda units →
    first.nativeName? kind = some name → second.nativeName? kind = some name → first = second

/-- Every typedef type stands for what the declaration of its name, if there is one, gives as the
target. -/
def TypedefsAgree : Prop :=
  ∀ type ∈ types units, ∀ work ∈ agenda units, work.1 = .typedef →
    ∀ target ∈ work.2.typedefTarget?, ∀ underlying ∈ type.standsFor? work.2.spelling,
      underlying = target

instance : Decidable (TypedefsAgree units) :=
  inferInstanceAs (Decidable (∀ type ∈ types units, ∀ work ∈ agenda units, work.1 = .typedef →
    ∀ target ∈ work.2.typedefTarget?, ∀ underlying ∈ type.standsFor? work.2.spelling,
      underlying = target))

/-- Records that are members by themselves have no name. -/
def AnonymousRecordsNameless : Prop :=
  ∀ node ∈ nodes units, node.kind.isRecord = true → node.isAnonymousMember = true →
    node.typeName? = none

instance : Decidable (AnonymousRecordsNameless units) :=
  inferInstanceAs (Decidable (∀ node ∈ nodes units, node.kind.isRecord = true →
    node.isAnonymousMember = true → node.typeName? = none))

variable {units}

theorem mem_keys {kind : SymbolKind} {declaration : Declaration} {name : String}
    (h : (kind, declaration) ∈ agenda units) (hname : declaration.nativeName? kind = some name) :
    (kind, name) ∈ keys units :=
  List.mem_filterMap.mpr ⟨_, h, by simp [hname]⟩

/-- When no two declarations share kind and name, these determine the declaration. -/
theorem namesDetermine_of_nodup (distinct : (keys units).Nodup) : NamesDetermine units := by
  intro kind first second name hfirst hsecond hname hname'
  have hsame : (kind, first) = (kind, second) :=
    eq_of_nodup_filterMap distinct hfirst hsecond (by simp [hname] : _ = some (kind, name))
      (by simp [hname'])
  exact (Prod.mk.inj hsame).2

theorem TypedefsAgree.target_eq (agree : TypedefsAgree units) {type underlying target : NativeType}
    {name : String} {declaration : Declaration} (htype : type ∈ types units)
    (hkind : type.kind = .typedef name underlying) (hwork : (.typedef, declaration) ∈ agenda units)
    (hname : declaration.spelling = name) (htarget : declaration.typedefTarget? = some target) :
    target = underlying := by
  refine (agree type htype _ hwork rfl target htarget underlying ?_).symm
  rw [Option.mem_def, NativeType.standsFor?, hkind]
  exact if_pos hname.symm

end TranslationUnit

namespace BindingOptions

variable {options : BindingOptions} {units : List TranslationUnit} {motive : SymbolIndex → Prop}

theorem settle_induction
    (step : ∀ index, motive index → motive (options.discover units index)) (rounds : Nat)
    {index : SymbolIndex} (start : motive index) :
    motive (options.settle units rounds index) := by
  induction rounds generalizing index with
  | zero => exact start
  | succ rounds ih =>
      rw [settle]
      split
      · exact start
      · exact ih (step index start)

/-- The rounds are the iteration of one run; stopping early does not matter. -/
theorem settle_eq_iterate (rounds : Nat) (index : SymbolIndex) :
    options.settle units rounds index = (options.discover units)^[rounds] index := by
  induction rounds generalizing index with
  | zero => rfl
  | succ rounds ih =>
      rw [settle, Function.iterate_succ_apply]
      split
      next hfixed => rw [hfixed, Function.iterate_fixed hfixed]
      next => exact ih _

/-- What rounds preserve holds of the index for some headers. -/
theorem buildIndex_induction (empty : motive ∅)
    (step : ∀ index, motive index → motive (options.discover units index)) :
    motive (options.buildIndex units) :=
  settle_induction step maxRounds empty

end BindingOptions

end Interop
