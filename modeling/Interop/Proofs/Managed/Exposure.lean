import Interop.Managed.Symbol

/-!
# What a managed type shows

A handle hides what stands behind it: the pointee is a description for the reader and declares
nothing. All else is in plain view, the element of an array and the result and the parameters of
a delegate, at any depth. `ManagedType.Exposes` relates a type to its visible parts.

A delegate has to be declared before it is used. `ManagedType.delegates` lists the exposed
delegates of a type, each after those that its own signature mentions, and when the names of the
listed delegates differ none is listed twice (`BindingSymbol.declaresOnce`).
-/

namespace Interop

/-- A part of a type that does not stand behind a handle. -/
inductive ManagedType.Exposes : ManagedType → ManagedType → Prop
  | self (type : ManagedType) : Exposes type type
  | element {element part : ManagedType} {length : UInt64} (inner : Exposes element part) :
      Exposes (.array element length) part
  | result {signature : Delegate} {part : ManagedType} (inner : Exposes signature.result part) :
      Exposes (.delegate signature) part
  | param {signature : Delegate} {param : Parameter} {part : ManagedType}
      (mem : param ∈ signature.params) (inner : Exposes param.type part) :
      Exposes (.delegate signature) part

/-- The declaration that a type stores by value, itself or as the element of an array. -/
def ManagedType.embedded? : ManagedType → Option String
  | .named name => some name
  | .array element _ => element.embedded?
  | _ => none
termination_by structural type => type

theorem ManagedType.exposes_of_embedded? {type : ManagedType} {name : String}
    (h : type.embedded? = some name) : type.Exposes (.named name) := by
  fun_induction embedded? type with
  | case1 =>
      cases h
      exact .self _
  | case2 element length ih => exact .element (ih h)
  | case3 => cases h

/-- A delegate in the signature of another one, at any depth. -/
def Delegate.Mentions (signature inner : Delegate) : Prop :=
  signature.result.Exposes (.delegate inner) ∨
    ∃ param ∈ signature.params, param.type.Exposes (.delegate inner)

namespace Delegate

theorem withInner_eq (signature : Delegate) :
    signature.withInner = signature.result.delegates ++
      signature.params.flatMap (fun param => param.type.delegates) ++ [signature] := by
  obtain ⟨name, result, params, convention⟩ := signature
  simp [withInner]

end Delegate

namespace ManagedType

theorem delegates_delegate (signature : Delegate) :
    (delegate signature).delegates = signature.result.delegates ++
      signature.params.flatMap (fun param => param.type.delegates) ++ [signature] :=
  signature.withInner_eq

theorem mem_delegates_of_exposes {type : ManagedType} {signature : Delegate}
    (h : type.Exposes (.delegate signature)) : signature ∈ type.delegates := by
  generalize hpart : ManagedType.delegate signature = part at h
  induction h with
  | self =>
      subst hpart
      simp [delegates_delegate]
  | element _ ih => exact ih hpart
  | result _ ih => simp [delegates_delegate, ih hpart]
  | param mem _ ih =>
      rw [delegates_delegate]
      exact List.mem_append_left _ (List.mem_append_right _
        (List.mem_flatMap.mpr ⟨_, mem, ih hpart⟩))

end ManagedType

namespace Delegate

theorem mem_of_mentions {signature inner : Delegate} (h : signature.Mentions inner) :
    inner ∈ signature.result.delegates ++
      signature.params.flatMap (fun param => param.type.delegates) := by
  rcases h with hresult | ⟨param, hparam, hinner⟩
  · exact List.mem_append_left _ (ManagedType.mem_delegates_of_exposes hresult)
  · exact List.mem_append_right _
      (List.mem_flatMap.mpr ⟨param, hparam, ManagedType.mem_delegates_of_exposes hinner⟩)

end Delegate

/-- Where a list of delegates has a delegate after all those that its signature mentions. -/
def Delegate.ListedIn (signature : Delegate) (delegates : List Delegate) : Prop :=
  ∃ before after, delegates = before ++ signature :: after ∧
    ∀ inner, signature.Mentions inner → inner ∈ before

namespace Delegate.ListedIn

variable {signature : Delegate} {delegates : List Delegate}

theorem append_left (front : List Delegate) (h : signature.ListedIn delegates) :
    signature.ListedIn (front ++ delegates) := by
  obtain ⟨before, after, rfl, earlier⟩ := h
  refine ⟨front ++ before, after, by simp, ?_⟩
  intro inner hinner
  exact List.mem_append_right _ (earlier inner hinner)

theorem append_right (rest : List Delegate) (h : signature.ListedIn delegates) :
    signature.ListedIn (delegates ++ rest) := by
  obtain ⟨before, after, rfl, earlier⟩ := h
  exact ⟨before, after ++ rest, by simp, earlier⟩

theorem flatMap {α : Type} {list : List α} {item : α} {listed : α → List Delegate}
    (hmem : item ∈ list) (h : signature.ListedIn (listed item)) :
    signature.ListedIn (list.flatMap listed) := by
  obtain ⟨front, rest, rfl⟩ := List.append_of_mem hmem
  rw [List.flatMap_append, List.flatMap_cons]
  exact (h.append_right _).append_left _

end Delegate.ListedIn

/-- The delegates of a type list every exposed delegate after those it mentions. -/
theorem ManagedType.listedIn_delegates {type : ManagedType} {signature : Delegate}
    (h : type.Exposes (.delegate signature)) : signature.ListedIn type.delegates := by
  generalize hpart : ManagedType.delegate signature = part at h
  induction h with
  | self =>
      subst hpart
      exact ⟨_, [], delegates_delegate signature, fun _ => Delegate.mem_of_mentions⟩
  | element _ ih => exact ih hpart
  | result _ ih =>
      rw [delegates_delegate, List.append_assoc]
      exact (ih hpart).append_right _
  | param mem _ ih =>
      rw [delegates_delegate]
      exact (((ih hpart).flatMap mem).append_left _).append_right _

/-! ## Symbols -/

namespace SymbolBody

/-- The types that a declaration is made of. -/
def types : SymbolBody → List ManagedType
  | .record _ _ fields => fields.map (·.type)
  | .enumeration _ _ => []
  | .wrapper _ type => [type]
  | .delegate signature => signature.result :: signature.params.map (·.type)
  | .function result params _ => result :: params.map (·.type)

theorem delegates_eq_flatMap (body : SymbolBody) :
    body.delegates = body.types.flatMap (·.delegates) := by
  cases body <;> simp [delegates, types, List.flatMap_map]

end SymbolBody

namespace BindingSymbol

variable (symbol : BindingSymbol)

/-- A type in a declaration that does not stand behind a handle. -/
def Exposes (part : ManagedType) : Prop :=
  ∃ type ∈ symbol.body.types, type.Exposes part

/-- A symbol lists a delegate once, by name, and after every delegate that it mentions. -/
def DeclaresOnce (signature : Delegate) : Prop :=
  ∃ before after, symbol.delegates = before ++ signature :: after ∧
    signature.name ∉ (before ++ after).map (·.name) ∧
    ∀ inner, signature.Mentions inner → inner ∈ before

variable {symbol}

theorem listedIn_delegates {signature : Delegate} (h : symbol.Exposes (.delegate signature)) :
    signature.ListedIn symbol.delegates := by
  obtain ⟨type, htype, hexposes⟩ := h
  rw [delegates, SymbolBody.delegates_eq_flatMap]
  exact (ManagedType.listedIn_delegates hexposes).flatMap htype

/-- When the delegates of a symbol have different names, each exposed one is declared once. -/
theorem declaresOnce {signature : Delegate}
    (distinct : (symbol.delegates.map (·.name)).Nodup)
    (h : symbol.Exposes (.delegate signature)) : symbol.DeclaresOnce signature := by
  obtain ⟨before, after, heq, earlier⟩ := listedIn_delegates h
  refine ⟨before, after, heq, ?_, earlier⟩
  rw [heq, List.map_append, List.map_cons] at distinct
  have hperm := List.perm_middle.nodup_iff.mp distinct
  rw [List.map_append]
  exact (List.nodup_cons.mp hperm).1

end BindingSymbol

end Interop
