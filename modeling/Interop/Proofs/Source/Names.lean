import Interop.Proofs.Lowering.Names
import Interop.Proofs.Source.Pieces

/-!
# Names that can be written

When every name in the text of a symbol is one that the generated language accepts. A symbol keeps
the names of what it declares in the form in which they are written, and the names of the types it
refers to as they are, to be escaped in writing. `BindingSymbol.IsWellNamed` asks of both what
that takes. Then all names that the symbol uses are written well
(`BindingSymbol.IsWellNamed.isWritten_of_uses`), and so are all names among its pieces
(`BindingSymbol.IsWellNamed.isWritten_of_mem_writtenNames`).
-/

namespace Interop

/-! ## Identifiers -/

namespace Identifier

variable {name rest text : String} {c : Char}

theorem isPart_of_isStart (h : isStart c = true) : isPart c = true := by
  unfold isStart at h
  unfold isPart
  simp only [Char.isAlphanum]
  grind

theorem isPart_of_isValid (h : isValid name = true) : ∀ c ∈ name.toList, isPart c = true := by
  unfold isValid at h
  cases hname : name.toList with
  | nil => simp
  | cons first rest =>
      rw [hname, isValidChars, Bool.and_eq_true, List.all_eq_true] at h
      exact List.forall_mem_cons.mpr ⟨isPart_of_isStart h.1, h.2⟩

/-- An identifier can be continued. -/
theorem isValid_append (h : isValid name = true) (hrest : ∀ c ∈ rest.toList, isPart c = true) :
    isValid (name ++ rest) = true := by
  unfold isValid at h ⊢
  rw [String.toList_append]
  cases hname : name.toList with
  | nil => simp [hname, isValidChars] at h
  | cons first tail =>
      rw [hname, isValidChars, Bool.and_eq_true, List.all_eq_true] at h
      rw [List.cons_append, isValidChars, Bool.and_eq_true, List.all_eq_true]
      exact ⟨h.1, List.forall_mem_append.mpr ⟨h.2, hrest⟩⟩

theorem isValid_append_underscore (h : isValid name = true) : isValid (name ++ "_") = true := by
  apply isValid_append h
  simp [isPart]

/-- Two identifiers with an underscore between them form one. -/
theorem isValid_join (h : isValid name = true) (hrest : isValid rest = true) :
    isValid (name ++ "_" ++ rest) = true :=
  isValid_append (isValid_append_underscore h) (isPart_of_isValid hrest)

theorem isPart_of_isDigit (h : c.isDigit = true) : isPart c = true := by
  simp [isPart, Char.isAlphanum, h]

/-- An identifier with a number after it is one. -/
theorem isValid_numbered (h : isValid name = true) (number : Nat) :
    isValid (name ++ toString number) = true := by
  refine isValid_append h ?_
  intro c hc
  rw [Nat.toString_eq_repr, Nat.toList_repr] at hc
  exact isPart_of_isDigit (Nat.isDigit_of_mem_toDigits (by decide) (by decide) hc)

/-- Different numbers make different names. -/
theorem numbered_injective {i j : Nat} (h : name ++ toString i = name ++ toString j) : i = j := by
  have hdigits : Nat.toDigits 10 i = Nat.toDigits 10 j := by
    have htext : toString i = toString j := (String.append_right_inj name).mp h
    rw [Nat.toString_eq_ofList_toDigits, Nat.toString_eq_ofList_toDigits] at htext
    exact String.ofList_injective htext
  calc i
    _ = Nat.ofDigitChars 10 (Nat.toDigits 10 i) 0 := Nat.ofDigitChars_ten_toDigits.symm
    _ = Nat.ofDigitChars 10 (Nat.toDigits 10 j) 0 := by rw [hdigits]
    _ = j := Nat.ofDigitChars_ten_toDigits

/-- A name with a number at its end has no underscore there. -/
theorem numbered_ne_append_underscore (name other : String) (number : Nat) :
    name ++ toString number ≠ other ++ "_" := by
  intro h
  have hlast := congrArg (fun text => text.toList.getLast?) h
  simp only [String.toList_append, Nat.toString_eq_repr, Nat.toList_repr] at hlast
  rw [List.getLast?_append, List.getLast?_append,
    List.getLast?_eq_some_getLast Nat.toDigits_ne_nil, Option.some_or] at hlast
  have hunderscore : (Nat.toDigits 10 number).getLast Nat.toDigits_ne_nil = '_' :=
    Option.some.inj hlast
  have hin : '_' ∈ Nat.toDigits 10 number := hunderscore ▸ List.getLast_mem Nat.toDigits_ne_nil
  exact absurd (Nat.isDigit_of_mem_toDigits (by decide) (by decide) hin) (by decide)

/-- No reserved word has a number in it. -/
theorem isKeyword_numbered (name : String) (number : Nat) :
    isKeyword (name ++ toString number) = false := by
  have hkeywords : ∀ word ∈ keywords, (word.toList.all fun c => !c.isDigit) = true := by
    decide +kernel
  by_contra hkeyword
  have hmem : name ++ toString number ∈ keywords := by simpa [isKeyword] using hkeyword
  obtain ⟨digit, hdigit⟩ := List.exists_mem_of_ne_nil (Nat.toDigits 10 number) Nat.toDigits_ne_nil
  have hin : digit ∈ (name ++ toString number).toList := by
    rw [String.toList_append, Nat.toString_eq_repr, Nat.toList_repr]
    exact List.mem_append_right _ hdigit
  have hisDigit : digit.isDigit = true :=
    Nat.isDigit_of_mem_toDigits (by decide) (by decide) hdigit
  have hnone := List.all_eq_true.mp (hkeywords _ hmem) digit hin
  simp [hisDigit] at hnone

theorem isKeyword_at (name : String) : isKeyword ("@" ++ name) = false := by
  have hkeywords : ∀ word ∈ keywords, isValid word = true := by decide +kernel
  by_contra hkeyword
  have hvalid := hkeywords ("@" ++ name) (by simpa [isKeyword] using hkeyword)
  rw [not_isValid_at] at hvalid
  cases hvalid

/-- What names something in source: an identifier that is not reserved, or an escaped one. -/
theorem isWritten_iff :
    isWritten text = true ↔ isValid text = true ∧ isKeyword text = false ∨
      ∃ name, isValid name = true ∧ text = "@" ++ name := by
  constructor
  · intro h
    unfold isWritten at h
    split at h
    next rest htext =>
      refine .inr ⟨String.ofList rest, by simpa [isValid] using h, ?_⟩
      rw [← String.toList_inj, htext]
      simp
    next =>
      rw [Bool.and_eq_true, Bool.not_eq_true'] at h
      exact .inl h
  · rintro (⟨hvalid, hkeyword⟩ | ⟨name, hvalid, rfl⟩)
    · have hunmarked := isMarked_of_isValid hvalid
      unfold isWritten
      split
      next rest htext => simp [isMarked, htext] at hunmarked
      next => simpa [hkeyword, isValid] using hvalid
    · simpa [isWritten, isValid] using hvalid

/-- An identifier is written well once it is escaped. -/
theorem isWritten_escape (h : isValid name = true) : isWritten (escape name) = true := by
  rw [isWritten_iff]
  cases hkeyword : isKeyword name with
  | true => exact .inr ⟨name, h, escape_of_isKeyword hkeyword⟩
  | false =>
      rw [escape_of_not_isKeyword hkeyword]
      exact .inl ⟨h, hkeyword⟩

/-- What is written well still is with an underscore at its end. -/
theorem isWritten_append_underscore (h : isWritten name = true) :
    isWritten (name ++ "_") = true := by
  rw [isWritten_iff] at h ⊢
  rcases h with ⟨hvalid, -⟩ | ⟨inner, hvalid, rfl⟩
  · exact .inl ⟨isValid_append_underscore hvalid, not_isKeyword_of_underscore (by simp)⟩
  · exact .inr ⟨inner ++ "_", isValid_append_underscore hvalid, String.append_assoc ..⟩

end Identifier

open Identifier

/-! ## Types -/

namespace ManagedType

variable {type part element : ManagedType}

theorem Exposes.trans (h : type.Exposes element) (h' : element.Exposes part) :
    type.Exposes part := by
  induction h with
  | self => exact h'
  | element _ ih => exact .element (ih h')
  | result _ ih => exact .result (ih h')
  | param mem _ ih => exact .param mem (ih h')

/-- The names of a type itself: what it refers to, and the parameters of a delegate. -/
def NamesItself : ManagedType → Prop
  | .named name => isValid name = true
  | .delegate signature => isValid signature.name = true ∧
    ∀ param ∈ signature.params, isWritten param.name = true
  | _ => True

/-- All names of a type in plain view can be written. -/
def IsWellNamed (type : ManagedType) : Prop := ∀ part, type.Exposes part → part.NamesItself

end ManagedType

/-- The name and the type of a parameter can be written. -/
structure Parameter.IsWellNamed (param : Parameter) : Prop where
  name : isWritten param.name = true
  type : param.type.IsWellNamed

namespace ManagedType.IsWellNamed

variable {type part element : ManagedType}

theorem of_exposes (h : type.IsWellNamed) (hpart : type.Exposes part) : part.IsWellNamed :=
  fun inner hinner => h inner (hpart.trans hinner)

theorem array {length : UInt64} (h : element.IsWellNamed) :
    (ManagedType.array element length).IsWellNamed := by
  intro part hpart
  cases hpart with
  | self => trivial
  | element inner => exact h part inner

theorem delegate {signature : Delegate} (hname : isValid signature.name = true)
    (hresult : signature.result.IsWellNamed)
    (hparams : ∀ param ∈ signature.params, param.IsWellNamed) :
    (ManagedType.delegate signature).IsWellNamed := by
  intro part hpart
  cases hpart with
  | self => exact ⟨hname, fun param hparam => (hparams param hparam).name⟩
  | result inner => exact hresult part inner
  | param mem inner => exact (hparams _ mem).type part inner

theorem named {name : String} (h : isValid name = true) : (ManagedType.named name).IsWellNamed := by
  intro part hpart
  cases hpart
  exact h

theorem isWritten_of_mem_pieces (h : type.IsWellNamed) :
    ∀ name ∈ Source.Line.names type.pieces, isWritten name = true := by
  fun_induction ManagedType.pieces type with
  | case1 element length ih => simpa using ih (h.of_exposes (.element (.self _)))
  | case2 signature => simpa using isWritten_escape (h _ (.self _)).1
  | case3 name => simpa using isWritten_escape (h _ (.self _))
  | case4 | case5 | case6 | case7 | case8 | case9 | case10 => simp

end ManagedType.IsWellNamed

/-! ## Delegates -/

mutual

/-- A type shows every delegate that it declares. -/
theorem ManagedType.exposes_of_mem_delegates : ∀ (type : ManagedType) (signature : Delegate),
    signature ∈ type.delegates → type.Exposes (.delegate signature)
  | .delegate inner, signature, h => inner.exposes_of_mem_withInner signature h
  | .array element _, signature, h => .element (element.exposes_of_mem_delegates signature h)
  | .void, _, h | .primitive _, _, h | .bool, _, h | .handle _, _, h | .untyped, _, h
  | .string, _, h | .text _, _, h | .named _, _, h => by
    simp [ManagedType.delegates] at h

theorem Delegate.exposes_of_mem_withInner : ∀ inner signature : Delegate,
    signature ∈ inner.withInner → (ManagedType.delegate inner).Exposes (.delegate signature)
  | ⟨name, result, params, convention⟩, signature, h => by
    rw [Delegate.withInner, List.mem_append, List.mem_append, List.mem_singleton] at h
    rcases h with (hresult | hparam) | rfl
    · exact .result (result.exposes_of_mem_delegates signature hresult)
    · obtain ⟨param, hmem, hexposes⟩ :=
        Parameter.exposes_of_mem_allDelegates params signature hparam
      exact .param hmem hexposes
    · exact .self _

theorem Parameter.exposes_of_mem_allDelegates :
    ∀ (params : List Parameter) (signature : Delegate), signature ∈ Parameter.allDelegates params →
      ∃ param ∈ params, param.type.Exposes (.delegate signature)
  | [], _, h => by simp [Parameter.allDelegates] at h
  | ⟨name, type⟩ :: params, signature, h => by
    rw [Parameter.allDelegates, Parameter.delegates, List.mem_append] at h
    rcases h with hfirst | hrest
    · exact ⟨_, List.mem_cons_self, type.exposes_of_mem_delegates signature hfirst⟩
    · obtain ⟨param, hmem, hexposes⟩ :=
        Parameter.exposes_of_mem_allDelegates params signature hrest
      exact ⟨param, List.mem_cons_of_mem _ hmem, hexposes⟩

end

/-! ## Pieces of declarations -/

/-- All names among the pieces of some lines can be written. -/
def Source.Line.AllWritten (lines : List Line) : Prop :=
  ∀ name ∈ lines.flatMap names, isWritten name = true

namespace Parameter

variable {param : Parameter} {params : List Parameter}

theorem IsWellNamed.isWritten_of_mem_pieces (h : param.IsWellNamed) :
    ∀ name ∈ Source.Line.names param.pieces, isWritten name = true := by
  intro name hname
  unfold pieces at hname
  split at hname <;>
    · simp only [Source.Line.names_append, Source.Line.names_ofText, Source.Line.names_nil,
        Source.Line.names_plain, Source.Line.names_name, List.nil_append, List.mem_append,
        List.mem_singleton] at hname
      rcases hname with hintype | rfl
      · exact h.type.isWritten_of_mem_pieces name hintype
      · exact h.name

theorem isWritten_of_mem_listPieces (h : ∀ param ∈ params, param.IsWellNamed) :
    ∀ name ∈ Source.Line.names (listPieces params), isWritten name = true := by
  fun_induction listPieces params with
  | case1 => simp
  | case2 param => exact (h param List.mem_cons_self).isWritten_of_mem_pieces
  | case3 param params _ ih =>
      have hfirst := (h param List.mem_cons_self).isWritten_of_mem_pieces
      have hrest := ih fun other hmem => h other (List.mem_cons_of_mem _ hmem)
      simp only [Source.Line.names_append, Source.Line.names_plain, Source.Line.names_nil,
        List.append_nil]
      exact List.forall_mem_append.mpr ⟨hfirst, hrest⟩

end Parameter

namespace Source

variable {indent content head name : String} {result : ManagedType}
  {params : List Parameter}

theorem allWritten_callablePieces (hname : isWritten name = true) (hresult : result.IsWellNamed)
    (hparams : ∀ param ∈ params, param.IsWellNamed) :
    Line.AllWritten (callablePieces indent content head name result params) := by
  intro used hused
  simp only [callablePieces, List.flatMap_append, names_plainLines, List.nil_append,
    List.flatMap_singleton, Line.names_append, Line.names_plain, Line.names_name, Line.names_nil,
    List.append_nil, List.mem_append, List.mem_singleton] at hused
  rcases hused with (hintype | rfl) | hinparams
  · exact hresult.isWritten_of_mem_pieces used hintype
  · exact hname
  · exact Parameter.isWritten_of_mem_listPieces hparams used hinparams

end Source

theorem Delegate.allWritten_pieces {signature : Delegate} {indent : String}
    (h : (ManagedType.delegate signature).IsWellNamed) :
    Source.Line.AllWritten (signature.pieces indent) := by
  obtain ⟨hname, hparams⟩ := h _ (.self _)
  apply Source.allWritten_callablePieces (isWritten_escape hname)
  · exact h.of_exposes (.result (.self _))
  · intro param hparam
    exact ⟨hparams param hparam, h.of_exposes (.param hparam (.self _))⟩

theorem FieldBinding.allWritten_pieces {field : FieldBinding} {isUnion : Bool}
    (hname : isWritten field.name = true) (htype : field.type.IsWellNamed) :
    Source.Line.AllWritten (field.pieces isUnion) := by
  intro used hused
  simp only [pieces, List.flatMap_append, Source.names_plainLines, List.nil_append,
    List.flatMap_singleton, Source.Line.names_append, Source.Line.names_plain,
    Source.Line.names_name, Source.Line.names_nil, List.mem_append, List.mem_singleton] at hused
  rcases hused with hintype | rfl
  · exact htype.isWritten_of_mem_pieces used hintype
  · exact hname

namespace SymbolBody

variable {name field : String} {isUnion : Bool} {pack : Option UInt64}
  {fields : List FieldBinding} {underlying : Primitive} {members : List EnumMember}
  {type : ManagedType}

theorem allWritten_recordPieces (hname : isWritten name = true)
    (hfields : ∀ field ∈ fields, isWritten field.name = true ∧ field.type.IsWellNamed) :
    Source.Line.AllWritten (recordPieces name isUnion pack fields) := by
  intro used hused
  simp only [recordPieces, List.flatMap_append, Source.names_blockPieces,
    List.flatMap_assoc] at hused
  rcases List.mem_append.mp hused with hself | hfield
  · simp at hself
    exact hself ▸ hname
  · obtain ⟨field, hmem, hin⟩ := List.mem_flatMap.mp hfield
    obtain ⟨hown, htype⟩ := hfields field hmem
    exact field.allWritten_pieces hown htype used hin

theorem allWritten_enumPieces (hname : isWritten name = true)
    (hmembers : ∀ member ∈ members, isWritten member.name = true) :
    Source.Line.AllWritten (enumPieces name underlying members) := by
  intro used hused
  simp only [enumPieces, List.flatMap_append, Source.names_blockPieces,
    List.flatMap_map] at hused
  rcases List.mem_append.mp hused with hself | hmember
  · simp at hself
    exact hself ▸ hname
  · obtain ⟨member, hmem, hin⟩ := List.mem_flatMap.mp hmember
    simp [EnumMember.pieces] at hin
    exact hin ▸ hmembers member hmem

theorem allWritten_wrapperPieces (hname : isWritten name = true)
    (hfield : isWritten field = true) (hparam : isWritten (Text.lower field) = true)
    (htype : type.IsWellNamed) :
    Source.Line.AllWritten (wrapperPieces name field type) := by
  intro used hused
  have hintype := htype.isWritten_of_mem_pieces used
  simp [wrapperPieces] at hused
  grind

end SymbolBody

/-! ## Symbols -/

/-- The names that a declaration gives to its members and parameters, as they are written. The
constructor of a wrapper has a parameter of its own. -/
def SymbolBody.ownNames : SymbolBody → List String
  | .record _ _ fields => fields.map (·.name)
  | .enumeration _ members => members.map (·.name)
  | .wrapper field _ => [field, Text.lower field]
  | .delegate signature => escape signature.name :: signature.params.map (·.name)
  | .function _ params _ => params.map (·.name)

/-- A name of a symbol in the form in which it is written: one that it declares, a reference to a
type in plain view, or a parameter of a delegate there. -/
inductive BindingSymbol.Uses (symbol : BindingSymbol) : String → Prop
  | self : symbol.Uses symbol.emittedName
  | own {name : String} (mem : name ∈ symbol.body.ownNames) : symbol.Uses name
  | named {name : String} (exposed : symbol.Exposes (.named name)) :
      symbol.Uses (ManagedType.named name).source
  | delegate {signature : Delegate} (exposed : symbol.Exposes (.delegate signature)) :
      symbol.Uses (ManagedType.delegate signature).source
  | param {signature : Delegate} {param : Parameter}
      (exposed : symbol.Exposes (.delegate signature)) (mem : param ∈ signature.params) :
      symbol.Uses param.name

/-- The own names of a declaration can be written as they are, and those of its types once they
are escaped. -/
structure SymbolBody.IsWellNamed (body : SymbolBody) : Prop where
  ownNames : ∀ name ∈ body.ownNames, isWritten name = true
  types : ∀ type ∈ body.types, type.IsWellNamed

/-- All names of a symbol can be written. -/
structure BindingSymbol.IsWellNamed (symbol : BindingSymbol) : Prop where
  emittedName : isWritten symbol.emittedName = true
  body : symbol.body.IsWellNamed

namespace SymbolBody.IsWellNamed

variable {fields : List FieldBinding} {signature : Delegate} {result : ManagedType}
  {params : List Parameter} {convention : CallingConvention} {isUnion : Bool}
  {pack : Option UInt64}

/-- A structure is well named when its fields are. -/
theorem record_iff : (SymbolBody.record isUnion pack fields).IsWellNamed ↔
    ∀ field ∈ fields, isWritten field.name = true ∧ field.type.IsWellNamed := by
  constructor
  · rintro ⟨hown, htypes⟩ field hfield
    exact ⟨hown _ (List.mem_map_of_mem hfield), htypes _ (List.mem_map_of_mem hfield)⟩
  · intro h
    constructor
    · exact List.forall_mem_map.mpr fun field hfield => (h field hfield).1
    · exact List.forall_mem_map.mpr fun field hfield => (h field hfield).2

/-- A function is well named when its result and its parameters are. -/
theorem function_iff : (SymbolBody.function result params convention).IsWellNamed ↔
    result.IsWellNamed ∧ ∀ param ∈ params, param.IsWellNamed := by
  constructor
  · rintro ⟨hown, htypes⟩
    refine ⟨htypes result List.mem_cons_self, ?_⟩
    intro param hparam
    exact ⟨hown _ (List.mem_map_of_mem hparam),
      htypes _ (List.mem_cons_of_mem _ (List.mem_map_of_mem hparam))⟩
  · rintro ⟨hresult, hparams⟩
    constructor
    · exact List.forall_mem_map.mpr fun param hparam => (hparams param hparam).name
    · refine List.forall_mem_cons.mpr ⟨hresult, ?_⟩
      exact List.forall_mem_map.mpr fun param hparam => (hparams param hparam).type

/-- A delegate is well named when a function of its signature is and its name can be written. -/
theorem delegate_iff : (SymbolBody.delegate signature).IsWellNamed ↔
    isWritten (escape signature.name) = true ∧ (SymbolBody.function signature.result
      signature.params signature.convention).IsWellNamed := by
  constructor
  · rintro ⟨hown, htypes⟩
    obtain ⟨hname, hparams⟩ := List.forall_mem_cons.mp hown
    exact ⟨hname, hparams, htypes⟩
  · rintro ⟨hname, hparams, htypes⟩
    exact ⟨List.forall_mem_cons.mpr ⟨hname, hparams⟩, htypes⟩

end SymbolBody.IsWellNamed

theorem SymbolBody.IsWellNamed.allWritten_pieces {body : SymbolBody}
    {library indent native name : String} (h : body.IsWellNamed) (hname : isWritten name = true) :
    Source.Line.AllWritten (body.pieces library indent native name) := by
  cases body with
  | record isUnion pack fields => exact allWritten_recordPieces hname (record_iff.mp h)
  | enumeration underlying members =>
      apply allWritten_enumPieces hname
      intro member hmember
      exact h.ownNames _ (List.mem_map_of_mem hmember)
  | wrapper field type =>
      apply allWritten_wrapperPieces hname
      · exact h.ownNames field List.mem_cons_self
      · exact h.ownNames (Text.lower field) (List.mem_cons_of_mem _ List.mem_cons_self)
      · exact h.types type List.mem_cons_self
  | delegate signature =>
      obtain ⟨hown, hcallable⟩ := delegate_iff.mp h
      obtain ⟨hresult, hparams⟩ := function_iff.mp hcallable
      exact Source.allWritten_callablePieces hown hresult hparams
  | function result params convention =>
      obtain ⟨hresult, hparams⟩ := function_iff.mp h
      exact Source.allWritten_callablePieces hname hresult hparams

namespace BindingSymbol.IsWellNamed

variable {symbol : BindingSymbol} {signature : Delegate} {library : String}

theorem delegate (h : symbol.IsWellNamed) (hsignature : signature ∈ symbol.delegates) :
    (ManagedType.delegate signature).IsWellNamed := by
  rw [delegates, SymbolBody.delegates_eq_flatMap] at hsignature
  obtain ⟨type, htype, hin⟩ := List.mem_flatMap.mp hsignature
  exact (h.body.types type htype).of_exposes (type.exposes_of_mem_delegates signature hin)

theorem isWritten_of_uses (h : symbol.IsWellNamed) {name : String} (huses : symbol.Uses name) :
    isWritten name = true := by
  have htypes : ∀ part, symbol.Exposes part → part.NamesItself := by
    rintro part ⟨type, htype, hpart⟩
    exact h.body.types type htype part hpart
  cases huses with
  | self => exact h.emittedName
  | own mem => exact h.body.ownNames name mem
  | named exposed => exact isWritten_escape (htypes _ exposed)
  | delegate exposed => exact isWritten_escape (htypes _ exposed).1
  | param exposed mem => exact (htypes _ exposed).2 _ mem

/-- Every name that is written for a symbol is written well. -/
theorem isWritten_of_mem_writtenNames (h : symbol.IsWellNamed) :
    ∀ name ∈ symbol.writtenNames library, isWritten name = true := by
  intro name hname
  obtain ⟨lines, hlines, hin⟩ := List.mem_flatMap.mp hname
  rcases List.mem_append.mp hlines with hdelegate | hbody
  · obtain ⟨signature, hsignature, rfl⟩ := List.mem_map.mp hdelegate
    exact Delegate.allWritten_pieces (h.delegate hsignature) name hin
  · cases List.mem_singleton.mp hbody
    exact h.body.allWritten_pieces h.emittedName name hin

end BindingSymbol.IsWellNamed

end Interop
