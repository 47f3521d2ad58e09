import Interop.Proofs.Binding.References
import Interop.Proofs.Source.Assembly
import Interop.Proofs.Text.Literals

/-!
# The literals of imported functions

Each imported function says in an attribute where it is found: in the library, under its native
name, both written as string literals (`BindingSymbol.importAttribute?`). Headers and users may
call these as they like. An attribute stands within a line whatever the names are, because literals
do, so it is not touched when the line ends of the whole file are unified. All attributes therefore
occur in the generated source as they were written (`BindingOptions.literals_read_back`), and each
literal in them is read back as the name it was written for.
-/

namespace Interop

open Text Text.Quoted

/-! ## Attributes -/

namespace Text.IsWithinLine

variable {text rest : String}

instance : Decidable (IsWithinLine text) :=
  decidable_of_iff (text ≠ "" ∧ '\r' ∉ text.toList ∧ '\n' ∉ text.toList)
    ⟨fun h => ⟨h.1, h.2.1, h.2.2⟩, fun h => ⟨h.ne_empty, h.no_return, h.no_feed⟩⟩

theorem append (h : IsWithinLine text) (hrest : IsWithinLine rest) :
    IsWithinLine (text ++ rest) where
  ne_empty := by simp [h.ne_empty]
  no_return := by simp [h.no_return, hrest.no_return]
  no_feed := by simp [h.no_feed, hrest.no_feed]

end Text.IsWithinLine

theorem Text.IsPart.ofLines_cons {piece line : String} (h : IsPart piece line)
    (lines : List String) : IsPart piece (ofLines (line :: lines)) := by
  obtain ⟨before, after, rfl⟩ := h
  rw [Text.ofLines_cons]
  exact ⟨before, after ++ "\n" ++ ofLines lines, by simp only [String.append_assoc]⟩

theorem CallingConvention.isWithinLine_source (convention : CallingConvention) :
    IsWithinLine convention.source := by
  cases convention with
  | c | stdCall | fastCall | thisCall => decide +kernel
  | other number => exact (by decide +kernel : IsWithinLine "Winapi")

/-- The attribute of a function that is imported from a library under its native name. -/
def importAttribute (library native : String) (convention : CallingConvention) : String :=
  "[" ++ ("DllImport(" ++ encode library ++ ", CallingConvention = CallingConvention." ++
    convention.source ++ ", EntryPoint = " ++ encode native ++ ")") ++ "]"

theorem isWithinLine_importAttribute (library native : String) (convention : CallingConvention) :
    IsWithinLine (importAttribute library native convention) := by
  have hbracket : IsWithinLine "[" := by decide +kernel
  have hopening : IsWithinLine "DllImport(" := by decide +kernel
  have hconvention : IsWithinLine ", CallingConvention = CallingConvention." := by decide +kernel
  have hentry : IsWithinLine ", EntryPoint = " := by decide +kernel
  have hclosing : IsWithinLine ")" := by decide +kernel
  have hbracket' : IsWithinLine "]" := by decide +kernel
  have hlibrary := (hopening.append (isWithinLine_encode library)).append hconvention
  have hfront := (hlibrary.append convention.isWithinLine_source).append hentry
  have hcontent := (hfront.append (isWithinLine_encode native)).append hclosing
  exact (hbracket.append hcontent).append hbracket'

namespace BindingSymbol

variable {library written : String} {symbol : BindingSymbol}

/-- The attribute of a symbol, if it is an imported function. -/
def importAttribute? (library : String) (symbol : BindingSymbol) : Option String :=
  match symbol.body with
  | .function _ _ convention => some (importAttribute library symbol.nativeName convention)
  | _ => none

theorem importAttribute?_eq_some_iff :
    symbol.importAttribute? library = some written ↔
      ∃ result params convention, symbol.body = .function result params convention ∧
        importAttribute library symbol.nativeName convention = written := by
  unfold importAttribute?
  cases symbol.body <;> simp

/-- The attribute is a stretch of the declaration of the function. -/
theorem isPart_fragment (h : symbol.importAttribute? library = some written) :
    IsPart written (symbol.fragment library) := by
  obtain ⟨result, params, convention, hbody, rfl⟩ := importAttribute?_eq_some_iff.mp h
  rw [fragment, hbody, SymbolBody.fragment, SymbolBody.lines, SymbolBody.functionLines,
    Source.callableLines, List.append_assoc, List.singleton_append]
  have hline : IsPart (importAttribute library symbol.nativeName convention)
      (Source.memberIndent ++ importAttribute library symbol.nativeName convention) :=
    ⟨Source.memberIndent, "", String.append_empty.symm⟩
  rw [importAttribute, ← String.append_assoc, ← String.append_assoc] at hline
  exact hline.ofLines_cons _

/-! ## The functions of a file -/

/-- The additions to a file that a symbol makes. -/
def pushes (library : String) (symbol : BindingSymbol) : List CompilationUnit.Push :=
  (symbol.fragments library).map (if symbol.isContained then .function else .type)

end BindingSymbol

namespace CompilationUnit

variable {library : String} {symbols : List BindingSymbol}

theorem pushSymbol_eq (file : CompilationUnit) (symbol : BindingSymbol) :
    file.pushSymbol library symbol = (symbol.pushes library).foldl push file := by
  rw [pushSymbol, BindingSymbol.pushes, List.foldl_map]
  cases symbol.isContained <;> rfl

theorem foldl_pushSymbol_eq (library : String) (symbols : List BindingSymbol) :
    symbols.foldl (pushSymbol library) empty = ofPushes (symbols.flatMap (·.pushes library)) := by
  rw [ofPushes, List.foldl_flatMap]
  congr
  funext file symbol
  exact file.pushSymbol_eq symbol

theorem Push.functions_pushes_of_isContained (library : String) {symbol : BindingSymbol}
    (h : symbol.isContained = true) :
    functions (symbol.pushes library) = symbol.fragments library := by
  simp [functions, select, BindingSymbol.pushes, h, isFunction, List.filter_map,
    Function.comp_def, fragment]

theorem occurInOrder_rawText (file : CompilationUnit) (generator : Generator)
    (nameSpace container : String) :
    OccurInOrder file.functions (file.rawText generator nameSpace container) := by
  rw [rawText_eq]
  have hfunctions := OccurInOrder.intercalate "\n" file.functions
  exact (hfunctions.behind _).before closing

theorem sublistForall₂_flatMap {α β γ : Type} {related : β → γ → Prop} {first : α → List β}
    {second : α → List γ} {items : List α}
    (h : ∀ item ∈ items, List.SublistForall₂ related (first item) (second item)) :
    List.SublistForall₂ related (items.flatMap first) (items.flatMap second) := by
  induction items with
  | nil => exact .nil
  | cons item items ih =>
      obtain ⟨hitem, hitems⟩ := List.forall_mem_cons.mp h
      obtain ⟨chosen, hchosen, hsublist⟩ := List.sublistForall₂_iff.mp hitem
      obtain ⟨rest, hrest, hsublist'⟩ := List.sublistForall₂_iff.mp (ih hitems)
      rw [List.flatMap_cons, List.flatMap_cons, List.sublistForall₂_iff]
      exact ⟨chosen ++ rest, List.rel_append hchosen hrest, hsublist.append hsublist'⟩

/-- The attributes of some symbols are stretches of the functions of their file, in the same
order, when all that is imported goes into the class. -/
theorem sublistForall₂_importAttributes (contained : ∀ symbol ∈ symbols, ∀ written,
      symbol.importAttribute? library = some written → symbol.isContained = true) :
    List.SublistForall₂ IsPart (symbols.filterMap (·.importAttribute? library))
      (Push.functions (symbols.flatMap (·.pushes library))) := by
  rw [Push.functions, Push.select, List.filter_flatMap, List.map_flatMap,
    List.filterMap_eq_flatMap_toList]
  apply sublistForall₂_flatMap
  intro symbol hsymbol
  cases hwritten : symbol.importAttribute? library with
  | none => exact .nil
  | some written =>
      have hfragments := Push.functions_pushes_of_isContained library
        (contained symbol hsymbol written hwritten)
      rw [← Push.select, ← Push.functions, hfragments, List.sublistForall₂_iff]
      exact ⟨[symbol.fragment library], .cons (BindingSymbol.isPart_fragment hwritten) .nil,
        List.sublist_append_right _ _⟩

end CompilationUnit

/-! ## Generated source -/

/-- Whatever is imported in a run is a member of the class. -/
theorem BindingRun.Accounts.isContained_of_importAttribute? {options : BindingOptions}
    {index : SymbolIndex} {work : List (SymbolKind × Declaration)} {run : BindingRun}
    (h : Accounts options index work run) {symbol : BindingSymbol} (hsymbol : symbol ∈ run.symbols)
    {library written : String} (hwritten : symbol.importAttribute? library = some written) :
    symbol.isContained = true := by
  obtain ⟨result, params, convention, hbody, -⟩ :=
    BindingSymbol.importAttribute?_eq_some_iff.mp hwritten
  obtain ⟨group, hgroup, hin⟩ := List.mem_flatMap.mp hsymbol
  obtain ⟨kind, declaration, -, hlowers⟩ := h.lowered group hgroup
  cases hlowers with
  | record _ lowered =>
      obtain ⟨-, isUnion, pack, fields, hrecord⟩ := Mapper.record_of_mem_symbols lowered hin
      rw [hrecord] at hbody
      cases hbody
  | delegate | wrapper | enumeration =>
      rw [List.mem_singleton.mp hin] at hbody
      cases hbody
  | function =>
      rw [List.mem_singleton.mp hin]
      rfl

namespace BindingOptions

/-- A literal stands between quotes, has no line end in it and is read back as its value up to the
first quote that is not escaped, whatever follows it; so different values, and different texts
behind them, are told apart. Unifying the line ends of a text leaves a literal in it as it is. In
the generated source, therefore, all functions in their order have the attributes that were written
for the library and their native names. -/
theorem literals_read_back (options : BindingOptions) (units : List TranslationUnit) :
    (∀ value, IsLiteral value (encode value)) ∧
      Function.Injective encode ∧
      (Function.Injective fun written : String × String => encode written.1 ++ written.2) ∧
      (∀ value before after, normalizeLines (before ++ encode value ++ after) =
        unifyLines before ++ encode value ++ normalizeLines after) ∧
      OccurInOrder
        ((options.generate units).symbols.filterMap (·.importAttribute? options.library))
        (options.generate units).source := by
  refine ⟨isLiteral_encode, encode_injective, encode_append_injective, ?_, ?_⟩
  · intro value before after
    exact normalizeLines_within (isWithinLine_encode value) before after
  · have hrun := options.accounts_run units (options.buildIndex units)
    have hcontained : ∀ symbol ∈ (options.finalRun units).symbols, ∀ written,
        symbol.importAttribute? options.library = some written → symbol.isContained = true :=
      fun symbol hsymbol written hwritten => hrun.isContained_of_importAttribute? hsymbol hwritten
    rw [generate, sourceOf, CompilationUnit.foldl_pushSymbol_eq, CompilationUnit.text]
    apply OccurInOrder.normalizeLines
    · have hraw := CompilationUnit.occurInOrder_rawText (CompilationUnit.ofPushes
        ((options.finalRun units).symbols.flatMap (·.pushes options.library))) .current
          options.nameSpace options.container
      refine hraw.of_sublistForall₂ ?_
      rw [CompilationUnit.ofPushes_eq]
      exact CompilationUnit.sublistForall₂_importAttributes hcontained
    · intro written hwritten
      obtain ⟨symbol, -, hsymbol⟩ := List.mem_filterMap.mp hwritten
      obtain ⟨_, _, convention, -, rfl⟩ := BindingSymbol.importAttribute?_eq_some_iff.mp hsymbol
      exact isWithinLine_importAttribute options.library symbol.nativeName convention

/-- A user whose library is given by a path with quotes and a line end in it. -/
def fromPath : BindingOptions := { sample with library := "C:\\\"lib\"\r\n.dll" }

/-- Two functions with a structure between them. -/
def engine : List TranslationUnit :=
  [.ofDeclarations "engine.h" [
    .ofFunction "start" [("speed", .int)],
    .ofStruct "State" [.ofField "speed" .int],
    .ofFunction "stop" []]]

theorem literals_read_back_path :
    IsLiteral fromPath.library "\"C:\\\\\\\"lib\\\"\\r\\n.dll\"" ∧
      OccurInOrder
        ["[DllImport(\"C:\\\\\\\"lib\\\"\\r\\n.dll\", " ++
            "CallingConvention = CallingConvention.Cdecl, EntryPoint = \"start\")]",
          "[DllImport(\"C:\\\\\\\"lib\\\"\\r\\n.dll\", " ++
            "CallingConvention = CallingConvention.Cdecl, EntryPoint = \"stop\")]"]
        (fromPath.generate engine).source := by
  have hwritten : encode fromPath.library =
      "\"C:\\\\\\\"lib\\\"\\r\\n.dll\"" := by decide +kernel
  have hattributes :
      (fromPath.generate engine).symbols.filterMap (·.importAttribute? fromPath.library) =
        ["[DllImport(\"C:\\\\\\\"lib\\\"\\r\\n.dll\", " ++
            "CallingConvention = CallingConvention.Cdecl, EntryPoint = \"start\")]",
          "[DllImport(\"C:\\\\\\\"lib\\\"\\r\\n.dll\", " ++
            "CallingConvention = CallingConvention.Cdecl, EntryPoint = \"stop\")]"] := by
    decide +kernel
  obtain ⟨hliteral, -, -, -, hoccur⟩ := literals_read_back fromPath engine
  exact ⟨hwritten ▸ hliteral fromPath.library, hattributes ▸ hoccur⟩

end BindingOptions

end Interop
