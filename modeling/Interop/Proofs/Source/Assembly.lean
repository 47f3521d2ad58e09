import Interop.Binding.Generate
import Interop.Proofs.Text.Occurrence

/-!
# Putting a file together

The text of a file for any sequence of additions to it. A file keeps types and functions apart, so
only the order among the types and the order among the functions matter (`ofPushes_eq`). Line ends
are unified in the whole text. Where every fragment ends its last line, no line end is cut in two
where fragments and the lines around them meet, so the text is that of the unified fragments
(`text_eq`): they stand in it as they are, all types before all functions.
-/

namespace Interop

open Text

/-! ## Additions -/

namespace CompilationUnit

/-- An addition to a file. -/
inductive Push where
  /-- A declaration of the namespace. -/
  | type (fragment : String)
  /-- A member of the class that holds the functions. -/
  | function (fragment : String)

namespace Push

/-- What is added. -/
def fragment : Push → String
  | .type fragment | .function fragment => fragment

/-- Whether a member of the class is added. -/
def isFunction : Push → Bool
  | .type _ => false
  | .function _ => true

/-- The fragments that some additions add to the class, or those that they add in front of it. -/
def select (toClass : Bool) (pushes : List Push) : List String :=
  (pushes.filter (·.isFunction = toClass)).map fragment

/-- The types among some additions. -/
def types (pushes : List Push) : List String := select false pushes

/-- The functions among some additions. -/
def functions (pushes : List Push) : List String := select true pushes

/-- An addition whose line ends are unified beforehand. -/
def unify : Push → Push
  | .type fragment => .type (unifyLines fragment)
  | .function fragment => .function (unifyLines fragment)

variable {added : String} {toClass : Bool} {pushes : List Push}

theorem select_cons (toClass : Bool) (first : Push) (pushes : List Push) :
    select toClass (first :: pushes) = select toClass [first] ++ select toClass pushes := by
  rw [← List.singleton_append, select, List.filter_append, List.map_append]
  rfl

@[simp] theorem fragment_unify (push : Push) : push.unify.fragment = unifyLines push.fragment := by
  cases push <;> rfl

@[simp] theorem isFunction_unify (push : Push) : push.unify.isFunction = push.isFunction := by
  cases push <;> rfl

theorem select_map_unify :
    select toClass (pushes.map unify) = (select toClass pushes).map unifyLines := by
  simp [select, List.filter_map, Function.comp_def]

theorem exists_fragment_of_mem_select (h : added ∈ select toClass pushes) :
    ∃ push ∈ pushes, push.fragment = added := by
  obtain ⟨push, hpush, hadded⟩ := List.mem_map.mp h
  exact ⟨push, List.mem_of_mem_filter hpush, hadded⟩

end Push

/-- A file with one addition more. -/
def push (file : CompilationUnit) : Push → CompilationUnit
  | .type fragment => file.pushType fragment
  | .function fragment => file.pushFunction fragment

/-- The file that some additions make. -/
def ofPushes (pushes : List Push) : CompilationUnit := pushes.foldl push empty

/-- An addition goes to the end of the types or of the functions and leaves the others alone. -/
theorem push_eq (file : CompilationUnit) (added : Push) :
    file.push added =
      ⟨file.types ++ Push.types [added], file.functions ++ Push.functions [added]⟩ := by
  cases added with
  | type fragment => simp [push, pushType, Push.types, Push.functions, Push.select,
      Push.isFunction, Push.fragment]
  | function fragment => simp [push, pushFunction, Push.types, Push.functions, Push.select,
      Push.isFunction, Push.fragment]

theorem foldl_push (file : CompilationUnit) (pushes : List Push) :
    pushes.foldl push file =
      ⟨file.types ++ Push.types pushes, file.functions ++ Push.functions pushes⟩ := by
  induction pushes generalizing file with
  | nil => simp [Push.types, Push.functions, Push.select]
  | cons first pushes ih =>
      rw [List.foldl_cons, ih, push_eq, List.append_assoc, List.append_assoc]
      simp only [Push.types, Push.functions, ← Push.select_cons]

/-- Only the types in their order and the functions in theirs matter. -/
theorem ofPushes_eq (pushes : List Push) :
    ofPushes pushes = ⟨Push.types pushes, Push.functions pushes⟩ := by
  rw [ofPushes, foldl_push]
  rfl

end CompilationUnit

/-! ## Fragments with line ends -/

namespace Text

variable {fragments : List String}

theorem endsLine_intercalate (nonempty : fragments ≠ [])
    (h : ∀ fragment ∈ fragments, EndsLine fragment) (separator : String) :
    EndsLine (separator.intercalate fragments) := by
  induction fragments with
  | nil => exact absurd rfl nonempty
  | cons first fragments ih =>
      obtain ⟨hfirst, hrest⟩ := List.forall_mem_cons.mp h
      cases fragments with
      | nil =>
          rw [String.intercalate_singleton]
          exact hfirst
      | cons second fragments =>
          rw [String.intercalate_cons_cons]
          exact (ih nofun hrest).append

/-- Fragments that end their last lines are unified one by one. -/
theorem unifyLines_intercalate (h : ∀ fragment ∈ fragments, EndsLine fragment) :
    unifyLines ("\n".intercalate fragments) = "\n".intercalate (fragments.map unifyLines) := by
  induction fragments with
  | nil => rfl
  | cons first fragments ih =>
      obtain ⟨hfirst, hrest⟩ := List.forall_mem_cons.mp h
      cases fragments with
      | nil => simp
      | cons second fragments =>
          have hfeed : EndsLine "\n" := by decide
          rw [List.map_cons, List.map_cons, String.intercalate_cons_cons,
            String.intercalate_cons_cons, ← List.map_cons, ← ih hrest,
            unifyLines_append (.inl hfeed.append.ne_return),
            unifyLines_append (.inl hfirst.ne_return)]
          rfl

end Text

/-! ## The text -/

namespace CompilationUnit

variable {file : CompilationUnit} {generator : Generator} {nameSpace container : String}

/-- All fragments of a file end their last lines. -/
structure EndsLines (file : CompilationUnit) : Prop where
  types : ∀ fragment ∈ file.types, EndsLine fragment
  functions : ∀ fragment ∈ file.functions, EndsLine fragment

/-- A file with the line ends of its fragments unified. -/
def unify (file : CompilationUnit) : CompilationUnit :=
  ⟨file.types.map unifyLines, file.functions.map unifyLines⟩

/-- The lines in front of the types. -/
def opening (generator : Generator) (nameSpace : String) : String :=
  generator.header ++ "\n" ++ "namespace " ++ nameSpace ++ "\n\x7b\n" ++
    "    using System;\n" ++ "    using System.Runtime.InteropServices;\n" ++ "\n"

/-- The lines between the types and the functions. -/
def classOpening (container : String) : String :=
  "    public static partial class " ++ container ++ "\n    \x7b\n"

/-- The lines behind the functions. -/
def closing : String := "    \x7d\n\x7d\n"

theorem rawText_eq (file : CompilationUnit) (generator : Generator)
    (nameSpace container : String) :
    file.rawText generator nameSpace container =
      opening generator nameSpace ++ file.typeSection ++ classOpening container ++
        "\n".intercalate file.functions ++ closing := by
  unfold rawText opening classOpening closing
  simp only [String.append_assoc]

theorem endsLine_opening : EndsLine (opening generator nameSpace) := by
  have hlast : EndsLine "\n" := by decide
  exact hlast.append

theorem endsLine_classOpening : EndsLine (classOpening container) := by
  have hlast : EndsLine "\n    \x7b\n" := by decide +kernel
  exact hlast.append

theorem head?_classOpening : (classOpening container).toList.head? = some ' ' := by
  have hblank : "    public static partial class ".toList.head? = some ' ' := by decide +kernel
  unfold classOpening
  rw [String.toList_append, String.toList_append, List.append_assoc, List.head?_append, hblank]
  rfl

namespace EndsLines

theorem unify (h : file.EndsLines) : file.unify.EndsLines where
  types := List.forall_mem_map.mpr fun fragment hfragment => (h.types fragment hfragment).unifyLines
  functions := List.forall_mem_map.mpr fun fragment hfragment =>
    (h.functions fragment hfragment).unifyLines

theorem typeSection_of_ne_nil (h : file.EndsLines) (nonempty : file.types ≠ []) :
    file.typeSection = "\n".intercalate file.types ++ "\n" := by
  have hends := endsLine_intercalate nonempty h.types "\n"
  rw [typeSection, if_neg hends.ne_empty]

theorem unifyLines_typeSection (h : file.EndsLines) :
    unifyLines file.typeSection = file.unify.typeSection := by
  by_cases htypes : file.types = []
  · simp only [typeSection, CompilationUnit.unify, htypes, List.map_nil, String.intercalate_nil,
      if_true]
    rfl
  · have hunified : file.unify.types ≠ [] := by simpa [CompilationUnit.unify] using htypes
    have hends := endsLine_intercalate htypes h.types "\n"
    rw [h.typeSection_of_ne_nil htypes, h.unify.typeSection_of_ne_nil hunified,
      unifyLines_append (.inl hends.ne_return), unifyLines_intercalate h.types]
    rfl

/-- Parts of the file meet behind a line feed or in front of a blank, so no line end is cut. -/
theorem unifyLines_rawText (h : file.EndsLines) (generator : Generator)
    (nameSpace container : String) :
    unifyLines (file.rawText generator nameSpace container) =
      unifyLines (opening generator nameSpace) ++ file.unify.typeSection ++
        unifyLines (classOpening container) ++ "\n".intercalate file.unify.functions ++
          closing := by
  have hfunctions : EndsLine (opening generator nameSpace ++ file.typeSection ++
      classOpening container) := endsLine_classOpening.append
  have hclass : (classOpening container).toList.head? ≠ some '\n' := by
    rw [head?_classOpening]
    decide
  have hclosing : closing.toList.head? ≠ some '\n' := by decide +kernel
  rw [rawText_eq, unifyLines_append (.inr hclosing), unifyLines_append (.inl hfunctions.ne_return),
    unifyLines_append (.inr hclass), unifyLines_append (.inl endsLine_opening.ne_return),
    h.unifyLines_typeSection, unifyLines_intercalate h.functions]
  rfl

/-- The text of a file is that of its unified fragments between the unified lines around them. -/
theorem text_eq (h : file.EndsLines) (generator : Generator) (nameSpace container : String) :
    file.text generator nameSpace container =
      unifyLines (opening generator nameSpace) ++ file.unify.typeSection ++
        unifyLines (classOpening container) ++ "\n".intercalate file.unify.functions ++
          closing := by
  have hclosing : closing = "    \x7d\n\x7d" ++ "\n" := by decide +kernel
  have hopen : ∀ front, ¬ EndsLine (front ++ "    \x7d\n\x7d") := by
    intro front
    rw [endsLine_append_iff (by decide +kernel)]
    decide +kernel
  have hfeed : closeLine "\n" = "\n" := by decide +kernel
  rw [text, normalizeLines_eq, h.unifyLines_rawText, hclosing, ← String.append_assoc,
    closeLine_append (hopen _), hfeed]

theorem text_unify (h : file.EndsLines) (generator : Generator) (nameSpace container : String) :
    file.unify.text generator nameSpace container = file.text generator nameSpace container := by
  have hagain : file.unify.unify = file.unify := by
    simp [CompilationUnit.unify, Function.comp_def]
  rw [h.unify.text_eq, h.text_eq, hagain]

theorem occurInOrder_text (h : file.EndsLines) (generator : Generator)
    (nameSpace container : String) :
    OccurInOrder (file.unify.types ++ file.unify.functions)
      (file.text generator nameSpace container) := by
  have htypes : OccurInOrder file.unify.types file.unify.typeSection := by
    by_cases hnone : file.unify.types = []
    · rw [hnone]
      trivial
    · rw [h.unify.typeSection_of_ne_nil hnone]
      exact (OccurInOrder.intercalate "\n" file.unify.types).before "\n"
  have hfunctions := OccurInOrder.intercalate "\n" file.unify.functions
  rw [h.text_eq]
  have hfront := (htypes.behind (unifyLines (opening generator nameSpace))).before
    (unifyLines (classOpening container))
  exact (hfront.append hfunctions).before closing

end EndsLines

end CompilationUnit

/-! ## Rendered declarations -/

theorem Text.endsLine_ofLines {lines : List String} (nonempty : lines ≠ []) :
    EndsLine (ofLines lines) := by
  induction lines with
  | nil => exact absurd rfl nonempty
  | cons line lines ih =>
      have hfeed : EndsLine "\n" := by decide
      rw [ofLines_cons]
      by_cases hlines : lines = []
      · rw [hlines, ofLines_nil, String.append_empty]
        exact hfeed.append
      · exact (ih hlines).append

theorem Delegate.endsLine_fragment (indent : String) (signature : Delegate) :
    EndsLine (signature.fragment indent) :=
  endsLine_ofLines (by simp [lines, Source.callableLines])

theorem SymbolBody.endsLine_fragment (library indent native name : String) (body : SymbolBody) :
    EndsLine (body.fragment library indent native name) := by
  apply endsLine_ofLines
  cases body with
  | record => simp [lines, recordLines]
  | enumeration => simp [lines, enumLines]
  | wrapper => simp [lines, wrapperLines]
  | delegate signature => simp [lines, Delegate.lines, Source.callableLines]
  | function => simp [lines, functionLines, Source.callableLines]

theorem BindingSymbol.endsLine_of_mem_fragments {library fragment : String}
    {symbol : BindingSymbol} (h : fragment ∈ symbol.fragments library) : EndsLine fragment := by
  obtain hdelegate | hself := List.mem_append.mp h
  · obtain ⟨signature, -, rfl⟩ := List.mem_map.mp hdelegate
    exact signature.endsLine_fragment _
  · rw [List.mem_singleton.mp hself]
    exact symbol.body.endsLine_fragment ..

/-! ## Any sequence of additions -/

namespace CompilationUnit

theorem endsLines_ofPushes {pushes : List Push} (h : ∀ push ∈ pushes, EndsLine push.fragment) :
    (ofPushes pushes).EndsLines := by
  have hselected : ∀ toClass, ∀ fragment ∈ Push.select toClass pushes, EndsLine fragment := by
    intro toClass fragment hfragment
    obtain ⟨push, hpush, rfl⟩ := Push.exists_fragment_of_mem_select hfragment
    exact h push hpush
  rw [ofPushes_eq]
  exact ⟨hselected false, hselected true⟩

theorem unify_ofPushes (pushes : List Push) :
    (ofPushes pushes).unify = ofPushes (pushes.map Push.unify) := by
  rw [ofPushes_eq, ofPushes_eq, unify]
  simp only [Push.types, Push.functions, Push.select_map_unify]

/-- The text that any additions make is decided by the types in their order and the functions in
theirs, and it has line feeds for its line ends, one of them at its end. When all fragments end
their last lines, as those of symbols do, it does not matter whether they are unified beforehand,
and they occur unified in the text, each behind the one before it and all types first. -/
theorem text_ofPushes (generator : Generator) (nameSpace container : String)
    (pushes : List Push) :
    (∀ others, Push.types others = Push.types pushes →
        Push.functions others = Push.functions pushes →
        (ofPushes others).text generator nameSpace container =
          (ofPushes pushes).text generator nameSpace container) ∧
      '\r' ∉ ((ofPushes pushes).text generator nameSpace container).toList ∧
      (∃ body, (ofPushes pushes).text generator nameSpace container = body ++ "\n" ∧
        ¬ EndsLine body) ∧
      ((∀ push ∈ pushes, EndsLine push.fragment) →
        (ofPushes (pushes.map Push.unify)).text generator nameSpace container =
            (ofPushes pushes).text generator nameSpace container ∧
          OccurInOrder ((Push.types pushes ++ Push.functions pushes).map unifyLines)
            ((ofPushes pushes).text generator nameSpace container)) ∧
      ∀ (library : String) (symbol : BindingSymbol), ∀ fragment ∈ symbol.fragments library,
        EndsLine fragment := by
  refine ⟨?_, not_mem_normalizeLines, exists_normalizeLines_eq, ?_, ?_⟩
  · intro others htypes hfunctions
    rw [ofPushes_eq, ofPushes_eq, htypes, hfunctions]
  · intro hends
    -- from here on only the file matters, not how it came about
    have hfile : (ofPushes pushes).EndsLines := endsLines_ofPushes hends
    refine ⟨?_, ?_⟩
    · rw [← unify_ofPushes]
      exact hfile.text_unify generator nameSpace container
    · have hpieces : (Push.types pushes ++ Push.functions pushes).map unifyLines =
          (ofPushes pushes).unify.types ++ (ofPushes pushes).unify.functions := by
        rw [ofPushes_eq, List.map_append]
        rfl
      rw [hpieces]
      exact hfile.occurInOrder_text generator nameSpace container
  · intro library symbol fragment hfragment
    exact symbol.endsLine_of_mem_fragments hfragment

/-- Additions in no order, with line ends of all three kinds. -/
def mixedPushes : List Push :=
  [.function "        void run();\r\n", .type "    enum A\r    \x7b\r\n    \x7d\n",
    .function "        void stop();\r\r\n"]

/-- The same fragments, the type first. -/
def sortedPushes : List Push :=
  [.type "    enum A\r    \x7b\r\n    \x7d\n", .function "        void run();\r\n",
    .function "        void stop();\r\r\n"]

/-- An enumeration. -/
def color : BindingSymbol := ⟨.enumeration, "Color", "Color", .enumeration .int [⟨"Red", 0⟩]⟩

theorem text_ofPushes_mixed :
    (ofPushes sortedPushes).text .current "Native" "Methods" =
        (ofPushes mixedPushes).text .current "Native" "Methods" ∧
      (∀ push ∈ mixedPushes, EndsLine push.fragment) ∧
      (ofPushes (mixedPushes.map Push.unify)).text .current "Native" "Methods" =
        (ofPushes mixedPushes).text .current "Native" "Methods" ∧
      OccurInOrder ["    enum A\n    \x7b\n    \x7d\n", "        void run();\n",
          "        void stop();\n\n"]
        ((ofPushes mixedPushes).text .current "Native" "Methods") ∧
      EndsLine (color.fragment "native") := by
  have hends : ∀ push ∈ mixedPushes, EndsLine push.fragment := by decide +kernel
  have hpieces : (Push.types mixedPushes ++ Push.functions mixedPushes).map unifyLines =
      ["    enum A\n    \x7b\n    \x7d\n", "        void run();\n",
        "        void stop();\n\n"] := by decide +kernel
  have hcolor : color.fragment "native" ∈ color.fragments "native" := by
    simp [BindingSymbol.fragments]
  obtain ⟨hothers, -, -, hall, hfragments⟩ :=
    text_ofPushes .current "Native" "Methods" mixedPushes
  obtain ⟨hunified, hoccur⟩ := hall hends
  exact ⟨hothers sortedPushes rfl rfl, hends, hunified, hpieces ▸ hoccur,
    hfragments "native" color _ hcolor⟩

end CompilationUnit

end Interop
