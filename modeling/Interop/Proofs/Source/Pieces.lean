import Interop.Binding.Generate
import Interop.Proofs.Managed.Exposure

/-!
# The names in a declaration's text

The text of a declaration in pieces, of which some are names and the rest is text in which nothing
is named: `BindingSymbol.pieces` has a list of lines for every fragment of a symbol, and put
together they are the fragments (`BindingSymbol.text_pieces`). So the names among the pieces,
`BindingSymbol.writtenNames`, are the names of a symbol as they are written in the generated
source: what is declared, the fields, enumerators and parameters, and the types that are referred
to.
-/

namespace Interop

namespace Source

/-- A piece of a line. -/
inductive Piece where
  | name (word : String)
  /-- Text in which nothing is named. -/
  | plain (content : String)

namespace Piece

def text : Piece → String
  | .name word => word
  | .plain content => content

def name? : Piece → Option String
  | .name word => some word
  | .plain _ => none

end Piece

/-- A line in pieces. -/
abbrev Line := List Piece

namespace Line

/-- A line as it is written. -/
def text : Line → String
  | [] => ""
  | piece :: line => piece.text ++ text line

/-- The names in a line. -/
def names (line : Line) : List String := line.filterMap (·.name?)

/-- A line in which nothing is named. -/
def ofText (text : String) : Line := [.plain text]

variable {line rest : Line}

@[simp] theorem text_nil : text [] = "" := rfl

@[simp] theorem text_cons {piece : Piece} : text (piece :: line) = piece.text ++ text line := rfl

@[simp] theorem text_append : text (line ++ rest) = text line ++ text rest := by
  induction line with
  | nil => simp
  | cons piece line ih => simp [ih, String.append_assoc]

@[simp] theorem text_ofText (text : String) : Line.text (ofText text) = text := by
  simp [ofText, Piece.text]

@[simp] theorem names_nil : names [] = [] := rfl

@[simp] theorem names_name {word : String} : names (.name word :: line) = word :: names line := rfl

@[simp] theorem names_plain {content : String} : names (.plain content :: line) = names line := rfl

@[simp] theorem names_append : names (line ++ rest) = names line ++ names rest := by
  simp [names]

@[simp] theorem names_ofText (text : String) : names (ofText text) = [] := rfl

end Line

/-- Lines in which nothing is named. -/
def plainLines (lines : List String) : List Line := lines.map Line.ofText

@[simp] theorem text_plainLines (lines : List String) :
    (plainLines lines).map Line.text = lines := by
  simp [plainLines, Function.comp_def]

@[simp] theorem names_plainLines (lines : List String) :
    (plainLines lines).flatMap Line.names = [] := by
  simp [plainLines, List.flatMap_map]

end Source

open Source

/-! ## Types and parameters -/

/-- A type in pieces. -/
def ManagedType.pieces : ManagedType → Line
  | .array element _ => element.pieces ++ [.plain "[]"]
  | .delegate signature => [.name (Identifier.escape signature.name)]
  | .named name => [.name (Identifier.escape name)]
  | .void => [.plain "void"]
  | .primitive type => [.plain type.keyword]
  | .bool => [.plain "bool"]
  | .handle _ | .untyped => [.plain "IntPtr"]
  | .string | .text _ => [.plain "string"]
termination_by structural type => type

theorem ManagedType.text_pieces (type : ManagedType) : Line.text type.pieces = type.source := by
  fun_induction pieces type <;> simp_all [source, Piece.text]

namespace Parameter

/-- A parameter in pieces. -/
def pieces (param : Parameter) : Line :=
  (match param.type.marshalAs? with
    | some marshalling => Line.ofText ("[" ++ marshalling ++ "] ")
    | none => []) ++ param.type.pieces ++ [.plain " ", .name param.name]

theorem text_pieces (param : Parameter) : Line.text param.pieces = param.source := by
  rw [pieces, source, ManagedType.parameterSource]
  cases param.type.marshalAs? <;>
    simp [ManagedType.text_pieces, Piece.text, String.append_assoc]

/-- A parameter list in pieces. -/
def listPieces : List Parameter → Line
  | [] => []
  | [param] => param.pieces
  | param :: params => param.pieces ++ [.plain ", "] ++ listPieces params

theorem text_listPieces (params : List Parameter) :
    Line.text (listPieces params) = listSource params := by
  fun_induction listPieces params with
  | case1 => rfl
  | case2 param => simp [listSource, text_pieces]
  | case3 param params hparams ih =>
      obtain ⟨second, rest, rfl⟩ := List.exists_cons_of_ne_nil (by simpa using hparams)
      simp only [listSource, List.map_cons, String.intercalate_cons_cons] at ih ⊢
      simp [ih, text_pieces, Piece.text, String.append_assoc]

end Parameter

/-! ## Declarations -/

/-- The lines of a function or delegate in pieces. -/
def Source.callablePieces (indent content head name : String) (result : ManagedType)
    (params : List Parameter) : List Line :=
  plainLines ([indent ++ "[" ++ content ++ "]"] ++
    attributeLine indent (result.marshalAs?.map ("return: " ++ ·))) ++
    [[.plain (indent ++ head ++ " ")] ++ result.pieces ++ [.plain " ", .name name, .plain "("] ++
      Parameter.listPieces params ++ [.plain ");"]]

theorem Source.text_callablePieces (indent content head name : String) (result : ManagedType)
    (params : List Parameter) :
    (callablePieces indent content head name result params).map Line.text =
      callableLines indent content head name result params := by
  simp [callablePieces, callableLines, Parameter.text_listPieces, ManagedType.text_pieces,
    Piece.text, String.append_assoc]

/-- The lines of a delegate in pieces. -/
def Delegate.pieces (indent : String) (signature : Delegate) : List Line :=
  callablePieces indent
    ("UnmanagedFunctionPointer(CallingConvention." ++ signature.convention.source ++ ")")
    "public delegate" (Identifier.escape signature.name) signature.result signature.params

theorem Delegate.text_pieces (indent : String) (signature : Delegate) :
    (signature.pieces indent).map Line.text = signature.lines indent :=
  text_callablePieces ..

/-- The lines of a field in pieces. -/
def FieldBinding.pieces (field : FieldBinding) (isUnion : Bool) : List Line :=
  plainLines ((if isUnion then [memberIndent ++ "[FieldOffset(0)]"] else []) ++
    attributeLine memberIndent field.type.marshalAs?) ++
    [[.plain (memberIndent ++ "public ")] ++ field.type.pieces ++
      [.plain " ", .name field.name, .plain ";"]]

theorem FieldBinding.text_pieces (field : FieldBinding) (isUnion : Bool) :
    (field.pieces isUnion).map Line.text = field.lines isUnion := by
  simp [pieces, lines, ManagedType.text_pieces, Piece.text, String.append_assoc]

/-- The line of an enumerator in pieces. -/
def EnumMember.pieces (underlying : Primitive) (member : EnumMember) : Line :=
  [.plain memberIndent, .name member.name,
    .plain (" = " ++ toString (underlying.literalValue member.value) ++ ",")]

theorem EnumMember.text_pieces (underlying : Primitive) (member : EnumMember) :
    Line.text (member.pieces underlying) = member.line underlying := by
  simp [pieces, line, Piece.text, String.append_assoc]

/-- The lines of a block between braces in pieces. -/
def Source.blockPieces (indent : String) (lines : List Line) : List Line :=
  [Line.ofText (indent ++ "\x7b")] ++ lines ++ [Line.ofText (indent ++ "\x7d")]

@[simp] theorem Source.text_blockPieces (indent : String) (lines : List Line) :
    (blockPieces indent lines).map Line.text = block indent (lines.map Line.text) := by
  simp [blockPieces, block]

@[simp] theorem Source.names_blockPieces (indent : String) (lines : List Line) :
    (blockPieces indent lines).flatMap Line.names = lines.flatMap Line.names := by
  simp [blockPieces]

namespace SymbolBody

/-- The lines of a structure in pieces. -/
def recordPieces (name : String) (isUnion : Bool) (pack : Option UInt64)
    (fields : List FieldBinding) : List Line :=
  [Line.ofText (typeIndent ++ "[StructLayout(" ++ (StructLayout.ofRecord isUnion pack).source ++
      ")]"),
    [.plain (typeIndent ++ "public partial struct "), .name name]] ++
    blockPieces typeIndent (fields.flatMap (·.pieces isUnion))

/-- The lines of an enumeration in pieces. -/
def enumPieces (name : String) (underlying : Primitive) (members : List EnumMember) : List Line :=
  [[.plain (typeIndent ++ "public enum "), .name name, .plain (" : " ++ underlying.keyword)]] ++
    blockPieces typeIndent (members.map (·.pieces underlying))

/-- The lines of a structure around one field in pieces. -/
def wrapperPieces (name field : String) (type : ManagedType) : List Line :=
  let param := Text.lower field
  [[.plain (typeIndent ++ "public partial struct "), .name name]] ++
    blockPieces typeIndent
      ([[.plain (memberIndent ++ "public "), .name name, .plain "("] ++ type.pieces ++
          [.plain " ", .name param, .plain ")"]] ++
        blockPieces memberIndent [[.plain (memberIndent ++ "    this."), .name field,
          .plain " = ", .name param, .plain ";"]] ++
        plainLines ([""] ++ attributeLine memberIndent type.marshalAs?) ++
        [[.plain (memberIndent ++ "public ")] ++ type.pieces ++
          [.plain " ", .name field, .plain ";"]])

/-- The lines of an imported function in pieces. -/
def functionPieces (library native name : String) (result : ManagedType)
    (params : List Parameter) (convention : CallingConvention) : List Line :=
  callablePieces memberIndent
    ("DllImport(" ++ Text.Quoted.encode library ++
      ", CallingConvention = CallingConvention." ++ convention.source ++
      ", EntryPoint = " ++ Text.Quoted.encode native ++ ")")
    "public static extern" name result params

/-- The lines of a declaration in pieces. -/
def pieces (library indent native name : String) : SymbolBody → List Line
  | .record isUnion pack fields => recordPieces name isUnion pack fields
  | .enumeration underlying members => enumPieces name underlying members
  | .wrapper field type => wrapperPieces name field type
  | .delegate signature => signature.pieces indent
  | .function result params convention =>
    functionPieces library native name result params convention

theorem text_pieces (library indent native name : String) (body : SymbolBody) :
    (body.pieces library indent native name).map Line.text =
      body.lines library indent native name := by
  cases body with
  | record isUnion pack fields =>
      simp [pieces, lines, recordPieces, recordLines, List.map_flatMap, FieldBinding.text_pieces,
        Piece.text]
  | enumeration underlying members =>
      simp [pieces, lines, enumPieces, enumLines, Function.comp_def, EnumMember.text_pieces,
        Piece.text, String.append_assoc]
  | wrapper field type =>
      simp [pieces, lines, wrapperPieces, wrapperLines, ManagedType.text_pieces, Piece.text,
        String.append_assoc]
  | delegate signature => exact signature.text_pieces indent
  | function result params convention => exact text_callablePieces ..

end SymbolBody

/-! ## Symbols -/

namespace BindingSymbol

variable (library : String) (symbol : BindingSymbol)

/-- The lines of all fragments of a symbol in pieces. -/
def pieces : List (List Line) :=
  let indent := if symbol.isContained then memberIndent else typeIndent
  symbol.delegates.map (·.pieces indent) ++
    [symbol.body.pieces library typeIndent symbol.nativeName symbol.emittedName]

/-- Put together, the pieces are the fragments that are written for the symbol. -/
theorem text_pieces :
    (symbol.pieces library).map (fun lines => Text.ofLines (lines.map Line.text)) =
      symbol.fragments library := by
  simp [pieces, fragments, fragment, SymbolBody.fragment, Delegate.fragment, SymbolBody.text_pieces,
    Delegate.text_pieces, Function.comp_def]

/-- The names in the fragments of a symbol. -/
def writtenNames : List String := (symbol.pieces library).flatMap (·.flatMap Line.names)

end BindingSymbol

end Interop
