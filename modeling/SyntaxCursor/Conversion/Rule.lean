import SyntaxCursor.Abstract.Node
import SyntaxCursor.Concrete.ParseTree
import SyntaxCursor.Conversion.Kind
import SyntaxCursor.Conversion.Literal
import SyntaxCursor.Text.Utf8

/-!
# What one parsed node becomes

A parsed node becomes a list of items. `tokenItems` says what a token becomes and `nodeItems`
what any other node becomes, given the items of its children. A missing node becomes nothing
and an error is kept as a node; both are reported.
-/
namespace SyntaxCursor.Conversion

open Abstract Concrete

/-- A place of the source where it is not what the grammar allows. -/
structure Diagnostic where
  message : String
  start : Int
  length : Int
  line : Int
  deriving DecidableEq, Repr, Inhabited

/-- A report about the extent of a parsed node. -/
def Diagnostic.about (info : ParseInfo) (message : String) : Diagnostic :=
  { message
    start := info.start
    length := (info.stop : Int) - info.start
    line := info.row + 1 }

/-- A part that the grammar asks for is not there. -/
def Diagnostic.missing (info : ParseInfo) : Diagnostic :=
  .about info ("Missing '" ++ info.kind ++ "'")

/-- A part is there that the grammar does not allow. -/
def Diagnostic.unexpected (info : ParseInfo) : Diagnostic := .about info "Unexpected syntax"

/-- The abstract node with the extent of a parsed one. -/
def makeNode (kind : String) (info : ParseInfo) (children : List Item) : Node :=
  { info :=
      { kind
        line := info.row + 1
        start := info.start
        stop := info.stop
        selected := false }
    children }

/-- The items of a token with the given text. -/
def tokenItems (version : Int) (info : ParseInfo) (text : List UInt8) : List Item :=
  if !info.isNamed || isDropped info.kind then []
  else
    match scalarOf? info.kind with
    | some scalar => [.scalar (scalar (Utf8.decode text))]
    | none => [(makeNode (kindName version info.kind) info []).toItem]

/-- The texts of items that are all texts, joined. -/
def joinTexts? : List Item → Option String
  | [] => some ""
  | .scalar (.text s) :: rest => (joinTexts? rest).map (s ++ ·)
  | _ :: _ => none

/-- The items of a node that is no token, given those of its children. -/
def nodeItems (version : Int) (info : ParseInfo) (children : List Item) : List Item :=
  if info.isError then [(makeNode "ERROR" info children).toItem]
  else if isTransparent info.kind then children
  else
    let node := (makeNode (kindName version info.kind) info children).toItem
    if isString info.kind then
      match joinTexts? children with
      | some s => [.scalar (.text s)]
      | none => [node]
    else [node]

/-- The only item of a list, if it is a node. -/
def singleNode? : List Item → Option Node
  | [item] => item.node?
  | _ => none

/-- The tree of a document, given the items of the root of its parse: the only item if that
is a node, and a list of statements around all of them otherwise. -/
def rootNode (info : ParseInfo) (items : List Item) : Node :=
  (singleNode? items).getD (makeNode statementList info items)

end SyntaxCursor.Conversion
