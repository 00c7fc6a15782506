import SyntaxCursor.Abstract.Node
import SyntaxCursor.Record.Datum

/-!
# Abstract trees from untyped data

A child of a node may be a node or a scalar. A datum that is exactly one of these stays what
it is, and a flag counts as an integer. For any other datum the issues of every reading are
reported: as a node, as a text, as an integer and as a floating-point number.
-/
namespace SyntaxCursor.Record

open Abstract

def nodeOf (kind : String) (line start stop : Int) (children : List Item) (selected : Bool) :
    Node :=
  { info := { kind, line, start, stop, selected }, children }

/-- The issues of a datum that is no scalar, in the place of one. -/
def scalarIssues : List Issue :=
  [⟨[.name "str"], .notText⟩, ⟨[.name "int"], .notInteger⟩, ⟨[.name "float"], .notFloat⟩]

def childOf (node : Checked Node) : Checked Item :=
  match node.within (.name "AbstractNode") with
  | .ok n => .ok n.toItem
  | .error issues => .error (issues ++ scalarIssues)

/-- A node from its fields, given its children if there is a field for them. -/
def nodeFrom (fields : List (String × Datum)) (children : Option (Checked (List Item))) :
    Checked Node :=
  Checked.start nodeOf
    |>.apply (required fields "kind" readText)
    |>.apply (required fields "line" readInteger)
    |>.apply (required fields "start_byte" readInteger)
    |>.apply (required fields "end_byte" readInteger)
    |>.apply ((children.getD (.ok [])).within (.name "children"))
    |>.apply (optional fields "selected" false readFlag)

mutual

def readNode : Datum → Checked Node
  | .record fields => nodeFrom fields (readChildren fields)
  | _ => Checked.fail .notRecord

/-- Read the field with the children of a node, if it is there. -/
def readChildren : List (String × Datum) → Option (Checked (List Item))
  | [] => none
  | (name, d) :: rest =>
    match readChildren rest with
    | some children => some children
    | none => if name == "children" then some (readList d) else none

def readList : Datum → Checked (List Item)
  | .list items => readItems 0 items
  | _ => Checked.fail .notList

/-- Read children, the first of which stands at place `i`. -/
def readItems (i : Nat) : List Datum → Checked (List Item)
  | [] => .ok []
  | d :: ds =>
    Checked.start List.cons
      |>.apply ((readItem d).within (.index i))
      |>.apply (readItems (i + 1) ds)

def readItem : Datum → Checked Item
  | .null => .ok (.scalar .null)
  | .flag b => .ok (.scalar (.int (if b then 1 else 0)))
  | .int n => .ok (.scalar (.int n))
  | .float x => .ok (.scalar (.float x))
  | .text s => .ok (.scalar (.text s))
  | .list _ => childOf (Checked.fail .notRecord)
  | .record fields => childOf (nodeFrom fields (readChildren fields))

end

end SyntaxCursor.Record
