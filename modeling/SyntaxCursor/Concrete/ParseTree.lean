/-!
# Parse trees

What a parser reports about a source text: an ordered tree whose nodes carry a kind, a byte
span, the row and column at which they start, and two flags. Nothing is assumed about the
spans: they may be reversed, overlap, or lie outside the source.
-/
namespace SyntaxCursor.Concrete

/-- What a parser says about one node, its children apart. -/
structure ParseInfo where
  kind : String
  start : Nat
  stop : Nat
  row : Nat
  column : Nat
  isNamed : Bool
  /-- The parser put the node in because the grammar asks for it. -/
  isMissing : Bool
  deriving DecidableEq, Repr, Inhabited

/-- A node that covers text the grammar does not allow. -/
def ParseInfo.isError (info : ParseInfo) : Bool := info.kind == "ERROR"

inductive ParseTree where
  | node (info : ParseInfo) (children : List ParseTree)
  deriving Inhabited

namespace ParseTree

def info : ParseTree → ParseInfo
  | .node info _ => info

def children : ParseTree → List ParseTree
  | .node _ children => children

mutual

def size : ParseTree → Nat
  | .node _ children => sizes children + 1

/-- The number of nodes of a list of trees. -/
def sizes : List ParseTree → Nat
  | [] => 0
  | t :: ts => size t + sizes ts

end

@[simp] theorem size_node (info : ParseInfo) (children : List ParseTree) :
    size (.node info children) = sizes children + 1 := by
  rw [size]

@[simp] theorem sizes_nil : sizes [] = 0 := by rw [sizes]

@[simp] theorem sizes_cons (t : ParseTree) (ts : List ParseTree) :
    sizes (t :: ts) = size t + sizes ts := by
  rw [sizes]

theorem size_pos (t : ParseTree) : 0 < size t := by
  cases t; simp

end ParseTree

/-- A source text together with its parse. -/
structure Document where
  source : List UInt8
  tree : ParseTree
  /-- Whether the parser met anything that the grammar does not allow. -/
  hasError : Bool
  deriving Inhabited

/-- The bytes of a source from `start` on and before `stop`, as far as it has them. -/
def slice (source : List UInt8) (start stop : Nat) : List UInt8 :=
  (source.drop start).take (stop - start)

theorem getElem?_slice (source : List UInt8) (start stop j : Nat) :
    (slice source start stop)[j]? = if start + j < stop then source[start + j]? else none := by
  rw [slice, List.getElem?_take, List.getElem?_drop]
  by_cases h : start + j < stop
  · rw [if_pos (by omega), if_pos h]
  · rw [if_neg (by omega), if_neg h]

end SyntaxCursor.Concrete
