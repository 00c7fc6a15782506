import SyntaxCursor.Concrete.ParseTree

/-!
# Listings of parse trees

A listing gives the nodes of a parse tree in pre-order, each with the number of its children.
Reading one from its end leaves on a stack the trees that are complete; a node takes as many
of them as it has children. A listing determines its tree: `ofRows?_rows` reads it back.
-/
namespace SyntaxCursor.Concrete

/-- A node of a listing, and how many children it has. -/
structure Row where
  info : ParseInfo
  count : Nat
  deriving DecidableEq, Repr, Inhabited

namespace ParseTree

mutual

def rows : ParseTree → List Row
  | .node info children => ⟨info, children.length⟩ :: rowsList children

def rowsList : List ParseTree → List Row
  | [] => []
  | t :: ts => rows t ++ rowsList ts

end

theorem rows_node (info : ParseInfo) (children : List ParseTree) :
    rows (.node info children) = ⟨info, children.length⟩ :: rowsList children := by
  rw [rows]

theorem rowsList_nil : rowsList [] = [] := by rw [rowsList]

theorem rowsList_cons (t : ParseTree) (ts : List ParseTree) :
    rowsList (t :: ts) = rows t ++ rowsList ts := by
  rw [rowsList]

/-- Put a node above the complete trees of a stack; `none` if there are too few of them. -/
def stack? (row : Row) (complete : List ParseTree) : Option (List ParseTree) :=
  if row.count ≤ complete.length then
    some (.node row.info (complete.take row.count) :: complete.drop row.count)
  else none

def forest? (rows : List Row) : Option (List ParseTree) :=
  rows.foldr (fun row complete => complete.bind (stack? row)) (some [])

theorem forest?_cons (row : Row) (rows : List Row) :
    forest? (row :: rows) = (forest? rows).bind (stack? row) := rfl

def ofRows? (rows : List Row) : Option ParseTree :=
  (forest? rows).bind fun trees =>
    match trees with
    | [t] => some t
    | _ => none

mutual

/-- The listing of a tree puts it before the trees that follow. -/
theorem forest?_rows_append (t : ParseTree) {rest : List Row} {ts : List ParseTree}
    (h : forest? rest = some ts) : forest? (rows t ++ rest) = some (t :: ts) := by
  match t with
  | .node info children =>
    rw [rows_node, List.cons_append, forest?_cons, forest?_rowsList_append children h]
    simp [stack?]

theorem forest?_rowsList_append (us : List ParseTree) {rest : List Row} {ts : List ParseTree}
    (h : forest? rest = some ts) : forest? (rowsList us ++ rest) = some (us ++ ts) := by
  match us with
  | [] => simpa [rowsList_nil] using h
  | u :: us =>
    rw [rowsList_cons, List.append_assoc,
      forest?_rows_append u (forest?_rowsList_append us h), List.cons_append]

end

theorem ofRows?_rows (t : ParseTree) : ofRows? t.rows = some t := by
  have h : forest? t.rows = some [t] := by
    simpa using forest?_rows_append t (rfl : forest? [] = some [])
  simp [ofRows?, h]

end ParseTree

end SyntaxCursor.Concrete
