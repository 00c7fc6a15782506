import SyntaxCursor.Concrete.Listing
import SyntaxCursor.Record.Datum

/-!
# Parses from untyped data

A parse is a record with the listing of its tree and a flag for errors. A row of the listing
is a list of the kind, the number of children, the span, the row and column of the start, and
a text of flags: `n` for a named node and `m` for a missing one.
-/
namespace SyntaxCursor.Record

open Concrete

/-- The row of a listing that a datum describes. -/
def readRow? : Datum → Option Row
  | .list [.text kind, .int count, .int start, .int stop, .int row, .int column, .text flags] =>
    some
      { info :=
          { kind
            start := start.toNat
            stop := stop.toNat
            row := row.toNat
            column := column.toNat
            isNamed := flags.toList.contains 'n'
            isMissing := flags.toList.contains 'm' }
        count := count.toNat }
  | _ => none

/-- The document of a source and the datum that describes its parse. -/
def readDocument? (source : List UInt8) : Datum → Option Document
  | .record fields => do
    let .list nodes ← field? fields "nodes" | none
    let .flag hasError ← field? fields "has_error" | none
    let tree ← ParseTree.ofRows? (← nodes.mapM readRow?)
    return { source, tree, hasError }
  | _ => none

end SyntaxCursor.Record
