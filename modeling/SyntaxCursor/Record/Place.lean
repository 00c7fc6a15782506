import SyntaxCursor.Conversion.Rule
import SyntaxCursor.Position
import SyntaxCursor.Record.Datum

/-!
# Positions, diagnostics and locations from untyped data

Positions and diagnostics are read leniently. A location is taken apart by its keys, all of
which have to be there; only then are its parts read, the start of its range first.
-/
namespace SyntaxCursor.Record

open Conversion

def readPosition : Datum → Checked Position
  | .record fields =>
    Checked.start Position.mk
      |>.apply (required fields "line" readInteger)
      |>.apply (required fields "column" readInteger)
  | _ => Checked.fail .notRecord

def readDiagnostic : Datum → Checked Diagnostic
  | .record fields =>
    Checked.start Diagnostic.mk
      |>.apply (required fields "message" readText)
      |>.apply (required fields "start" readInteger)
      |>.apply (required fields "length" readInteger)
      |>.apply (required fields "line" readInteger)
  | _ => Checked.fail .notRecord

inductive LocationError where
  | missingKey (name : String)
  /-- The datum has no keys at all. -/
  | noKeys
  | invalid (issues : List Issue)
  deriving DecidableEq, Repr

def key (d : Datum) (name : String) : Except LocationError Datum :=
  match d with
  | .record fields =>
    match field? fields name with
    | some value => .ok value
    | none => .error (.missingKey name)
  | _ => .error .noKeys

/-- The range that a datum with a start and an end describes. -/
def rangeOf (d : Datum) : Except LocationError Range := do
  let start ← (readPosition (← key d "start")).mapError .invalid
  let stop ← (readPosition (← key d "end")).mapError .invalid
  return { start, stop }

/-- The URI of a location, which may be left open. -/
def readUri : Datum → Checked (Option String)
  | .null => .ok none
  | d => (readText d).map some

/-- The location that a datum with a URI and a range describes. -/
def locationOf (d : Datum) : Except LocationError Location := do
  let uri ← key d "uri"
  let range ← rangeOf (← key d "range")
  let uri ← ((readUri uri).within (.name "uri")).mapError .invalid
  return { uri, range := some range }

def positionDatum (p : Position) : Datum :=
  .record [("line", .int p.line), ("column", .int p.column)]

def rangeDatum (r : Range) : Datum :=
  .record [("start", positionDatum r.start), ("end", positionDatum r.stop)]

/-- A location as a datum; a part that is left open is null. -/
def locationDatum (l : Location) : Datum :=
  .record [("uri", (l.uri.map .text).getD .null), ("range", (l.range.map rangeDatum).getD .null)]

end SyntaxCursor.Record
