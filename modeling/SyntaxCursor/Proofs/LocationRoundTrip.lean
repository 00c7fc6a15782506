import SyntaxCursor.Record.Place

/-!
# Locations read back

Positions and ranges are read back from the data they are written as, whatever their numbers are.
Both parts of a location can be left open, and either is then written as null. A URI that is null
is read as one that was left open. A range that is null is taken apart all the same, and since null
has no keys, a location without a range is refused (`locationOf_locationDatum`).
-/
namespace SyntaxCursor.Record

theorem readPosition_positionDatum (p : Position) : readPosition (positionDatum p) = .ok p := rfl

theorem key_record {fields : List (String × Datum)} {name : String} {d : Datum}
    (h : field? fields name = some d) : key (.record fields) name = .ok d := by
  rw [key, h]

theorem rangeOf_rangeDatum (r : Range) : rangeOf (rangeDatum r) = .ok r := by
  have hstart : key (rangeDatum r) "start" = .ok (positionDatum r.start) := key_record rfl
  have hstop : key (rangeDatum r) "end" = .ok (positionDatum r.stop) := key_record rfl
  simp only [rangeOf, hstart, hstop, readPosition_positionDatum, bind, Except.bind]
  rfl

theorem rangeOf_null : rangeOf .null = .error .noKeys := rfl

/-- A URI is read back, and so is one that is left open. -/
theorem readUri_datum (uri : Option String) : readUri ((uri.map .text).getD .null) = .ok uri := by
  cases uri <;> rfl

/-- Reading a location undoes writing it, just if its range is not left open. -/
theorem locationOf_locationDatum (l : Location) :
    locationOf (locationDatum l) = if l.range.isSome then .ok l else .error .noKeys := by
  have huri : key (locationDatum l) "uri" = .ok ((l.uri.map .text).getD .null) := key_record rfl
  have hrange : key (locationDatum l) "range" = .ok ((l.range.map rangeDatum).getD .null) :=
    key_record rfl
  obtain ⟨uri, range⟩ := l
  cases range with
  | none =>
    simp only [locationOf, huri, hrange, Option.map_none, Option.getD_none, rangeOf_null, bind,
      Except.bind]
    rfl
  | some r =>
    have hread : rangeOf ((Option.map rangeDatum (some r)).getD .null) = .ok r :=
      rangeOf_rangeDatum r
    have hfields : (readUri ((uri.map .text).getD .null)).within (.name "uri") = .ok uri := by
      rw [readUri_datum]
      rfl
    simp only [locationOf, huri, hrange, hread, hfields, bind, Except.bind]
    rfl

/-- A file as a whole, of which no stretch is meant. -/
def wholeFile : Location := { uri := some "file:///w/a.php", range := none }

/-- The location of a whole file is not read back. -/
theorem locationOf_wholeFile :
    locationOf (locationDatum wholeFile) = .error .noKeys ∧
      ¬ ∀ l : Location, locationOf (locationDatum l) = .ok l := by
  have hrefused : locationOf (locationDatum wholeFile) = .error .noKeys := rfl
  refine ⟨hrefused, fun h => ?_⟩
  have haccepted := h wholeFile
  rw [hrefused] at haccepted
  contradiction

end SyntaxCursor.Record
