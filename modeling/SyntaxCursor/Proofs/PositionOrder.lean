import Mathlib.Order.Defs.PartialOrder
import SyntaxCursor.Navigation.Navigator
import SyntaxCursor.Proofs.Positions

/-!
# The order of positions

Positions are ordered by their lines, and on one line by their columns. From a boundary of
characters on, a later offset has a later position (`ofOffset_lt_ofOffset`): on the same line there
are characters between the two, and past the line feed the line is another one. In the same way a
later position of the source has a later offset. So the range of a node whose span begins at a
boundary does not end before it starts.
-/
namespace SyntaxCursor

open Abstract Concrete Navigation Utf8

namespace Position

/-- Of two positions the one on the earlier line comes first, and of two on one line the one with
the smaller column. -/
instance : PartialOrder Position where
  le p q := p.line < q.line ∨ p.line = q.line ∧ p.column ≤ q.column
  le_refl p := .inr ⟨rfl, Int.le_refl p.column⟩
  le_trans p q r hpq hqr := by omega
  le_antisymm p q hpq hqp := by
    cases p
    cases q
    simp only [mk.injEq] at hpq hqp ⊢
    omega

theorem le_def {p q : Position} :
    p ≤ q ↔ p.line < q.line ∨ p.line = q.line ∧ p.column ≤ q.column := Iff.rfl

theorem lt_iff {p q : Position} :
    p < q ↔ p.line < q.line ∨ p.line = q.line ∧ p.column < q.column := by
  rw [lt_iff_le_not_ge, le_def, le_def]
  omega

end Position

theorem Position.line_ofOffset (source : List UInt8) (offset : Int) :
    (Position.ofOffset source offset).line =
      (lines (source.take (offsetIn source offset))).length := rfl

theorem length_endedLines_concat (init : List (List UInt8)) (line : List UInt8) :
    (endedLines (init ++ [line])).length = (endedLines init).length + (line.length + 1) := by
  simp [endedLines]

/-- A place behind the line feed of a line has a later line. -/
theorem Around.lt_line_ofOffset {source : List UInt8} {init : List (List UInt8)}
    {line after : List UInt8} (h : Around source init line after) {offset : Int}
    (hlt : (endedLines init).length + line.length < offsetIn source offset) :
    (init.length : Int) + 1 < (Position.ofOffset source offset).line := by
  have hle := offsetIn_le source offset
  have hsource := h.source_eq
  obtain rfl | ⟨rest, rfl⟩ := h.after_eq
  · have hlen := congrArg List.length hsource
    simp only [List.length_append, List.length_nil] at hlen
    omega
  · have hended : source = endedLines (init ++ [line]) ++ rest := by
      rw [hsource]
      simp [endedLines]
    have hlength : (endedLines (init ++ [line])).length ≤ offsetIn source offset := by
      rw [length_endedLines_concat]
      omega
    obtain ⟨k, hk⟩ := Nat.exists_eq_add_of_le hlength
    have htake : source.take (offsetIn source offset) =
        endedLines (init ++ [line]) ++ rest.take k := by
      rw [hk]
      nth_rewrite 1 [hended]
      rw [List.take_length_add_append]
    have hnot : ∀ l ∈ init ++ [line], lineFeed ∉ l :=
      List.forall_mem_append.2 ⟨h.not_mem_init, by simpa using h.not_mem_line⟩
    have hpos := List.length_pos_of_ne_nil (lines_ne_nil (rest.take k))
    rw [Position.line_ofOffset, htake, lines_endedLines_append hnot, List.length_append,
      List.length_append, List.length_singleton]
    omega

namespace Position

variable {source : List UInt8}

theorem ofOffset_congr {o₁ o₂ : Int} (h : offsetIn source o₁ = offsetIn source o₂) :
    ofOffset source o₁ = ofOffset source o₂ := by
  unfold offsetIn at h
  rw [ofOffset, ofOffset, h]

/-- From a boundary of characters on, a later offset has a later position. -/
theorem ofOffset_lt_ofOffset {o₁ o₂ : Int} (hlt : offsetIn source o₁ < offsetIn source o₂)
    (hcut : ¬ InsideSequence source (offsetIn source o₁)) :
    ofOffset source o₁ < ofOffset source o₂ := by
  obtain ⟨init, front, back, after, haround, ho₁, -⟩ :=
    Around.exists_of_le (offsetIn_le source o₁)
  rw [haround.ofOffset_eq ho₁, lt_iff]
  by_cases hline : offsetIn source o₂ ≤ (endedLines init).length + (front ++ back).length
  · -- On the same line the characters between the offsets are added.
    obtain ⟨mid, rest, rfl, hmid⟩ : ∃ mid rest, back = mid ++ rest ∧
        offsetIn source o₂ = (endedLines init).length + (front ++ mid).length := by
      refine ⟨back.take (offsetIn source o₂ - offsetIn source o₁), _,
        (List.take_append_drop _ back).symm, ?_⟩
      simp only [List.length_append, List.length_take] at hline ⊢
      omega
    rw [ho₁, haround.insideSequence_iff (by simp), ← List.append_assoc] at hcut
    have hne : mid ≠ [] := by
      rintro rfl
      rw [List.append_nil] at hmid
      omega
    have hpos := length_characters_pos hne
    rw [← List.append_assoc] at haround
    rw [haround.ofOffset_eq hmid, characters_append fun h => hcut h.append_right,
      List.length_append]
    right
    refine ⟨rfl, ?_⟩
    push_cast
    omega
  · left
    exact haround.lt_line_ofOffset (by omega)

end Position

theorem ne_nil_of_mem_characters {bytes c : List UInt8} (h : c ∈ characters bytes) : c ≠ [] := by
  induction bytes using characters.induct with
  | case1 => simp at h
  | case2 lead bytes n ih =>
    rw [characters, List.mem_cons] at h
    rcases h with rfl | h
    · simp
    · exact ih h

/-- More characters have more bytes. -/
theorem length_flatten_take_lt {bytes : List UInt8} {k l : Nat} (hkl : k < l)
    (hl : l ≤ (characters bytes).length) :
    ((characters bytes).take k).flatten.length < ((characters bytes).take l).flatten.length := by
  have hk : k < (characters bytes).length := by omega
  have hpos := List.length_pos_of_ne_nil (ne_nil_of_mem_characters (List.getElem_mem hk))
  have hpart : (characters bytes).take (k + 1) <+: (characters bytes).take l :=
    List.take_prefix_take_left hkl
  have hle := hpart.flatten.length_le
  rw [List.take_succ_eq_append_getElem hk, List.flatten_append, List.length_append] at hle
  simp only [List.flatten_singleton] at hle
  omega

theorem length_flatten_take_le (bytes : List UInt8) (k : Nat) :
    ((characters bytes).take k).flatten.length ≤ bytes.length := by
  have hle := (List.take_prefix k (characters bytes)).flatten.length_le
  rwa [flatten_characters] at hle

/-- A line with its line feed stands before all later lines. -/
theorem length_endedLines_take_lt {all : List (List UInt8)} {i j : Nat} (hij : i < j)
    {line : List UInt8} (hline : all[i]? = some line) :
    (endedLines (all.take i)).length + line.length < (endedLines (all.take j)).length := by
  obtain ⟨hi, rfl⟩ := List.getElem?_eq_some_iff.1 hline
  have hpart : all.take (i + 1) <+: all.take j := List.take_prefix_take_left hij
  have hle : (endedLines (all.take (i + 1))).length ≤ (endedLines (all.take j)).length := by
    unfold endedLines
    exact (hpart.flatMap _).length_le
  rw [List.take_succ_eq_append_getElem hi, length_endedLines_concat] at hle
  omega

namespace Position

variable {source : List UInt8}

/-- A position of the source has the offset behind as many characters of its line. -/
theorem InSource.exists_toOffset_eq {p : Position} (h : p.InSource source) :
    ∃ (i k : Nat) (line : List UInt8), p = { line := i + 1, column := k + 1 } ∧
      (lines source)[i]? = some line ∧ k ≤ (characters line).length ∧
      toOffset source p = (endedLines ((lines source).take i)).length +
        ((characters line).take k).flatten.length := by
  obtain ⟨hl, hc, line, cs, hline, hcs, hle⟩ := h
  rw [← lines_eq_splitOn] at hline
  obtain ⟨hi, -⟩ := List.getElem?_eq_some_iff.1 hline
  rw [areCharacters_iff.1 hcs] at hle
  refine ⟨(p.line - 1).toNat, (p.column - 1).toNat, line, ?_, hline, by omega, ?_⟩
  · cases p
    simp only [mk.injEq] at hl hc ⊢
    omega
  · have hindex : (max 0 (min (((lines source).length : Int) - 1) (p.line - 1))).toNat =
        (p.line - 1).toNat := by omega
    simp only [toOffset, hindex, hline]
    rfl

/-- A later position of the source has a later offset. -/
theorem toOffset_lt_toOffset {p q : Position} (hp : p.InSource source) (hq : q.InSource source)
    (hlt : p < q) : toOffset source p < toOffset source q := by
  obtain ⟨i, k, line, hpeq, hline, hk, ho⟩ := hp.exists_toOffset_eq
  obtain ⟨j, l, line', hqeq, hline', hl, ho'⟩ := hq.exists_toOffset_eq
  rw [ho, ho']
  rw [lt_iff, hpeq, hqeq] at hlt
  dsimp only at hlt
  have hcases : i < j ∨ i = j ∧ k < l := by omega
  rcases hcases with hij | ⟨rfl, hkl⟩
  · have hended := length_endedLines_take_lt hij hline
    have hpart := length_flatten_take_le line k
    omega
  · obtain rfl : line = line' := Option.some.inj (hline.symm.trans hline')
    have hpart := length_flatten_take_lt hkl hl
    omega

end Position

/-- A range begins no later than it ends where its span does, and only an empty span has an empty
range. -/
theorem Range.start_le_stop {source : List UInt8} {start stop : Int}
    (hle : offsetIn source start ≤ offsetIn source stop)
    (hcut : ¬ InsideSequence source (offsetIn source start)) :
    (ofSpan source start stop).start ≤ (ofSpan source start stop).stop ∧
      ((ofSpan source start stop).start = (ofSpan source start stop).stop →
        offsetIn source start = offsetIn source stop) := by
  rcases Nat.lt_or_eq_of_le hle with hlt | heq
  · have hposition := Position.ofOffset_lt_ofOffset hlt hcut
    exact ⟨hposition.le, fun hsame => absurd hsame hposition.ne⟩
  · exact ⟨(Position.ofOffset_congr heq).le, fun _ => heq⟩

/-- Positions are in the order of their offsets. Of two offsets of a source the later one has the
later position, if the earlier one lies at a boundary of characters; of two positions of the
source, the later one has the later offset. So the location of a node whose span begins at a
boundary, and not behind its end, has a range that does not end before it starts. It is empty only
if both ends of the span are the same once they are moved into the source. -/
theorem positions_in_order (source : List UInt8) :
    (∀ o₁ o₂ : Nat, o₁ < o₂ → o₂ ≤ source.length → ¬ InsideSequence source o₁ →
        Position.ofOffset source o₁ < Position.ofOffset source o₂) ∧
      (∀ p q : Position, p.InSource source → q.InSource source → p < q →
        Position.toOffset source p < Position.toOffset source q) ∧
      ∀ (ρ : Type) (path : Path) (d : Document) (n m : Node) (l : Location), d.source = source →
        Navigator.withLocation (ρ := ρ) path d n = .ok (m, l) →
        offsetIn source n.info.start ≤ offsetIn source n.info.stop →
        ¬ InsideSequence source (offsetIn source n.info.start) →
        ∃ r, l.range = some r ∧ r.start ≤ r.stop ∧
          (r.start = r.stop → offsetIn source n.info.start = offsetIn source n.info.stop) := by
  refine ⟨?_, ?_, ?_⟩
  · intro o₁ o₂ hlt ho₂ hcut
    have ho₁ : o₁ ≤ source.length := by omega
    rw [← offsetIn_natCast ho₁] at hcut
    refine Position.ofOffset_lt_ofOffset ?_ hcut
    rwa [offsetIn_natCast ho₁, offsetIn_natCast ho₂]
  · intro p q hp hq hlt
    exact Position.toOffset_lt_toOffset hp hq hlt
  · rintro ρ path d n m l rfl hlocation hle hcut
    rw [Navigator.withLocation] at hlocation
    cases huri : path.toUri? with
    | none => simp [huri] at hlocation
    | some uri =>
      obtain ⟨rfl, rfl⟩ : n = m ∧ _ = l := by simpa [huri] using hlocation
      exact ⟨_, rfl, Range.start_le_stop hle hcut⟩

/-- A letter of two bytes, a line feed, and a node from the letter to the end of the source. -/
theorem positions_in_order_twoLines :
    let source : List UInt8 := [0xc3, 0xa9, 0x0a, 0x62]
    let n : Node := { info := ⟨"AST_STMT_LIST", 1, 0, 9, false⟩, children := [] }
    Position.ofOffset source 2 < Position.ofOffset source 3 ∧
      Position.toOffset source ⟨1, 2⟩ < Position.toOffset source ⟨2, 1⟩ ∧
      ∃ l r, Navigator.withLocation (ρ := Empty) ⟨.slash, []⟩ ⟨source, default, false⟩ n =
          .ok (n, l) ∧
        l.range = some r ∧ r.start ≤ r.stop ∧ r.start ≠ r.stop := by
  intro source n
  obtain ⟨hoffsets, hpositions, hlocation⟩ := positions_in_order source
  have hzero : ¬ InsideSequence source 0 := by
    rintro ⟨i, -, -, -, hi, -⟩
    omega
  have htwo : ¬ InsideSequence source 2 :=
    not_insideSequence_of_after (b := lineFeed) rfl (.inl (by decide))
  have hfirst : (⟨1, 2⟩ : Position).InSource source :=
    ⟨by decide, by decide, _, _, rfl, areCharacters_characters _, by decide +kernel⟩
  have hsecond : (⟨2, 1⟩ : Position).InSource source :=
    ⟨by decide, by decide, _, _, rfl, areCharacters_characters _, by decide +kernel⟩
  refine ⟨?_, ?_, ?_⟩
  · exact hoffsets 2 3 (by decide) (by decide) htwo
  · exact hpositions _ _ hfirst hsecond (Position.lt_iff.2 (.inl (by decide)))
  · obtain ⟨r, hr, hle, hempty⟩ := hlocation Empty ⟨.slash, []⟩ ⟨source, default, false⟩ n n _ rfl
      rfl (by decide) hzero
    exact ⟨_, r, rfl, hr, hle, fun hsame => absurd (hempty hsame) (by decide)⟩

end SyntaxCursor
