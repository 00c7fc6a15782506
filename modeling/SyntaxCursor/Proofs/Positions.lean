import Mathlib.Data.List.TakeWhile
import SyntaxCursor.Position
import SyntaxCursor.Proofs.Characters

/-!
# Positions and offsets

A source is read around one of its lines: the lines before it, the line, and what follows it
(`Around`). There both translations can be computed. A position leads to the end of as many
characters of its line as it has before it, and an offset in the line leads back to the number of
characters of the part in front of it. So a position that is translated to an offset and back is
moved to the nearest one of the source (`ofOffset_toOffset`), and an offset comes back from its
position unless it lies inside of a sequence, which is then passed (`toOffset_ofOffset`).
-/
namespace SyntaxCursor

open Utf8

theorem lines_cons (b : UInt8) (bytes : List UInt8) :
    lines (b :: bytes) =
      if b == lineFeed then [] :: lines bytes else (lines bytes).modifyHead (b :: ·) := by
  rw [lines]
  split
  · rfl
  · cases hlines : lines bytes with
    | nil => exact absurd hlines (lines_ne_nil bytes)
    | cons first rest => rfl

theorem lines_eq_splitOn (source : List UInt8) : lines source = source.splitOn lineFeed := by
  induction source with
  | nil => rfl
  | cons b bytes ih =>
    rw [List.splitOn_eq_splitOnP] at ih ⊢
    rw [lines_cons, List.splitOnP_cons_eq_if_modifyHead, ih]

theorem lines_of_not_mem {line : List UInt8} (h : lineFeed ∉ line) : lines line = [line] := by
  rw [lines_eq_splitOn, List.splitOn_eq_splitOnP]
  apply List.splitOnP_eq_singleton
  intro b hb
  exact beq_false_of_ne (ne_of_mem_of_not_mem hb h)

theorem lines_append_lineFeed (xs ys : List UInt8) :
    lines (xs ++ lineFeed :: ys) = lines xs ++ lines ys := by
  simp only [lines_eq_splitOn, List.splitOn_append_cons_self]

theorem length_lines (source : List UInt8) :
    (lines source).length = source.count lineFeed + 1 := by
  induction source with
  | nil => rfl
  | cons b bytes ih =>
    rw [lines_cons]
    split
    case isTrue h => rw [eq_of_beq h, List.count_cons_self, List.length_cons, ih]
    case isFalse h => rw [List.count_cons_of_ne (by simpa using h), List.length_modifyHead, ih]

/-- Lines with the line feeds that end them, as they stand before another line. -/
def endedLines (all : List (List UInt8)) : List UInt8 :=
  all.flatMap fun line => line ++ [lineFeed]

theorem lines_endedLines_append {init : List (List UInt8)} (h : ∀ l ∈ init, lineFeed ∉ l)
    (bytes : List UInt8) : lines (endedLines init ++ bytes) = init ++ lines bytes := by
  induction init with
  | nil => rfl
  | cons l init ih =>
    obtain ⟨hl, hinit⟩ := List.forall_mem_cons.1 h
    have hcons : endedLines (l :: init) ++ bytes = l ++ lineFeed :: (endedLines init ++ bytes) := by
      simp [endedLines]
    rw [hcons, lines_append_lineFeed, lines_of_not_mem hl, ih hinit]
    rfl

/-- The nearest of the numbers from one to the last. -/
def clamped (last : Nat) (n : Int) : Int := max 1 (min last n)

theorem clamped_eq_self_iff {last : Nat} (hlast : 1 ≤ last) {n : Int} :
    clamped last n = n ↔ 1 ≤ n ∧ n ≤ last := by
  unfold clamped
  omega

/-- The nearest offset in a source, from its start to its end. -/
def offsetIn (source : List UInt8) (offset : Int) : Nat :=
  (max 0 (min (source.length : Int) offset)).toNat

theorem offsetIn_le (source : List UInt8) (offset : Int) :
    offsetIn source offset ≤ source.length := by
  unfold offsetIn
  omega

theorem offsetIn_natCast {source : List UInt8} {o : Nat} (h : o ≤ source.length) :
    offsetIn source o = o := by
  unfold offsetIn
  omega

/-- The parts of a source around one of its lines: the lines before it, and what follows it. -/
structure Around (source : List UInt8) (init : List (List UInt8)) (line after : List UInt8) :
    Prop where
  source_eq : source = endedLines init ++ (line ++ after)
  not_mem_init : ∀ l ∈ init, lineFeed ∉ l
  not_mem_line : lineFeed ∉ line
  after_eq : after = [] ∨ ∃ rest, after = lineFeed :: rest

/-- Where a line ends. -/
theorem exists_line (bytes : List UInt8) :
    ∃ line after, bytes = line ++ after ∧ lineFeed ∉ line ∧
      line = bytes.takeWhile (· != lineFeed) ∧ (after = [] ∨ ∃ rest, after = lineFeed :: rest) := by
  refine ⟨_, bytes.dropWhile (· != lineFeed), List.takeWhile_append_dropWhile.symm, ?_, rfl, ?_⟩
  · intro hmem
    have hne := List.mem_takeWhile_imp hmem
    simp at hne
  · cases hafter : bytes.dropWhile (· != lineFeed) with
    | nil => exact .inl rfl
    | cons b rest =>
      have hb := List.head_dropWhile_not (· != lineFeed) (l := bytes) (by simp [hafter])
      simp only [hafter, List.head_cons, bne_eq_false_iff_eq] at hb
      exact .inr ⟨rest, by rw [hb]⟩

namespace Around

section

variable {source : List UInt8} {init : List (List UInt8)} {line after : List UInt8}

theorem lines_eq (h : Around source init line after) :
    lines source = init ++ lines (line ++ after) := by
  rw [h.source_eq, lines_endedLines_append h.not_mem_init]

theorem exists_lines_eq (h : Around source init line after) :
    ∃ rest, lines source = init ++ line :: rest := by
  rw [h.lines_eq]
  obtain rfl | ⟨rest, rfl⟩ := h.after_eq
  · exact ⟨[], by rw [List.append_nil, lines_of_not_mem h.not_mem_line]⟩
  · exact ⟨lines rest, by
      rw [lines_append_lineFeed, lines_of_not_mem h.not_mem_line, List.singleton_append]⟩

/-- No line is moved that the source has. -/
theorem clamped_length (h : Around source init line after) :
    clamped (source.count lineFeed + 1) (init.length + 1) = init.length + 1 := by
  obtain ⟨rest, hlines⟩ := h.exists_lines_eq
  have hlen := congrArg List.length hlines
  rw [length_lines, List.length_append, List.length_cons] at hlen
  rw [clamped_eq_self_iff (by omega)]
  omega

/-- Nothing follows the last line. -/
theorem after_eq_nil (h : Around source init line after)
    (hlast : (lines source).length = init.length + 1) : after = [] := by
  obtain hnil | ⟨rest, rfl⟩ := h.after_eq
  · exact hnil
  · have hrest := List.length_pos_of_ne_nil (lines_ne_nil rest)
    rw [h.lines_eq, lines_append_lineFeed, lines_of_not_mem h.not_mem_line] at hlast
    simp only [List.length_append, List.length_singleton] at hlast
    omega

end

/-- Every line has its surroundings. -/
theorem exists_of_lt {source : List UInt8} {i : Nat} (h : i < (lines source).length) :
    ∃ init line after, Around source init line after ∧ init.length = i := by
  induction i generalizing source with
  | zero =>
    obtain ⟨line, after, hsource, hline, -, hafter⟩ := exists_line source
    exact ⟨[], line, after, ⟨hsource, by simp, hline, hafter⟩, rfl⟩
  | succ i ih =>
    obtain ⟨line, after, hsource, hline, -, hafter⟩ := exists_line source
    obtain rfl | ⟨rest, rfl⟩ := hafter
    · rw [hsource, List.append_nil, lines_of_not_mem hline, List.length_singleton] at h
      omega
    · rw [hsource, lines_append_lineFeed, lines_of_not_mem hline, List.length_append,
        List.length_singleton] at h
      have hrest : i < (lines rest).length := by omega
      obtain ⟨init, line', after, haround, hlen⟩ := ih hrest
      refine ⟨line :: init, line', after, ⟨?_, ?_, haround.not_mem_line, haround.after_eq⟩, ?_⟩
      · rw [hsource]
        nth_rewrite 1 [haround.source_eq]
        simp [endedLines]
      · exact List.forall_mem_cons.2 ⟨hline, haround.not_mem_init⟩
      · rw [List.length_cons, hlen]

/-- Every offset lies in a line, which it cuts in two. -/
theorem exists_of_le {source : List UInt8} {o : Nat} (h : o ≤ source.length) :
    ∃ init front back after, Around source init (front ++ back) after ∧
      o = (endedLines init).length + front.length ∧
      back = (source.drop o).takeWhile (· != lineFeed) := by
  obtain ⟨n, hn⟩ := Nat.exists_eq_add_one.2
    (List.length_pos_of_ne_nil (lines_ne_nil (source.take o)))
  have hlt : n < (lines (source.take o)).length := by omega
  obtain ⟨init, front, after', hfront, hlen⟩ := exists_of_lt hlt
  obtain rfl := hfront.after_eq_nil (by omega)
  obtain ⟨back, after, hdrop, hback, hbackeq, hafter⟩ := exists_line (source.drop o)
  have htake : source.take o = endedLines init ++ front := by
    simpa using hfront.source_eq
  refine ⟨init, front, back, after, ⟨?_, hfront.not_mem_init, ?_, hafter⟩, ?_, hbackeq⟩
  · rw [← List.take_append_drop o source, htake, hdrop]
    simp only [List.append_assoc]
  · exact List.not_mem_append hfront.not_mem_line hback
  · have hcount := congrArg List.length htake
    rw [List.length_take, List.length_append] at hcount
    omega

section

variable {source : List UInt8} {init : List (List UInt8)} {line after : List UInt8}

theorem toOffset_eq (h : Around source init line after) {p : Position}
    (hline : clamped (source.count lineFeed + 1) p.line = init.length + 1) :
    Position.toOffset source p =
      (endedLines init).length +
        ((characters line).take (p.column - 1).toNat).flatten.length := by
  obtain ⟨rest, hlines⟩ := h.exists_lines_eq
  have hcount := length_lines source
  have hindex : (max 0 (min (((lines source).length : Int) - 1) (p.line - 1))).toNat =
      init.length := by
    unfold clamped at hline
    omega
  unfold Position.toOffset
  simp only [hindex]
  rw [hlines, List.take_left, List.getElem?_append_right (Nat.le_refl _), Nat.sub_self]
  rfl

/-- The column of an offset counts the characters of the part of the line before it. -/
theorem ofOffset_eq {front back : List UInt8} (h : Around source init (front ++ back) after)
    {offset : Int} (ho : offsetIn source offset = (endedLines init).length + front.length) :
    Position.ofOffset source offset =
      { line := init.length + 1, column := (characters front).length + 1 } := by
  have hfront : lineFeed ∉ front := fun hmem => h.not_mem_line (List.mem_append_left _ hmem)
  have htake : source.take (offsetIn source offset) = endedLines init ++ front := by
    rw [ho, ← List.length_append, h.source_eq, List.append_assoc,
      ← List.append_assoc (endedLines init), List.take_left]
  have hlines : lines (source.take (offsetIn source offset)) = init ++ [front] := by
    rw [htake, lines_endedLines_append h.not_mem_init, lines_of_not_mem hfront]
  unfold offsetIn at hlines
  unfold Position.ofOffset
  simp [hlines]

theorem not_insideSequence_endedLines (init : List (List UInt8)) (bytes : List UInt8) :
    ¬ InsideSequence (endedLines init ++ bytes) (endedLines init).length := by
  obtain rfl | ⟨first, last, rfl⟩ := init.eq_nil_or_concat
  · rintro ⟨i, _, _, _, hi, _⟩
    exact absurd hi (Nat.not_lt_zero i)
  · have hended : endedLines (first ++ [last]) = endedLines first ++ last ++ [lineFeed] := by
      simp [endedLines]
    refine not_insideSequence_of_before (b := lineFeed) ?_ (by decide)
    rw [List.concat_eq_append, hended]
    simp

/-- Places inside of sequences are places of the line: a line feed is in none of several bytes. -/
theorem insideSequence_iff (h : Around source init line after) {o : Nat} (ho : o ≤ line.length) :
    InsideSequence source ((endedLines init).length + o) ↔ InsideSequence line o := by
  rw [h.source_eq, insideSequence_append_length_add (not_insideSequence_endedLines init _)]
  obtain rfl | ⟨rest, rfl⟩ := h.after_eq
  · rw [List.append_nil]
  · apply insideSequence_append_of_le _ ho
    exact not_insideSequence_of_after (b := lineFeed) (by simp) (.inl (by decide))

end

end Around

namespace Position

/-- A position that its source has: no column lies past the end of its line. -/
def InSource (source : List UInt8) (p : Position) : Prop :=
  1 ≤ p.line ∧ 1 ≤ p.column ∧
    ∃ line cs, (source.splitOn lineFeed)[(p.line - 1).toNat]? = some line ∧
      AreCharacters line cs ∧ p.column ≤ cs.length + 1

/-- The position nearest to one, first by its line, and then by its column on that line. -/
theorem exists_ofOffset_toOffset_eq (source : List UInt8) (p : Position) :
    ∃ line,
      (source.splitOn lineFeed)[(clamped (source.count lineFeed + 1) p.line - 1).toNat]? =
          some line ∧
        ofOffset source (toOffset source p) =
          { line := clamped (source.count lineFeed + 1) p.line
            column := clamped ((characters line).length + 1) p.column } := by
  have hcount := length_lines source
  obtain ⟨i, hi⟩ : ∃ i : Nat, clamped (source.count lineFeed + 1) p.line = i + 1 :=
    ⟨(clamped (source.count lineFeed + 1) p.line - 1).toNat, by unfold clamped; omega⟩
  have hlt : i < (lines source).length := by
    unfold clamped at hi
    omega
  obtain ⟨init, line, after, haround, rfl⟩ := Around.exists_of_lt hlt
  obtain ⟨rest, hlines⟩ := haround.exists_lines_eq
  refine ⟨line, ?_, ?_⟩
  · rw [← lines_eq_splitOn, hlines, hi]
    simp
  · obtain ⟨k, hk⟩ : ∃ k, k = (p.column - 1).toNat := ⟨_, rfl⟩
    have hcut : line =
        ((characters line).take k).flatten ++ ((characters line).drop k).flatten := by
      rw [← List.flatten_append, List.take_append_drop, flatten_characters]
    have hoffset := haround.toOffset_eq hi
    rw [← hk] at hoffset
    rw [hcut] at haround
    have hle : toOffset source p ≤ source.length := by
      have hlen := congrArg List.length haround.source_eq
      simp only [List.length_append] at hlen
      omega
    rw [haround.ofOffset_eq ((offsetIn_natCast hle).trans hoffset), characters_flatten_take,
      List.length_take, hi]
    unfold clamped
    congr 1
    omega

/-- Translated to an offset and back, a position is moved to the nearest one of the source: first
to the nearest line, and then to the nearest column of that. -/
theorem ofOffset_toOffset (source : List UInt8) (p : Position) :
    (∃ line cs,
      (source.splitOn lineFeed)[(clamped (source.count lineFeed + 1) p.line - 1).toNat]? =
          some line ∧
        AreCharacters line cs ∧
          ofOffset source (toOffset source p) =
            { line := clamped (source.count lineFeed + 1) p.line
              column := clamped (cs.length + 1) p.column }) ∧
      (ofOffset source (toOffset source p) = p ↔ InSource source p) := by
  obtain ⟨line, hline, hback⟩ := exists_ofOffset_toOffset_eq source p
  refine ⟨⟨line, characters line, hline, areCharacters_characters line, hback⟩, ?_⟩
  rw [hback]
  constructor
  · intro heq
    obtain ⟨hl, hc⟩ := Position.mk.inj (heq.trans (show p = ⟨p.line, p.column⟩ from rfl))
    rw [hl] at hline
    rw [clamped_eq_self_iff (by omega)] at hl hc
    exact ⟨hl.1, hc.1, line, characters line, hline, areCharacters_characters line,
      by exact_mod_cast hc.2⟩
  · rintro ⟨hl, hc, line', cs, hline', hcs, hle⟩
    have hindex := (List.getElem?_eq_some_iff.1 hline').1
    rw [← lines_eq_splitOn, length_lines] at hindex
    have hl' : clamped (source.count lineFeed + 1) p.line = p.line :=
      (clamped_eq_self_iff (by omega)).2 ⟨hl, by omega⟩
    rw [hl', hline'] at hline
    obtain rfl : line' = line := Option.some.inj hline
    rw [areCharacters_iff.1 hcs] at hle
    rw [hl', (clamped_eq_self_iff (by omega)).2 ⟨hc, by exact_mod_cast hle⟩]

/-- Where the line of an offset ends: at its line feed, or with the source. -/
def lineEnd (source : List UInt8) (o : Nat) : Nat :=
  o + ((source.drop o).takeWhile (· != lineFeed)).length

/-- Translated to a position and back, an offset moves only forward and not past the end of its
line, and it moves just where it lies inside of a sequence. -/
theorem toOffset_ofOffset (source : List UInt8) (offset : Int) :
    offsetIn source offset ≤ toOffset source (ofOffset source offset) ∧
      toOffset source (ofOffset source offset) ≤ lineEnd source (offsetIn source offset) ∧
        (toOffset source (ofOffset source offset) = offsetIn source offset ↔
          ¬ InsideSequence source (offsetIn source offset)) := by
  obtain ⟨init, front, back, after, haround, ho, hback⟩ :=
    Around.exists_of_le (offsetIn_le source offset)
  have hposition := haround.ofOffset_eq ho
  have hr : toOffset source (ofOffset source offset) =
      (endedLines init).length + reach front back := by
    rw [hposition, haround.toOffset_eq haround.clamped_length]
    simp [reach]
  have hle := le_reach front back
  have hreach := reach_le front back
  refine ⟨by omega, ?_, ?_⟩
  · unfold lineEnd
    rw [← hback]
    omega
  · rw [hr, ho, haround.insideSequence_iff (by simp), ← reach_eq_length_iff]
    omega

-- Between the two bytes of a letter: the offset has the column behind it.
example : ofOffset [0x61, 0xc3, 0xa9, 0x0a] 2 = { line := 1, column := 3 } ∧
    toOffset [0x61, 0xc3, 0xa9, 0x0a] { line := 1, column := 3 } = 3 := by decide +kernel

end Position

end SyntaxCursor
