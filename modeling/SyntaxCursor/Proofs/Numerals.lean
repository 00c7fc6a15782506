import Mathlib.Data.List.Forall2
import Mathlib.Data.List.Induction
import Mathlib.Data.Nat.Digits.Defs
import Mathlib.Tactic.IntervalCases
import SyntaxCursor.Conversion.Literal

/-!
# Values of numerals

A numeral writes the digits of a number in some base, the highest first (`IsNumeral`). In a source
text a number is spelled in decimal digits, behind a base mark, or in octal digits behind a zero
(`Spells`), and there may be underscores at any places (`Underscored`). Every spelling has the
value of its number. What only looks like one, octal with a digit past seven or a decimal numeral
past the limit, stays the text it was (`integerScalar_spelled`).
-/
namespace SyntaxCursor.Number

/-- A character writes a digit: a figure, or a letter of either case. -/
def Writes (d : Nat) (c : Char) : Prop := c = d.digitChar ∨ c = d.digitChar.toUpper

/-- A text writes a number in a base, by one digit or more; the first of them may be zeros. -/
def IsNumeral (base n : Nat) (cs : List Char) : Prop :=
  ∃ ds : List Nat, ds ≠ [] ∧ (∀ d ∈ ds, d < base) ∧ Nat.ofDigits base ds.reverse = n ∧
    List.Forall₂ Writes ds cs

theorem ofDigits_eq (base : Nat) (ds : List Nat) :
    ofDigits base ds = Nat.ofDigits base ds.reverse := by
  induction ds using List.reverseRecOn with
  | nil => rfl
  | append_singleton ds d ih =>
    rw [ofDigits_concat, ih, List.reverse_concat, Nat.ofDigits_cons, Nat.mul_comm, Nat.add_comm]

theorem digitIn?_of_writes {base d : Nat} {c : Char} (hbase : base ≤ 16) (hd : d < base)
    (hc : Writes d c) : digitIn? base c = some d := by
  have hsixteen : digitIn? 16 c = some d := by
    have hlt : d < 16 := by omega
    rcases hc with rfl | rfl <;> interval_cases d <;> decide
  simp only [digitIn?, Option.filter_eq_some_iff] at hsixteen ⊢
  exact ⟨hsixteen.1, by simpa using hd⟩

theorem ne_underscore_of_digitIn? {base d : Nat} {c : Char} (h : digitIn? base c = some d) :
    c ≠ '_' := by
  rintro rfl
  simp [digitIn?] at h

theorem digits?_cons_of_ne {base : Nat} {c c' : Char} {cs : List Char} (h : c' ≠ '_') :
    digits? base (c :: c' :: cs) =
      (digitIn? base c).bind fun d => (digits? base (c' :: cs)).map (d :: ·) := by
  rw [digits?]
  · cases digitIn? base c <;> cases digits? base (c' :: cs) <;> rfl
  · simp
  · simpa using h

/-- Digits without underscores are read one by one. -/
theorem digits?_eq_some_iff {base : Nat} {cs : List Char} {ds : List Nat} (h : '_' ∉ cs) :
    digits? base cs = some ds ↔
      ds ≠ [] ∧ List.Forall₂ (fun d c => digitIn? base c = some d) ds cs := by
  induction cs generalizing ds with
  | nil => cases ds <;> simp [digits?]
  | cons c cs ih =>
    cases cs with
    | nil =>
      rw [digits?, Option.map_eq_some_iff, List.forall₂_cons_right_iff]
      constructor
      · rintro ⟨d, hd, rfl⟩
        exact ⟨by simp, d, [], hd, .nil, rfl⟩
      · rintro ⟨_, d, _, hd, hnil, rfl⟩
        rw [List.forall₂_nil_right_iff] at hnil
        exact ⟨d, hd, by rw [hnil]⟩
    | cons c' cs =>
      have hrest : '_' ∉ c' :: cs := fun hmem => h (List.mem_cons_of_mem c hmem)
      have hne : c' ≠ '_' := fun heq => hrest (by simp [heq])
      rw [digits?_cons_of_ne hne, Option.bind_eq_some_iff, List.forall₂_cons_right_iff]
      constructor
      · rintro ⟨d, hd, hmap⟩
        obtain ⟨ds', hds', rfl⟩ := Option.map_eq_some_iff.1 hmap
        exact ⟨by simp, d, ds', hd, ((ih hrest).1 hds').2, rfl⟩
      · rintro ⟨_, d, ds', hd, hds', rfl⟩
        have hcons : ds' ≠ [] := by
          rintro rfl
          cases hds'
        exact ⟨d, hd, by rw [(ih hrest).2 ⟨hcons, hds'⟩]; rfl⟩

theorem exists_of_forall₂ {α β : Type} {r : α → β → Prop} {xs : List α} {ys : List β}
    (h : List.Forall₂ r xs ys) {y : β} (hy : y ∈ ys) : ∃ x ∈ xs, r x y := by
  obtain ⟨i, hi, rfl⟩ := List.getElem_of_mem hy
  have hlt : i < xs.length := by rw [h.length_eq]; exact hi
  exact ⟨xs[i], List.getElem_mem hlt, h.get hlt hi⟩

theorem digits?_eq_none_of_mem {base : Nat} {cs : List Char} (h : '_' ∉ cs) {c : Char}
    (hc : c ∈ cs) (hnone : digitIn? base c = none) : digits? base cs = none := by
  cases hdigits : digits? base cs with
  | none => rfl
  | some ds =>
    obtain ⟨d, _, hd⟩ := exists_of_forall₂ ((digits?_eq_some_iff h).1 hdigits).2 hc
    rw [hnone] at hd
    contradiction

namespace IsNumeral

variable {base n : Nat} {cs : List Char}

theorem ne_nil (h : IsNumeral base n cs) : cs ≠ [] := by
  obtain ⟨ds, hne, _, _, hwrites⟩ := h
  cases hwrites with
  | nil => contradiction
  | cons _ _ => simp

theorem exists_writes (h : IsNumeral base n cs) {c : Char} (hc : c ∈ cs) :
    ∃ d < base, Writes d c := by
  obtain ⟨ds, _, hlt, _, hwrites⟩ := h
  obtain ⟨d, hd, hwrite⟩ := exists_of_forall₂ hwrites hc
  exact ⟨d, hlt d hd, hwrite⟩

theorem not_mem_underscore (h : IsNumeral base n cs) (hbase : base ≤ 16) : '_' ∉ cs := by
  intro hmem
  obtain ⟨d, hd, hwrite⟩ := h.exists_writes hmem
  exact ne_underscore_of_digitIn? (digitIn?_of_writes hbase hd hwrite) rfl

/-- The digits of a numeral are read, and they have its value. -/
theorem exists_digits? (h : IsNumeral base n cs) (hbase : base ≤ 16) :
    ∃ ds, digits? base cs = some ds ∧ ofDigits base ds = n ∧ ds.length = cs.length := by
  have hunderscore := h.not_mem_underscore hbase
  obtain ⟨ds, hne, hlt, hvalue, hwrites⟩ := h
  refine ⟨ds, (digits?_eq_some_iff hunderscore).2 ⟨hne, ?_⟩, ?_, hwrites.length_eq⟩
  · refine List.forall₂_iff_zip.2 ⟨hwrites.length_eq, fun {d c} hmem => ?_⟩
    exact digitIn?_of_writes hbase (hlt d (List.of_mem_zip hmem).1)
      (List.forall₂_zip hwrites hmem)
  · rw [ofDigits_eq, hvalue]

/-- The usual digits of a number write it. -/
theorem toDigits (hbase : 1 < base) (n : Nat) : IsNumeral base n (Nat.toDigits base n) := by
  induction n using Nat.strong_induction_on with
  | h n ih =>
    rcases Nat.lt_or_ge n base with hlt | hge
    · rw [Nat.toDigits_of_lt_base hlt]
      exact ⟨[n], by simp, by simpa using hlt, by simp, .cons (.inl rfl) .nil⟩
    · obtain ⟨ds, _, hds, hvalue, hwrites⟩ := ih (n / base) (Nat.div_lt_self (by omega) hbase)
      rw [Nat.toDigits_of_base_le hbase hge]
      refine ⟨ds ++ [n % base], by simp, ?_, ?_, ?_⟩
      · intro d hd
        rcases List.mem_append.1 hd with hd | hd
        · exact hds d hd
        · rw [List.mem_singleton.1 hd]
          exact Nat.mod_lt n (by omega)
      · rw [List.reverse_concat, Nat.ofDigits_cons, hvalue]
        exact Nat.mod_add_div n base
      · exact List.rel_append hwrites (.cons (.inl rfl) .nil)

end IsNumeral

/-- The usual digits of a number begin with a zero only if it is zero. -/
theorem head?_toDigits {base n : Nat} (hbase : 1 < base) (hn : n ≠ 0) :
    (Nat.toDigits base n).head? ≠ some '0' := by
  induction n using Nat.strong_induction_on with
  | h n ih =>
    rcases Nat.lt_or_ge n base with hlt | hge
    · rw [Nat.toDigits_of_lt_base hlt, List.head?_cons, ne_eq, Option.some_inj,
        Nat.digitChar_eq_zero]
      exact hn
    · have hdiv : n / base ≠ 0 := Nat.div_ne_zero_iff.2 ⟨by omega, hge⟩
      rw [Nat.toDigits_of_base_le hbase hge, List.head?_append_of_ne_nil _ Nat.toDigits_ne_nil]
      exact ih _ (Nat.div_lt_self (by omega) hbase) hdiv

theorem trimBy_eq_self {p : Char → Bool} {cs : List Char} (h : ∀ c ∈ cs, p c = false) :
    Text.trimBy p cs = cs := by
  have hdrop : ∀ l : List Char, (∀ c ∈ l, p c = false) → l.dropWhile p = l := by
    intro l hl
    cases l with
    | nil => rfl
    | cons c l => exact List.dropWhile_cons_of_neg (by simp [hl c])
  rw [Text.trimBy, hdrop cs h, hdrop _ (by simpa using h), List.reverse_reverse]

/-- Decimal digits are no white space in any script. -/
theorem isWhiteSpace_of_decimalValue? {c : Char} {v : Nat} (h : Text.decimalValue? c = some v) :
    Text.isWhiteSpace c = false := by
  have hruns : ∀ z ∈ Text.digitZeros, ∀ k < 10,
      Text.isWhiteSpace (Char.ofNat (z + k)) = false := by decide
  obtain ⟨z, hz, _⟩ := Option.map_eq_some_iff.1 h
  have hrange := List.find?_some hz
  rw [Bool.and_eq_true, decide_eq_true_eq, decide_eq_true_eq] at hrange
  have hdigit := hruns z (List.mem_of_find?_eq_some hz) (c.toNat - z) (by omega)
  rwa [Nat.add_sub_cancel' hrange.1, Char.ofNat_toNat] at hdigit

theorem asciiDigit_of_decimalValue? {c : Char} {v : Nat} (h : Text.decimalValue? c = some v) :
    Text.asciiDigit c = v.digitChar := by
  have hlt := Text.decimalValue?_lt h
  rw [Text.asciiDigit, h]
  interval_cases v <;> rfl

/-- Where there is no white space, only the digits of other scripts are changed. -/
theorem plainNumeral_append (front : List Char) {cs : List Char}
    (hfront : ∀ c ∈ front, Text.isWhiteSpace c = false ∧ Text.asciiDigit c = c)
    (hcs : ∀ c ∈ cs, Text.isWhiteSpace c = false) :
    plainNumeral (front ++ cs) = front ++ cs.map Text.asciiDigit := by
  have hblank : ∀ c ∈ front ++ cs, Text.isWhiteSpace c = false :=
    List.forall_mem_append.2 ⟨fun c hc => (hfront c hc).1, hcs⟩
  have hsame : front.map Text.asciiDigit = front :=
    (List.map_congr_left fun c hc => (hfront c hc).2).trans (List.map_id _)
  rw [plainNumeral, trimBy_eq_self hblank, List.map_append, hsame]

/-- A numeral without a sign is its magnitude. -/
theorem literal?_of_plainNumeral {cs plain : List Char} (h : plainNumeral cs = plain)
    (hminus : plain.head? ≠ some '-') (hplus : plain.head? ≠ some '+') :
    literal? cs = (magnitude? plain).map Int.ofNat := by
  have hsign : splitSign plain = (false, plain) := by
    rw [splitSign] <;> rintro rest rfl <;> contradiction
  rw [literal?, h, hsign]
  rfl

theorem magnitude?_of_baseOfMark? {mark : Char} {base : Nat} (h : baseOfMark? mark = some base)
    (cs : List Char) : magnitude? ('0' :: mark :: cs) = markedMagnitude? base cs := by
  rw [magnitude?, h]

/-- A numeral that does not begin with a zero has no base mark. -/
theorem magnitude?_of_head? {cs : List Char} (h : cs.head? ≠ some '0') :
    magnitude? cs = decimalMagnitude? cs := by
  rw [magnitude?]
  rintro c rest rfl
  simp at h

theorem markedMagnitude?_eq {base : Nat} {cs : List Char} (h : '_' ∉ cs) :
    markedMagnitude? base cs = (digits? base cs).map (ofDigits base) := by
  have hhead : cs.head? ≠ some '_' := fun heq => h (List.mem_of_mem_head? heq)
  rw [markedMagnitude?, if_neg (by simpa using hhead)]

namespace IsNumeral

variable {base n : Nat} {cs : List Char} (h : IsNumeral base n cs)

include h

theorem markedMagnitude?_eq (hbase : base ≤ 16) : markedMagnitude? base cs = some n := by
  obtain ⟨ds, hds, hvalue, _⟩ := h.exists_digits? hbase
  rw [Number.markedMagnitude?_eq (h.not_mem_underscore hbase), hds, Option.map_some, hvalue]

theorem plainNumeral_append (hbase : base ≤ 16) (front : List Char)
    (hfront : ∀ c ∈ front, Text.isWhiteSpace c = false ∧ Text.asciiDigit c = c) :
    plainNumeral (front ++ cs) = front ++ cs := by
  have hplain : ∀ c ∈ cs, Text.isWhiteSpace c = false ∧ Text.asciiDigit c = c := by
    intro c hc
    obtain ⟨d, hd, hwrite⟩ := h.exists_writes hc
    have hlt : d < 16 := by omega
    rcases hwrite with rfl | rfl <;> interval_cases d <;> decide
  rw [Number.plainNumeral_append front hfront fun c hc => (hplain c hc).1]
  exact congrArg (front ++ ·)
    ((List.map_congr_left fun c hc => (hplain c hc).2).trans (List.map_id _))

/-- The digits of a base of at most ten are decimal digits. -/
theorem exists_decimalValue? (hbase : base ≤ 10) {c : Char} (hc : c ∈ cs) :
    ∃ v, Text.decimalValue? c = some v := by
  obtain ⟨d, hd, hwrite⟩ := h.exists_writes hc
  have hlt : d < 10 := by omega
  have hvalue : Text.decimalValue? c = some d := by
    rcases hwrite with rfl | rfl <;> interval_cases d <;> decide
  exact ⟨d, hvalue⟩

end IsNumeral

/-- The letters that mark a base, and the bases. -/
def baseMarks : List (Char × Nat) :=
  [('x', 16), ('X', 16), ('o', 8), ('O', 8), ('b', 2), ('B', 2)]

/-- A base mark is read as the mark of its base, and as nothing else. -/
theorem baseOfMark?_of_mem {mark : Char} {base : Nat} (h : (mark, base) ∈ baseMarks) :
    baseOfMark? mark = some base ∧ base ≤ 16 ∧ Text.isWhiteSpace mark = false ∧
      Text.asciiDigit mark = mark ∧ Text.decimalValue? mark = none ∧ mark ≠ '_' := by
  have hall : ∀ m ∈ baseMarks, baseOfMark? m.1 = some m.2 ∧ m.2 ≤ 16 ∧
      Text.isWhiteSpace m.1 = false ∧ Text.asciiDigit m.1 = m.1 ∧
        Text.decimalValue? m.1 = none ∧ m.1 ≠ '_' := by decide
  exact hall _ h

/-- Behind a base mark any number of digits is read. -/
theorem literal?_marked {mark : Char} {base n : Nat} {cs : List Char}
    (hmark : (mark, base) ∈ baseMarks) (h : IsNumeral base n cs) :
    literal? ('0' :: mark :: cs) = some (n : Int) := by
  obtain ⟨hread, hbase, hblank, hascii, _⟩ := baseOfMark?_of_mem hmark
  have hfront : ∀ c ∈ ['0', mark], Text.isWhiteSpace c = false ∧ Text.asciiDigit c = c := by
    rw [List.forall_mem_cons, List.forall_mem_singleton]
    exact ⟨by decide, hblank, hascii⟩
  have hplain : plainNumeral ('0' :: mark :: cs) = '0' :: mark :: cs :=
    h.plainNumeral_append hbase ['0', mark] hfront
  rw [literal?_of_plainNumeral hplain (by simp) (by simp), magnitude?_of_baseOfMark? hread,
    h.markedMagnitude?_eq hbase]
  rfl

/-- As many decimal digits are read as the limit allows. -/
theorem literal?_toDigits {n : Nat} (hlimit : (Nat.toDigits 10 n).length ≤ decimalLimit) :
    literal? (Nat.toDigits 10 n) = some (n : Int) := by
  by_cases hn : n = 0
  · subst hn
    decide
  have h : IsNumeral 10 n (Nat.toDigits 10 n) := .toDigits (by decide) n
  obtain ⟨ds, hds, hvalue, hlength⟩ := h.exists_digits? (by decide)
  have hplain : plainNumeral (Nat.toDigits 10 n) = Nat.toDigits 10 n :=
    h.plainNumeral_append (by decide) [] (by simp)
  have hsign : ∀ c, c.isDigit = false → (Nat.toDigits 10 n).head? ≠ some c := by
    intro c hc hhead
    have hdigit := Nat.isDigit_of_mem_toDigits (by decide) (by decide) (List.mem_of_mem_head? hhead)
    rw [hc] at hdigit
    contradiction
  rw [literal?_of_plainNumeral hplain (hsign '-' rfl) (hsign '+' rfl),
    magnitude?_of_head? (head?_toDigits (by decide) hn), decimalMagnitude?, hds, Option.bind_some,
    if_pos (by omega), hvalue]
  rfl

/-- Decimal digits of any script. -/
def IsDecimal (cs : List Char) : Prop := ∀ c ∈ cs, ∃ v, Text.decimalValue? c = some v

namespace IsDecimal

variable {cs : List Char} (h : IsDecimal cs)

include h

theorem plainNumeral_append (front : List Char)
    (hfront : ∀ c ∈ front, Text.isWhiteSpace c = false ∧ Text.asciiDigit c = c) :
    plainNumeral (front ++ cs) = front ++ cs.map Text.asciiDigit := by
  refine Number.plainNumeral_append front hfront fun c hc => ?_
  obtain ⟨v, hv⟩ := h c hc
  exact isWhiteSpace_of_decimalValue? hv

theorem not_mem_underscore : '_' ∉ cs := by
  intro hmem
  obtain ⟨v, hv⟩ := h _ hmem
  have hnone : Text.decimalValue? '_' = none := by decide
  rw [hnone] at hv
  contradiction

theorem exists_digitChar {c : Char} (hc : c ∈ cs.map Text.asciiDigit) :
    ∃ v < 10, c = v.digitChar := by
  obtain ⟨c', hc', rfl⟩ := List.mem_map.1 hc
  obtain ⟨v, hv⟩ := h c' hc'
  exact ⟨v, Text.decimalValue?_lt hv, asciiDigit_of_decimalValue? hv⟩

theorem not_mem_map {c : Char} (hc : c.isDigit = false) : c ∉ cs.map Text.asciiDigit := by
  intro hmem
  obtain ⟨v, hv, rfl⟩ := h.exists_digitChar hmem
  interval_cases v <;> contradiction

end IsDecimal

/-- A digit past seven is not octal. -/
theorem literal?_octal_eq_none {cs : List Char} (h : IsDecimal cs) {c : Char} {v : Nat}
    (hc : c ∈ cs) (hv : Text.decimalValue? c = some v) (hlarge : 8 ≤ v) :
    literal? ('0' :: 'o' :: cs) = none := by
  have hfront : ∀ c ∈ ['0', 'o'], Text.isWhiteSpace c = false ∧ Text.asciiDigit c = c := by
    rw [List.forall_mem_cons, List.forall_mem_singleton]
    exact ⟨by decide, by decide⟩
  have hplain : plainNumeral ('0' :: 'o' :: cs) = '0' :: 'o' :: cs.map Text.asciiDigit :=
    h.plainNumeral_append ['0', 'o'] hfront
  have hmem : v.digitChar ∈ cs.map Text.asciiDigit := by
    rw [← asciiDigit_of_decimalValue? hv]
    exact List.mem_map_of_mem hc
  have hnone : digitIn? 8 v.digitChar = none := by
    have hlt := Text.decimalValue?_lt hv
    interval_cases v <;> decide
  have hunderscore := h.not_mem_map (c := '_') rfl
  rw [literal?_of_plainNumeral hplain (by simp) (by simp), magnitude?_of_baseOfMark? rfl,
    markedMagnitude?_eq hunderscore, digits?_eq_none_of_mem hunderscore hmem hnone]
  rfl

/-- More decimal digits than the limit allows are not read. -/
theorem literal?_eq_none_of_limit {cs : List Char} (h : IsDecimal cs)
    (hhead : cs.head?.bind Text.decimalValue? ≠ some 0) (hlimit : decimalLimit < cs.length) :
    literal? cs = none := by
  have hplain : plainNumeral cs = cs.map Text.asciiDigit :=
    h.plainNumeral_append [] (by simp)
  have hzero : (cs.map Text.asciiDigit).head? ≠ some '0' := by
    intro heq
    rw [List.head?_map, Option.map_eq_some_iff] at heq
    obtain ⟨c, hc, hascii⟩ := heq
    obtain ⟨v, hv⟩ := h c (List.mem_of_mem_head? hc)
    rw [asciiDigit_of_decimalValue? hv, Nat.digitChar_eq_zero] at hascii
    rw [hc, Option.bind_some, hv, hascii] at hhead
    contradiction
  have hsign : ∀ c, c.isDigit = false → (cs.map Text.asciiDigit).head? ≠ some c :=
    fun c hc heq => h.not_mem_map hc (List.mem_of_mem_head? heq)
  rw [literal?_of_plainNumeral hplain (hsign '-' rfl) (hsign '+' rfl), magnitude?_of_head? hzero,
    decimalMagnitude?]
  cases hdigits : digits? 10 (cs.map Text.asciiDigit) with
  | none => rfl
  | some ds =>
    have hlength := ((digits?_eq_some_iff (h.not_mem_map (c := '_') rfl)).1 hdigits).2.length_eq
    rw [List.length_map] at hlength
    rw [Option.bind_some, if_neg (by omega)]
    rfl

end SyntaxCursor.Number

namespace SyntaxCursor.Conversion

open Number Abstract

/-- A number as it is spelled in a source text, underscores apart. -/
inductive Spells (n : Nat) : List Char → Prop where
  | decimal (hlimit : (Nat.toDigits 10 n).length ≤ 4300) : Spells n (Nat.toDigits 10 n)
  | marked {mark : Char} {base : Nat} {cs : List Char} (hmark : (mark, base) ∈ baseMarks)
    (h : IsNumeral base n cs) : Spells n ('0' :: mark :: cs)
  /-- A zero in front makes digits octal. -/
  | legacyOctal {cs : List Char} (h : IsNumeral 8 n cs) : Spells n ('0' :: cs)

/-- The second text is the first with underscores put in at any places. -/
inductive Underscored : List Char → List Char → Prop where
  | nil : Underscored [] []
  | cons (c : Char) {cs t : List Char} : Underscored cs t → Underscored (c :: cs) (c :: t)
  | underscore {cs t : List Char} : Underscored cs t → Underscored cs ('_' :: t)

theorem Underscored.refl (cs : List Char) : Underscored cs cs := by
  induction cs with
  | nil => exact .nil
  | cons c cs ih => exact .cons c ih

theorem Underscored.withoutUnderscores_eq {cs t : List Char} (h : Underscored cs t)
    (hcs : '_' ∉ cs) : withoutUnderscores t = cs := by
  induction h with
  | nil => rfl
  | cons c _ ih =>
    have hne : c ≠ '_' := fun heq => hcs (by simp [heq])
    rw [withoutUnderscores, List.filter_cons_of_pos (by simpa using hne)]
    exact congrArg (c :: ·) (ih fun hmem => hcs (List.mem_cons_of_mem c hmem))
  | underscore _ ih =>
    rw [withoutUnderscores, List.filter_cons_of_neg (by decide)]
    exact ih hcs

theorem markOctal_of_head? {cs : List Char} (h : cs.head? ≠ some '0') : markOctal cs = cs := by
  rw [markOctal]
  rintro d rest rfl
  simp at h

theorem markOctal_marked {mark : Char} (h : Text.decimalValue? mark = none) (cs : List Char) :
    markOctal ('0' :: mark :: cs) = '0' :: mark :: cs := by
  rw [markOctal, if_neg (by simp [h])]

theorem markOctal_of_isDecimal {cs : List Char} (h : IsDecimal cs) (hne : cs ≠ []) :
    markOctal ('0' :: cs) = '0' :: 'o' :: cs := by
  obtain ⟨d, rest, rfl⟩ := List.exists_cons_of_ne_nil hne
  have hall : (d :: rest).all (fun c => (Text.decimalValue? c).isSome) = true := by
    rw [List.all_eq_true]
    intro c hc
    exact Option.isSome_iff_exists.2 (h c hc)
  rw [markOctal, if_pos hall]

theorem Spells.literal?_eq {n : Nat} {cs : List Char} (h : Spells n cs) :
    literal? (markOctal cs) = some (n : Int) := by
  cases h with
  | decimal hlimit =>
    by_cases hn : n = 0
    · subst hn
      decide
    · rw [markOctal_of_head? (head?_toDigits (by decide) hn), literal?_toDigits hlimit]
  | marked hmark h =>
    obtain ⟨_, _, _, _, hfigure, _⟩ := baseOfMark?_of_mem hmark
    rw [markOctal_marked hfigure, literal?_marked hmark h]
  | @legacyOctal cs h =>
    have hdecimal : IsDecimal cs := fun c hc => h.exists_decimalValue? (by decide) hc
    rw [markOctal_of_isDecimal hdecimal h.ne_nil, literal?_marked (by decide) h]

theorem Spells.not_mem_underscore {n : Nat} {cs : List Char} (h : Spells n cs) : '_' ∉ cs := by
  cases h with
  | decimal hlimit =>
    have hdigits : IsNumeral 10 n (Nat.toDigits 10 n) := .toDigits (by decide) n
    exact hdigits.not_mem_underscore (by decide)
  | marked hmark h =>
    obtain ⟨_, hbase, _, _, _, hne⟩ := baseOfMark?_of_mem hmark
    have hcs := h.not_mem_underscore hbase
    simp [hne.symm, hcs]
  | legacyOctal h =>
    have hcs := h.not_mem_underscore (by decide)
    simp [hcs]

/-- A spelling of a number has its value, whatever underscores are put in: decimal digits up to
the limit, and any number of hexadecimal, binary or octal ones. Behind a zero, digits of which one
is past seven stay the text they were, underscores included, and so do more decimal digits than
the limit allows. -/
theorem integerScalar_spelled :
    (∀ n cs t, Spells n cs → Underscored cs t → integerScalar t = .int n) ∧
    (∀ cs t, IsDecimal cs → (∃ c ∈ cs, ∃ v, Text.decimalValue? c = some v ∧ 8 ≤ v) →
      Underscored ('0' :: cs) t → integerScalar t = .text (String.ofList t)) ∧
    ∀ cs t, IsDecimal cs → cs.head?.bind Text.decimalValue? ≠ some 0 → 4300 < cs.length →
      Underscored cs t → integerScalar t = .text (String.ofList t) := by
  refine ⟨?_, ?_, ?_⟩
  · intro n cs t hspells hunderscored
    rw [integerScalar, hunderscored.withoutUnderscores_eq hspells.not_mem_underscore,
      hspells.literal?_eq]
  · rintro cs t hdecimal ⟨c, hc, v, hv, hlarge⟩ hunderscored
    have hunderscore : '_' ∉ '0' :: cs :=
      List.not_mem_cons_of_ne_of_not_mem (by decide) hdecimal.not_mem_underscore
    rw [integerScalar, hunderscored.withoutUnderscores_eq hunderscore,
      markOctal_of_isDecimal hdecimal (List.ne_nil_of_mem hc),
      literal?_octal_eq_none hdecimal hc hv hlarge]
  · intro cs t hdecimal hhead hlimit hunderscored
    have hzero : cs.head? ≠ some '0' := by
      intro heq
      rw [heq] at hhead
      exact hhead (by decide)
    rw [integerScalar, hunderscored.withoutUnderscores_eq hdecimal.not_mem_underscore,
      markOctal_of_head? hzero, literal?_eq_none_of_limit hdecimal hhead hlimit]

/-- Thirty-one as `0X_1f`; `0_19`, which is not octal; and one digit too many. -/
theorem integerScalar_spelled_thirtyOne :
    Spells 31 ['0', 'X', '1', 'f'] ∧
      integerScalar ['0', 'X', '_', '1', 'f'] = .int 31 ∧
      integerScalar ['0', '_', '1', '9'] = .text "0_19" ∧
      integerScalar ('_' :: List.replicate 4301 '7') =
        .text (String.ofList ('_' :: List.replicate 4301 '7')) := by
  have hnumeral : IsNumeral 16 31 ['1', 'f'] := .toDigits (by decide) 31
  have hspells : Spells 31 ['0', 'X', '1', 'f'] := .marked (by decide) hnumeral
  obtain ⟨hvalue, hoctal, hlimit⟩ := integerScalar_spelled
  refine ⟨hspells, ?_, ?_, ?_⟩
  · exact hvalue 31 _ _ hspells (.cons _ (.cons _ (.underscore (.refl _))))
  · have hdecimal : IsDecimal ['1', '9'] := by
      rw [IsDecimal, List.forall_mem_cons, List.forall_mem_singleton]
      exact ⟨⟨1, by decide⟩, ⟨9, by decide⟩⟩
    exact hoctal ['1', '9'] _ hdecimal ⟨'9', by simp, 9, by decide, by decide⟩
      (.cons _ (.underscore (.refl _)))
  · have hdecimal : IsDecimal (List.replicate 4301 '7') := by
      intro c hc
      rw [List.eq_of_mem_replicate hc]
      exact ⟨7, by decide⟩
    have hlength : 4300 < (List.replicate 4301 '7').length := by
      rw [List.length_replicate]
      omega
    exact hlimit _ _ hdecimal (by rw [List.replicate_succ]; decide) hlength
      (.underscore (.refl _))

end SyntaxCursor.Conversion
