import Mathlib.Data.List.Forall2
import Mathlib.Tactic.SplitIfs
import SyntaxCursor.Text.Utf8

/-!
# Well-formed sequences

A well-formed sequence is the encoding of a character. The table of lead bytes, with the ranges of
the bytes that follow them, says the same: `sequence?` finds a sequence just where the bytes
begin with the encoding of a character (`sequence?_eq_some_iff`). The bytes of a sequence after
its lead byte are told from lead bytes and from ASCII, so that no sequence begins inside of
another, and a line feed is in none of more than one byte.
-/
namespace SyntaxCursor.Utf8

/-- The bytes that encode one character. -/
def WellFormed (s : List UInt8) : Prop := ∃ c : Char, s = String.utf8EncodeChar c

/-- The bytes that encode a code point, as numbers. -/
def encodingOf (v : Nat) : List Nat :=
  if v ≤ 0x7f then [v]
  else if v ≤ 0x7ff then [v / 0x40 + 0xc0, v % 0x40 + 0x80]
  else if v ≤ 0xffff then [v / 0x1000 + 0xe0, v / 0x40 % 0x40 + 0x80, v % 0x40 + 0x80]
  else
    [v / 0x40000 + 0xf0, v / 0x1000 % 0x40 + 0x80, v / 0x40 % 0x40 + 0x80, v % 0x40 + 0x80]

theorem toNat_lt_or (c : Char) :
    c.toNat < 0xd800 ∨ 0xdfff < c.toNat ∧ c.toNat < 0x110000 := c.valid

theorem map_toNat_utf8EncodeChar (c : Char) :
    (String.utf8EncodeChar c).map UInt8.toNat = encodingOf c.toNat := by
  have hc := toNat_lt_or c
  simp only [String.utf8EncodeChar, encodingOf, show c.val.toNat = c.toNat from rfl]
  split
  · simp; omega
  split
  · simp; omega
  split
  · simp; omega
  · simp; omega

theorem wellFormed_of_encodingOf {s : List UInt8} {v : Nat} (hv : v.isValidChar)
    (h : s.map UInt8.toNat = encodingOf v) : WellFormed s := by
  have hinj : Function.Injective (List.map UInt8.toNat) :=
    List.map_injective_iff.2 fun a b hab => UInt8.toNat_inj.1 hab
  refine ⟨Char.ofNatAux v hv, hinj ?_⟩
  rw [map_toNat_utf8EncodeChar, h]
  rfl

theorem following?_eq (lead : UInt8) :
    following? lead =
      if lead.toNat ≤ 0x7f then some []
      else if lead.toNat < 0xc2 then none
      else if lead.toNat ≤ 0xdf then some [(0x80, 0xbf)]
      else if lead.toNat = 0xe0 then some [(0xa0, 0xbf), (0x80, 0xbf)]
      else if lead.toNat = 0xed then some [(0x80, 0x9f), (0x80, 0xbf)]
      else if lead.toNat ≤ 0xef then some [(0x80, 0xbf), (0x80, 0xbf)]
      else if lead.toNat = 0xf0 then some [(0x90, 0xbf), (0x80, 0xbf), (0x80, 0xbf)]
      else if lead.toNat ≤ 0xf3 then some [(0x80, 0xbf), (0x80, 0xbf), (0x80, 0xbf)]
      else if lead.toNat = 0xf4 then some [(0x80, 0x8f), (0x80, 0xbf), (0x80, 0xbf)]
      else none := by
  simp only [following?, UInt8.le_iff_toNat_le, UInt8.lt_iff_toNat_lt, beq_iff_eq,
    ← UInt8.toNat_inj]
  rfl

/-- Bytes that lie each in its range. -/
def InRanges (ranges : List (UInt8 × UInt8)) (s : List UInt8) : Prop :=
  List.Forall₂ (fun r b => r.1 ≤ b ∧ b ≤ r.2) ranges s

theorem inRanges_iff_map_toNat {ranges : List (UInt8 × UInt8)} {s : List UInt8} :
    InRanges ranges s ↔
      List.Forall₂ (fun r b => r.1.toNat ≤ b ∧ b ≤ r.2.toNat) ranges (s.map UInt8.toNat) := by
  rw [InRanges, List.forall₂_map_right_iff]
  simp only [UInt8.le_iff_toNat_le]

theorem fitting_eq_length_iff (ranges : List (UInt8 × UInt8)) (bytes : List UInt8) :
    fitting ranges bytes = ranges.length ↔
      ranges.length ≤ bytes.length ∧ InRanges ranges (bytes.take ranges.length) := by
  rw [InRanges]
  induction ranges generalizing bytes with
  | nil => simp [fitting]
  | cons r ranges ih =>
    cases bytes with
    | nil => simp [fitting]
    | cons b bytes =>
      by_cases h : r.1 ≤ b ∧ b ≤ r.2
      · simp [fitting, h, ih]
      · simp [fitting, h]

theorem wellFormed_pair {a b : UInt8} (ha : 0xc2 ≤ a.toNat ∧ a.toNat ≤ 0xdf)
    (hb : 0x80 ≤ b.toNat ∧ b.toNat ≤ 0xbf) : WellFormed [a, b] := by
  obtain ⟨v, hv⟩ : ∃ v, v = a.toNat % 0x20 * 0x40 + b.toNat % 0x40 := ⟨_, rfl⟩
  apply wellFormed_of_encodingOf (v := v)
  · left; omega
  · rw [encodingOf, if_neg (by omega), if_pos (by omega)]
    simp only [List.map_cons, List.map_nil, List.cons.injEq, and_true]
    omega

/-- Long forms of shorter sequences and surrogates are left out. -/
theorem wellFormed_triple {a b c : UInt8} (ha : 0xe0 ≤ a.toNat ∧ a.toNat ≤ 0xef)
    (hb : 0x80 ≤ b.toNat ∧ b.toNat ≤ 0xbf) (hc : 0x80 ≤ c.toNat ∧ c.toNat ≤ 0xbf)
    (hlong : a.toNat = 0xe0 → 0xa0 ≤ b.toNat)
    (hsurrogate : a.toNat = 0xed → b.toNat ≤ 0x9f) : WellFormed [a, b, c] := by
  obtain ⟨v, hv⟩ : ∃ v, v = a.toNat % 0x10 * 0x1000 + b.toNat % 0x40 * 0x40 +
    c.toNat % 0x40 := ⟨_, rfl⟩
  apply wellFormed_of_encodingOf (v := v)
  · rw [Nat.isValidChar]; omega
  · rw [encodingOf, if_neg (by omega), if_neg (by omega), if_pos (by omega)]
    simp only [List.map_cons, List.map_nil, List.cons.injEq, and_true]
    omega

/-- Long forms of shorter sequences are left out, and what lies past the last code point. -/
theorem wellFormed_quadruple {a b c d : UInt8} (ha : 0xf0 ≤ a.toNat ∧ a.toNat ≤ 0xf4)
    (hb : 0x80 ≤ b.toNat ∧ b.toNat ≤ 0xbf) (hc : 0x80 ≤ c.toNat ∧ c.toNat ≤ 0xbf)
    (hd : 0x80 ≤ d.toNat ∧ d.toNat ≤ 0xbf) (hlong : a.toNat = 0xf0 → 0x90 ≤ b.toNat)
    (hlast : a.toNat = 0xf4 → b.toNat ≤ 0x8f) : WellFormed [a, b, c, d] := by
  obtain ⟨v, hv⟩ : ∃ v, v = a.toNat % 0x08 * 0x40000 + b.toNat % 0x40 * 0x1000 +
    c.toNat % 0x40 * 0x40 + d.toNat % 0x40 := ⟨_, rfl⟩
  apply wellFormed_of_encodingOf (v := v)
  · rw [Nat.isValidChar]; omega
  · rw [encodingOf, if_neg (by omega), if_neg (by omega), if_neg (by omega)]
    simp only [List.map_cons, List.map_nil, List.cons.injEq, and_true]
    omega

section InRanges

variable {lo hi : UInt8} {ranges : List (UInt8 × UInt8)} {s : List UInt8}

theorem inRanges_nil_iff : InRanges [] s ↔ s = [] := List.forall₂_nil_left_iff

theorem inRanges_cons_iff :
    InRanges ((lo, hi) :: ranges) s ↔
      ∃ b t, (lo.toNat ≤ b.toNat ∧ b.toNat ≤ hi.toNat) ∧ InRanges ranges t ∧ s = b :: t := by
  rw [InRanges, List.forall₂_cons_left_iff]
  simp only [UInt8.le_iff_toNat_le, InRanges]

theorem exists_of_inRanges_one (h : InRanges [(lo, hi)] s) :
    ∃ b, s = [b] ∧ lo.toNat ≤ b.toNat ∧ b.toNat ≤ hi.toNat := by
  obtain ⟨b, t, hb, ht, rfl⟩ := inRanges_cons_iff.1 h
  rw [inRanges_nil_iff.1 ht]
  exact ⟨b, rfl, hb⟩

theorem exists_of_inRanges_two (h : InRanges [(lo, hi), (0x80, 0xbf)] s) :
    ∃ b c, s = [b, c] ∧ (lo.toNat ≤ b.toNat ∧ b.toNat ≤ hi.toNat) ∧
      0x80 ≤ c.toNat ∧ c.toNat ≤ 0xbf := by
  obtain ⟨b, t, hb, ht, rfl⟩ := inRanges_cons_iff.1 h
  obtain ⟨c, rfl, hc⟩ := exists_of_inRanges_one ht
  exact ⟨b, c, rfl, hb, hc⟩

theorem exists_of_inRanges_three (h : InRanges [(lo, hi), (0x80, 0xbf), (0x80, 0xbf)] s) :
    ∃ b c d, s = [b, c, d] ∧ (lo.toNat ≤ b.toNat ∧ b.toNat ≤ hi.toNat) ∧
      (0x80 ≤ c.toNat ∧ c.toNat ≤ 0xbf) ∧ 0x80 ≤ d.toNat ∧ d.toNat ≤ 0xbf := by
  obtain ⟨b, t, hb, ht, rfl⟩ := inRanges_cons_iff.1 h
  obtain ⟨c, d, rfl, hc, hd⟩ := exists_of_inRanges_two ht
  exact ⟨b, c, d, rfl, hb, hc, hd⟩

end InRanges

/-- What the table allows is the encoding of a character. -/
theorem wellFormed_of_following? {lead : UInt8} {ranges : List (UInt8 × UInt8)}
    {s : List UInt8} (hlead : following? lead = some ranges) (hs : InRanges ranges s) :
    WellFormed (lead :: s) := by
  have hlt := lead.toNat_lt
  rw [following?_eq] at hlead
  by_cases hascii : lead.toNat ≤ 0x7f
  · rw [if_pos hascii, Option.some_inj] at hlead
    subst hlead
    rw [inRanges_nil_iff.1 hs]
    exact wellFormed_of_encodingOf (v := lead.toNat) (.inl (by omega)) (by grind [encodingOf])
  rw [if_neg hascii] at hlead
  by_cases hlow : lead.toNat < 0xc2
  · rw [if_pos hlow] at hlead
    contradiction
  rw [if_neg hlow] at hlead
  by_cases hpair : lead.toNat ≤ 0xdf
  · rw [if_pos hpair, Option.some_inj] at hlead
    subst hlead
    obtain ⟨b, rfl, hb⟩ := exists_of_inRanges_one hs
    exact wellFormed_pair (by omega) hb
  rw [if_neg hpair] at hlead
  by_cases htriple : lead.toNat ≤ 0xef
  · have hranges : ∃ lo hi : UInt8, ranges = [(lo, hi), (0x80, 0xbf)] ∧
        0x80 ≤ lo.toNat ∧ hi.toNat ≤ 0xbf ∧ (lead.toNat = 0xe0 → 0xa0 ≤ lo.toNat) ∧
          (lead.toNat = 0xed → hi.toNat ≤ 0x9f) := by
      grind
    obtain ⟨lo, hi, rfl, hlo, hhi, hlong, hsurrogate⟩ := hranges
    obtain ⟨b, c, rfl, hb, hc⟩ := exists_of_inRanges_two hs
    exact wellFormed_triple (by omega) (by omega) hc (by omega) (by omega)
  · have hranges : ∃ lo hi : UInt8, ranges = [(lo, hi), (0x80, 0xbf), (0x80, 0xbf)] ∧
        lead.toNat ≤ 0xf4 ∧ 0x80 ≤ lo.toNat ∧ hi.toNat ≤ 0xbf ∧
          (lead.toNat = 0xf0 → 0x90 ≤ lo.toNat) ∧ (lead.toNat = 0xf4 → hi.toNat ≤ 0x8f) := by
      grind
    obtain ⟨lo, hi, rfl, hle, hlo, hhi, hlong, hlast⟩ := hranges
    obtain ⟨b, c, d, rfl, hb, hc, hd⟩ := exists_of_inRanges_three hs
    exact wellFormed_quadruple (by omega) (by omega) hc hd (by omega) (by omega)

/-- The table allows the encoding of every character. -/
theorem exists_following?_of_wellFormed {lead : UInt8} {s : List UInt8}
    (h : WellFormed (lead :: s)) :
    ∃ ranges, following? lead = some ranges ∧ InRanges ranges s := by
  obtain ⟨c, hc⟩ := h
  have hvalid := toNat_lt_or c
  have hmap := map_toNat_utf8EncodeChar c
  rw [← hc, List.map_cons, encodingOf] at hmap
  simp only [following?_eq, inRanges_iff_map_toNat]
  split at hmap
  · obtain ⟨hlead, hs⟩ := List.cons.inj hmap
    exact ⟨[], by grind, by simp [hs]⟩
  split at hmap
  · obtain ⟨hlead, hs⟩ := List.cons.inj hmap
    exact ⟨[(0x80, 0xbf)], by grind, by simp [hs]; omega⟩
  split at hmap
  · obtain ⟨hlead, hs⟩ := List.cons.inj hmap
    rcases Nat.lt_or_ge c.toNat 0x1000 with hlow | hlow
    · exact ⟨[(0xa0, 0xbf), (0x80, 0xbf)], by grind, by simp [hs]; omega⟩
    by_cases hsurrogate : c.toNat / 0x1000 = 0xd
    · exact ⟨[(0x80, 0x9f), (0x80, 0xbf)], by grind, by simp [hs]; omega⟩
    · exact ⟨[(0x80, 0xbf), (0x80, 0xbf)], by grind, by simp [hs]; omega⟩
  · obtain ⟨hlead, hs⟩ := List.cons.inj hmap
    rcases Nat.lt_or_ge c.toNat 0x40000 with hlow | hlow
    · exact ⟨[(0x90, 0xbf), (0x80, 0xbf), (0x80, 0xbf)], by grind, by simp [hs]; omega⟩
    rcases Nat.lt_or_ge c.toNat 0x100000 with hlast | hlast
    · exact ⟨[(0x80, 0xbf), (0x80, 0xbf), (0x80, 0xbf)], by grind, by simp [hs]; omega⟩
    · exact ⟨[(0x80, 0x8f), (0x80, 0xbf), (0x80, 0xbf)], by grind, by simp [hs]; omega⟩

/-- A sequence is found just where the bytes begin with the encoding of a character. -/
theorem sequence?_eq_some_iff {lead : UInt8} {bytes : List UInt8} {n : Nat} :
    sequence? lead bytes = some n ↔ n ≤ bytes.length ∧ WellFormed (lead :: bytes.take n) := by
  rw [sequence?, Option.bind_eq_some_iff]
  constructor
  · rintro ⟨ranges, hlead, hfit⟩
    rw [Option.ite_none_right_eq_some, fitting_eq_length_iff] at hfit
    obtain ⟨⟨hlen, hs⟩, hn⟩ := hfit
    obtain rfl : ranges.length = n := Option.some.inj hn
    exact ⟨hlen, wellFormed_of_following? hlead hs⟩
  · rintro ⟨hlen, hwell⟩
    obtain ⟨ranges, hlead, hs⟩ := exists_following?_of_wellFormed hwell
    have hn : ranges.length = n := by
      rw [hs.length_eq, List.length_take, Nat.min_eq_left hlen]
    subst hn
    refine ⟨ranges, hlead, ?_⟩
    rw [if_pos ((fitting_eq_length_iff ranges bytes).2 ⟨hlen, hs⟩)]

namespace WellFormed

theorem exists_cons {s : List UInt8} (h : WellFormed s) : ∃ lead t, s = lead :: t := by
  obtain ⟨c, hc⟩ := h
  have hmap := map_toNat_utf8EncodeChar c
  cases s with
  | nil =>
    rw [← hc, encodingOf] at hmap
    grind
  | cons lead t => exact ⟨lead, t, rfl⟩

variable {lead : UInt8} {t : List UInt8}

theorem toNat_lead (h : WellFormed (lead :: t)) :
    (lead.toNat < 0x80 ∧ t = []) ∨ 0xc0 ≤ lead.toNat := by
  obtain ⟨c, hc⟩ := h
  have hmap := map_toNat_utf8EncodeChar c
  rw [← hc, List.map_cons, encodingOf] at hmap
  split at hmap
  · obtain ⟨hlead, ht⟩ := List.cons.inj hmap
    exact .inl ⟨by omega, List.map_eq_nil_iff.1 ht⟩
  · right
    grind

theorem toNat_of_mem (h : WellFormed (lead :: t)) {b : UInt8} (hb : b ∈ t) :
    0x80 ≤ b.toNat ∧ b.toNat < 0xc0 := by
  obtain ⟨c, hc⟩ := h
  have hmap := map_toNat_utf8EncodeChar c
  have hmem : b.toNat ∈ t.map UInt8.toNat := List.mem_map_of_mem hb
  rw [← hc, List.map_cons, encodingOf] at hmap
  grind

/-- A byte of a sequence of more than one byte lies beyond ASCII. -/
theorem le_toNat_of_mem {s : List UInt8} (h : WellFormed s) (hlen : 1 < s.length) {b : UInt8}
    (hb : b ∈ s) : 0x80 ≤ b.toNat := by
  obtain ⟨lead, t, rfl⟩ := h.exists_cons
  rcases List.mem_cons.1 hb with rfl | hb
  · rcases h.toNat_lead with ⟨_, rfl⟩ | hlead
    · simp at hlen
    · omega
  · exact (h.toNat_of_mem hb).1

theorem sequence?_eq (h : WellFormed (lead :: t)) {bytes : List UInt8} (ht : t <+: bytes) :
    sequence? lead bytes = some t.length := by
  rw [sequence?_eq_some_iff, ← List.prefix_iff_eq_take.1 ht]
  exact ⟨ht.length_le, h⟩

end WellFormed

end SyntaxCursor.Utf8
