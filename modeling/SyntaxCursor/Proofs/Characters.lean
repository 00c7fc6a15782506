import Mathlib.Data.List.Infix
import SyntaxCursor.Proofs.Sequences

/-!
# Characters of bytes

Bytes are cut into well-formed sequences and, elsewhere, single bytes (`AreCharacters`). A place
is strictly inside a sequence or it is a boundary of characters: cutting bytes at a boundary cuts
their characters (`characters_append`), and every number of characters from the front ends at
one (`characters_flatten_take`). Cut inside of a sequence, its front falls into single bytes, so
that as many characters of the whole reach past the cut (`lt_reach_of_insideSequence`).
-/
namespace SyntaxCursor.Utf8

/-- The characters of bytes in order: a well-formed sequence wherever one begins, and a single
byte elsewhere. -/
inductive AreCharacters : List UInt8 → List (List UInt8) → Prop where
  | nil : AreCharacters [] []
  | sequence {s bytes : List UInt8} {cs : List (List UInt8)} :
    WellFormed s → AreCharacters bytes cs → AreCharacters (s ++ bytes) (s :: cs)
  | byte {b : UInt8} {bytes : List UInt8} {cs : List (List UInt8)} :
    (∀ s, WellFormed s → ¬ s <+: b :: bytes) → AreCharacters bytes cs →
      AreCharacters (b :: bytes) ([b] :: cs)

@[simp] theorem characters_nil : characters [] = [] := by rw [characters]

theorem characters_cons_of_some {lead : UInt8} {bytes : List UInt8} {n : Nat}
    (h : sequence? lead bytes = some n) :
    characters (lead :: bytes) = (lead :: bytes.take n) :: characters (bytes.drop n) := by
  rw [characters, h]
  rfl

theorem characters_cons_of_none {lead : UInt8} {bytes : List UInt8}
    (h : sequence? lead bytes = none) :
    characters (lead :: bytes) = [lead] :: characters bytes := by
  rw [characters, h]
  rfl

theorem characters_append_of_wellFormed {s : List UInt8} (h : WellFormed s)
    (bytes : List UInt8) : characters (s ++ bytes) = s :: characters bytes := by
  obtain ⟨lead, t, rfl⟩ := h.exists_cons
  rw [List.cons_append, characters_cons_of_some (h.sequence?_eq (List.prefix_append t bytes)),
    List.take_left, List.drop_left]

/-- Where no sequence is found, none begins. -/
theorem not_prefix_of_sequence?_eq_none {lead : UInt8} {bytes : List UInt8}
    (h : sequence? lead bytes = none) {s : List UInt8} (hs : WellFormed s) :
    ¬ s <+: lead :: bytes := by
  intro hbegins
  obtain ⟨b, t, rfl⟩ := hs.exists_cons
  obtain ⟨rfl, ht⟩ := List.cons_prefix_cons.1 hbegins
  rw [hs.sequence?_eq ht] at h
  contradiction

theorem sequence?_eq_none_of_forall {lead : UInt8} {bytes : List UInt8}
    (h : ∀ s, WellFormed s → ¬ s <+: lead :: bytes) : sequence? lead bytes = none := by
  cases hsequence : sequence? lead bytes with
  | none => rfl
  | some n =>
    obtain ⟨_, hwell⟩ := sequence?_eq_some_iff.1 hsequence
    exact absurd (List.cons_prefix_cons.2 ⟨rfl, List.take_prefix n bytes⟩) (h _ hwell)

/-- Bytes have characters in one way only, and `characters` gives them. -/
theorem areCharacters_iff {bytes : List UInt8} {cs : List (List UInt8)} :
    AreCharacters bytes cs ↔ cs = characters bytes := by
  constructor
  · intro h
    induction h with
    | nil => rw [characters_nil]
    | sequence hs _ ih => rw [characters_append_of_wellFormed hs, ih]
    | byte hb _ ih => rw [characters_cons_of_none (sequence?_eq_none_of_forall hb), ih]
  · rintro rfl
    induction bytes using characters.induct with
    | case1 =>
      rw [characters_nil]
      exact .nil
    | case2 lead bytes n ih =>
      cases h : sequence? lead bytes with
      | none =>
        have hn : n = 0 := by simp [n, h]
        rw [hn, List.drop_zero] at ih
        rw [characters_cons_of_none h]
        exact .byte (fun s hs => not_prefix_of_sequence?_eq_none h hs) ih
      | some m =>
        have hn : n = m := by simp [n, h]
        rw [hn] at ih
        obtain ⟨_, hwell⟩ := sequence?_eq_some_iff.1 h
        have hcut := AreCharacters.sequence hwell ih
        rw [List.cons_append, List.take_append_drop] at hcut
        rw [characters_cons_of_some h]
        exact hcut

theorem areCharacters_characters (bytes : List UInt8) :
    AreCharacters bytes (characters bytes) := areCharacters_iff.2 rfl

theorem length_characters_pos {bytes : List UInt8} (h : bytes ≠ []) :
    0 < (characters bytes).length := by
  cases bytes with
  | nil => contradiction
  | cons lead bytes => simp [characters]

/-- The first characters of bytes are the characters of a first part of them. -/
theorem AreCharacters.take {bytes : List UInt8} {cs : List (List UInt8)}
    (h : AreCharacters bytes cs) (k : Nat) : AreCharacters (cs.take k).flatten (cs.take k) := by
  induction h generalizing k with
  | nil =>
    rw [List.take_nil]
    exact .nil
  | sequence hs _ ih =>
    cases k with
    | zero => exact .nil
    | succ k => exact .sequence hs (ih k)
  | @byte b bytes cs hb hcs ih =>
    cases k with
    | zero => exact .nil
    | succ k =>
      have hflatten : cs.flatten = bytes := by
        rw [areCharacters_iff.1 hcs, flatten_characters]
      have hpart : b :: (cs.take k).flatten <+: b :: bytes := by
        rw [← hflatten, List.prefix_cons_inj]
        exact (List.take_prefix k cs).flatten
      exact .byte (fun s hs hbegins => hb s hs (hbegins.trans hpart)) (ih k)

theorem characters_flatten_take (bytes : List UInt8) (k : Nat) :
    characters ((characters bytes).take k).flatten = (characters bytes).take k :=
  (areCharacters_iff.1 ((areCharacters_characters bytes).take k)).symm

/-- A place that lies strictly inside a well-formed sequence, which then has several bytes. -/
def InsideSequence (bytes : List UInt8) (o : Nat) : Prop :=
  ∃ i s, WellFormed s ∧ s <+: bytes.drop i ∧ i < o ∧ o < i + s.length

section Bytes

variable {bytes : List UInt8} {o : Nat}

/-- The bytes on both sides of a place inside of a sequence lie beyond ASCII, and the one after
it is no lead byte. -/
theorem InsideSequence.exists_getElem? (h : InsideSequence bytes o) :
    (∃ b, bytes[o]? = some b ∧ 0x80 ≤ b.toNat ∧ b.toNat < 0xc0) ∧
      ∃ b, bytes[o - 1]? = some b ∧ 0x80 ≤ b.toNat := by
  obtain ⟨i, s, hs, hbegins, hi, ho⟩ := h
  have hbyte (j : Nat) (hj : j < s.length) : bytes[i + j]? = some s[j] := by
    rw [← List.getElem?_drop]
    exact List.prefix_iff_getElem?.1 hbegins j hj
  obtain ⟨j, rfl⟩ : ∃ j, o = i + (j + 1) := ⟨o - i - 1, by omega⟩
  have hj : j + 1 < s.length := by omega
  refine ⟨⟨_, hbyte (j + 1) hj, ?_⟩, ⟨s[j], hbyte j (by omega), ?_⟩⟩
  · obtain ⟨lead, t, rfl⟩ := hs.exists_cons
    exact hs.toNat_of_mem (List.getElem_mem (l := t) (by simpa using hj))
  · exact hs.le_toNat_of_mem (by omega) (List.getElem_mem _)

/-- No sequence goes on after a byte of ASCII. -/
theorem not_insideSequence_of_before {b : UInt8} (hb : bytes[o - 1]? = some b)
    (hascii : b.toNat < 0x80) : ¬ InsideSequence bytes o := by
  intro h
  obtain ⟨_, b', hb', hge⟩ := h.exists_getElem?
  obtain rfl : b = b' := Option.some.inj (hb.symm.trans hb')
  omega

/-- A byte of ASCII, or a lead byte, goes on with no sequence. -/
theorem not_insideSequence_of_after {b : UInt8} (hb : bytes[o]? = some b)
    (hlead : b.toNat < 0x80 ∨ 0xc0 ≤ b.toNat) : ¬ InsideSequence bytes o := by
  intro h
  obtain ⟨⟨b', hb', hge, hlt⟩, _⟩ := h.exists_getElem?
  obtain rfl : b = b' := Option.some.inj (hb.symm.trans hb')
  omega

/-- No sequence begins inside of another. -/
theorem not_insideSequence_of_wellFormed {s : List UInt8} (hs : WellFormed s)
    (hbegins : s <+: bytes.drop o) : ¬ InsideSequence bytes o := by
  obtain ⟨lead, t, rfl⟩ := hs.exists_cons
  have hbyte : bytes[o]? = some lead := by
    have hfirst := List.prefix_iff_getElem?.1 hbegins 0 (by simp)
    simpa using hfirst
  refine not_insideSequence_of_after hbyte ?_
  rcases hs.toNat_lead with hlead | hlead
  · exact .inl hlead.1
  · exact .inr hlead

end Bytes

section Append

variable {xs ys : List UInt8} {o : Nat}

theorem InsideSequence.append_right (h : InsideSequence xs o) : InsideSequence (xs ++ ys) o := by
  obtain ⟨i, s, hs, hbegins, hi, ho⟩ := h
  have hlen := hbegins.length_le
  rw [List.length_drop] at hlen
  refine ⟨i, s, hs, ?_, hi, ho⟩
  rw [List.drop_append_of_le_length (by omega)]
  exact hbegins.trans (List.prefix_append _ _)

theorem InsideSequence.append_left (h : InsideSequence ys o) :
    InsideSequence (xs ++ ys) (xs.length + o) := by
  obtain ⟨i, s, hs, hbegins, hi, ho⟩ := h
  refine ⟨xs.length + i, s, hs, ?_, by omega, by omega⟩
  rw [← List.drop_drop, List.drop_left]
  exact hbegins

variable (hcut : ¬ InsideSequence (xs ++ ys) xs.length)

include hcut

/-- Up to a boundary, places lie inside of the sequences of the first part. -/
theorem insideSequence_append_of_le (ho : o ≤ xs.length) :
    InsideSequence (xs ++ ys) o ↔ InsideSequence xs o := by
  constructor
  · rintro ⟨i, s, hs, hbegins, hi, hlt⟩
    have hend : i + s.length ≤ xs.length := by
      by_contra hpast
      exact hcut ⟨i, s, hs, hbegins, by omega, by omega⟩
    rw [List.drop_append_of_le_length (by omega)] at hbegins
    refine ⟨i, s, hs, ?_, hi, hlt⟩
    refine List.prefix_of_prefix_length_le hbegins (List.prefix_append _ _) ?_
    rw [List.length_drop]
    omega
  · exact InsideSequence.append_right

/-- From a boundary on, places lie inside of the sequences of the second part. -/
theorem insideSequence_append_length_add :
    InsideSequence (xs ++ ys) (xs.length + o) ↔ InsideSequence ys o := by
  constructor
  · rintro ⟨i, s, hs, hbegins, hi, hlt⟩
    have hbegin : xs.length ≤ i := by
      by_contra hbefore
      exact hcut ⟨i, s, hs, hbegins, by omega, by omega⟩
    obtain ⟨j, rfl⟩ := Nat.exists_eq_add_of_le hbegin
    rw [← List.drop_drop, List.drop_left] at hbegins
    exact ⟨j, s, hs, hbegins, by omega, by omega⟩
  · exact InsideSequence.append_left

/-- Cutting bytes at a boundary cuts their characters. -/
theorem characters_append : characters (xs ++ ys) = characters xs ++ characters ys := by
  suffices hcs : ∀ cs, AreCharacters xs cs → characters (xs ++ ys) = cs ++ characters ys from
    hcs _ (areCharacters_characters xs)
  intro cs h
  induction h with
  | nil => rfl
  | @sequence s bytes cs hs _ ih =>
    rw [List.append_assoc, List.length_append] at hcut
    rw [List.append_assoc, characters_append_of_wellFormed hs, List.cons_append,
      ih fun hbelow => hcut hbelow.append_left]
  | @byte b bytes cs hb _ ih =>
    have hnone : sequence? b (bytes ++ ys) = none := by
      apply sequence?_eq_none_of_forall
      intro s hs hbegins
      by_cases hlen : s.length ≤ (b :: bytes).length
      · exact hb s hs (List.prefix_of_prefix_length_le hbegins (List.prefix_append _ _) hlen)
      · exact hcut ⟨0, s, hs, hbegins, by simp, by omega⟩
    have hbelow : ¬ InsideSequence (bytes ++ ys) bytes.length := by
      intro hinside
      apply hcut
      rw [List.length_cons, Nat.add_comm]
      have hlater : InsideSequence ([b] ++ (bytes ++ ys)) ([b].length + bytes.length) :=
        hinside.append_left
      exact hlater
    rw [List.cons_append, characters_cons_of_none hnone, List.cons_append, ih hbelow]

end Append

/-- How far as many characters of all the bytes reach as their first part has. -/
def reach (xs ys : List UInt8) : Nat :=
  ((characters (xs ++ ys)).take (characters xs).length).flatten.length

section Reach

variable {xs ys : List UInt8}

theorem reach_le (xs ys : List UInt8) : reach xs ys ≤ xs.length + ys.length := by
  have hpart := (List.take_prefix (characters xs).length (characters (xs ++ ys))).flatten
  have hlen := hpart.length_le
  rw [flatten_characters, List.length_append] at hlen
  exact hlen

theorem reach_of_not_insideSequence (h : ¬ InsideSequence (xs ++ ys) xs.length) :
    reach xs ys = xs.length := by
  rw [reach, characters_append h, List.take_left, flatten_characters]

/-- Cut inside of a sequence, its front counts as a character at least, which is worth the whole
sequence where that is not cut. -/
theorem lt_reach_of_insideSequence (h : InsideSequence (xs ++ ys) xs.length) :
    xs.length < reach xs ys := by
  obtain ⟨i, s, hs, hbegins, hi, ho⟩ := h
  -- The sequence begins at a boundary, at which the bytes and their first part are both cut.
  have hstart := not_insideSequence_of_wellFormed hs hbegins
  obtain ⟨tail, htail⟩ := hbegins
  have hlen : (xs.take i).length = i := by rw [List.length_take]; omega
  have hall : xs ++ ys = xs.take i ++ (s ++ tail) := by
    rw [htail, List.drop_append_of_le_length (by omega), ← List.append_assoc,
      List.take_append_drop]
  have hcharacters : characters (xs ++ ys) = characters (xs.take i) ++ s :: characters tail := by
    rw [hall, characters_append (by rw [← hall, hlen]; exact hstart),
      characters_append_of_wellFormed hs]
  have hfirst : characters xs = characters (xs.take i) ++ characters (xs.drop i) := by
    have hcut : ¬ InsideSequence (xs.take i ++ xs.drop i) (xs.take i).length := by
      rw [List.take_append_drop, hlen]
      exact fun hinside => hstart hinside.append_right
    rw [← characters_append hcut, List.take_append_drop]
  have hpart : xs.drop i ≠ [] := by
    rw [Ne, List.drop_eq_nil_iff]
    omega
  obtain ⟨p, hp⟩ := Nat.exists_eq_add_one.2 (length_characters_pos hpart)
  rw [reach, hcharacters, hfirst, List.length_append, hp, List.take_length_add_append,
    List.take_succ_cons, List.flatten_append, List.flatten_cons, List.length_append,
    List.length_append, flatten_characters, hlen]
  omega

theorem le_reach (xs ys : List UInt8) : xs.length ≤ reach xs ys := by
  by_cases h : InsideSequence (xs ++ ys) xs.length
  · exact Nat.le_of_lt (lt_reach_of_insideSequence h)
  · exact Nat.le_of_eq (reach_of_not_insideSequence h).symm

theorem reach_eq_length_iff :
    reach xs ys = xs.length ↔ ¬ InsideSequence (xs ++ ys) xs.length := by
  constructor
  · intro hreach h
    have hlt := lt_reach_of_insideSequence h
    omega
  · exact reach_of_not_insideSequence

end Reach

end SyntaxCursor.Utf8
