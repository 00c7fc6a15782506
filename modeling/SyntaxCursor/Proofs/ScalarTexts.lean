import SyntaxCursor.Display.TreeView
import SyntaxCursor.Proofs.Tags

/-!
# Texts of scalars

The text of a scalar is shown by a label. Numerals and the text of null have no backslash and no
bracket. A quoted text can have both, but it ends with its quotation mark, and before an opening
bracket its backslashes come in pairs, for each of them is written after another. So escaping
deals with every text of a scalar alike (`isShown_scalarText`), and none ends with a closing
bracket (`getLast?_scalarText_ne`).
-/
namespace SyntaxCursor.Display

open Abstract Number

/-- No character of a text means anything in markup, a closing bracket apart. -/
def Unmarked (cs : List Char) : Prop := ∀ c ∈ cs, c ≠ '\\' ∧ c ≠ '['

instance (cs : List Char) : Decidable (Unmarked cs) := List.decidableBAll _ cs

namespace Unmarked

variable {xs ys : List Char}

@[simp] theorem nil : Unmarked [] := by simp [Unmarked]

@[simp] theorem cons_iff {c : Char} :
    Unmarked (c :: xs) ↔ (c ≠ '\\' ∧ c ≠ '[') ∧ Unmarked xs := List.forall_mem_cons

@[simp] theorem append_iff : Unmarked (xs ++ ys) ↔ Unmarked xs ∧ Unmarked ys :=
  List.forall_mem_append

end Unmarked

/-- No character of a text means anything in markup. -/
def Unbracketed (cs : List Char) : Prop := ∀ c ∈ cs, c ≠ '\\' ∧ c ≠ '[' ∧ c ≠ ']'

instance (cs : List Char) : Decidable (Unbracketed cs) := List.decidableBAll _ cs

namespace Unbracketed

variable {xs ys : List Char}

@[simp] theorem nil : Unbracketed [] := by simp [Unbracketed]

@[simp] theorem cons_iff {c : Char} :
    Unbracketed (c :: xs) ↔ (c ≠ '\\' ∧ c ≠ '[' ∧ c ≠ ']') ∧ Unbracketed xs :=
  List.forall_mem_cons

@[simp] theorem append_iff : Unbracketed (xs ++ ys) ↔ Unbracketed xs ∧ Unbracketed ys :=
  List.forall_mem_append

theorem unmarked (h : Unbracketed xs) : Unmarked xs := by
  intro c hc
  exact ⟨(h c hc).1, (h c hc).2.1⟩

theorem getLast?_ne (h : Unbracketed xs) : xs.getLast? ≠ some ']' := by
  intro hlast
  exact (h ']' (List.mem_of_getLast? hlast)).2.2 rfl

theorem sublist (h : Unbracketed ys) (hsub : xs.Sublist ys) : Unbracketed xs :=
  fun c hc => h c (hsub.subset hc)

theorem replicate {c : Char} (hc : c ≠ '\\' ∧ c ≠ '[' ∧ c ≠ ']') (k : Nat) :
    Unbracketed (List.replicate k c) := by
  intro d hd
  rw [List.eq_of_mem_replicate hd]
  exact hc

theorem digitChar (d : Nat) : Unbracketed [Nat.digitChar d] := by
  simp [Nat.digitChar_ne]

theorem toDigits {b : Nat} (hb : 1 < b) (n : Nat) : Unbracketed (Nat.toDigits b n) := by
  induction n using Nat.strong_induction_on with
  | h n ih =>
    rcases Nat.lt_or_ge n b with hlt | hge
    · rw [Nat.toDigits_of_lt_base hlt]
      exact digitChar n
    · rw [Nat.toDigits_of_base_le hb hge, append_iff]
      exact ⟨ih _ (Nat.div_lt_self (by omega) hb), digitChar _⟩

theorem hexDigits (size n : Nat) : Unbracketed (Text.hexDigits size n) := by
  unfold Text.hexDigits
  simp [replicate (c := '0') (by decide), toDigits (b := 16) (by decide)]

theorem decimalText (n : Int) : Unbracketed (decimalText n) := by
  unfold Number.decimalText
  have hdigits := toDigits (b := 10) (by decide) n.natAbs
  split <;> simp [hdigits]

theorem layout {digits : List Char} (h : Unbracketed digits) (point : Int) :
    Unbracketed (Binary64.layout digits point) := by
  have hzeros (k : Nat) := replicate (c := '0') (by decide) k
  have hexponent := toDigits (b := 10) (by decide) (point - 1).natAbs
  unfold Binary64.layout
  split
  · simp [h, hzeros]
  split
  · split
    · simp [h, hzeros]
    · simp [h.sublist (List.take_sublist _ _), h.sublist (List.drop_sublist _ _)]
  · have hpadded : Unbracketed (if (Nat.toDigits 10 (point - 1).natAbs).length < 2 then
        '0' :: Nat.toDigits 10 (point - 1).natAbs else Nat.toDigits 10 (point - 1).natAbs) := by
      split <;> simp [hexponent]
    have hsign : Unbracketed [if point - 1 < 0 then '-' else '+'] := by
      split <;> simp
    rw [cons_iff] at hsign
    dsimp only
    rw [append_iff, cons_iff, cons_iff]
    refine ⟨?_, by decide, hsign.1, hpadded⟩
    obtain _ | ⟨d, _ | ⟨e, rest⟩⟩ := digits
    · exact h
    · exact h
    · simpa using h

theorem shortest (i : Binary64.Interval) : Unbracketed i.shortest.1 := by
  unfold Binary64.Interval.shortest
  dsimp only
  split
  · rename_i digits places hfound
    obtain ⟨k, _, hk⟩ := List.exists_of_findSome?_eq_some hfound
    obtain ⟨d, _, hd⟩ := Option.map_eq_some_iff.1 hk
    obtain ⟨rfl, rfl⟩ := Prod.mk.inj hd
    have hdigits := toDigits (b := 10) (by decide) d
    have hsub := List.dropWhile_sublist (· == '0') (l := (Nat.toDigits 10 d).reverse)
    refine hdigits.sublist ?_
    simpa using hsub.reverse
  · exact (by simp : Unbracketed ['0'])

theorem binary64 (x : Binary64) : Unbracketed x.text := by
  have hmagnitude := layout (shortest x.interval) x.interval.shortest.2
  unfold Binary64.text
  dsimp only
  split
  · simp
  split
  · split
    · simp
    · split
      · simp
      · simpa using hmagnitude
  · split
    · simp
    · split
      · simp
      · exact hmagnitude

end Unbracketed

/-- How scalars are shown: no text ends with an opening bracket or a backslash, and before every
opening bracket the backslashes come in pairs. -/
structure IsShown (cs : List Char) : Prop where
  endsPlain : EndsPlain 0 cs
  paired : PairedBackslashes 0 cs

theorem Unmarked.decimalText (n : Int) : Unmarked (decimalText n) :=
  (Unbracketed.decimalText n).unmarked

theorem Unmarked.pairedBackslashes_append {xs ys : List Char} (h : Unmarked xs)
    (hys : PairedBackslashes 0 ys) : PairedBackslashes 0 (xs ++ ys) := by
  induction xs with
  | nil => exact hys
  | cons x xs ih =>
    obtain ⟨hx, hxs⟩ := Unmarked.cons_iff.1 h
    rw [List.cons_append, PairedBackslashes, if_neg hx.1]
    exact ⟨fun hbracket => absurd hbracket hx.2, ih hxs⟩

theorem Unmarked.isShown {cs : List Char} (h : Unmarked cs) : IsShown cs where
  endsPlain := fun c hc => h c (List.mem_of_getLast? hc)
  paired := by
    have hpaired := h.pairedBackslashes_append (show PairedBackslashes 0 [] from trivial)
    rwa [List.append_nil] at hpaired

/-- What one character is written as leaves backslashes in pairs before what follows it. -/
theorem pairedBackslashes_quotedChar_append {mark : Char} (hmark : mark ≠ '[') (c : Char)
    {ys : List Char} (hys : ∀ pending, pending % 2 = 0 → PairedBackslashes pending ys)
    {pending : Nat} (hpending : pending % 2 = 0) :
    PairedBackslashes pending (Text.quotedChar mark c ++ ys) := by
  have hzero := hys 0 rfl
  -- A letter behind a backslash is no bracket, and ends the run of backslashes.
  have hletter (d : Char) (hd : d ≠ '\\' ∧ d ≠ '[') (cs : List Char) (hcs : Unmarked cs) :
      PairedBackslashes pending ('\\' :: d :: (cs ++ ys)) := by
    rw [PairedBackslashes, if_pos rfl, PairedBackslashes, if_neg hd.1]
    exact ⟨fun hbracket => absurd hbracket hd.2, hcs.pairedBackslashes_append hzero⟩
  unfold Text.quotedChar
  split
  · rename_i hc
    simp only [Bool.or_eq_true, beq_iff_eq] at hc
    by_cases hslash : c = '\\'
    · subst hslash
      exact hys (pending + 2) (by omega)
    · have hne : c ≠ '[' := (hc.resolve_right hslash).symm ▸ hmark
      exact hletter c ⟨hslash, hne⟩ [] .nil
  split
  · exact hletter 't' (by decide) [] .nil
  split
  · exact hletter 'n' (by decide) [] .nil
  split
  · exact hletter 'r' (by decide) [] .nil
  split
  · rename_i hc _ _ _ _
    have hslash : c ≠ '\\' := by
      rintro rfl
      simp at hc
    rw [List.singleton_append, PairedBackslashes, if_neg hslash]
    exact ⟨fun _ => hpending, hzero⟩
  split
  · exact hletter 'x' (by decide) _ (Unbracketed.hexDigits 2 c.toNat).unmarked
  split
  · exact hletter 'u' (by decide) _ (Unbracketed.hexDigits 4 c.toNat).unmarked
  · exact hletter 'U' (by decide) _ (Unbracketed.hexDigits 8 c.toNat).unmarked

theorem quotationMark_ne (cs : List Char) :
    Text.quotationMark cs ≠ '\\' ∧ Text.quotationMark cs ≠ '[' := by
  unfold Text.quotationMark
  split <;> decide

theorem isShown_quoted (cs : List Char) : IsShown (Text.quoted cs) := by
  obtain ⟨mark, hmark⟩ : ∃ mark, mark = Text.quotationMark cs := ⟨_, rfl⟩
  have hne := quotationMark_ne cs
  rw [← hmark] at hne
  have hinner (pending : Nat) (hpending : pending % 2 = 0) :
      PairedBackslashes pending (cs.flatMap (Text.quotedChar mark) ++ [mark]) := by
    clear hmark
    induction cs generalizing pending with
    | nil =>
      rw [List.flatMap_nil, List.nil_append, PairedBackslashes, if_neg hne.1]
      exact ⟨fun _ => hpending, trivial⟩
    | cons c cs ih =>
      rw [List.flatMap_cons, List.append_assoc]
      exact pairedBackslashes_quotedChar_append hne.2 c ih hpending
  unfold Text.quoted
  rw [← hmark]
  dsimp only
  rw [List.cons_append]
  constructor
  · intro c hc
    rw [List.replicate_zero, List.nil_append, List.getLast?_cons, List.getLast?_concat] at hc
    obtain rfl : mark = c := Option.some.inj hc
    exact hne
  · rw [PairedBackslashes, if_neg hne.1]
    exact ⟨fun hbracket => absurd hbracket hne.2, hinner 0 rfl⟩

theorem eq_decimalText_of_numeralText {n : Int} {text : List Char}
    (h : numeralText n = .ok text) : text = decimalText n := by
  unfold numeralText at h
  cases hlong : tooLong n with
  | true =>
    rw [hlong, if_pos rfl] at h
    contradiction
  | false =>
    rw [hlong, if_neg Bool.false_ne_true] at h
    exact (Except.ok.inj h).symm

theorem isShown_scalarText {value : Scalar} {text : List Char}
    (h : scalarText value = .ok text) : IsShown text := by
  cases value with
  | null =>
    obtain rfl := Except.ok.inj h
    exact Unmarked.isShown (by simp)
  | text s =>
    obtain rfl := Except.ok.inj h
    exact isShown_quoted s.toList
  | int n =>
    obtain rfl := eq_decimalText_of_numeralText h
    exact (Unbracketed.decimalText n).unmarked.isShown
  | float x =>
    obtain rfl := Except.ok.inj h
    exact (Unbracketed.binary64 x).unmarked.isShown

theorem getLast?_quoted_ne (cs : List Char) : (Text.quoted cs).getLast? ≠ some ']' := by
  have hmark : Text.quotationMark cs ≠ ']' := by
    unfold Text.quotationMark
    split <;> decide
  unfold Text.quoted
  dsimp only
  rw [List.cons_append, List.getLast?_cons, List.getLast?_concat]
  exact fun h => hmark (Option.some.inj h)

/-- No text of a scalar ends with a closing bracket. -/
theorem getLast?_scalarText_ne {value : Scalar} {text : List Char}
    (h : scalarText value = .ok text) : text.getLast? ≠ some ']' := by
  cases value with
  | null =>
    obtain rfl := Except.ok.inj h
    decide
  | text s =>
    obtain rfl := Except.ok.inj h
    exact getLast?_quoted_ne s.toList
  | int n =>
    obtain rfl := eq_decimalText_of_numeralText h
    exact (Unbracketed.decimalText n).getLast?_ne
  | float x =>
    obtain rfl := Except.ok.inj h
    exact (Unbracketed.binary64 x).getLast?_ne

end SyntaxCursor.Display
