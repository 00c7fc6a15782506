import SyntaxCursor.Text.Utf8

/-!
# Texts that cannot be encoded

A text may hold surrogates, which are code points but no characters. A text without them has a
UTF-8 form; of any other the first surrogates are told.
-/
namespace SyntaxCursor.Utf8

abbrev CodePoint : Type := Fin 0x110000

namespace CodePoint

def ofChar (c : Char) : CodePoint :=
  ⟨c.toNat, by
    have h : c.toNat < 0xd800 ∨ 0xdfff < c.toNat ∧ c.toNat < 0x110000 := c.valid
    omega⟩

def isSurrogate (c : CodePoint) : Bool := decide (0xd800 ≤ c.val ∧ c.val < 0xe000)

theorem isSurrogate_ofChar (c : Char) : (ofChar c).isSurrogate = false := by
  have h : c.toNat < 0xd800 ∨ 0xdfff < c.toNat ∧ c.toNat < 0x110000 := c.valid
  rw [isSurrogate, decide_eq_false_iff_not]
  change ¬(0xd800 ≤ c.toNat ∧ c.toNat < 0xe000)
  omega

end CodePoint

/-- The first surrogates of a text: they stand from place `start` on and before place `stop`. -/
structure EncodingError where
  start : Nat
  stop : Nat
  deriving DecidableEq, Repr

/-- The UTF-8 form of a text that begins at `place`. -/
def encodeFrom (place : Nat) : List CodePoint → Except EncodingError (List UInt8)
  | [] => .ok []
  | c :: cs =>
    if c.isSurrogate then
      .error ⟨place, place + 1 + (cs.takeWhile CodePoint.isSurrogate).length⟩
    else (encodeFrom (place + 1) cs).map (String.utf8EncodeChar (Char.ofNat c.val) ++ ·)

def encodeText (cs : List CodePoint) : Except EncodingError (List UInt8) := encodeFrom 0 cs

theorem exists_map_eq_ok_iff {ε α β : Type} {x : Except ε α} (f : α → β) :
    (∃ b, x.map f = .ok b) ↔ ∃ a, x = .ok a := by
  cases x with
  | error e => exact ⟨fun ⟨_, h⟩ => (nomatch h), fun ⟨_, h⟩ => (nomatch h)⟩
  | ok a => exact ⟨fun _ => ⟨a, rfl⟩, fun _ => ⟨f a, rfl⟩⟩

/-- A text has a UTF-8 form unless it holds a surrogate. -/
theorem exists_encodeFrom_iff (place : Nat) (cs : List CodePoint) :
    (∃ bytes, encodeFrom place cs = .ok bytes) ↔ ∀ c ∈ cs, c.isSurrogate = false := by
  induction cs generalizing place with
  | nil => simp [encodeFrom]
  | cons c cs ih =>
    rw [encodeFrom, List.forall_mem_cons, ← ih (place + 1)]
    cases hc : c.isSurrogate with
    | true => simp
    | false =>
      rw [if_neg Bool.false_ne_true, exists_map_eq_ok_iff]
      simp

example : encodeText ("<?php ".toList.map CodePoint.ofChar ++ [0xd800, 0xdc00]) =
    .error ⟨6, 8⟩ := rfl

theorem encodeFrom_map_ofChar (place : Nat) (cs : List Char) :
    encodeFrom place (cs.map CodePoint.ofChar) = .ok (cs.flatMap String.utf8EncodeChar) := by
  induction cs generalizing place with
  | nil => rfl
  | cons c cs ih =>
    rw [List.map_cons, encodeFrom, CodePoint.isSurrogate_ofChar, if_neg Bool.false_ne_true, ih,
      List.flatMap_cons]
    change Except.ok (String.utf8EncodeChar (Char.ofNat c.toNat) ++ _) = _
    rw [Char.ofNat_toNat]

/-- A text that consists of characters has a UTF-8 form, the same as elsewhere. -/
theorem encodeText_toList (s : String) :
    encodeText (s.toList.map CodePoint.ofChar) = .ok (encode s) := by
  rw [encodeText, encodeFrom_map_ofChar, encode, String.toUTF8, ← String.utf8Encode_toList,
    List.utf8Encode, List.data_toByteArray]

end SyntaxCursor.Utf8
