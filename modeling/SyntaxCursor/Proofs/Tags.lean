import Mathlib.Data.List.TakeWhile
import SyntaxCursor.Display.Markup

/-!
# Tags of marked-up text

Which tags a text has is decided by its brackets: a tag is begun by an opening bracket before a
character that can be first, and the next bracket has to close it. So an escaped text has no tag
of its own, whatever stands behind it (`tagsFrom_go_append`), as long as no tag that it leaves
open is closed there. If one is, then that is a tag, which begins in the escaped text
(`exists_tag_of_leavesOpen`): the text alone did not show a tag to put a backslash before.
-/
namespace SyntaxCursor.Display

def isBracket (c : Char) : Bool := c == '[' || c == ']'

def firstBracket? (cs : List Char) : Option Char := cs.find? isBracket

@[simp] theorem firstBracket?_nil : firstBracket? [] = none := rfl

theorem firstBracket?_cons (c : Char) (cs : List Char) :
    firstBracket? (c :: cs) = if isBracket c then some c else firstBracket? cs := by
  unfold firstBracket?
  rw [List.find?_cons]
  cases isBracket c <;> rfl

theorem firstBracket?_append (xs ys : List Char) :
    firstBracket? (xs ++ ys) = (firstBracket? xs).or (firstBracket? ys) := List.find?_append

theorem ne_of_isTagStart {c : Char} (h : isTagStart c = true) : isBracket c = false ∧ c ≠ '\\' := by
  constructor
  · cases hbracket : isBracket c with
    | false => rfl
    | true =>
      simp only [isBracket, Bool.or_eq_true, beq_iff_eq] at hbracket
      obtain rfl | rfl := hbracket <;> exact absurd h (by decide)
  · rintro rfl
    exact absurd h (by decide)

/-- What can stand between the brackets of a tag. -/
def IsTagBody (body : List Char) : Prop :=
  ∃ c inner, body = c :: inner ∧ isTagStart c = true ∧ firstBracket? inner = none

theorem IsTagBody.firstBracket?_eq {body : List Char} (h : IsTagBody body) :
    firstBracket? body = none := by
  obtain ⟨c, inner, rfl, hc, hinner⟩ := h
  rw [firstBracket?_cons, (ne_of_isTagStart hc).1, hinner]
  rfl

theorem tagAt?_eq_some_iff {cs body more : List Char} :
    tagAt? cs = some (body, more) ↔ IsTagBody body ∧ cs = '[' :: (body ++ ']' :: more) := by
  constructor
  · intro h
    unfold tagAt? at h
    split at h
    · rename_i c rest
      split at h
      · rename_i hc
        split at h
        · rename_i more' hmore
          obtain ⟨rfl, rfl⟩ := Prod.mk.inj (Option.some.inj h)
          refine ⟨⟨c, _, rfl, hc, ?_⟩, ?_⟩
          · rw [firstBracket?, List.find?_eq_none]
            intro d hd
            have hne := List.mem_takeWhile_imp hd
            simpa [isBracket, and_comm] using hne
          · rw [List.cons_append, ← hmore, List.takeWhile_append_dropWhile]
        · contradiction
      · contradiction
    · contradiction
  · rintro ⟨⟨c, inner, rfl, hc, hinner⟩, rfl⟩
    have hplain : ∀ d ∈ inner, (d != ']' && d != '[') = true := by
      intro d hd
      have hne := List.find?_eq_none.1 hinner d hd
      simpa [isBracket, and_comm] using hne
    simp [tagAt?, hc, List.takeWhile_append_of_pos hplain, List.dropWhile_append_of_pos hplain]

theorem tagAt?_cons_of_ne {c : Char} (h : c ≠ '[') (cs : List Char) : tagAt? (c :: cs) = none := by
  cases htag : tagAt? (c :: cs) with
  | none => rfl
  | some found => exact absurd (List.cons.inj (tagAt?_eq_some_iff.1 htag).2).1 h

/-- Whether a text begins a tag, after an opening bracket, with this bracket as the next. -/
def begins (next : Option Char) : List Char → Bool
  | [] => false
  | c :: rest => isTagStart c && firstBracket? rest == next

theorem isSome_tagAt?_bracket (cs : List Char) :
    (tagAt? ('[' :: cs)).isSome = begins (some ']') cs := by
  rw [Bool.eq_iff_iff, Option.isSome_iff_exists]
  constructor
  · rintro ⟨⟨body, more⟩, h⟩
    obtain ⟨⟨c, inner, rfl, hc, hinner⟩, hcs⟩ := tagAt?_eq_some_iff.1 h
    obtain rfl := (List.cons.inj hcs).2
    simp [begins, hc, firstBracket?_append, hinner, firstBracket?_cons, isBracket]
  · intro h
    cases cs with
    | nil => contradiction
    | cons c rest =>
      simp only [begins, Bool.and_eq_true, beq_iff_eq] at h
      obtain ⟨-, inner, more, rfl, hinner⟩ := List.find?_eq_some_iff_append.1 h.2
      refine ⟨(c :: inner, more), tagAt?_eq_some_iff.2 ⟨⟨c, inner, rfl, h.1, ?_⟩, rfl⟩⟩
      rw [firstBracket?, List.find?_eq_none]
      simpa using hinner

theorem tagAt?_bracket_of_isTagBody {body : List Char} (h : IsTagBody body) (more : List Char) :
    tagAt? ('[' :: (body ++ ']' :: more)) = some (body, more) :=
  tagAt?_eq_some_iff.2 ⟨h, rfl⟩

/-- Tags are followed and escaped in one order: the tag that the text begins with is passed at
once, and otherwise one character, where backslashes are counted. -/
@[elab_as_elim]
theorem text_induction {motive : Nat → List Char → Prop} (nil : ∀ pending, motive pending [])
    (tag : ∀ pending body more, IsTagBody body → motive 0 more →
      motive pending ('[' :: (body ++ ']' :: more)))
    (backslash : ∀ pending cs, motive (pending + 1) cs → motive pending ('\\' :: cs))
    (plain : ∀ pending c cs, tagAt? (c :: cs) = none → c ≠ '\\' → motive 0 cs →
      motive pending (c :: cs)) (pending : Nat) (cs : List Char) : motive pending cs := by
  induction pending, cs using escape.go.induct with
  | case1 pending cs body more h _ ih =>
    obtain ⟨hbody, rfl⟩ := tagAt?_eq_some_iff.1 h
    exact tag pending body more hbody ih
  | case2 pending => exact nil pending
  | case3 pending c cs _ hc ih =>
    obtain rfl := eq_of_beq hc
    exact backslash pending cs ih
  | case4 pending c cs h hc ih => exact plain pending c cs h (by simpa using hc) ih

/-- The tag that a part is, with the place where it begins. -/
def Piece.tag? : Piece → Option (List Char × Nat)
  | .plain _ => none
  | .tag body position => some (body, position)

@[simp] theorem filterMap_tag?_plain (cs : List Char) (ps : List Piece) :
    (.plain cs :: ps : List Piece).filterMap Piece.tag? = ps.filterMap Piece.tag? := rfl

@[simp] theorem filterMap_tag?_tag (body : List Char) (position : Nat) (ps : List Piece) :
    (.tag body position :: ps : List Piece).filterMap Piece.tag? =
      (body, position) :: ps.filterMap Piece.tag? := rfl

/-- The tags that are read in a text that begins at `position` after `pending` backslashes. -/
def tagsFrom (position pending : Nat) (cs : List Char) : List (List Char × Nat) :=
  (piecesFrom position pending [] cs).filterMap Piece.tag?

/-- The tags that are read in a text, each with the place where it begins. -/
def tags (cs : List Char) : List (List Char × Nat) := tagsFrom 0 0 cs

section

variable {position pending : Nat} {before : List Char}

theorem piecesFrom_nil : piecesFrom position pending before [] =
    [.plain (List.replicate pending '\\' ++ before).reverse] := by
  rw [piecesFrom]
  rfl

theorem piecesFrom_tag {body : List Char} (h : IsTagBody body) (more : List Char) :
    piecesFrom position pending before ('[' :: (body ++ ']' :: more)) =
      .plain before.reverse :: .plain (List.replicate (pending / 2) '\\') ::
        (if pending % 2 = 1 then .plain ('[' :: body ++ [']']) else .tag body position) ::
          piecesFrom (position + body.length + 2) 0 [] more := by
  rw [piecesFrom]
  have htag := tagAt?_bracket_of_isTagBody h more
  split
  · rename_i body' more' h'
    obtain ⟨rfl, rfl⟩ := Prod.mk.inj (Option.some.inj (htag.symm.trans h'))
    rfl
  · rename_i h'
    rw [h'] at htag
    contradiction

theorem piecesFrom_backslash (cs : List Char) :
    piecesFrom position pending before ('\\' :: cs) =
      piecesFrom (position + 1) (pending + 1) before cs := by
  rw [piecesFrom]
  rfl

theorem piecesFrom_plain {c : Char} {cs : List Char} (h : tagAt? (c :: cs) = none)
    (hc : c ≠ '\\') : piecesFrom position pending before (c :: cs) =
      piecesFrom (position + 1) 0 (c :: (List.replicate pending '\\' ++ before)) cs := by
  rw [piecesFrom]
  split
  · rename_i h'
    rw [h] at h'
    contradiction
  · exact if_neg (by simpa using hc)

end

/-- The text since the last tag has no part in what tags are read. -/
theorem filterMap_piecesFrom (position pending : Nat) (before cs : List Char) :
    (piecesFrom position pending before cs).filterMap Piece.tag? =
      tagsFrom position pending cs := by
  unfold tagsFrom
  induction pending, cs using text_induction generalizing position before with
  | nil => simp [piecesFrom_nil]
  | tag pending body more hbody _ =>
    rw [piecesFrom_tag hbody, piecesFrom_tag hbody, filterMap_tag?_plain, filterMap_tag?_plain]
    rfl
  | backslash pending cs ih => rw [piecesFrom_backslash, piecesFrom_backslash, ih]
  | plain pending c cs h hc ih =>
    rw [piecesFrom_plain h hc, piecesFrom_plain h hc, ih, ih _ (c :: _)]

section

variable {position pending : Nat}

@[simp] theorem tagsFrom_nil : tagsFrom position pending [] = [] := by
  simp [tagsFrom, piecesFrom_nil]

theorem tagsFrom_tag {body : List Char} (h : IsTagBody body) (more : List Char) :
    tagsFrom position pending ('[' :: (body ++ ']' :: more)) =
      (if pending % 2 = 1 then [] else [(body, position)]) ++
        tagsFrom (position + body.length + 2) 0 more := by
  rw [tagsFrom, piecesFrom_tag h]
  split <;> simp [tagsFrom]

theorem tagsFrom_backslash (cs : List Char) :
    tagsFrom position pending ('\\' :: cs) = tagsFrom (position + 1) (pending + 1) cs := by
  rw [tagsFrom, piecesFrom_backslash, filterMap_piecesFrom]

theorem tagsFrom_plain {c : Char} {cs : List Char} (h : tagAt? (c :: cs) = none)
    (hc : c ≠ '\\') : tagsFrom position pending (c :: cs) = tagsFrom (position + 1) 0 cs := by
  rw [tagsFrom, piecesFrom_plain h hc, filterMap_piecesFrom]

theorem tagsFrom_replicate (k : Nat) (cs : List Char) :
    tagsFrom position pending (List.replicate k '\\' ++ cs) =
      tagsFrom (position + k) (pending + k) cs := by
  induction k generalizing position pending with
  | zero => rfl
  | succ k ih =>
    rw [List.replicate_succ, List.cons_append, tagsFrom_backslash, ih]
    congr 1 <;> omega

/-- A text without opening brackets is passed, and with it the backslashes before its end. -/
theorem tagsFrom_append_cons {xs : List Char} (h : '[' ∉ xs) {c : Char} (hbracket : c ≠ '[')
    (hbackslash : c ≠ '\\') (ys : List Char) :
    tagsFrom position pending (xs ++ c :: ys) = tagsFrom (position + xs.length + 1) 0 ys := by
  induction xs generalizing position pending with
  | nil => exact tagsFrom_plain (tagAt?_cons_of_ne hbracket ys) hbackslash
  | cons x xs ih =>
    have hx : x ≠ '[' := fun heq => h (heq ▸ List.mem_cons_self)
    have hxs : '[' ∉ xs := fun hmem => h (List.mem_cons_of_mem x hmem)
    rw [List.cons_append]
    by_cases hslash : x = '\\'
    · rw [hslash, tagsFrom_backslash, ih hxs, List.length_cons]
      congr 1
      omega
    · rw [tagsFrom_plain (tagAt?_cons_of_ne hx _) hslash, ih hxs, List.length_cons]
      congr 1
      omega

end

section

variable {pending : Nat}

theorem go_nil : escape.go pending [] = List.replicate pending '\\' := by
  rw [escape.go]
  rfl

theorem go_tag {body : List Char} (h : IsTagBody body) (more : List Char) :
    escape.go pending ('[' :: (body ++ ']' :: more)) =
      List.replicate (2 * pending + 1) '\\' ++
        '[' :: (body ++ ']' :: escape.go 0 more) := by
  rw [escape.go]
  have htag := tagAt?_bracket_of_isTagBody h more
  split
  · rename_i body' more' h'
    obtain ⟨rfl, rfl⟩ := Prod.mk.inj (Option.some.inj (htag.symm.trans h'))
    simp
  · rename_i h'
    rw [h'] at htag
    contradiction

theorem go_backslash (cs : List Char) :
    escape.go pending ('\\' :: cs) = escape.go (pending + 1) cs := by
  rw [escape.go]
  rfl

theorem go_plain {c : Char} {cs : List Char} (h : tagAt? (c :: cs) = none) (hc : c ≠ '\\') :
    escape.go pending (c :: cs) = List.replicate pending '\\' ++ c :: escape.go 0 cs := by
  rw [escape.go]
  split
  · rename_i h'
    rw [h] at h'
    contradiction
  · exact if_neg (by simpa using hc)

end

theorem escape_eq (cs : List Char) : escape cs = escape.go 0 cs := rfl

/-- No bracket is put into a text, and none is taken out. -/
theorem firstBracket?_go (pending : Nat) (cs : List Char) :
    firstBracket? (escape.go pending cs) = firstBracket? cs := by
  have hslashes (k : Nat) : firstBracket? (List.replicate k '\\') = none := by
    rw [firstBracket?, List.find?_eq_none]
    intro c hc
    rw [List.eq_of_mem_replicate hc]
    decide
  induction pending, cs using text_induction with
  | nil pending => rw [go_nil, hslashes, firstBracket?_nil]
  | tag pending body more hbody _ =>
    rw [go_tag hbody, firstBracket?_append, hslashes, Option.none_or, firstBracket?_cons,
      firstBracket?_cons]
    rfl
  | backslash pending cs ih =>
    rw [go_backslash, ih, firstBracket?_cons]
    rfl
  | plain pending c cs h hc ih =>
    rw [go_plain h hc, firstBracket?_append, hslashes, Option.none_or, firstBracket?_cons,
      firstBracket?_cons, ih]

/-- An escaped text begins as the text does, or with a backslash. -/
theorem head?_go (pending : Nat) (cs : List Char) :
    (pending = 0 ∧ (escape.go pending cs).head? = cs.head?) ∨
      (escape.go pending cs).head? = some '\\' := by
  induction pending, cs using text_induction with
  | nil pending =>
    rw [go_nil]
    cases pending with
    | zero => exact .inl ⟨rfl, rfl⟩
    | succ pending => exact .inr rfl
  | tag pending body more hbody _ =>
    rw [go_tag hbody]
    exact .inr rfl
  | backslash pending cs ih =>
    rw [go_backslash]
    exact .inr (ih.resolve_left fun h => Nat.succ_ne_zero pending h.1)
  | plain pending c cs h hc _ =>
    rw [go_plain h hc]
    cases pending with
    | zero => exact .inl ⟨rfl, rfl⟩
    | succ pending => exact .inr rfl

/-- An escaped text ends as the text does. -/
theorem getLast?_go (pending : Nat) (cs : List Char) :
    (escape.go pending cs).getLast? = (List.replicate pending '\\' ++ cs).getLast? := by
  induction pending, cs using text_induction with
  | nil pending => rw [go_nil, List.append_nil]
  | tag pending body more hbody ih =>
    rw [List.replicate_zero, List.nil_append] at ih
    rw [go_tag hbody]
    simp only [List.getLast?_append, List.getLast?_cons, ih]
    rfl
  | backslash pending cs ih =>
    rw [go_backslash, ih, List.replicate_succ', List.append_assoc, List.singleton_append]
  | plain pending c cs h hc ih =>
    rw [List.replicate_zero, List.nil_append] at ih
    rw [go_plain h hc, List.getLast?_append, List.getLast?_append, List.getLast?_cons,
      List.getLast?_cons, ih]

theorem go_of_isTagStart {c : Char} (hc : isTagStart c = true) (cs : List Char) :
    escape.go 0 (c :: cs) = c :: escape.go 0 cs := by
  obtain ⟨hbracket, hslash⟩ := ne_of_isTagStart hc
  have hne : c ≠ '[' := by
    rintro rfl
    contradiction
  rw [go_plain (tagAt?_cons_of_ne hne cs) hslash]
  rfl

theorem begins_eq_false {c : Char} (hc : isTagStart c = false) (next : Option Char)
    (cs : List Char) : begins next (c :: cs) = false := by
  rw [begins, hc, Bool.false_and]

/-- Behind an opening bracket, an escaped text begins a tag as the text does, and what stands
behind it can close the tag if the text leaves it open. -/
theorem begins_go_append {cs : List Char} (hcs : cs ≠ []) (ys : List Char) :
    begins (some ']') (escape.go 0 cs ++ ys) =
      (begins (some ']') cs || (begins none cs && firstBracket? ys == some ']')) := by
  obtain ⟨c, rest, rfl⟩ := List.exists_cons_of_ne_nil hcs
  cases hc : isTagStart c with
  | true =>
    rw [go_of_isTagStart hc, List.cons_append]
    simp only [begins, hc, Bool.true_and, firstBracket?_append, firstBracket?_go]
    cases firstBracket? rest with
    | none => rfl
    | some b => simp
  | false =>
    rw [begins_eq_false hc, begins_eq_false hc]
    cases hgo : escape.go 0 (c :: rest) with
    | nil =>
      have hhead := head?_go 0 (c :: rest)
      simp [hgo] at hhead
    | cons d more =>
      have hhead := head?_go 0 (c :: rest)
      simp only [hgo, List.head?_cons, Option.some.injEq, true_and] at hhead
      rw [List.cons_append]
      obtain rfl | rfl := hhead
      · exact begins_eq_false hc _ _
      · exact begins_eq_false (by decide) _ _

/-- Whether a text begins a tag and does not go on to another bracket. -/
def leavesOpen : List Char → Bool
  | [] => false
  | c :: cs => (c == '[' && begins none cs) || leavesOpen cs

theorem leavesOpen_cons_of_ne {c : Char} (h : c ≠ '[') (cs : List Char) :
    leavesOpen (c :: cs) = leavesOpen cs := by
  simp [leavesOpen, h]

theorem leavesOpen_tag {body : List Char} (h : IsTagBody body) (more : List Char) :
    leavesOpen ('[' :: (body ++ ']' :: more)) = leavesOpen more := by
  have hbegins : begins none (body ++ ']' :: more) = false := by
    obtain ⟨c, inner, rfl, _, hinner⟩ := h
    simp [begins, firstBracket?_append, hinner, firstBracket?_cons, isBracket]
  have hbody (xs : List Char) (hxs : firstBracket? xs = none) :
      leavesOpen (xs ++ ']' :: more) = leavesOpen more := by
    induction xs with
    | nil => exact leavesOpen_cons_of_ne (by decide) more
    | cons x xs ih =>
      rw [firstBracket?_cons] at hxs
      split at hxs
      · contradiction
      · rename_i hx
        rw [List.cons_append, leavesOpen_cons_of_ne (by rintro rfl; exact hx rfl), ih hxs]
  rw [leavesOpen, hbegins, hbody body h.firstBracket?_eq]
  rfl

/-- The last character of a text, after `pending` backslashes, is no backslash, and it is no
opening bracket. -/
def EndsPlain (pending : Nat) (cs : List Char) : Prop :=
  ∀ c, (List.replicate pending '\\' ++ cs).getLast? = some c → c ≠ '\\' ∧ c ≠ '['

namespace EndsPlain

variable {pending : Nat} {cs : List Char}

theorem append_cons {xs : List Char} {c : Char} (h : EndsPlain pending (xs ++ c :: cs)) :
    EndsPlain 0 cs := by
  intro d hd
  apply h
  rw [List.append_cons xs c cs, ← List.append_assoc, List.getLast?_append]
  exact Option.or_eq_some_iff.2 (.inl hd)

theorem tail {c : Char} (h : EndsPlain pending (c :: cs)) : EndsPlain 0 cs :=
  append_cons (show EndsPlain pending ([] ++ c :: cs) from h)

theorem backslash (h : EndsPlain pending ('\\' :: cs)) : EndsPlain (pending + 1) cs := by
  unfold EndsPlain
  rw [List.replicate_succ', List.append_assoc]
  exact h

theorem eq_zero (h : EndsPlain pending []) : pending = 0 := by
  cases pending with
  | zero => rfl
  | succ pending =>
    rw [EndsPlain, List.replicate_succ', List.append_nil, List.getLast?_concat] at h
    exact absurd rfl (h '\\' rfl).1

/-- What stands behind an escaped text makes a tag of its opening bracket just where the text
leaves that open, and closes it. -/
theorem isSome_tagAt?_go_append {c : Char} (ys : List Char) (hlast : EndsPlain pending (c :: cs))
    (h : tagAt? (c :: cs) = none) :
    (tagAt? (c :: (escape.go 0 cs ++ ys))).isSome =
      ((c == '[' && begins none cs) && firstBracket? ys == some ']') := by
  by_cases hc : c = '['
  · subst hc
    have hcs : cs ≠ [] := by
      rintro rfl
      exact absurd rfl (hlast '[' List.getLast?_concat).2
    have hbegins : begins (some ']') cs = false := by
      rw [← isSome_tagAt?_bracket, h]
      rfl
    rw [isSome_tagAt?_bracket, begins_go_append hcs, hbegins]
    rfl
  · rw [tagAt?_cons_of_ne hc, beq_false_of_ne hc]
    rfl

end EndsPlain

/-- An escaped text has no tags, unless one is closed behind it. -/
theorem tagsFrom_go_append {pending : Nat} {cs ys : List Char} (hlast : EndsPlain pending cs)
    (hys : (leavesOpen cs && firstBracket? ys == some ']') = false) (position : Nat) :
    tagsFrom position 0 (escape.go pending cs ++ ys) =
      tagsFrom (position + (escape.go pending cs).length) 0 ys := by
  induction pending, cs using text_induction generalizing position with
  | nil pending =>
    obtain rfl := hlast.eq_zero
    simp [go_nil]
  | tag pending body more hbody ih =>
    rw [leavesOpen_tag hbody] at hys
    have hmore : EndsPlain 0 more := hlast.tail.append_cons
    rw [go_tag hbody]
    simp only [List.append_assoc, List.cons_append, tagsFrom_replicate, tagsFrom_tag hbody]
    rw [if_pos (by omega), List.nil_append, ih hmore hys]
    congr 1
    simp only [List.length_append, List.length_cons, List.length_replicate]
    omega
  | backslash pending cs ih =>
    rw [leavesOpen_cons_of_ne (by decide)] at hys
    rw [go_backslash]
    exact ih hlast.backslash hys position
  | plain pending c cs h hc ih =>
    rw [leavesOpen, Bool.and_or_distrib_right, Bool.or_eq_false_iff] at hys
    have hnone : tagAt? (c :: (escape.go 0 cs ++ ys)) = none := by
      rw [← Option.not_isSome_iff_eq_none, hlast.isSome_tagAt?_go_append ys h, hys.1]
      decide
    rw [go_plain h hc, List.append_assoc, List.cons_append, tagsFrom_replicate,
      tagsFrom_plain hnone hc, ih hlast.tail hys.2]
    congr 1
    simp only [List.length_append, List.length_cons, List.length_replicate]
    omega

/-- Before every opening bracket of a text, after `pending` backslashes, the backslashes come in
pairs. -/
def PairedBackslashes (pending : Nat) : List Char → Prop
  | [] => True
  | c :: cs =>
    if c = '\\' then PairedBackslashes (pending + 1) cs
    else (c = '[' → pending % 2 = 0) ∧ PairedBackslashes 0 cs

theorem PairedBackslashes.tail {pending : Nat} {c : Char} {cs : List Char} (hc : c ≠ '\\')
    (h : PairedBackslashes pending (c :: cs)) : PairedBackslashes 0 cs := by
  rw [PairedBackslashes, if_neg hc] at h
  exact h.2

theorem PairedBackslashes.append_right {pending : Nat} {xs : List Char} {c : Char}
    {cs : List Char} (hc : c ≠ '\\') (h : PairedBackslashes pending (xs ++ c :: cs)) :
    PairedBackslashes 0 cs := by
  induction xs generalizing pending with
  | nil => exact h.tail hc
  | cons x xs ih =>
    rw [List.cons_append, PairedBackslashes] at h
    split at h
    · exact ih h
    · exact ih h.2

/-- A tag that a text leaves open is a tag of it, if that is closed behind the text. -/
theorem exists_tag_of_leavesOpen {pending : Nat} {cs ys : List Char}
    (hlast : EndsPlain pending cs) (hpaired : PairedBackslashes pending cs)
    (hopen : leavesOpen cs = true) (hys : firstBracket? ys = some ']') (position : Nat) :
    ∃ body place more, tagsFrom position 0 (escape.go pending cs ++ ys) = (body, place) :: more ∧
      place < position + (escape.go pending cs).length := by
  induction pending, cs using text_induction generalizing position with
  | nil pending => contradiction
  | tag pending body more hbody ih =>
    rw [leavesOpen_tag hbody] at hopen
    have hmore : EndsPlain 0 more := hlast.tail.append_cons
    have hpairedMore : PairedBackslashes 0 more :=
      (hpaired.tail (by decide)).append_right (by decide)
    obtain ⟨body', place, rest, htags, hplace⟩ :=
      ih hmore hpairedMore hopen (position + (2 * pending + 1) + body.length + 2)
    refine ⟨body', place, rest, ?_, ?_⟩
    · rw [go_tag hbody]
      simp only [List.append_assoc, List.cons_append, tagsFrom_replicate, tagsFrom_tag hbody]
      rw [if_pos (by omega), List.nil_append, htags]
    · rw [go_tag hbody]
      simp only [List.length_append, List.length_cons, List.length_replicate]
      omega
  | backslash pending cs ih =>
    rw [leavesOpen_cons_of_ne (by decide)] at hopen
    rw [go_backslash]
    exact ih hlast.backslash hpaired hopen position
  | plain pending c cs h hc ih =>
    rw [PairedBackslashes, if_neg hc] at hpaired
    rw [go_plain h hc, List.append_assoc, List.cons_append, tagsFrom_replicate]
    have hsome := hlast.isSome_tagAt?_go_append ys h
    cases htag : tagAt? (c :: (escape.go 0 cs ++ ys)) with
    | none =>
      rw [htag, hys] at hsome
      have hclosed : (c == '[' && begins none cs) = false := by simpa using hsome
      have hrest : leavesOpen cs = true := by rwa [leavesOpen, hclosed, Bool.false_or] at hopen
      obtain ⟨body, place, rest, htags, hplace⟩ :=
        ih hlast.tail hpaired.2 hrest (position + pending + 1)
      refine ⟨body, place, rest, ?_, ?_⟩
      · rw [tagsFrom_plain htag hc, htags]
      · simp only [List.length_append, List.length_cons, List.length_replicate]
        omega
    | some found =>
      obtain ⟨body, more⟩ := found
      obtain ⟨hbody, hcs⟩ := tagAt?_eq_some_iff.1 htag
      have hbracket : c = '[' := (List.cons.inj hcs).1
      refine ⟨body, position + pending, tagsFrom (position + pending + body.length + 2) 0 more,
        ?_, ?_⟩
      · rw [hcs, tagsFrom_tag hbody, if_neg (by have := hpaired.1 hbracket; omega)]
        rfl
      · simp only [List.length_append, List.length_cons, List.length_replicate]
        omega

end SyntaxCursor.Display
