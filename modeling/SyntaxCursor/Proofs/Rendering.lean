import SyntaxCursor.Proofs.Tags

/-!
# Rendering of tags

Only its tags decide whether a marked-up text can be rendered: they are followed in order, and
no style may be left that cannot be read (`OpenTags.exists_renderPieces`). A tag with the name of
a style opens the style, and the tag with a slash before that name closes it again.
-/
namespace SyntaxCursor.Display

theorem exists_of_bind_eq_ok {ε α β : Type} {e : Except ε α} {f : α → Except ε β} {b : β}
    (h : e >>= f = .ok b) : ∃ a, e = .ok a ∧ f a = .ok b := by
  cases e with
  | error e => contradiction
  | ok a => exact ⟨a, rfl, h⟩

theorem exists_bind_ok_iff {ε α β : Type} {e : Except ε α} {f : α → Except ε β} :
    (∃ b, e >>= f = .ok b) ↔ ∃ a, e = .ok a ∧ ∃ b, f a = .ok b := by
  constructor
  · rintro ⟨b, h⟩
    obtain ⟨a, ha, hb⟩ := exists_of_bind_eq_ok h
    exact ⟨a, ha, b, hb⟩
  · rintro ⟨a, rfl, hb⟩
    exact hb

theorem exists_mapM_ok_iff {ε α β : Type} {f : α → Except ε β} {xs : List α} :
    (∃ ys, xs.mapM f = .ok ys) ↔ ∀ x ∈ xs, ∃ y, f x = .ok y := by
  induction xs with
  | nil => exact ⟨fun _ => by simp, fun _ => ⟨[], rfl⟩⟩
  | cons x xs ih =>
    rw [List.mapM_cons, exists_bind_ok_iff, List.forall_mem_cons, ← ih]
    constructor
    · rintro ⟨y, hy, hys⟩
      obtain ⟨ys, hys, -⟩ := exists_bind_ok_iff.1 hys
      exact ⟨⟨y, hy⟩, ys, hys⟩
    · rintro ⟨⟨y, hy⟩, ys, hys⟩
      exact ⟨y, hy, exists_bind_ok_iff.2 ⟨ys, hys, y :: ys, rfl⟩⟩

/-- Every result of a list comes from one of its members. -/
theorem exists_of_mem_mapM {ε α β : Type} {f : α → Except ε β} {xs : List α} {ys : List β}
    (h : xs.mapM f = .ok ys) {y : β} (hy : y ∈ ys) : ∃ x ∈ xs, f x = .ok y := by
  induction xs generalizing ys with
  | nil =>
    obtain rfl := Except.ok.inj h
    contradiction
  | cons x xs ih =>
    rw [List.mapM_cons] at h
    obtain ⟨first, hfirst, h⟩ := exists_of_bind_eq_ok h
    obtain ⟨rest, hrest, h⟩ := exists_of_bind_eq_ok h
    obtain rfl := Except.ok.inj h
    rcases List.mem_cons.1 hy with rfl | hy
    · exact ⟨x, List.mem_cons_self, hfirst⟩
    · obtain ⟨z, hz, hzy⟩ := ih hrest hy
      exact ⟨z, List.mem_cons_of_mem x hz, hzy⟩

theorem ok_of_toOption {ε α : Type} {e : Except ε α} {a : α} (h : e.toOption = some a) :
    e = .ok a := by
  cases e with
  | error e => contradiction
  | ok b => exact congrArg Except.ok (Option.some.inj h)

theorem error_of_match {ε α : Type} {e : Except ε α} {x : ε}
    (h : (match e with
      | .error x => some x
      | .ok _ => none) = some x) : e = .error x := by
  cases e with
  | error y => exact congrArg Except.error (Option.some.inj h)
  | ok a => contradiction

namespace OpenTags

def followAll (o : OpenTags) : List (List Char × Nat) → Except MarkupError OpenTags
  | [] => .ok o
  | (body, position) :: ts => (o.follow body position).bind fun o => o.followAll ts

theorem followAll_cons {o o' : OpenTags} {body : List Char} {position : Nat}
    (h : o.follow body position = .ok o') (ts : List (List Char × Nat)) :
    o.followAll ((body, position) :: ts) = o'.followAll ts := by
  rw [followAll, h]
  rfl

theorem exists_renderPieces {ps : List Piece} {o o' : OpenTags}
    (h : o.followAll (ps.filterMap Piece.tag?) = .ok o') (hfault : o'.fault = none) :
    ∃ shown, renderPieces o ps = .ok shown := by
  induction ps generalizing o with
  | nil =>
    obtain rfl := Except.ok.inj h
    exact ⟨[], by rw [renderPieces, hfault]⟩
  | cons p ps ih =>
    cases p with
    | plain cs =>
      obtain ⟨shown, hshown⟩ := ih h
      exact ⟨_, by rw [renderPieces, hshown]; rfl⟩
    | tag body position =>
      rw [filterMap_tag?_tag, followAll] at h
      rw [renderPieces]
      cases hfollow : o.follow body position with
      | error e =>
        rw [hfollow] at h
        contradiction
      | ok next =>
        rw [hfollow] at h
        exact ih h

/-- The name of a style, as a tag has it that opens the style without parameters. -/
structure IsStyleTag (name : List Char) : Prop where
  styleName_eq : styleName name = .ok name
  trim_eq : Text.trimBy Text.isBlank name = name
  equals_not_mem : '=' ∉ name
  exists_cons : ∃ c rest, name = c :: rest ∧ c ≠ '/' ∧ c ≠ '@'

theorem ofBody_of_not_mem {body : List Char} (h : '=' ∉ body) :
    Tag.ofBody body = { name := body } := by
  have hall : ∀ c ∈ body, (c != '=') = true := by
    intro c hc
    simpa using ne_of_mem_of_not_mem hc h
  unfold Tag.ofBody
  rw [List.takeWhile_eq_self_iff.2 hall, List.dropWhile_eq_nil_iff.2 hall]
  rfl

namespace IsStyleTag

variable {name : List Char} (h : IsStyleTag name)

include h

theorem exists_ofText : ∃ style, Style.ofText name = .ok style := by
  have hname := h.styleName_eq
  unfold styleName at hname
  cases hstyle : Style.ofText name with
  | error e =>
    rw [hstyle] at hname
    contradiction
  | ok style => exact ⟨style, rfl⟩

theorem push_eq (o : OpenTags) :
    o.push { name } = .ok { o with tags := { name } :: o.tags } := by
  obtain ⟨style, hstyle⟩ := h.exists_ofText
  unfold OpenTags.push
  rw [h.styleName_eq]
  simp [Except.mapError, Tag.description, hstyle]

/-- A tag of a style is opened. -/
theorem follow_eq (o : OpenTags) (position : Nat) :
    o.follow name position = .ok { o with tags := { name } :: o.tags } := by
  obtain ⟨c, rest, hcons, hslash, -⟩ := h.exists_cons
  unfold OpenTags.follow
  rw [ofBody_of_not_mem h.equals_not_mem]
  dsimp only
  split
  · exact absurd (List.cons.inj hcons).1.symm hslash
  · exact h.push_eq o

/-- A closing tag closes the latest tag of its style, if there is one. -/
theorem follow_slash (o : OpenTags) (position : Nat) :
    o.follow ('/' :: name) position =
      match o.tags.find? (·.name == name) with
      | none => .error (.notOpen ('/' :: name) position)
      | some t => .ok { o with tags := o.tags.erase t } := by
  obtain ⟨c, rest, hcons, -, hat⟩ := h.exists_cons
  have hequals : '=' ∉ '/' :: name := by
    simpa using h.equals_not_mem
  have hne : name.isEmpty = false := by
    rw [hcons]
    rfl
  unfold OpenTags.follow
  rw [ofBody_of_not_mem hequals]
  simp only [h.trim_eq, hne, h.styleName_eq, Bool.false_eq_true, if_false, Except.mapError, bind,
    Except.bind]
  cases hfind : o.tags.find? (·.name == name) with
  | none => rfl
  | some t =>
    have hfound := List.find?_some hfind
    have hname : t.name = name := eq_of_beq hfound
    have hparameters : t.actionParameters? = none := by
      simp [Tag.actionParameters?, hname, hcons, hat]
    simp only [OpenTags.pop, hparameters]

/-- The tag that was opened last is closed by its name. -/
theorem follow_slash_eq (o : OpenTags) (ts : List Tag) (position : Nat) :
    ({ o with tags := { name } :: ts } : OpenTags).follow ('/' :: name) position =
      .ok { o with tags := ts } := by
  rw [h.follow_slash]
  simp

end IsStyleTag

end OpenTags

end SyntaxCursor.Display
