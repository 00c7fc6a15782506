import SyntaxCursor.Proofs.Rendering
import SyntaxCursor.Proofs.ScalarTexts

/-!
# Tags of labels

A label is made of parts, some of which are tags (`labelParts`). Every scalar is escaped by
itself, and then the texts are joined and read as one. So the tags of the label are the ones it
is made with, just if no text leaves a tag open that a later text closes
(`tags_label_eq_iff`). If one does, what stands between the brackets of both is taken for a tag
and not shown, and a closing tag among those matches no open one (`render_closedAcross`).
-/
namespace SyntaxCursor.Display

open Abstract Number

/-- Texts in the order in which a label shows them, each behind its separator. -/
def separated (separator : List Char) : List (List Char) → List Char
  | [] => []
  | t :: ts => separator ++ (escape t ++ separated ", ".toList ts)

theorem separated_cons_eq (separator t : List Char) (ts : List (List Char)) :
    separated separator (t :: ts) =
      separator ++ ", ".toList.intercalate ((t :: ts).map escape) := by
  induction ts generalizing separator t with
  | nil => simp [separated, List.intercalate]
  | cons u us ih =>
    rw [separated, ih]
    simp [List.intercalate]

/-- Whether a text leaves a tag open that a later text closes. -/
def straddles : List (List Char) → Bool
  | [] => false
  | t :: ts => (leavesOpen t && firstBracket? ts.flatten == some ']') || straddles ts

theorem firstBracket?_separated_append {separator : List Char}
    (hseparator : firstBracket? separator = none) (ts : List (List Char)) (ending : List Char) :
    firstBracket? (separated separator ts ++ ending) =
      (firstBracket? ts.flatten).or (firstBracket? ending) := by
  induction ts generalizing separator with
  | nil => rfl
  | cons t ts ih =>
    rw [separated, List.append_assoc, List.append_assoc, firstBracket?_append, hseparator,
      Option.none_or, firstBracket?_append, escape_eq, firstBracket?_go, ih (by decide),
      List.flatten_cons, firstBracket?_append, Option.or_assoc]

theorem Unmarked.tagsFrom_append {xs : List Char} (h : Unmarked xs) (position : Nat)
    (ys : List Char) : tagsFrom position 0 (xs ++ ys) = tagsFrom (position + xs.length) 0 ys := by
  induction xs generalizing position with
  | nil => rfl
  | cons x xs ih =>
    obtain ⟨hx, hxs⟩ := Unmarked.cons_iff.1 h
    rw [List.cons_append, tagsFrom_plain (tagAt?_cons_of_ne hx.2 _) hx.1, ih hxs,
      List.length_cons]
    congr 1
    omega

section Separated

variable {separator : List Char} (hseparator : Unmarked separator) {ts : List (List Char)}
  (hts : ∀ t ∈ ts, IsShown t) {ending : List Char} (hending : firstBracket? ending ≠ some ']')

include hending

theorem closes_separated_append (ts : List (List Char)) :
    (firstBracket? (separated ", ".toList ts ++ ending) == some ']') =
      (firstBracket? ts.flatten == some ']') := by
  rw [firstBracket?_separated_append (by decide)]
  cases firstBracket? ts.flatten with
  | none => simpa using hending
  | some b => rfl

include hseparator hts

/-- Texts of which none closes a tag of another have no tags. -/
theorem tagsFrom_separated_append (h : straddles ts = false) (position : Nat) :
    tagsFrom position 0 (separated separator ts ++ ending) =
      tagsFrom (position + (separated separator ts).length) 0 ending := by
  induction ts generalizing separator position with
  | nil => rfl
  | cons t ts ih =>
    obtain ⟨ht, hrest⟩ := List.forall_mem_cons.1 hts
    obtain ⟨hopen, hstraddles⟩ := Bool.or_eq_false_iff.1 h
    rw [← closes_separated_append hending] at hopen
    have hcomma : Unmarked ", ".toList := by decide
    rw [separated, List.append_assoc, List.append_assoc, hseparator.tagsFrom_append, escape_eq,
      tagsFrom_go_append ht.endsPlain hopen, ih hcomma hrest hstraddles]
    congr 1
    simp only [List.length_append]
    omega

/-- Where a text closes a tag of another, that is a tag. -/
theorem exists_tag_of_straddles (h : straddles ts = true) (position : Nat) :
    ∃ body place more,
      tagsFrom position 0 (separated separator ts ++ ending) = (body, place) :: more ∧
        place < position + (separated separator ts).length := by
  induction ts generalizing separator position with
  | nil => contradiction
  | cons t ts ih =>
    obtain ⟨ht, hrest⟩ := List.forall_mem_cons.1 hts
    have hcomma : Unmarked ", ".toList := by decide
    rw [separated, List.append_assoc, List.append_assoc, hseparator.tagsFrom_append, escape_eq]
    cases hopen : leavesOpen t && firstBracket? ts.flatten == some ']' with
    | true =>
      rw [← closes_separated_append hending, Bool.and_eq_true, beq_iff_eq] at hopen
      obtain ⟨body, place, more, htags, hplace⟩ := exists_tag_of_leavesOpen ht.endsPlain
        ht.paired hopen.1 hopen.2 (position + separator.length)
      refine ⟨body, place, more, htags, ?_⟩
      simp only [List.length_append]
      omega
    | false =>
      have hstraddles : straddles ts = true := by
        rwa [straddles, hopen, Bool.false_or] at h
      rw [← closes_separated_append hending] at hopen
      obtain ⟨body, place, more, htags, hplace⟩ := ih hcomma hrest hstraddles
        (position + separator.length + (escape.go 0 t).length)
      refine ⟨body, place, more, ?_, ?_⟩
      · rw [tagsFrom_go_append ht.endsPlain hopen, htags]
      · simp only [List.length_append]
        omega

end Separated

/-- A part of a label: a text that it shows, or a tag. -/
inductive LabelPart where
  | shown (cs : List Char)
  | tag (body : List Char)

namespace LabelPart

def text : LabelPart → List Char
  | .shown cs => cs
  | .tag body => '[' :: (body ++ [']'])

/-- The tags among parts that are written from `position` on. -/
def tagsFrom (position : Nat) : List LabelPart → List (List Char × Nat)
  | [] => []
  | .shown cs :: ps => tagsFrom (position + cs.length) ps
  | .tag body :: ps => (body, position) :: tagsFrom (position + body.length + 2) ps

theorem tagsFrom_append (position : Nat) (ps qs : List LabelPart) :
    tagsFrom position (ps ++ qs) =
      tagsFrom position ps ++ tagsFrom (position + (ps.flatMap text).length) qs := by
  induction ps generalizing position with
  | nil => rfl
  | cons p ps ih =>
    cases p with
    | shown cs =>
      rw [List.cons_append, tagsFrom, tagsFrom, ih, List.flatMap_cons, List.length_append,
        Nat.add_assoc]
      rfl
    | tag body =>
      rw [List.cons_append, tagsFrom, tagsFrom, ih, List.cons_append]
      congr 3
      simp [text]
      omega

/-- Whatever stands behind it, a part is read as it was meant: a tag as a tag, and a text, which
has to end with a character without meaning, as a text. -/
def IsRead : LabelPart → Prop
  | .shown cs => ∃ xs c, cs = xs ++ [c] ∧ '[' ∉ xs ∧ c ≠ '[' ∧ c ≠ '\\'
  | .tag body => IsTagBody body

theorem tagsFrom_flatMap_text_append {ps : List LabelPart} (h : ∀ p ∈ ps, p.IsRead)
    (position : Nat) (ys : List Char) :
    Display.tagsFrom position 0 (ps.flatMap text ++ ys) =
      tagsFrom position ps ++
        Display.tagsFrom (position + (ps.flatMap text).length) 0 ys := by
  induction ps generalizing position with
  | nil => rfl
  | cons p ps ih =>
    obtain ⟨hp, hps⟩ := List.forall_mem_cons.1 h
    cases p with
    | shown cs =>
      obtain ⟨xs, c, rfl, hxs, hbracket, hslash⟩ := hp
      have hcut : (LabelPart.shown (xs ++ [c]) :: ps).flatMap text ++ ys =
          xs ++ c :: (ps.flatMap text ++ ys) := by simp [text]
      rw [hcut, tagsFrom_append_cons hxs hbracket hslash, ih hps, tagsFrom]
      simp only [List.flatMap_cons, text, List.length_append, List.length_singleton, Nat.add_assoc]
    | tag body =>
      have hcut : (LabelPart.tag body :: ps).flatMap text ++ ys =
          '[' :: (body ++ ']' :: (ps.flatMap text ++ ys)) := by simp [text]
      rw [hcut, tagsFrom_tag hp, ih hps, tagsFrom]
      simp [text]
      congr 1
      omega

end LabelPart

/-- The line and the byte span of a node. -/
def extentOf (info : NodeInfo) : List Char :=
  decimalText info.line ++ ", ".toList ++ decimalText info.start ++ "..".toList ++
    decimalText info.stop

/-- The parts of a label before its scalars. -/
def frontParts (info : NodeInfo) : List LabelPart :=
  (if info.selected then [.tag "bold green".toList] else []) ++
    [.shown (info.kind.toList ++ [' ']), .tag "dim".toList,
      .shown ("(line ".toList ++ extentOf info ++ [')']), .tag "/dim".toList]

/-- The parts of a label behind its scalars. -/
def endParts (info : NodeInfo) : List LabelPart :=
  if info.selected then [.shown " <selected>".toList, .tag "/bold green".toList] else []

/-- The parts of a label with these texts of scalars. -/
def labelParts (info : NodeInfo) (texts : List (List Char)) : List LabelPart :=
  frontParts info ++ .shown (separated [' '] texts) :: endParts info

theorem separated_eq (texts : List (List Char)) :
    separated [' '] texts =
      if (texts.map escape).isEmpty then []
      else ' ' :: ", ".toList.intercalate (texts.map escape) := by
  cases texts with
  | nil => rfl
  | cons t ts =>
    rw [separated_cons_eq]
    rfl

theorem labelOf_eq (info : NodeInfo) (texts : List (List Char)) :
    labelOf info (extentOf info) (texts.map escape) =
      (labelParts info texts).flatMap LabelPart.text := by
  unfold labelOf
  simp only [← separated_eq]
  cases hselected : info.selected <;>
    simp [labelParts, frontParts, endParts, hselected, LabelPart.text]

/-- The tags that a label is made with. -/
def ownTags (info : NodeInfo) (texts : List (List Char)) : List (List Char × Nat) :=
  LabelPart.tagsFrom 0 (labelParts info texts)

theorem unmarked_extentOf (info : NodeInfo) : Unmarked (extentOf info) := by
  simp [extentOf, Unmarked.decimalText]

theorem isRead_frontParts {info : NodeInfo} (hkind : '[' ∉ info.kind.toList) :
    ∀ p ∈ frontParts info, p.IsRead := by
  have hextent : '[' ∉ "(line ".toList ++ extentOf info := by
    rw [List.mem_append, not_or]
    exact ⟨by decide, fun hmem => (unmarked_extentOf info _ hmem).2 rfl⟩
  have hdim : ∀ p ∈ [.shown (info.kind.toList ++ [' ']), .tag "dim".toList,
      .shown ("(line ".toList ++ extentOf info ++ [')']), .tag "/dim".toList],
      LabelPart.IsRead p := by
    simp only [List.forall_mem_cons, List.not_mem_nil, false_implies, implies_true, and_true]
    exact ⟨⟨_, ' ', rfl, hkind, by decide, by decide⟩, ⟨'d', _, rfl, by decide, by decide⟩,
      ⟨_, ')', rfl, hextent, by decide, by decide⟩, ⟨'/', _, rfl, by decide, by decide⟩⟩
  unfold frontParts
  split
  · exact List.forall_mem_cons.2 ⟨⟨'b', _, rfl, by decide, by decide⟩, hdim⟩
  · exact hdim

theorem isRead_endParts (info : NodeInfo) : ∀ p ∈ endParts info, p.IsRead := by
  unfold endParts
  split
  · simp only [List.forall_mem_cons, List.not_mem_nil, false_implies, implies_true, and_true]
    exact ⟨⟨" <selected".toList, '>', rfl, by decide, by decide, by decide⟩,
      ⟨'/', _, rfl, by decide, by decide⟩⟩
  · simp

theorem firstBracket?_endParts (info : NodeInfo) :
    firstBracket? ((endParts info).flatMap LabelPart.text) ≠ some ']' := by
  unfold endParts
  split <;> decide

theorem le_of_mem_tagsFrom_endParts {info : NodeInfo} {position : Nat} {tag : List Char × Nat}
    (h : tag ∈ LabelPart.tagsFrom position (endParts info)) : position ≤ tag.2 := by
  unfold endParts at h
  split at h
  · obtain rfl := List.mem_singleton.1 h
    exact Nat.le_add_right _ _
  · contradiction

/-- Where the scalars of a label begin. -/
def scalarsAt (info : NodeInfo) : Nat := ((frontParts info).flatMap LabelPart.text).length

theorem tags_labelOf {info : NodeInfo} (hkind : '[' ∉ info.kind.toList)
    (texts : List (List Char)) :
    tags (labelOf info (extentOf info) (texts.map escape)) =
      LabelPart.tagsFrom 0 (frontParts info) ++ tagsFrom (scalarsAt info) 0
        (separated [' '] texts ++ (endParts info).flatMap LabelPart.text) := by
  unfold tags
  rw [labelOf_eq, labelParts, List.flatMap_append, List.flatMap_cons,
    LabelPart.tagsFrom_flatMap_text_append (isRead_frontParts hkind), Nat.zero_add]
  rfl

theorem ownTags_eq (info : NodeInfo) (texts : List (List Char)) :
    ownTags info texts = LabelPart.tagsFrom 0 (frontParts info) ++
      LabelPart.tagsFrom (scalarsAt info + (separated [' '] texts).length) (endParts info) := by
  unfold ownTags labelParts
  rw [LabelPart.tagsFrom_append, Nat.zero_add]
  rfl

/-- The tags of a label are the ones it is made with, just if no text closes a tag of another. -/
theorem tags_labelOf_iff {info : NodeInfo} (hkind : '[' ∉ info.kind.toList)
    {texts : List (List Char)} (htexts : ∀ t ∈ texts, IsShown t) :
    tags (labelOf info (extentOf info) (texts.map escape)) = ownTags info texts ↔
      straddles texts = false := by
  have hspace : Unmarked [' '] := by decide
  have hending := firstBracket?_endParts info
  rw [tags_labelOf hkind, ownTags_eq, List.append_cancel_left_eq]
  constructor
  · intro heq
    by_contra hstraddles
    obtain ⟨body, place, more, htags, hplace⟩ := exists_tag_of_straddles hspace htexts hending
      (by simpa using hstraddles) (scalarsAt info)
    rw [htags] at heq
    have hle := le_of_mem_tagsFrom_endParts (heq ▸ List.mem_cons_self)
    exact absurd hplace (Nat.not_lt.2 hle)
  · intro hstraddles
    have hend := LabelPart.tagsFrom_flatMap_text_append (isRead_endParts info)
      (scalarsAt info + (separated [' '] texts).length) []
    rw [List.append_nil, tagsFrom_nil, List.append_nil] at hend
    rw [tagsFrom_separated_append hspace htexts hending hstraddles, hend]

theorem isStyleTag_dim : OpenTags.IsStyleTag "dim".toList where
  styleName_eq := ok_of_toOption (by decide +kernel)
  trim_eq := by decide +kernel
  equals_not_mem := by decide
  exists_cons := ⟨'d', _, rfl, by decide, by decide⟩

theorem isStyleTag_boldGreen : OpenTags.IsStyleTag "bold green".toList where
  styleName_eq := ok_of_toOption (by decide +kernel)
  trim_eq := by decide +kernel
  equals_not_mem := by decide
  exists_cons := ⟨'b', _, rfl, by decide, by decide⟩

theorem slash_dim : "/dim".toList = '/' :: "dim".toList := by decide

theorem slash_boldGreen : "/bold green".toList = '/' :: "bold green".toList := by decide

/-- The tags that a label is made with are opened and closed in pairs. -/
theorem followAll_ownTags (info : NodeInfo) (texts : List (List Char)) :
    OpenTags.followAll {} (ownTags info texts) = .ok {} := by
  have hdim (o : OpenTags) (position place : Nat) (rest : List (List Char × Nat)) :
      o.followAll (("dim".toList, position) :: ("/dim".toList, place) :: rest) =
        o.followAll rest := by
    rw [OpenTags.followAll_cons (isStyleTag_dim.follow_eq o position), slash_dim,
      OpenTags.followAll_cons (isStyleTag_dim.follow_slash_eq o o.tags place)]
  unfold ownTags labelParts frontParts endParts
  cases info.selected with
  | true =>
    simp only [if_true, List.cons_append, List.nil_append, LabelPart.tagsFrom]
    rw [OpenTags.followAll_cons (isStyleTag_boldGreen.follow_eq {} 0), hdim, slash_boldGreen,
      OpenTags.followAll_cons (isStyleTag_boldGreen.follow_slash_eq {} [] _)]
    rfl
  | false => exact hdim _ _ _ _

/-- A label in which no text closes a tag of another can be rendered. -/
theorem exists_render_labelOf {info : NodeInfo} (hkind : '[' ∉ info.kind.toList)
    {texts : List (List Char)} (htexts : ∀ t ∈ texts, IsShown t)
    (hstraddles : straddles texts = false) :
    ∃ shown, render (labelOf info (extentOf info) (texts.map escape)) = .ok shown := by
  have htags := (tags_labelOf_iff hkind htexts).2 hstraddles
  unfold render
  split
  · have hfollow := followAll_ownTags info texts
    rw [← htags] at hfollow
    exact OpenTags.exists_renderPieces hfollow rfl
  · exact ⟨_, rfl⟩

/-- A label that can be written is made of the texts of all scalars. -/
theorem label_eq_ok {n : Node} {cs : List Char} (h : label n = .ok cs) :
    ∃ texts, n.scalars.mapM scalarText = .ok texts ∧
      cs = labelOf n.info (extentOf n.info) (texts.map escape) := by
  unfold label at h
  obtain ⟨line, hline, h⟩ := exists_of_bind_eq_ok h
  obtain ⟨start, hstart, h⟩ := exists_of_bind_eq_ok h
  obtain ⟨stop, hstop, h⟩ := exists_of_bind_eq_ok h
  obtain ⟨texts, htexts, h⟩ := exists_of_bind_eq_ok h
  obtain rfl := eq_decimalText_of_numeralText hline
  obtain rfl := eq_decimalText_of_numeralText hstart
  obtain rfl := eq_decimalText_of_numeralText hstop
  exact ⟨texts, htexts, (Except.ok.inj h).symm⟩

theorem isShown_of_mapM {values : List Scalar} {texts : List (List Char)}
    (h : values.mapM scalarText = .ok texts) : ∀ t ∈ texts, IsShown t := by
  intro t ht
  obtain ⟨value, _, hvalue⟩ := exists_of_mem_mapM h ht
  exact isShown_scalarText hvalue

/-- A label has exactly the tags that it is made with, and then it can be rendered, just if no
text of a scalar leaves a tag open that a later text closes. -/
theorem tags_label_eq_iff {n : Node} {cs : List Char} (hkind : '[' ∉ n.info.kind.toList)
    (hlabel : label n = .ok cs) :
    ∃ texts, n.scalars.mapM scalarText = .ok texts ∧
      (tags cs = ownTags n.info texts ↔ straddles texts = false) ∧
        (straddles texts = false → ∃ shown, render cs = .ok shown) := by
  obtain ⟨texts, hmap, rfl⟩ := label_eq_ok hlabel
  have htexts := isShown_of_mapM hmap
  exact ⟨texts, hmap, tags_labelOf_iff hkind htexts, exists_render_labelOf hkind htexts⟩

/-- An argument list of which a text has a whole tag, and of which no text leaves one open. -/
def wholeTag : Node :=
  ⟨⟨"AST_ARG_LIST", 1, 7, 20, true⟩, [.scalar (.text "[/x]"), .scalar (.text "]")]⟩

theorem tags_label_wholeTag :
    '[' ∉ wholeTag.info.kind.toList ∧
      ∃ cs, label wholeTag = .ok cs ∧
        ∃ texts, wholeTag.scalars.mapM scalarText = .ok texts ∧
          (tags cs = ownTags wholeTag.info texts ↔ straddles texts = false) ∧
            (straddles texts = false → ∃ shown, render cs = .ok shown) := by
  have hkind : '[' ∉ wholeTag.info.kind.toList := by decide
  have hlabel : label wholeTag = .ok ("[bold green]AST_ARG_LIST [dim](line 1, 7..20)[/dim] " ++
      "'\\[/x]', ']' <selected>[/bold green]").toList := ok_of_toOption (by decide +kernel)
  exact ⟨hkind, _, hlabel, tags_label_eq_iff hkind hlabel⟩

/-- An argument list of two texts, the first of which begins a tag that the second closes. -/
def closedAcross : Node :=
  ⟨⟨"AST_ARG_LIST", 1, 7, 19, false⟩, [.scalar (.text "[/x"), .scalar (.text "]")]⟩

/-- What stands between the brackets of two texts is taken for a closing tag. -/
theorem render_closedAcross :
    '[' ∉ closedAcross.info.kind.toList ∧
      ∃ cs texts, label closedAcross = .ok cs ∧
        closedAcross.scalars.mapM scalarText = .ok texts ∧
          tags cs = ownTags closedAcross.info texts ++ [("/x', '".toList, 41)] ∧
            render cs = .error (.notOpen "/x', '".toList 41) := by
  have hlabel : label closedAcross =
      .ok "AST_ARG_LIST [dim](line 1, 7..19)[/dim] '[/x', ']'".toList :=
    ok_of_toOption (by decide +kernel)
  have htexts : closedAcross.scalars.mapM scalarText = .ok ["'[/x'".toList, "']'".toList] :=
    ok_of_toOption (by decide +kernel)
  exact ⟨by decide, _, _, hlabel, htexts, by decide +kernel,
    error_of_match (by decide +kernel)⟩

end SyntaxCursor.Display
