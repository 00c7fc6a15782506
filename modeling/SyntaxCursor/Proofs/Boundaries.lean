import Mathlib.Data.List.Chain
import SyntaxCursor.Proofs.Locating

/-!
# Boundaries between tokens

Where tokens stand one after another, the token that the search finds at an offset is the one
whose span holds it, or the next one if the offset lies in a gap. It is the same at all offsets
from the end of one token on and before the end of the next. On any tree, a cursor that moves to
the right never comes back to an earlier token (`locate_boundaries`).
-/
namespace SyntaxCursor.Concrete

/-- Whether an offset belongs to the span of an entity; the end of the span does not. -/
def Entity.covers (e : Entity) (offset : Int) : Bool :=
  decide (e.start ≤ offset) && decide (offset < e.stop)

theorem Entity.covers_iff {e : Entity} {offset : Int} :
    e.covers offset = true ↔ e.start ≤ offset ∧ offset < e.stop := by
  simp [covers]

namespace Arena

variable {π : Type} [SelectionPolicy π]

/-- The token that the search finds, whatever it stands for. -/
def foundToken? (a : Arena) (offset : Int) : Option Entity :=
  (a.search offset).bind fun found => a.entity? found.1

/-- The tokens stand one after another; there may be gaps, and tokens without any width. -/
structure TokensOrdered (a : Arena) : Prop where
  start_le_stop : ∀ t ∈ a.tokens, t.start ≤ t.stop
  stop_le_start : a.tokens.IsChain fun t u => t.stop ≤ u.start

theorem foundToken?_ofDocument (d : Document) (offset : Int) :
    (ofDocument d).foundToken? offset = (ofDocument d).firstOpenToken? offset := by
  rw [foundToken?, search_eq]
  cases hfirst : (ofDocument d).firstOpenToken? offset with
  | none => rfl
  | some t => exact entity?_of_mem d (mem_of_firstOpenToken? hfirst).1

/-- Each token ends before all those after it start, and not only before the next. -/
theorem pairwise_of_isChain {l : List Entity} (hspans : ∀ t ∈ l, t.start ≤ t.stop)
    (hchain : l.IsChain fun t u => t.stop ≤ u.start) :
    l.Pairwise fun t u => t.stop ≤ u.start := by
  induction l with
  | nil => exact List.Pairwise.nil
  | cons t l ih =>
    have hrest := ih (fun u hu => hspans u (List.mem_cons_of_mem t hu)) hchain.tail
    refine List.Pairwise.cons ?_ hrest
    cases l with
    | nil => simp
    | cons v l =>
      have hnext : t.stop ≤ v.start := hchain.rel
      have hv : v.start ≤ v.stop := hspans v (by simp)
      intro u hu
      rcases List.mem_cons.1 hu with rfl | hu
      · exact hnext
      · have hvu := List.rel_of_pairwise_cons hrest hu
        omega

/-- The first token that ends past an offset is known by what stands before it. -/
theorem firstToken?_eq_some {a : Arena} {offset : Int} {before after : List Entity} {t : Entity}
    (htokens : a.tokens = before ++ t :: after) (hpast : offset < t.stop)
    (hbefore : ∀ u ∈ before, u.stop ≤ offset) : a.firstToken? offset = some t := by
  rw [firstToken?, List.find?_eq_some_iff_append]
  refine ⟨by simpa using hpast, before, after, htokens, ?_⟩
  intro u hu
  simpa using hbefore u hu

section Ordered

variable {a : Arena} (ha : a.TokensOrdered) {offset : Int}

include ha

theorem TokensOrdered.pairwise : a.tokens.Pairwise fun t u => t.stop ≤ u.start :=
  pairwise_of_isChain ha.start_le_stop ha.stop_le_start

theorem TokensOrdered.firstToken?_of_covers {t : Entity} (ht : t ∈ a.tokens)
    (hcovers : t.covers offset = true) : a.firstToken? offset = some t := by
  obtain ⟨hstart, hpast⟩ := Entity.covers_iff.1 hcovers
  obtain ⟨before, after, htokens⟩ := List.append_of_mem ht
  refine firstToken?_eq_some htokens hpast ?_
  intro u hu
  have hpairwise := ha.pairwise
  rw [htokens, List.pairwise_append] at hpairwise
  have hle : u.stop ≤ t.start := hpairwise.2.2 u hu t (by simp)
  omega

/-- In a gap it is the first token that starts past the offset. -/
theorem TokensOrdered.firstToken?_of_not_covers (hgap : ∀ t ∈ a.tokens, t.covers offset = false) :
    a.firstToken? offset = a.tokens.find? fun t => decide (offset < t.start) := by
  refine List.find?_congr fun t ht => ?_
  have hle := ha.start_le_stop t ht
  have hnot : ¬ (t.start ≤ offset ∧ offset < t.stop) := by
    rw [← Entity.covers_iff, hgap t ht]
    simp
  rw [decide_eq_decide]
  omega

/-- From the end of one token on it is the next token, up to the end of that one. -/
theorem TokensOrdered.firstToken?_of_next {k : Nat} {t u : Entity} (ht : a.tokens[k]? = some t)
    (hu : a.tokens[k + 1]? = some u) (hstop : t.stop ≤ offset) (hpast : offset < u.stop) :
    a.firstToken? offset = some u := by
  obtain ⟨hk, rfl⟩ := List.getElem?_eq_some_iff.1 ht
  obtain ⟨hk', rfl⟩ := List.getElem?_eq_some_iff.1 hu
  have htokens := List.take_append_drop (k + 1) a.tokens
  rw [List.drop_eq_getElem_cons hk'] at htokens
  refine firstToken?_eq_some htokens.symm hpast ?_
  intro v hv
  obtain ⟨i, hi, rfl⟩ := List.mem_take_iff_getElem.1 hv
  rcases Nat.lt_or_eq_of_le (show i ≤ k by omega) with hik | rfl
  · have hbefore := List.pairwise_iff_getElem.1 ha.pairwise i k (by omega) hk hik
    have hle := ha.start_le_stop _ (List.getElem_mem hk)
    omega
  · exact hstop

end Ordered

/-- Asking for less finds the same element or one that stands before it. -/
theorem find?_of_imp {α : Type} {r : α → α → Prop} {p q : α → Bool} {l : List α} {y : α}
    (hl : l.Pairwise r) (himp : ∀ x, p x = true → q x = true) (hy : l.find? p = some y) :
    ∃ x, l.find? q = some x ∧ (x = y ∨ r x y) := by
  obtain ⟨hp, before, after, rfl, _⟩ := List.find?_eq_some_iff_append.1 hy
  rw [List.find?_append, List.find?_cons_of_pos (himp y hp)]
  cases hbefore : before.find? q with
  | none => exact ⟨y, rfl, Or.inl rfl⟩
  | some x =>
    refine ⟨x, rfl, Or.inr ?_⟩
    exact (List.pairwise_append.1 hl).2.2 x (List.mem_of_find?_eq_some hbefore) y (by simp)

section Moving

variable {a : Arena} {offset offset' : Int} (hle : offset ≤ offset')

include hle

theorem endsPast_of_le {i : Nat} (h : a.endsPast offset' i = true) :
    a.endsPast offset i = true := by
  rw [endsPast, Option.any_eq_true] at h ⊢
  obtain ⟨e, he, hpast⟩ := h
  rw [decide_eq_true_eq] at hpast
  exact ⟨e, he, by rw [decide_eq_true_eq]; omega⟩

theorem isOpen_of_le {i : Nat} (h : a.isOpen offset' i = true) : a.isOpen offset i = true := by
  rw [isOpen, List.all_eq_true] at h ⊢
  intro p hp
  rcases Bool.or_eq_true_iff.1 (h p hp) with hzero | hpast
  · simp [hzero]
  · simp [endsPast_of_le hle hpast]

/-- Further to the left the search stops at the same token or at an earlier one. -/
theorem exists_firstOpenToken?_of_le {d : Document} {u : Entity}
    (hu : (ofDocument d).firstOpenToken? offset' = some u) :
    ∃ t, (ofDocument d).firstOpenToken? offset = some t ∧ t.index ≤ u.index := by
  have hindex : (ofDocument d).tokens.Pairwise fun t u => t.index < u.index :=
    (pairwise_index d).filter _
  have hstops : ∀ t : Entity,
      (decide (offset' < t.stop) && (ofDocument d).isOpen offset' t.index) = true →
        (decide (offset < t.stop) && (ofDocument d).isOpen offset t.index) = true := by
    intro t ht
    rw [Bool.and_eq_true, decide_eq_true_eq] at ht ⊢
    exact ⟨by omega, isOpen_of_le hle ht.2⟩
  obtain ⟨t, ht, hcases⟩ := find?_of_imp hindex hstops hu
  refine ⟨t, ht, ?_⟩
  rcases hcases with rfl | hlt
  · exact Nat.le_refl _
  · exact Nat.le_of_lt hlt

end Moving

theorem standsFor_of_not_promotes {policy : π} {t : Entity}
    (h : SelectionPolicy.promotes policy t = false) :
    SelectionPolicy.standsFor policy t = some t.index := by
  rw [SelectionPolicy.standsFor, if_neg (by simp [h])]

theorem locate_of_not_promotes {d : Document} {policy : π} {offset : Int}
    (hpolicy : ∀ t ∈ (ofDocument d).tokens, SelectionPolicy.promotes policy t = false) :
    (ofDocument d).locate policy offset =
      ((ofDocument d).firstOpenToken? offset).map Entity.index := by
  rw [locate_eq]
  cases hfirst : (ofDocument d).firstOpenToken? offset with
  | none => rfl
  | some t => exact standsFor_of_not_promotes (hpolicy t (List.mem_of_find?_eq_some hfirst))

/-- What is located comes from the found token. Where the tokens stand one after another and no
token ends past a node around it, the found token is the only one whose span holds the offset.
In a gap it is the first one that starts past the offset, which may have no width. So the same is
located from the end of one token on and before the end of the next. On any tree, and with a
policy that promotes no token of it, nothing that is located further to the right comes earlier
in the tree. -/
theorem locate_boundaries (d : Document) (policy : π) :
    (∀ offset, (ofDocument d).locate policy offset =
      ((ofDocument d).foundToken? offset).bind (SelectionPolicy.standsFor policy)) ∧
    ((ofDocument d).TokensOrdered → (ofDocument d).TokensNested →
      (∀ offset,
        (∀ t ∈ (ofDocument d).tokens, t.covers offset = true →
          (ofDocument d).foundToken? offset = some t ∧
            ∀ u ∈ (ofDocument d).tokens, u.covers offset = true → u = t) ∧
        ((∀ t ∈ (ofDocument d).tokens, t.covers offset = false) →
          (ofDocument d).foundToken? offset =
            (ofDocument d).tokens.find? fun t => decide (offset < t.start))) ∧
      ∀ k t u, (ofDocument d).tokens[k]? = some t → (ofDocument d).tokens[k + 1]? = some u →
        ∀ offset, t.stop ≤ offset → offset < u.stop →
          (ofDocument d).locate policy offset = SelectionPolicy.standsFor policy u) ∧
    ((∀ t ∈ (ofDocument d).tokens, SelectionPolicy.promotes policy t = false) →
      ∀ offset offset', offset ≤ offset' → ∀ j,
        (ofDocument d).locate policy offset' = some j →
          ∃ i ≤ j, (ofDocument d).locate policy offset = some i) := by
  refine ⟨fun offset => ?_, fun hordered hnested => ⟨fun offset => ⟨?_, ?_⟩, ?_⟩, ?_⟩
  · rw [foundToken?_ofDocument, locate_eq]
  · intro t ht hcovers
    have hfound := hordered.firstToken?_of_covers ht hcovers
    rw [foundToken?_ofDocument, firstOpenToken?_of_tokensNested hnested]
    refine ⟨hfound, fun u hu hcovers' => ?_⟩
    exact Option.some.inj ((hordered.firstToken?_of_covers hu hcovers').symm.trans hfound)
  · intro hgap
    rw [foundToken?_ofDocument, firstOpenToken?_of_tokensNested hnested,
      hordered.firstToken?_of_not_covers hgap]
  · intro k t u ht hu offset hstop hpast
    rw [locate_eq, firstOpenToken?_of_tokensNested hnested,
      hordered.firstToken?_of_next ht hu hstop hpast]
    rfl
  · intro hpolicy offset offset' hle j hj
    rw [locate_of_not_promotes hpolicy, Option.map_eq_some_iff] at hj
    obtain ⟨u, hu, rfl⟩ := hj
    obtain ⟨t, ht, hindex⟩ := exists_firstOpenToken?_of_le hle hu
    exact ⟨t.index, hindex, by rw [locate_of_not_promotes hpolicy, ht]; rfl⟩

end Arena

/-- The parse of the statement `$a-> )@;`, in which the name of the property is missing and both
the parenthesis and the sign after it are not allowed. -/
def faultyStatement : Document :=
  let token (kind : String) (start stop : Nat) (isNamed isMissing : Bool) : ParseTree :=
    .node ⟨kind, start, stop, 0, start, isNamed, isMissing⟩ []
  let inner (kind : String) (start stop : Nat) (children : List ParseTree) : ParseTree :=
    .node ⟨kind, start, stop, 0, start, true, false⟩ children
  let name := inner "variable_name" 0 2 [token "$" 0 1 false false, token "name" 1 2 true false]
  let access := inner "member_access_expression" 0 5
    [name, token "->" 2 4 false false, token "name" 5 5 true true]
  let parenthesis := inner "ERROR" 5 6 [token ")" 5 6 false false]
  let sign := token "ERROR" 6 7 true false
  { source := [36, 97, 45, 62, 32, 41, 64, 59]
    tree := inner "program" 0 8
      [inner "expression_statement" 0 8
        [access, parenthesis, sign, token ";" 7 8 false false]]
    hasError := true }

theorem tokensOrdered_faultyStatement : (Arena.ofDocument faultyStatement).TokensOrdered where
  start_le_stop := by decide
  stop_le_start := by decide

theorem spansNested_faultyStatement : (Arena.ofDocument faultyStatement).SpansNested := by
  unfold Arena.SpansNested
  decide

/-- At the blank before the parenthesis the missing name is found, which has no width, and the
access that it belongs to is located, as is everywhere before the end of the name. Where nothing
is promoted, what is located further to the left is not past the name. -/
theorem locate_faultyStatement :
    ((Arena.ofDocument faultyStatement).foundToken? 4).map
      (fun t => (t.index, t.start, t.stop)) = some (7, 5, 5) ∧
    (∀ offset : Int, 4 ≤ offset → offset < 5 →
      (Arena.ofDocument faultyStatement).locate .standard offset = some 2) ∧
    ∃ i ≤ 7, (Arena.ofDocument faultyStatement).locate ⟨[]⟩ 2 = some i := by
  have hnested := Arena.tokensNested_of_spansNested spansNested_faultyStatement
  obtain ⟨hfound, hnext⟩ := (Arena.locate_boundaries faultyStatement .standard).2.1
    tokensOrdered_faultyStatement hnested
  have hgap : ∀ t ∈ (Arena.ofDocument faultyStatement).tokens, t.covers 4 = false := by decide
  obtain ⟨t, u, ht, hu, hstop, hpast, hstands⟩ :
      ∃ t u, (Arena.ofDocument faultyStatement).tokens[2]? = some t ∧
        (Arena.ofDocument faultyStatement).tokens[3]? = some u ∧ t.stop = 4 ∧ u.stop = 5 ∧
          SelectionPolicy.standsFor NamePolicy.standard u = some 2 :=
    ⟨_, _, rfl, rfl, rfl, rfl, rfl⟩
  have hpolicy : ∀ t ∈ (Arena.ofDocument faultyStatement).tokens,
      NamePolicy.promotes ⟨[]⟩ t.toParseInfo = false := by decide
  have hleft := (Arena.locate_boundaries faultyStatement ⟨[]⟩).2.2 hpolicy 2 4 (by decide) 7 rfl
  refine ⟨?_, ?_, hleft⟩
  · rw [(hfound 4).2 hgap]
    rfl
  · intro offset hle hlt
    rw [hnext 2 t u ht hu offset (by omega) (by omega), hstands]

end SyntaxCursor.Concrete
