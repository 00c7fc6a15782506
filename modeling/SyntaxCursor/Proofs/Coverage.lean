import SyntaxCursor.Proofs.Bearer

/-!
# Where a cursor selects something

A cursor before the end of some token locates an entity if spans are nested. From there the
marking falls back towards the root, which every chain ends with; so a node is selected as soon
as the root itself becomes one.
-/
namespace SyntaxCursor.Concrete.Arena

variable {π : Type} [SelectionPolicy π]

section Locate

variable {d : Document} {policy : π} {offset : Int}

/-- Something is located if the search finds a token, whatever the policy makes of it. -/
theorem isSome_locate :
    ((ofDocument d).locate policy offset).isSome = true ↔
      ((ofDocument d).firstOpenToken? offset).isSome = true := by
  rw [locate_eq]
  cases hfirst : (ofDocument d).firstOpenToken? offset with
  | none => rfl
  | some t =>
    obtain ⟨hmem, htoken⟩ := mem_of_firstOpenToken? hfirst
    obtain ⟨p, hp⟩ := exists_parent_of_isToken hmem htoken
    rw [Option.bind_some, SelectionPolicy.standsFor, hp]
    by_cases hpromoted : SelectionPolicy.promotes policy t = true
    · simp [hpromoted]
    · simp [hpromoted]

/-- The entity of a request is there if something is located. -/
theorem isSome_locate_bind_entity? :
    (((ofDocument d).locate policy offset).bind (ofDocument d).entity?).isSome = true ↔
      ((ofDocument d).locate policy offset).isSome = true := by
  cases hlocate : (ofDocument d).locate policy offset with
  | none => rfl
  | some i =>
    obtain ⟨e, he⟩ := exists_entity? d (locate_lt hlocate)
    simp [he]

/-- Some token ends past an offset if the largest end of a token lies past it. -/
theorem isSome_firstToken? {a : Arena} :
    (a.firstToken? offset).isSome = true ↔
      ∃ m, (a.tokens.map (·.stop)).max? = some m ∧ offset < m := by
  rw [firstToken?, List.find?_isSome]
  constructor
  · rintro ⟨t, ht, hpast⟩
    have hpast : offset < t.stop := by simpa using hpast
    cases hmax : (a.tokens.map (·.stop)).max? with
    | none =>
      rw [List.max?_eq_none_iff, List.map_eq_nil_iff] at hmax
      simp [hmax] at ht
    | some m =>
      have hle := (List.max?_eq_some_iff.1 hmax).2 t.stop (List.mem_map_of_mem ht)
      exact ⟨m, rfl, by omega⟩
  · rintro ⟨m, hmax, hpast⟩
    obtain ⟨t, ht, hm⟩ := List.mem_map.1 (List.max?_eq_some_iff.1 hmax).1
    exact ⟨t, ht, by simpa [hm] using hpast⟩

end Locate

end SyntaxCursor.Concrete.Arena

namespace SyntaxCursor.Conversion

open Abstract Concrete

variable {π : Type} [SelectionPolicy π]

/-- A node of a kind that is neither transparent nor a string becomes one node. -/
theorem exists_singleNode?_nodeItems {info : ParseInfo}
    (htransparent : isTransparent info.kind = false) (hstring : isString info.kind = false)
    (version : Int) (is : List Item) :
    ∃ n, singleNode? (nodeItems version info is) = some n := by
  by_cases herror : info.isError = true
  · refine ⟨makeNode "ERROR" info is, ?_⟩
    rw [nodeItems, if_pos herror, singleNode?_eq_some_iff]
  · refine ⟨makeNode (kindName version info.kind) info is, ?_⟩
    rw [nodeItems, if_neg herror, if_neg (by simp [htransparent])]
    simp only [hstring, Bool.false_eq_true, ↓reduceIte]
    rw [singleNode?_eq_some_iff]

section Root

variable {d : Document} (hmissing : d.tree.info.isMissing = false)
  (htransparent : isTransparent d.tree.info.kind = false)
  (hstring : isString d.tree.info.kind = false)

include hmissing htransparent hstring

theorem exists_singleNode?_root (version : Int) :
    ∃ n, singleNode? (plainItems d.source version none 0 d.tree) = some n := by
  cases htree : d.tree with
  | node info children =>
    rw [htree, ParseTree.info_node] at hmissing htransparent hstring
    rw [plainItems_of_isNode hmissing rfl]
    exact exists_singleNode?_nodeItems htransparent hstring version _

theorem exists_bearing?_zero (version : Int) :
    ∃ b, bearing? (Arena.ofDocument d) version 0 = some b := by
  have hroot := bearing?_of_holds (Arena.holds_ofDocument d) (by simp) (isCut_zero d) version
  obtain ⟨n, hn⟩ := exists_singleNode?_root hmissing htransparent hstring version
  rw [hroot, rootBearer?, Arena.source_ofDocument, hn]
  exact ⟨_, rfl⟩

/-- A root that becomes one node is there to fall back to, wherever the cursor is. -/
theorem isSome_bearer? {i : Nat} (hi : i < (Arena.ofDocument d).size) (version : Int) :
    (bearer? (Arena.ofDocument d) version i).isSome = true := by
  obtain ⟨b, hb⟩ := exists_bearing?_zero hmissing htransparent hstring version
  rw [bearer?, Arena.chain_ofDocument d hi, List.findSome?_isSome_iff]
  exact ⟨0, ParseTree.root_mem_pathTo i 0 d.tree, by simp [hb]⟩

theorem isSome_bearerAt? (policy : π) (version offset : Int) :
    (bearerAt? policy version offset d).isSome = true ↔
      ((Arena.ofDocument d).locate policy offset).isSome = true := by
  rw [bearerAt?]
  cases hlocate : (Arena.ofDocument d).locate policy offset with
  | none => rfl
  | some i =>
    rw [Option.bind_some]
    simp [isSome_bearer? hmissing htransparent hstring (Arena.locate_lt hlocate) version]

end Root

/-- If the root of a parse becomes a node and spans are nested, a request selects a node just
when it locates an entity, and it does so just when its offset, moved into the source, lies
before the end of some token: before the largest of their ends. -/
theorem convert_selects_iff (c : Converter π) (r : Request) {version : Int}
    (hv : r.version.supported? = some version) (hp : r.parserFailure = none)
    (hmissing : r.document.tree.info.isMissing = false)
    (htransparent : isTransparent r.document.tree.info.kind = false)
    (hstring : isString r.document.tree.info.kind = false)
    (hspans : (Arena.ofDocument r.document).SpansNested) :
    ∃ result, (c.convert r).answer = .ok result ∧
      (result.selectedNode.isSome = true ↔ result.entity.isSome = true) ∧
      (result.entity.isSome = true ↔
        ∃ m, ((Arena.ofDocument r.document).tokens.map (·.stop)).max? = some m ∧
          clampOffset r.offset r.document.source.length < m) := by
  refine ⟨_, Converter.answer_convert c hv hp, ?_, ?_⟩
  · rw [selectedNode_resultAt, Option.isSome_map,
      isSome_bearerAt? hmissing htransparent hstring]
    exact Arena.isSome_locate_bind_entity?.symm
  · have hnested := Arena.tokensNested_of_spansNested hspans
    rw [← Arena.isSome_firstToken?, ← Arena.firstOpenToken?_of_tokensNested hnested]
    exact Arena.isSome_locate_bind_entity?.trans
      (Arena.isSome_locate : (Arena.locate _ c.policy _).isSome = true ↔ _)

/-- No cursor in front of the end of a statement misses it. -/
theorem convert_selects_propertyStatement :
    propertyStatement.tree.info.isMissing = false ∧
      isTransparent propertyStatement.tree.info.kind = false ∧
      isString propertyStatement.tree.info.kind = false ∧
      (Arena.ofDocument propertyStatement).SpansNested ∧
      ∃ result,
        (convert .standard
          { document := propertyStatement, version := .number 80, offset := -3 }).answer =
            .ok result ∧
        result.entity.isSome = true ∧ result.selectedNode.isSome = true := by
  obtain ⟨result, hanswer, hnode, hentity⟩ :=
    convert_selects_iff { policy := .standard }
      { document := propertyStatement, version := .number 80, offset := -3 }
      rfl rfl rfl (by decide) (by decide) spansNested_propertyStatement
  have hsome : result.entity.isSome = true := hentity.2 ⟨6, by decide, by decide⟩
  exact ⟨rfl, by decide, by decide, spansNested_propertyStatement, result, hanswer, hsome,
    hnode.2 hsome⟩

end SyntaxCursor.Conversion
