import SyntaxCursor.Concrete.Arena
import SyntaxCursor.Text.Blank

/-!
# The entity under a byte offset

The search goes through the arena in pre-order and stops at the first token that ends past
the offset. Spans are half-open, so the offset at which a token ends belongs to whatever
comes next. A node other than the root that does not end past the offset is passed over
with all that is below it. A policy says which tokens stand for the node they hang under:
pointing at the name in a property access means the access. Policies of any kind will do; the
usual one goes by the kinds of named tokens.
-/
namespace SyntaxCursor.Concrete

/-- A policy says of each token whether it stands for the node it hangs under. -/
class SelectionPolicy (π : Type) where
  promotes : π → Entity → Bool

instance : SelectionPolicy (Entity → Bool) := ⟨id⟩

/-- Which kinds of named tokens stand for the node they hang under. -/
structure NamePolicy where
  kinds : List String
  deriving DecidableEq, Repr

namespace NamePolicy

/-- Bare names stand for what they are part of. -/
def standard : NamePolicy := ⟨["name"]⟩

/-- The policy for a list of kinds: trimmed, without empty ones and repetitions, in the
order of their code points. -/
def ofKinds (kinds : List String) : NamePolicy :=
  let named := (kinds.map Text.trim).filter (· != "")
  ⟨(named.mergeSort fun a b => !decide (b < a)).eraseDups⟩

/-- Whether a token stands for the node it hangs under. -/
def promotes (policy : NamePolicy) (info : ParseInfo) : Bool :=
  info.isNamed && policy.kinds.contains info.kind

end NamePolicy

@[default_instance]
instance : SelectionPolicy NamePolicy := ⟨fun policy token => policy.promotes token.toParseInfo⟩

/-- The offset of the source text that is nearest to `offset`. -/
def clampOffset (offset length : Int) : Int := max 0 (min length offset)

namespace Arena

/-- Search below the nodes of a stack, each with the children that are still to be looked at:
the first token that ends past the offset, and the node it hangs under. Every step takes a
child from the stack or a node whose children are done. -/
def searchFrom (a : Arena) (offset : Int) : Nat → List (Nat × List Nat) → Option (Nat × Nat)
  | 0, _ => none
  | _, [] => none
  | fuel + 1, (_, []) :: stack => a.searchFrom offset fuel stack
  | fuel + 1, (owner, c :: rest) :: stack =>
    match a.entity? c with
    | none => none
    | some child =>
      if offset < child.stop then
        if child.isToken then some (c, owner)
        else a.searchFrom offset fuel ((c, child.children) :: (owner, rest) :: stack)
      else a.searchFrom offset fuel ((owner, rest) :: stack)

/-- The first token that ends past the offset, and the node it hangs under. -/
def search (a : Arena) (offset : Int) : Option (Nat × Nat) :=
  a.searchFrom offset (2 * a.size) [(0, a.root.children)]

/-- The entity at an offset: a token, or the node that the token stands for. -/
def locate {π : Type} [SelectionPolicy π] (a : Arena) (policy : π) (offset : Int) : Option Nat :=
  (a.search offset).bind fun (token, owner) =>
    (a.entity? token).map fun e => if SelectionPolicy.promotes policy e then owner else token

end Arena

end SyntaxCursor.Concrete
