import FormScript.Dictionary
import FormScript.Yaml.Token

/-!
# YAML nodes

The tree that the tokens of a document form. An alias stands for the node that carries its anchor;
anchors are names in a text and numbers once it is known which node every alias means.
-/

namespace FormScript.Yaml

/-- Anchor and tag of a node. -/
structure Properties (α : Type) where
  anchor : Option α
  tag : Option Tag
  deriving DecidableEq, Repr

/-- No properties. -/
def Properties.none {α : Type} : Properties α := ⟨.none, .none⟩

/-- There is an anchor or a tag. -/
def Properties.isSome {α : Type} (p : Properties α) : Bool := p.anchor.isSome || p.tag.isSome

/-- A node of a document. -/
inductive Node (α : Type) where
  | reference (anchor : α)
  | scalar (properties : Properties α) (style : ScalarStyle) (text : String)
  | sequence (properties : Properties α) (items : List (Node α))
  | mapping (properties : Properties α) (pairs : List (Node α × Node α))

namespace Node

/-- A node that is left out. -/
def omitted {α : Type} (properties : Properties α) : Node α := scalar properties .plain ""

/-- A node that is left out and has no properties. -/
def empty {α : Type} : Node α := omitted .none

/-- Anchor and tag of a node; an alias has none of its own. -/
def properties {α : Type} : Node α → Properties α
  | reference _ => .none
  | scalar p _ _ | sequence p _ | mapping p _ => p

mutual

/-- Number of parts. A collection has a beginning and an end beside its items; all else is one part. -/
def size {α : Type} : Node α → Nat
  | reference _ | scalar _ _ _ => 1
  | sequence _ items => sizeItems items + 2
  | mapping _ pairs => sizePairs pairs + 2

/-- Number of parts of items. -/
def sizeItems {α : Type} : List (Node α) → Nat
  | [] => 0
  | item :: items => size item + sizeItems items

/-- Number of parts of pairs. -/
def sizePairs {α : Type} : List (Node α × Node α) → Nat
  | [] => 0
  | (key, value) :: pairs => size key + size value + sizePairs pairs

end

end Node

/-! ## Anchors and aliases -/

/-- The numbers of anchors under their names. -/
abbrev AnchorNumbers := Dictionary Nat

/-- The properties with a number in the place of the name, which then means this node. The number is
that of the names before it. -/
def AnchorNumbers.enter (numbers : AnchorNumbers) (p : Properties String) :
    Properties Nat × AnchorNumbers :=
  match p.anchor with
  | some name => (⟨some numbers.size, p.tag⟩, numbers.insert name numbers.size)
  | none => (⟨none, p.tag⟩, numbers)

/-- The nodes with anchors under the numbers of those, latest first. -/
abbrev Anchors := List (Nat × Node Nat)

namespace Node

mutual

/-- The node with numbers for its anchors. An alias means the latest anchor of its name. -/
def link (numbers : AnchorNumbers) : Node String → Option (Node Nat × AnchorNumbers)
  | reference name => (numbers.get? name).map fun n => (reference n, numbers)
  | scalar p style text =>
    let (p, numbers) := numbers.enter p
    some (scalar p style text, numbers)
  | sequence p items => do
    let (p, numbers) := numbers.enter p
    let (items, numbers) ← linkItems numbers items
    some (sequence p items, numbers)
  | mapping p pairs => do
    let (p, numbers) := numbers.enter p
    let (pairs, numbers) ← linkPairs numbers pairs
    some (mapping p pairs, numbers)

/-- Items of a sequence with numbers for their anchors. -/
def linkItems (numbers : AnchorNumbers) :
    List (Node String) → Option (List (Node Nat) × AnchorNumbers)
  | [] => some ([], numbers)
  | item :: items => do
    let (item, numbers) ← link numbers item
    let (items, numbers) ← linkItems numbers items
    some (item :: items, numbers)

/-- Pairs of a mapping with numbers for their anchors. -/
def linkPairs (numbers : AnchorNumbers) :
    List (Node String × Node String) → Option (List (Node Nat × Node Nat) × AnchorNumbers)
  | [] => some ([], numbers)
  | (key, value) :: pairs => do
    let (key, numbers) ← link numbers key
    let (value, numbers) ← link numbers value
    let (pairs, numbers) ← linkPairs numbers pairs
    some ((key, value) :: pairs, numbers)

end

mutual

/-- The nodes with anchors, after those found before. A node stands before its parts. -/
def addAnchors (found : Anchors) (node : Node Nat) : Anchors :=
  let found := match node.properties.anchor with
    | some number => (number, node) :: found
    | none => found
  match node with
  | reference _ | scalar _ _ _ => found
  | sequence _ items => addItemAnchors found items
  | mapping _ pairs => addPairAnchors found pairs

/-- The nodes with anchors among items, after those found before. -/
def addItemAnchors (found : Anchors) : List (Node Nat) → Anchors
  | [] => found
  | item :: items => addItemAnchors (addAnchors found item) items

/-- The nodes with anchors among pairs, after those found before. -/
def addPairAnchors (found : Anchors) : List (Node Nat × Node Nat) → Anchors
  | [] => found
  | (key, value) :: pairs => addPairAnchors (addAnchors (addAnchors found key) value) pairs

end

/-- The nodes with anchors. -/
def anchors (root : Node Nat) : Anchors := root.addAnchors []

end Node

end FormScript.Yaml
