import PricePublisher.Keyed
import PricePublisher.Yaml.Token

/-!
# Nodes and anchors

A document is a scalar, a sequence or a mapping, whose keys may be anything.  An
alias stands for a node that has an anchor.

Nodes with anchors are numbered: the number is how many different anchors there
were before.  So an anchor that is used again gives a number that the next new
anchor gives too.  An alias stands for the number that its anchor gave last, and
a number for the node that got it last, be that before or behind the alias.
-/

namespace PricePublisher.Yaml

/-- What a document consists of. -/
inductive Node where
  | alias (number : Nat)
  | scalar (tag : Option Tag) (style : ScalarStyle) (text : String)
  | sequence (items : List Node)
  | mapping (entries : List (Node × Node))
deriving Inhabited

/-- A scalar that is not written. -/
def Node.unwritten (tag : Option Tag) : Node :=
  .scalar tag .plain ""

/-- The nodes with anchors in a text, as far as it has been read. -/
structure Anchors where
  /-- The numbers that the anchors gave last. -/
  numbers : List (String × Nat)
  /-- The numbers given, in the order in which the nodes start, and the nodes that have ended. -/
  nodes : List (Nat × Option Node)

namespace Anchors

/-- No anchors. -/
def empty : Anchors :=
  ⟨[], []⟩

/-- Note that a node with an anchor starts. -/
def start (name : String) (anchors : Anchors) : Anchors :=
  let number := anchors.numbers.length
  ⟨Keyed.insert name number anchors.numbers, anchors.nodes ++ [(number, none)]⟩

/-- Note how a node ended that was started after so many others. -/
def settle (place : Nat) (node : Node) (anchors : Anchors) : Anchors :=
  { anchors with
    nodes := anchors.nodes.modify place fun (number, _) => (number, some node) }

/-- The number that an anchor gave last. -/
def number? (anchors : Anchors) (name : String) : Option Nat :=
  Keyed.get? anchors.numbers name

/-- The node that got a number last, unless it is cut short. -/
def node? (anchors : Anchors) (number : Nat) : Option Node :=
  (anchors.nodes.reverse.lookup number).join

/-- What stands in the place of a node: itself, or what it is an alias of. -/
def target? (anchors : Anchors) : Node → Option Node
  | .alias number => anchors.node? number
  | node => some node

end Anchors

end PricePublisher.Yaml
