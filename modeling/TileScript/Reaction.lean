import TileScript.Command
import TileScript.Tree.Walk

namespace TileScript

inductive Owner where
  | hero
  | placed (map object : Nat)
  deriving DecidableEq

/-- Where a reaction is declared. Reactions of one content are the same exactly when they are
declared at the same place. -/
inductive Origin where
  | common (id : Nat)
  | handler (owner : Owner) (index state : Nat)
  | route (owner : Owner) (state : Nat)
  | loose (index : Nat)
  deriving DecidableEq

structure Reaction where
  origin : Origin
  name : String
  tree : Tree Command
  blocksHero : Bool

def Reaction.isEmpty (reaction : Reaction) : Bool := reaction.tree.isEmpty

end TileScript
