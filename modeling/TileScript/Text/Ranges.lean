namespace TileScript

/-- Closed ranges of code points, ascending and apart. The tables are those of Unicode 17. -/
abbrev CodeRanges := Array (Nat × Nat)

def CodeRanges.contains (ranges : CodeRanges) (char : Char) : Bool :=
  ranges.any (fun (first, last) => first ≤ char.toNat && char.toNat ≤ last)

end TileScript
