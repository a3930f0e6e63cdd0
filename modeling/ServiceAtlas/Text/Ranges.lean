/-! Sets of characters given by the ranges of their code points. -/
namespace ServiceAtlas.Text

/-- Code points from the first to the second of each pair, both included. -/
abbrev Ranges := List (Nat × Nat)

def Ranges.has (ranges : Ranges) (c : Char) : Bool :=
  ranges.any fun (low, high) => low ≤ c.toNat && c.toNat ≤ high

end ServiceAtlas.Text
