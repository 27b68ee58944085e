/-!
Sets of characters, given as the ranges of code points they consist of.
-/
namespace BoardRules.Text

abbrev Ranges := List (Nat × Nat)

def Ranges.mem (rs : Ranges) (c : Char) : Bool :=
  rs.any fun r => r.1 ≤ c.toNat && c.toNat ≤ r.2

end BoardRules.Text
