/-!
Sets of characters given by ranges of code points, the form in which the properties of the
Unicode standard are tabulated here.
-/
namespace Apidoc.Text

abbrev Ranges := List (Nat × Nat)

def Ranges.hasCode (ranges : Ranges) (n : Nat) : Bool :=
  ranges.any fun r => r.1 ≤ n && n ≤ r.2

def Ranges.has (ranges : Ranges) (c : Char) : Bool :=
  ranges.hasCode c.toNat

end Apidoc.Text
