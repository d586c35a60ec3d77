/-!
# Powers

The powers that binary and decimal numbers are measured in.
-/
namespace EntityGen.Number

/-- Two to a power. -/
def twoTo (exponent : Nat) : Nat := Nat.pow 2 exponent

/-- Ten to a power. -/
def tenTo (exponent : Nat) : Nat := Nat.pow 10 exponent

end EntityGen.Number
