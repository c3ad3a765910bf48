/-! Sets of code points given by the points at which membership changes, in rising order. -/
namespace LogTree.Text.CharSet

/-- Before the first point nothing is in; each point turns membership over. -/
def mem (flips : List Nat) (c : Char) : Bool := flips.countP (· ≤ c.toNat) % 2 == 1

theorem mem_nil (c : Char) : mem [] c = false := rfl

end LogTree.Text.CharSet
