/-!
# Tables of code points

A property of characters as a list of closed ranges of code points. One lookup serves every
property; the tables themselves stand in the module of their property.
-/

namespace ScreenNav.Text

/-- Closed ranges of code points, each given by its first and last member. -/
abbrev CodeTable := List (Nat × Nat)

/-- The character lies in one of the ranges. -/
def CodeTable.covers (table : CodeTable) (c : Char) : Bool :=
  table.any fun range => range.1 ≤ c.toNat && c.toNat ≤ range.2

theorem CodeTable.covers_eq_true_iff {table : CodeTable} {c : Char} :
    table.covers c = true ↔ ∃ range ∈ table, range.1 ≤ c.toNat ∧ c.toNat ≤ range.2 := by
  simp [CodeTable.covers, List.any_eq_true]

end ScreenNav.Text
