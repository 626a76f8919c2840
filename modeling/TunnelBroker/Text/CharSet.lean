/-
  TunnelBroker.Text.CharSet — sets of characters, as ranges of code points.

  - `CharSet.has`: whether a character is in the set.

  The sets themselves are tables of the Unicode standard, a module each.
-/

namespace TunnelBroker.Text

/-- The first and the last code point of each range. -/
abbrev CharSet := List (Nat × Nat)

namespace CharSet

def has (s : CharSet) (c : Char) : Bool := s.any fun (first, last) => first ≤ c.toNat && c.toNat ≤ last

end CharSet

end TunnelBroker.Text
