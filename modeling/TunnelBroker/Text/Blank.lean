/-
  TunnelBroker.Text.Blank — blanks, in the sense of the Unicode property White_Space, and trimming.

  - `isBlank`: the table of the property.
  - `trim`: a text without the blanks at either end; blanks inside stay.
-/

namespace TunnelBroker.Text

/-- The characters with the Unicode property White_Space. -/
def isBlank (c : Char) : Bool :=
  let n := c.toNat
  (9 ≤ n && n ≤ 13) || n == 0x20 || n == 0x85 || n == 0xA0 || n == 0x1680 ||
    (0x2000 ≤ n && n ≤ 0x200A) || n == 0x2028 || n == 0x2029 || n == 0x202F || n == 0x205F || n == 0x3000

/-- The text without the blanks at its start. -/
def trimStart (cs : List Char) : List Char := cs.dropWhile isBlank

/-- The text without the blanks at its end. -/
def trimEnd (cs : List Char) : List Char := (cs.reverse.dropWhile isBlank).reverse

/-- The text without the blanks at its start and at its end. -/
def trim (cs : List Char) : List Char := trimEnd (trimStart cs)

end TunnelBroker.Text
