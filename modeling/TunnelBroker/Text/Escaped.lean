/-
  TunnelBroker.Text.Escaped — texts in messages, between quotes and on one line.

  - `escaped`: quotes, backslashes and line ends get a backslash; other characters that cannot be seen by
    themselves are written as their number.
-/

import TunnelBroker.Text.CharSet.Extending
import TunnelBroker.Text.CharSet.Unassigned

namespace TunnelBroker.Text

/-- Controls, formats, line and paragraph separators, and the blanks of other scripts. -/
def blankOrControl : CharSet :=
  [(0x0, 0x1F), (0x7F, 0xA0), (0xAD, 0xAD), (0x600, 0x605), (0x61C, 0x61C), (0x6DD, 0x6DD), (0x70F, 0x70F),
   (0x890, 0x891), (0x8E2, 0x8E2), (0x1680, 0x1680), (0x180E, 0x180E), (0x2000, 0x200F), (0x2028, 0x202F),
   (0x205F, 0x2064), (0x2066, 0x206F), (0x3000, 0x3000), (0xFEFF, 0xFEFF), (0xFFF9, 0xFFFB),
   (0x110BD, 0x110BD), (0x110CD, 0x110CD), (0x13430, 0x1343F), (0x1BCA0, 0x1BCA3), (0x1D173, 0x1D17A),
   (0xE0001, 0xE0001), (0xE0020, 0xE007F)]

/-- Letters that only fill a place in a syllable. -/
def fillers : CharSet := [(0x115F, 0x1160), (0x3164, 0x3164), (0xFFA0, 0xFFA0)]

/-- Whether a character shows nothing of its own, or only together with the one before it. -/
def isUnseen (c : Char) : Bool :=
  blankOrControl.has c || fillers.has c || CharSet.extending.has c || CharSet.unassigned.has c

def escapedChar (c : Char) : List Char :=
  match c with
  | '"' => ['\\', '"']
  | '\\' => ['\\', '\\']
  | '\n' => ['\\', 'n']
  | '\r' => ['\\', 'r']
  | '\t' => ['\\', 't']
  | '\x00' => ['\\', '0']
  | c => if isUnseen c then ['\\', 'u', '\x7b'] ++ Nat.toDigits 16 c.toNat ++ ['\x7d'] else [c]

def escaped (s : String) : String := String.ofList ('"' :: s.toList.flatMap escapedChar ++ ['"'])

end TunnelBroker.Text
