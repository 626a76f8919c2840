/-
  TunnelBroker.Text.Percent — texts in which bytes are written as `%` and two hexadecimal digits.

  - `percentDecode?`: the text that the bytes make, if they are UTF-8. A `%` without two digits after it
    stands for itself.
-/

import TunnelBroker.Net.Ip

namespace TunnelBroker.Text

open TunnelBroker.Net (hexValue?)

/-- The bytes that a text stands for. -/
def percentBytes : List Char → List UInt8
  | '%' :: a :: b :: rest =>
    match hexValue? a, hexValue? b with
    | some high, some low => UInt8.ofNat (16 * high + low) :: percentBytes rest
    | _, _ => '%'.toNat.toUInt8 :: percentBytes (a :: b :: rest)
  | c :: rest => (String.singleton c).toUTF8.toList ++ percentBytes rest
  | [] => []

def percentDecode? (cs : List Char) : Option String := String.fromUTF8? ⟨(percentBytes cs).toArray⟩

end TunnelBroker.Text
