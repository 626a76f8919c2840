/-
  TunnelBroker.Pattern.Basic — the smallest parts of a pattern: single characters, and what a backslash means.

  Patterns are regular expressions. Nothing is matched with them here: what is asked is whether a text is one
  that an automaton over the bytes of UTF-8 can run. Such an automaton knows no boundaries between the words
  of all scripts, and no part of a pattern may match half a character.

  A pattern stands between braces and so has no closing brace of its own. All that needs one, such as a
  counted repetition, is refused.

  - `Mode`: what the flags of a pattern change about how it is read.
  - `readEscape?`: the part that a backslash begins.
-/

import TunnelBroker.Net.Ip
import TunnelBroker.Text.Blank
import TunnelBroker.Text.Decimal

namespace TunnelBroker.Pattern

open TunnelBroker.Net (hexValue?)

structure Mode where
  /-- Blanks count for nothing, and a number sign begins a comment. -/
  spaced : Bool := false
  /-- Characters are those of all scripts. Otherwise they are bytes, and only those of ASCII fit. -/
  unicode : Bool := true
  deriving DecidableEq, Repr

/-- The text after the blanks and comments at its start. -/
def afterGap (comment : Bool) : List Char → List Char
  | [] => []
  | c :: rest =>
    if comment then afterGap (c != '\n') rest
    else if c = '#' then afterGap true rest
    else if Text.isBlank c then afterGap false rest
    else c :: rest

def Mode.skip (m : Mode) (cs : List Char) : List Char := if m.spaced then afterGap false cs else cs

/-- The text after what is skipped, if anything is left. -/
def Mode.goOn? (m : Mode) (cs : List Char) : Option (List Char) :=
  match m.skip cs with
  | [] => none
  | rest => some rest

/-- A part that is not made of other parts. -/
inductive Atom where
  /-- A character by its code point; `byte` if it was given as the number of a byte. -/
  | char (code : Nat) (byte : Bool)
  /-- Digits, blanks or letters, or all but those. -/
  | kind (negated : Bool)
  /-- A category of Unicode. -/
  | category
  | any
  /-- The start or the end of the text or of a line. -/
  | edge
  /-- The start or the end of a word, or anywhere else. -/
  | wordEdge
  deriving DecidableEq, Repr

/-- Whether an automaton can run the part outside of brackets. -/
def Atom.fits (m : Mode) : Atom → Bool
  | .char code byte => m.unicode || !byte || code < 128
  | .kind negated => m.unicode || !negated
  | .category => m.unicode
  | .any => m.unicode
  | .edge => true
  | .wordEdge => !m.unicode

/-- Whether an automaton can run the part inside of brackets. -/
def Atom.fitsBrackets (m : Mode) : Atom → Bool
  | .char code _ => m.unicode || code < 128
  | .kind negated => m.unicode || !negated
  | .category => m.unicode
  | _ => false

/-! ## Backslashes -/

/-- The number that `places` hexadecimal digits denote, and the text after them and what follows them. -/
def readHex? (m : Mode) : (places : Nat) → (value : Nat) → List Char → Option (Nat × List Char)
  | 0, value, cs => some (value, cs)
  | _, _, [] => none
  | places + 1, value, c :: rest => do
    let digit ← hexValue? c
    readHex? m places (16 * value + digit) (m.skip rest)

/-- A character that is given by its number. -/
def readCode? (m : Mode) (places : Nat) (cs : List Char) : Option (Atom × List Char) := do
  let (code, rest) ← readHex? m places 0 (m.skip cs)
  if Nat.isValidChar code then some (.char code (places = 2), rest) else none

/-- The letters of the categories of Unicode, in either case. -/
def categories : List Char := "CLMNPSZclmnpsz".toList

/-- The control characters that have a letter. -/
def controls : List (Char × Nat) := [('a', 7), ('t', 9), ('n', 10), ('v', 11), ('f', 12), ('r', 13)]

/-- What a backslash stands for that `cs` follows. Before a sign of ASCII it means the sign itself, apart
from the two angle brackets; letters and digits without a meaning are refused. -/
def readEscape? (m : Mode) : List Char → Option (Atom × List Char)
  | [] => none
  | c :: rest =>
    if c = 'x' then readCode? m 2 rest
    else if c = 'u' then readCode? m 4 rest
    else if c = 'U' then readCode? m 8 rest
    else if c = 'p' ∨ c = 'P' then
      match m.skip rest with
      | category :: rest => if categories.contains category then some (.category, m.skip rest) else none
      | [] => none
    else if "dsw".toList.contains c then some (.kind false, rest)
    else if "DSW".toList.contains c then some (.kind true, rest)
    else if "Az".toList.contains c then some (.edge, rest)
    else if "bB<>".toList.contains c then some (.wordEdge, rest)
    else if c.toNat < 128 && !c.isAlphanum then some (.char c.toNat false, rest)
    else (controls.find? (·.1 = c)).map fun (_, code) => (.char code false, rest)

end TunnelBroker.Pattern
