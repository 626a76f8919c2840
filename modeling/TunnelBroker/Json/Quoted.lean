/-
  TunnelBroker.Json.Quoted — JSON strings.

  - `quote`: a text between quotes; quotes, backslashes and control characters are escaped.
  - `readQuoted`: the text of a string whose opening quote has been read, and what follows its closing one.
  - `skipQuoted`: the same without the text; the halves of a surrogate pair may then stand alone.
-/

import TunnelBroker.Net.Ip

namespace TunnelBroker.Json

open TunnelBroker.Net (hexValue?)

/-- Why a text is not the JSON of a value. -/
inductive Failure where
  /-- It is not JSON. -/
  | malformed
  /-- It is JSON, but not of such a value. -/
  | unfit
  /-- It ends before the value does. -/
  | truncated
  deriving DecidableEq, Repr

/-! ## Writing -/

/-- The two hexadecimal digits of a number below 256, in lower case. -/
def hexPair (n : Nat) : List Char := [(n / 16).digitChar, (n % 16).digitChar]

def escapeChar (c : Char) : List Char :=
  if c = '"' then ['\\', '"']
  else if c = '\\' then ['\\', '\\']
  else if c = '\n' then ['\\', 'n']
  else if c = '\r' then ['\\', 'r']
  else if c = '\t' then ['\\', 't']
  else if c.toNat = 8 then ['\\', 'b']
  else if c.toNat = 12 then ['\\', 'f']
  else if c.toNat < 32 then ['\\', 'u', '0', '0'] ++ hexPair c.toNat
  else [c]

def quote (cs : List Char) : List Char := '"' :: cs.flatMap escapeChar ++ ['"']

/-! ## Reading -/

/-- The number that four hexadecimal digits denote, and the text after them. Fewer than four bytes of text
count as its early end. -/
def readHex4 : List Char → Except Failure (Nat × List Char)
  | a :: b :: c :: d :: rest =>
    match hexValue? a, hexValue? b, hexValue? c, hexValue? d with
    | some a, some b, some c, some d => .ok (((a * 16 + b) * 16 + c) * 16 + d, rest)
    | _, _, _, _ => .error .malformed
  | short => .error (if (String.ofList short).utf8ByteSize < 4 then .truncated else .malformed)

/-- What a backslash and one more character stand for, except for `u`. -/
def unescape? (c : Char) : Option Char :=
  match c with
  | '"' => some '"'
  | '\\' => some '\\'
  | '/' => some '/'
  | 'b' => some (Char.ofNat 8)
  | 'f' => some (Char.ofNat 12)
  | 'n' => some '\n'
  | 'r' => some '\r'
  | 't' => some '\t'
  | _ => none

/-- The second half of a surrogate pair, as an escape. -/
def readLowSurrogate : List Char → Except Failure (Nat × List Char)
  | [] => .error .truncated
  | '\\' :: [] => .error .truncated
  | '\\' :: 'u' :: rest => do
    let (low, rest) ← readHex4 rest
    if 0xDC00 ≤ low ∧ low ≤ 0xDFFF then .ok (low, rest) else .error .malformed
  | _ => .error .malformed

/-- The character that `\u` and the text after it denote: a pair of surrogates makes one character. -/
def readCodePoint (cs : List Char) : Except Failure (Char × List Char) := do
  let (n, rest) ← readHex4 cs
  if 0xDC00 ≤ n ∧ n ≤ 0xDFFF then .error .malformed
  else if 0xD800 ≤ n ∧ n ≤ 0xDBFF then do
    let (low, rest) ← readLowSurrogate rest
    .ok (Char.ofNat ((n - 0xD800) * 1024 + (low - 0xDC00) + 0x10000), rest)
  else .ok (Char.ofNat n, rest)

/-- One character of a string, `none` at the closing quote, and the text after it. -/
def readChar : List Char → Except Failure (Option Char × List Char)
  | [] => .error .truncated
  | '"' :: rest => .ok (none, rest)
  | '\\' :: [] => .error .truncated
  | '\\' :: 'u' :: rest => (readCodePoint rest).map fun (c, rest) => (some c, rest)
  | '\\' :: c :: rest =>
    match unescape? c with
    | some c => .ok (some c, rest)
    | none => .error .malformed
  | c :: rest => if c.toNat < 32 then .error .malformed else .ok (some c, rest)

/-- Reads characters to the closing quote, at most `fuel` of them. -/
def readChars : (fuel : Nat) → List Char → Except Failure (List Char × List Char)
  | 0, _ => .error .truncated
  | fuel + 1, cs => do
    match ← readChar cs with
    | (none, rest) => .ok ([], rest)
    | (some c, rest) =>
      let (more, rest) ← readChars fuel rest
      .ok (c :: more, rest)

/-- The text up to the closing quote, and what follows it. -/
def readQuoted (cs : List Char) : Except Failure (List Char × List Char) := readChars (cs.length + 1) cs

/-- Skips to the text after the closing quote, over at most `fuel` characters. -/
def skipChars : (fuel : Nat) → List Char → Except Failure (List Char)
  | 0, _ => .error .truncated
  | fuel + 1, cs =>
    match cs with
    | [] => .error .truncated
    | '"' :: rest => .ok rest
    | '\\' :: [] => .error .truncated
    | '\\' :: 'u' :: rest => do
      let (_, rest) ← readHex4 rest
      skipChars fuel rest
    | '\\' :: c :: rest => if (unescape? c).isSome then skipChars fuel rest else .error .malformed
    | c :: rest => if c.toNat < 32 then .error .malformed else skipChars fuel rest

def skipQuoted (cs : List Char) : Except Failure (List Char) := skipChars (cs.length + 1) cs

end TunnelBroker.Json
