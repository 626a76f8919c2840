/-
  TunnelBroker.Json.Codec — how the values of a type are written as compact JSON and read back.

  A reader goes through the text once and stops at the first problem in reading order, also where that is
  a value of the wrong kind in a text that is not JSON further on.

  - `Codec.encode`, `Codec.decode`: a value as a whole text.
  - `text`, `natBelow`, `flag`, `list`, `nullable`, `choice`: codecs of the plain kinds of values.
  - `refine`: the values of a type that make values of another.
-/

import TunnelBroker.Json.Scan

namespace TunnelBroker.Json

structure Codec (α : Type) where
  write : α → List Char
  /-- Reads a value at the start of the text, and returns what follows it. -/
  read : List Char → Except Failure (α × List Char)

namespace Codec

variable {α β : Type}

def encode (c : Codec α) (a : α) : String := String.ofList (c.write a)

/-- The value of a whole text, around which there may be white space. -/
def decode (c : Codec α) (s : String) : Except Failure α := do
  let (a, rest) ← c.read s.toList
  if (skipSpace rest).isEmpty then .ok a else .error .malformed

/-- The codec of the values that `of?` makes of those of `c`; a value of which it makes none is unfit. -/
def refine (c : Codec α) (of? : α → Option β) (back : β → α) : Codec β where
  write b := c.write (back b)
  read cs := do
    let (a, rest) ← c.read cs
    match of? a with
    | some b => .ok (b, rest)
    | none => .error .unfit

/-- The codec of a type whose values correspond to those of `c`. -/
def iso (c : Codec α) (of : α → β) (back : β → α) : Codec β := c.refine (fun a => some (of a)) back

def chars : Codec (List Char) where
  write := quote
  read cs :=
    match skipSpace cs with
    | '"' :: rest => readQuoted rest
    | _ => .error (mismatch cs)

def text : Codec String := chars.iso String.ofList String.toList

/-- Unsigned integers below `limit`, which is at most 2^64. -/
def natBelow (limit : Nat) : Codec Nat where
  write n := Text.digitsOf n
  read cs :=
    match skipSpace cs with
    | c :: rest =>
      if c = '-' ∨ Text.isDigit c then do
        match ← readNumber (c :: rest) with
        | (some n, rest) => if n < limit then .ok (n, rest) else .error .unfit
        | (none, _) => .error .unfit
      else .error (mismatch cs)
    | [] => .error .truncated

def word16 : Codec UInt16 := (natBelow 65536).iso UInt16.ofNat UInt16.toNat

def word64 : Codec UInt64 := (natBelow 18446744073709551616).iso UInt64.ofNat UInt64.toNat

def flag : Codec Bool where
  write b := if b then ['t', 'r', 'u', 'e'] else ['f', 'a', 'l', 's', 'e']
  read cs :=
    match skipSpace cs with
    | 't' :: rest => (expect ['r', 'u', 'e'] rest).map fun rest => (true, rest)
    | 'f' :: rest => (expect ['a', 'l', 's', 'e'] rest).map fun rest => (false, rest)
    | _ => .error (mismatch cs)

/-- A value of `c`, or `null`. -/
def nullable (c : Codec α) : Codec (Option α) where
  write
    | some a => c.write a
    | none => ['n', 'u', 'l', 'l']
  read cs :=
    match skipSpace cs with
    | 'n' :: rest => (expect ['u', 'l', 'l'] rest).map fun rest => (none, rest)
    | _ => (c.read cs).map fun (a, rest) => (some a, rest)

/-- The elements of a list up to its closing bracket, at most `fuel` of them. -/
def readItems (c : Codec α) : (fuel : Nat) → (first : Bool) → List Char → Except Failure (List α × List Char)
  | 0, _, _ => .error .truncated
  | fuel + 1, first, cs => do
    match ← nextItem first cs with
    | none => .ok ([], ← endList cs)
    | some rest =>
      let (a, rest) ← c.read rest
      let (more, rest) ← readItems c fuel false rest
      .ok (a :: more, rest)

def list (c : Codec α) : Codec (List α) where
  write as := '[' :: [','].intercalate (as.map c.write) ++ [']']
  read cs :=
    match skipSpace cs with
    | '[' :: rest => readItems c (rest.length + 1) true rest
    | _ => .error (mismatch cs)

/-- Reads a name of `table`. -/
def readName (table : List (String × α)) (cs : List Char) : Except Failure (α × List Char) := do
  let (name, rest) ← text.read cs
  match table.lookup name with
  | some a => .ok (a, rest)
  | none => .error .unfit

/-- The values of a table, written as their names. A name that is the only key of an object, with `null`
as its value, is read as well. -/
def choice (table : List (String × α)) (name : α → String) : Codec α where
  write a := text.write (name a)
  read cs :=
    match skipSpace cs with
    | [] => .error .truncated
    | c :: rest =>
      if c = '"' then readName table (c :: rest)
      else if c = '\x7b' then do
        let (a, rest) ← readName table rest
        let rest ← expectColon rest
        match skipSpace rest with
        | 'n' :: rest =>
          let rest ← expect ['u', 'l', 'l'] rest
          match skipSpace rest with
          | [] => .error .truncated
          | c :: rest => if c = '\x7d' then .ok (a, rest) else .error .malformed
        | _ => .error (mismatch rest)
      else .error .malformed

end Codec

end TunnelBroker.Json
