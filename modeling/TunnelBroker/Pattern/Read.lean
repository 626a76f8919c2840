/-
  TunnelBroker.Pattern.Read — whether a text is a pattern.

  - `isPattern`: the text is a regular expression that an automaton can run, and its parts are nested at most
    250 deep.
-/

import TunnelBroker.Pattern.Bracket
import TunnelBroker.Text.CharSet.Alphabetic
import TunnelBroker.Text.CharSet.Numeric

namespace TunnelBroker.Pattern

open TunnelBroker.Text (CharSet)

/-! ## Groups -/

/-- What follows the opening parenthesis of a group. -/
inductive Opening where
  /-- No group at all: flags for the rest of the group around it. -/
  | flags (mode : Mode)
  | group (mode : Mode) (name : Option (List Char))

/-- The mode that flags lead to. Those after a dash are taken back. A flag is given once. -/
def readFlags? (m : Mode) (flags : List Char) : Option Mode :=
  let on := flags.takeWhile (· != '-')
  let off := flags.dropWhile (· != '-')
  if !flags.all ("imsUuRx-".toList.contains ·) || flags.eraseDups.length ≠ flags.length || flags.getLast? = some '-'
  then none
  else
    let flag (c : Char) (before : Bool) : Bool := on.contains c || (before && !off.contains c)
    some { spaced := flag 'x' m.spaced, unicode := flag 'u' m.unicode }

/-- The name of a group: letters, digits and a few signs. A digit or another sign than `_` does not begin it. -/
def isGroupName (name : List Char) : Bool :=
  let isLetter (c : Char) : Bool := c = '_' || CharSet.alphabetic.has c
  let isNext (c : Char) : Bool := isLetter c || CharSet.numeric.has c || ".[]".toList.contains c
  match name with
  | [] => false
  | c :: rest => isLetter c && rest.all isNext

/-- A group's name after the angle bracket before it. -/
def readName? (m : Mode) (cs : List Char) : Option (Opening × List Char) := do
  let (name, rest) ← Text.cut? '>' cs
  if isGroupName name then some (.group m name, rest) else none

/-- What opens a group, after its parenthesis. Looking ahead or back is refused. -/
def readOpening? (m : Mode) (cs : List Char) : Option (Opening × List Char) :=
  match m.skip cs with
  | '?' :: 'P' :: '<' :: rest => readName? m rest
  | '?' :: '<' :: rest => readName? m rest
  | '?' :: rest => do
    let flags := rest.takeWhile fun c => c != ':' && c != ')'
    let mode ← readFlags? m flags
    match rest.drop flags.length with
    | [] => none
    | c :: rest =>
      if c = ':' then some (.group mode none, rest)
      else if flags.isEmpty then none
      else some (.flags mode, rest)
  | rest => some (.group m none, rest)

/-! ## Sequences -/

/-- The part of a group that has been read. -/
structure Body where
  mode : Mode
  /-- How deep each part of the branch that is being read is nested, the last one first. Flags are none that
  could be repeated. -/
  parts : List (Option Nat) := []
  /-- How deep each branch before it is nested. -/
  branches : List Nat := []

/-- How deep a sequence or a choice is nested. A single part is nested no deeper by it. -/
def depthOfAll : List Nat → Nat
  | [] => 0
  | [depth] => depth
  | depths => depths.foldl max 0 + 1

namespace Body

def branchDepth (b : Body) : Nat := depthOfAll (b.parts.map (·.getD 0))

def depth (b : Body) : Nat := depthOfAll (b.branchDepth :: b.branches)

def add (b : Body) (depth : Nat) : Body := { b with parts := some depth :: b.parts }

end Body

/-- The text after a question mark at its start, if there is one. -/
def afterLazy : List Char → List Char
  | '?' :: rest => rest
  | rest => rest

/-- Reads up to the end of the group or of the text: how deep the group is nested, the names of all groups
so far, and the rest. `fuel` bounds the parts. -/
def readBody? : (fuel : Nat) → Body → (names : List (List Char)) → List Char →
    Option (Nat × List (List Char) × List Char)
  | 0, _, _, _ => none
  | fuel + 1, b, names, cs =>
    match b.mode.skip cs with
    | [] => some (b.depth, names, [])
    | c :: rest =>
      if c = ')' then some (b.depth, names, c :: rest)
      else if c = '|' then readBody? fuel { b with parts := [], branches := b.branchDepth :: b.branches } names rest
      else if c = '[' then do
        let (s, rest) ← readBrackets? b.mode rest
        readBody? fuel (b.add s.depth) names rest
      else if c = '(' then do
        match ← readOpening? b.mode rest with
        | (.flags mode, rest) => readBody? fuel { b with mode, parts := none :: b.parts } names rest
        | (.group mode name, rest) =>
          if name.any names.contains then none
          else
            let (depth, names, rest) ← readBody? fuel { mode } (name.toList ++ names) rest
            if rest.isEmpty then none else readBody? fuel (b.add (depth + 1)) names rest.tail
      else if c = '?' ∨ c = '*' ∨ c = '+' then
        match b.parts with
        | some depth :: parts => readBody? fuel { b with parts := some (depth + 1) :: parts } names (afterLazy rest)
        | _ => none
      else if c = '\x7b' then none
      else do
        let (atom, rest) ←
          if c = '\\' then readEscape? b.mode rest
          else if c = '.' then some (.any, rest)
          else some (.char c.toNat false, rest)
        if atom.fits b.mode then readBody? fuel (b.add 0) names rest else none

/-- Whether a text is a pattern that an automaton can run. -/
def isPattern (cs : List Char) : Bool :=
  match readBody? (2 * cs.length + 2) { mode := {} } [] cs with
  | some (depth, _, rest) => rest.isEmpty && depth ≤ 250
  | none => false

end TunnelBroker.Pattern
