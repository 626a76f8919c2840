/-
  TunnelBroker.Pattern.Bracket — sets of characters in brackets, such as `[a-z0-9_]` or `[^[:space:]&&[^x]]`.

  - `readBrackets?`: the set whose opening bracket has been read. Sets may be nested, and combined by `&&`,
    `--` and `~~`, which all bind alike and to the left.
-/

import TunnelBroker.Pattern.Basic
import TunnelBroker.Text.Split

namespace TunnelBroker.Pattern

/-- What a set is known by: whether it has the bytes beyond ASCII, all of which are in it or none, and how
deep its parts are nested. -/
structure CharClass where
  high : Bool := false
  depth : Nat := 0
  deriving DecidableEq, Repr

namespace CharClass

/-- The union of sets. A single one is nested no deeper by it. -/
def union : List CharClass → CharClass
  | [] => {}
  | [s] => s
  | sets => ⟨sets.any (·.high), (sets.foldl (fun n s => max n s.depth) 0) + 1⟩

/-- The intersection, difference or symmetric difference of two sets. -/
def combine (sign : Char) (a b : CharClass) : CharClass :=
  let high :=
    if sign = '&' then a.high && b.high
    else if sign = '-' then a.high && !b.high
    else a.high != b.high
  ⟨high, max a.depth b.depth + 1⟩

end CharClass

/-- The names of sets that may stand between `[:` and `:]`. -/
def classNames : List String :=
  ["alnum", "alpha", "ascii", "blank", "cntrl", "digit", "graph", "lower", "print", "punct", "space", "upper",
    "word", "xdigit"]

/-- A set that is given by its name, whose opening bracket has been read. -/
def readNamed? : List Char → Option (CharClass × List Char)
  | ':' :: rest =>
    let (negated, rest) := match rest with
      | '^' :: rest => (true, rest)
      | rest => (false, rest)
    match Text.cut? ':' rest with
    | some (name, ']' :: rest) =>
      if classNames.contains (String.ofList name) then some ({ high := negated }, rest) else none
    | _ => none
  | _ => none

/-- A character of a set, or what a backslash stands for there. -/
def readMember? (m : Mode) : List Char → Option (Atom × List Char)
  | [] => none
  | '\\' :: rest => (readEscape? m rest).filter fun (atom, _) => atom.fitsBrackets m
  | c :: rest => some (Atom.char c.toNat false, rest) |>.filter fun (atom, _) => atom.fitsBrackets m

/-- A member of a set, or a range of characters. A dash before the closing bracket or before another dash
makes no range. -/
def readRange? (m : Mode) (cs : List Char) : Option (List Char) := do
  let (first, rest) ← readMember? m cs
  match ← m.goOn? rest with
  | '-' :: afterDash =>
    let isRange := match m.skip afterDash with
      | ']' :: _ => false
      | '-' :: _ => false
      | _ => true
    if isRange then
      let (last, rest) ← readMember? m (m.skip afterDash)
      match first, last with
      | .char low _, .char high _ => if low ≤ high then some rest else none
      | _, _ => none
    else some ('-' :: afterDash)
  | rest => some rest

/-- The dashes at the start of a set, which stand for themselves: how many, and the text after them. -/
def leadingDashes (m : Mode) : (fuel : Nat) → List Char → Nat × List Char
  | fuel + 1, '-' :: rest => (leadingDashes m fuel (m.skip rest)).map (· + 1) id
  | _, cs => (0, cs)

/-- The start of a set: whether all but its members are meant, how many members have been read already, and
the text after that. A closing bracket stands for itself there. -/
def readStart? (m : Mode) (cs : List Char) : Option (Bool × Nat × List Char) := do
  let cs ← m.goOn? cs
  let (negated, cs) ← match cs with
    | '^' :: rest => (m.goOn? rest).map fun rest => (true, rest)
    | cs => some (false, cs)
  match leadingDashes m cs.length cs with
  | (_, []) => none
  | (0, ']' :: rest) => (m.goOn? rest).map fun rest => (negated, 1, rest)
  | (dashes, rest) => some (negated, dashes, rest)

mutual

/-- The set in brackets, whose opening one has been read, and the text after it. `fuel` bounds its parts. -/
def readSet? (m : Mode) : (fuel : Nat) → List Char → Option (CharClass × List Char)
  | 0, _ => none
  | fuel + 1, cs => do
    let (negated, members, rest) ← readStart? m cs
    let (s, rest) ← readMembers? m fuel none (List.replicate members {}) rest
    let high := s.high != negated
    if high && !m.unicode then none else some (⟨high, s.depth + 1⟩, rest)

/-- The rest of a set. `left` is what its members up to the last sign are combined to, with that sign. -/
def readMembers? (m : Mode) : (fuel : Nat) → (left : Option (CharClass × Char)) → (members : List CharClass) →
    List Char → Option (CharClass × List Char)
  | 0, _, _, _ => none
  | fuel + 1, left, members, cs =>
    let all : CharClass := match left with
      | none => .union members
      | some (left, sign) => .combine sign left (.union members)
    match m.skip cs with
    | [] => none
    | ']' :: rest => some (all, rest)
    | '[' :: rest =>
      match readNamed? rest with
      | some (s, rest) => readMembers? m fuel left (s :: members) rest
      | none => do
        let (s, rest) ← readSet? m fuel rest
        readMembers? m fuel left (s :: members) rest
    | a :: b :: rest =>
      if a = b && "&-~".toList.contains a then readMembers? m fuel (some (all, a)) [] rest
      else do
        let rest ← readRange? m (a :: b :: rest)
        readMembers? m fuel left ({} :: members) rest
    | [_] => none

end

/-- The set in brackets, whose opening one has been read, and the text after it. -/
def readBrackets? (m : Mode) (cs : List Char) : Option (CharClass × List Char) := readSet? m (2 * cs.length + 2) cs

end TunnelBroker.Pattern
