/-
  TunnelBroker.Json.Scan — what every reader of JSON needs: white space, literals, and values that are
  passed over.

  - `skipValue`: the text after a value of any kind.
  - `mismatch`: the failure of a reader that finds a value of another kind. It looks at a literal, a number
    or a string as a whole first, but not into a list or an object.
-/

import TunnelBroker.Json.Number

namespace TunnelBroker.Json

/-- The white space of JSON: blank, tab, line feed, carriage return. -/
def isSpace (c : Char) : Bool := c = ' ' || c = '\n' || c = '\t' || c = '\r'

def skipSpace (cs : List Char) : List Char := cs.dropWhile isSpace

/-- The text after `word`, which has to stand at its start. -/
def expect : (word : List Char) → List Char → Except Failure (List Char)
  | [], cs => .ok cs
  | _ :: _, [] => .error .truncated
  | w :: word, c :: cs => if c = w then expect word cs else .error .malformed

/-- The text after a colon and the white space before it. -/
def expectColon (cs : List Char) : Except Failure (List Char) :=
  match skipSpace cs with
  | [] => .error .truncated
  | c :: rest => if c = ':' then .ok rest else .error .malformed

/-- The text of an element of a list, or `none` at the list's end. `first` means that no element came
before it; otherwise a comma stands between them. -/
def nextItem (first : Bool) (cs : List Char) : Except Failure (Option (List Char)) :=
  match skipSpace cs with
  | [] => .error .truncated
  | ']' :: _ => .ok none
  | c :: rest =>
    if first then .ok (some (c :: rest))
    else if c = ',' then
      match skipSpace rest with
      | [] => .error .truncated
      | ']' :: _ => .error .malformed
      | rest => .ok (some rest)
    else .error .malformed

/-- The text after the opening quote of a member's key, or `none` at the object's end. -/
def nextKey (first : Bool) (cs : List Char) : Except Failure (Option (List Char)) :=
  match skipSpace cs with
  | [] => .error .truncated
  | '\x7d' :: _ => .ok none
  | c :: rest =>
    if first then (if c = '"' then .ok (some rest) else .error .malformed)
    else if c = ',' then
      match skipSpace rest with
      | [] => .error .truncated
      | '"' :: rest => .ok (some rest)
      | _ => .error .malformed
    else .error .malformed

/-- The text after the bracket that ends a list. -/
def endList (cs : List Char) : Except Failure (List Char) :=
  match skipSpace cs with
  | [] => .error .truncated
  | ']' :: rest => .ok rest
  | _ => .error .malformed

mutual

/-- The text after the value at the start of `cs`; `fuel` bounds its parts. -/
def skipValue : (fuel : Nat) → List Char → Except Failure (List Char)
  | 0, _ => .error .truncated
  | fuel + 1, cs =>
    match skipSpace cs with
    | [] => .error .truncated
    | c :: rest =>
      if c = 'n' then expect ['u', 'l', 'l'] rest
      else if c = 't' then expect ['r', 'u', 'e'] rest
      else if c = 'f' then expect ['a', 'l', 's', 'e'] rest
      else if c = '-' ∨ Text.isDigit c then skipNumber (c :: rest)
      else if c = '"' then skipQuoted rest
      else if c = '[' then skipItems fuel true rest
      else if c = '\x7b' then skipMembers fuel true rest
      else .error .malformed

/-- The text after the rest of a list. -/
def skipItems : (fuel : Nat) → (first : Bool) → List Char → Except Failure (List Char)
  | 0, _, _ => .error .truncated
  | fuel + 1, first, cs => do
    match ← nextItem first cs with
    | none => endList cs
    | some rest =>
      let rest ← skipValue fuel rest
      skipItems fuel false rest

/-- The text after the rest of an object. -/
def skipMembers : (fuel : Nat) → (first : Bool) → List Char → Except Failure (List Char)
  | 0, _, _ => .error .truncated
  | fuel + 1, first, cs => do
    match ← nextKey first cs with
    | none => .ok ((skipSpace cs).drop 1)
    | some rest =>
      let rest ← skipQuoted rest
      let rest ← expectColon rest
      let rest ← skipValue fuel rest
      skipMembers fuel false rest

end

/-- The text after the value at the start of `cs`, whatever its kind. -/
def skipAny (cs : List Char) : Except Failure (List Char) := skipValue (cs.length + 1) cs

/-- The failure of a reader for which the value at the start of `cs` is of another kind. -/
def mismatch (cs : List Char) : Failure :=
  let whole {α : Type} (r : Except Failure α) : Failure :=
    match r with
    | .ok _ => .unfit
    | .error e => e
  match skipSpace cs with
  | [] => .truncated
  | c :: rest =>
    if c = 'n' then whole (expect ['u', 'l', 'l'] rest)
    else if c = 't' then whole (expect ['r', 'u', 'e'] rest)
    else if c = 'f' then whole (expect ['a', 'l', 's', 'e'] rest)
    else if c = '-' ∨ Text.isDigit c then whole (readNumber (c :: rest))
    else if c = '"' then whole (readQuoted rest)
    else if c = '[' ∨ c = '\x7b' then .unfit
    else .malformed

end TunnelBroker.Json
