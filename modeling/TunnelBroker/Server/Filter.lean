/-
  TunnelBroker.Server.Filter — the filter that lets some lines of the log through.

  A filter is a list of directives between commas. A directive names a level (`debug`, `3`), the source of
  lines (`burrow_api`), or both (`burrow_api=warn`); a source without a level lets everything through. In
  brackets it may ask for a span or for a field: `burrow[{session_id}]=debug`.

  - `Filter.read`: the filter that a text denotes.
  - `Filter.passes`: of the directives that are about a line the most specific one decides; of two about the
    same lines the later one.
-/

import TunnelBroker.Pattern.Read
import TunnelBroker.Server.Log

namespace TunnelBroker.Server

/-- Why a text is no filter. -/
inductive FilterError where
  | malformed
  /-- A part of a directive would begin or end inside of a character. -/
  | splitCharacter
  deriving DecidableEq, Repr

structure Directive where
  /-- The rank of the least important level that is let through. -/
  most : Nat := Level.trace.rank
  /-- How the sources begin that it is about; without it, it is about all. -/
  source : Option (List Char) := none
  /-- The field that lines must have. -/
  field : Option String := none
  /-- It is about the inside of a span or about the value of a field only. -/
  narrowed : Bool := false
  deriving DecidableEq, Repr

/-! ## Levels, sources and fields -/

namespace Directive

/-- The rank of a level that is given as its name or its number. -/
def rank? (cs : List Char) : Option Nat :=
  match (Text.unsigned? 18446744073709551615 cs).filter (· ≤ 5) with
  | some n => some n
  | none =>
    match (String.ofList cs).toLower with
    | "off" => some 0
    | "error" => some 1
    | "warn" => some 2
    | "info" => some 3
    | "debug" => some 4
    | "trace" => some 5
    | _ => none

/-- Whether a directive without brackets can begin with the character: letters, digits and the signs of names. -/
def mayBegin (c : Char) : Bool :=
  "-:_".toList.contains c || Text.CharSet.alphabetic.has c || Text.CharSet.numeric.has c

/-- An exponent of a number, or nothing at all. -/
def isExponent : List Char → Bool
  | [] => true
  | e :: rest =>
    let digits := match rest with
      | '+' :: digits => digits
      | '-' :: digits => digits
      | digits => digits
    (e = 'e' || e = 'E') && !digits.isEmpty && digits.all Text.isDigit

/-- A number without a sign, possibly with a point and an exponent, or a word for infinity or for none. -/
def isNumber (cs : List Char) : Bool :=
  let whole := cs.takeWhile Text.isDigit
  let (fraction, rest) := match cs.dropWhile Text.isDigit with
    | '.' :: rest => (rest.takeWhile Text.isDigit, rest.dropWhile Text.isDigit)
    | rest => ([], rest)
  ["inf", "infinity", "nan"].contains (String.ofList cs).toLower ||
    (!(whole.isEmpty && fraction.isEmpty) && isExponent rest)

/-- Whether a text can be asked for as the value of a field: a pattern, or a number after a plus sign. -/
def isFieldValue (cs : List Char) : Bool :=
  Pattern.isPattern cs ||
    match cs with
    | '+' :: rest => isNumber rest
    | _ => false

/-- Asks for a field, and for its value after an equals sign. Another equals sign ends the value. -/
def withField? (d : Directive) (cs : List Char) : Option Directive :=
  if cs.isEmpty then none
  else
    match Text.cutAll '=' cs with
    | name :: value :: _ =>
      if isFieldValue value then some { d with field := String.ofList name, narrowed := true } else none
    | _ => some { d with field := String.ofList cs }

/-! ## Reading -/

/-- The text after so many bytes, if no character is divided there. -/
def afterBytes : List Char → Nat → Except FilterError (List Char)
  | cs, 0 => .ok cs
  | [], _ => .error .splitCharacter
  | c :: rest, n => if n < c.utf8Size then .error .splitCharacter else afterBytes rest (n - c.utf8Size)

/-- The text between two bytes. -/
def slice (cs : List Char) (first last : Nat) : Except FilterError (List Char) := do
  let rest ← afterBytes cs first
  let after ← afterBytes cs last
  return rest.take (rest.length - after.length)

/-- How far a directive has been read, with the byte at which its last part began. -/
inductive Place where
  | start
  | source
  | span (first : Nat)
  | field (first : Nat)
  | afterField
  | afterBrackets
  | level (first : Nat)
  deriving DecidableEq, Repr

def orMalformed {α : Type} : Option α → Except FilterError α
  | some a => .ok a
  | none => .error .malformed

/-- Reads one character, which begins at byte `i`. The parts of the directive are taken from `text`. -/
def readChar (text : List Char) (i : Nat) (c : Char) (d : Directive) : Place → Except FilterError (Place × Directive)
  | .start =>
    if c = '[' then .ok (.span (i + 1), d)
    else if mayBegin c then .ok (.source, d)
    else .error .malformed
  | .source => do
    if c = '=' then return (.level (i + 1), { d with source := some (← slice text 0 i) })
    else if c = '[' then return (.span (i + 1), { d with source := some (← slice text 0 i) })
    else return (.source, d)
  | .span first => do
    if c = ']' then
      let _ ← slice text first i
      return (.afterBrackets, { d with narrowed := true })
    else if c = '\x7b' then
      let name ← slice text first i
      return (.field (i + 1), { d with narrowed := !name.isEmpty })
    else return (.span first, d)
  | .field first => do
    if c = '\x7d' then return (.afterField, ← orMalformed (d.withField? (← slice text first i)))
    else return (.field first, d)
  | .afterField => if c = ']' then .ok (.afterBrackets, d) else .error .malformed
  | .afterBrackets => if c = '=' then .ok (.level (i + 1), d) else .error .malformed
  | .level first => .ok (.level first, d)

/-- Reads characters, the first of which begins at byte `i`. -/
def readChars (text : List Char) (i : Nat) (d : Directive) (place : Place) :
    List Char → Except FilterError (Place × Directive)
  | [] => .ok (place, d)
  | c :: rest => do
    let (place, d) ← readChar text i c d place
    readChars text (i + c.utf8Size) d place rest

/-- What a directive means at its end. A single word is a level, or else a source; nothing after an equals
sign lets everything through. -/
def finish (text : List Char) (d : Directive) : Place → Except FilterError Directive
  | .source =>
    match rank? text with
    | some most => .ok { d with most }
    | none => .ok { d with source := text }
  | .level first => do
    let level ← afterBytes text first
    if level.isEmpty then return d
    else return { d with most := ← orMalformed (rank? level) }
  | .afterBrackets => .ok d
  | _ => .error .malformed

/-- The directive that a text denotes. Where its parts begin and end is told from the text without the blanks
around it, but counted from the start of the whole text. -/
def read (text : List Char) : Except FilterError Directive := do
  let (place, d) ← readChars text 0 {} .start (Text.trim text)
  finish text d place

/-! ## What is let through -/

/-- Whether the directive is about the line. The server logs nothing inside of a span. -/
def isAbout (d : Directive) (e : Entry) : Bool :=
  !d.narrowed && d.source.all (Text.startsWith · e.source.toList) && d.field.all e.has

/-- Whether `d` is at least as specific as `other`: a longer source is, then a field, then the later name. -/
def isAsSpecific (d other : Directive) : Bool :=
  let length (d : Directive) : Nat := d.source.elim 0 (·.length + 1)
  if length d ≠ length other then length other < length d
  else
    match d.field, other.field with
    | _, none => true
    | none, some _ => false
    | some a, some b => decide (b ≤ a)

end Directive

abbrev Filter := List Directive

namespace Filter

/-- The filter that a text denotes. One without directives lets errors through. -/
def read (text : String) : Except FilterError Filter := do
  let directives ← ((Text.cutAll ',' text.toList).filter (!·.isEmpty)).mapM Directive.read
  return if directives.isEmpty then [{ most := Level.error.rank }] else directives

/-- The directive that decides about a line. -/
def decisive? (f : Filter) (e : Entry) : Option Directive :=
  (f.filter (·.isAbout e)).foldl
    (fun best d => if best.all d.isAsSpecific then some d else best) none

def passes (f : Filter) (e : Entry) : Bool := (f.decisive? e).any fun d => e.level.rank ≤ d.most

end Filter

end TunnelBroker.Server
