/-
  TunnelBroker.Api.MediaType — the types of bodies, such as `application/json; charset=utf-8`.

  - `MediaType.read?`: the type that a header names; its parameters are read and not kept.
  - `MediaType.isJson`: `application/json`, and types whose name has `json` on either side of the last plus.
-/

import TunnelBroker.Text.Split

namespace TunnelBroker.Api

structure MediaType where
  /-- What stands before the slash, in lower case. -/
  family : List Char
  /-- What stands after it, in lower case. -/
  name : List Char
  deriving DecidableEq, Repr

namespace MediaType

/-- The characters of the names in a media type: letters, digits and some signs. -/
def isNameChar (c : Char) : Bool := c.isAlphanum || "!#$%&'*+-.^_|~\x60".toList.contains c

/-- What follows a quoted value: the end, or a semicolon and more parameters. -/
def afterQuoted? (cs : List Char) : Option (List Char) :=
  match cs.dropWhile (· = ' ') with
  | [] => some []
  | ';' :: rest => some rest
  | _ => none

/-- The characters of a quoted value: all but controls. -/
def isQuotedChar (c : Char) : Bool := 31 < c.toNat && c.toNat ≠ 127

/-- What follows the value at the start of the text. A quoted value is not empty, so a quote right after
the opening one belongs to it. -/
def afterValue? (cs : List Char) : Option (List Char) :=
  match cs with
  | ['"'] => none
  | '"' :: c :: quoted => do
    let (value, rest) ← Text.cut? '"' quoted
    if (c :: value).all isQuotedChar then afterQuoted? rest else none
  | _ =>
    match cs.dropWhile isNameChar with
    | [] => some []
    | ';' :: rest => if (cs.takeWhile isNameChar).isEmpty then none else some rest
    | _ => none

/-- What follows the parameter at the start of the text. -/
def afterParameter? (cs : List Char) : Option (List Char) :=
  match cs.dropWhile isNameChar with
  | '=' :: value => if (cs.takeWhile isNameChar).isEmpty then none else afterValue? value
  | _ => none

/-- Whether the text is a list of parameters, at most `most` of them. Blanks may stand before each. -/
def areParameters : (most : Nat) → List Char → Bool
  | 0, cs => cs.isEmpty
  | most + 1, cs =>
    match cs.dropWhile (· = ' ') with
    | [] => true
    | cs => (afterParameter? cs).any (areParameters most)

def read? (text : String) : Option MediaType := do
  let (family, rest) ← Text.cut? '/' (text.toList.map Char.toLower)
  let name := rest.takeWhile isNameChar
  let parametersFit := match rest.dropWhile isNameChar with
    | [] => true
    | ';' :: parameters => areParameters (parameters.length + 1) parameters
    | _ => false
  if family.isEmpty || !family.all isNameChar || name.isEmpty || !parametersFit then none
  else some { family, name }

/-- A name without the part after its last plus, and that part. A plus at the start divides nothing. -/
def parts (name : List Char) : List Char × Option (List Char) :=
  let last := name.reverse.takeWhile (· ≠ '+')
  match name.reverse.dropWhile (· ≠ '+') with
  | '+' :: c :: rest => ((c :: rest).reverse, some last.reverse)
  | _ => (name, none)

def isJson (t : MediaType) : Bool :=
  let (base, suffix) := parts t.name
  t.family = "application".toList && (base = "json".toList || suffix = some "json".toList)

end MediaType

end TunnelBroker.Api
