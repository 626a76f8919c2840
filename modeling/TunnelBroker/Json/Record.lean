/-
  TunnelBroker.Json.Record — records as JSON objects.

  A record is written as an object with its fields in order. It is read from an object with the fields in
  any order, of which none may come twice and others are passed over, or from a list of the fields' values
  in order.

  - `Field`: a name, a codec, and what stands for the value where it is missing.
  - `Codec.record`: the codec of the tuples that the fields make.
-/

import TunnelBroker.Json.Codec

namespace TunnelBroker.Json

structure Field (α : Type) where
  name : String
  codec : Codec α
  /-- The value where an object has no such member. -/
  inObject : Option α := none
  /-- The value where a list has too few elements. -/
  inList : Option α := none
  /-- The values that are not written. -/
  skipped : α → Bool := fun _ => false

/-- The fields of a record, with the type of the tuples that they make and the type of the parts of such a
tuple that are there while the record is read. -/
inductive Fields : (draft record : Type) → Type 1
  | nil : Fields Unit Unit
  | cons {α δ ρ : Type} (field : Field α) (rest : Fields δ ρ) : Fields (Option α × δ) (α × ρ)

namespace Fields

/-- Nothing was read so far. -/
def blank : {δ ρ : Type} → Fields δ ρ → δ
  | _, _, .nil => ()
  | _, _, .cons _ rest => (none, rest.blank)

/-- What a key means for a record of which a part was read. -/
inductive Slot (δ : Type) where
  /-- No field has this name. -/
  | unknown
  /-- The field of this name was read before. -/
  | filled
  /-- The field of this name is read next. -/
  | vacant (read : List Char → Except Failure (δ × List Char))

def Slot.map {δ ε : Type} (f : δ → ε) : Slot δ → Slot ε
  | .unknown => .unknown
  | .filled => .filled
  | .vacant read => .vacant fun cs => (read cs).map fun (d, rest) => (f d, rest)

def slot (key : String) : {δ ρ : Type} → Fields δ ρ → δ → Slot δ
  | _, _, .nil, _ => .unknown
  | _, _, .cons field rest, (value, draft) =>
    if field.name = key then
      match value with
      | some _ => .filled
      | none => .vacant fun cs => (field.codec.read cs).map fun (a, rest) => ((some a, draft), rest)
    else (rest.slot key draft).map fun draft => (value, draft)

/-- The tuple of the values that were read or stand for missing ones. -/
def finish? : {δ ρ : Type} → Fields δ ρ → δ → Option ρ
  | _, _, .nil, _ => some ()
  | _, _, .cons field rest, (value, draft) => do
    let a ← value <|> field.inObject
    let more ← rest.finish? draft
    return (a, more)

/-- The members of an object up to its closing brace, at most `fuel` of them. -/
def readMembers {δ ρ : Type} (fields : Fields δ ρ) :
    (fuel : Nat) → (first : Bool) → δ → List Char → Except Failure (δ × List Char)
  | 0, _, _, _ => .error .truncated
  | fuel + 1, first, draft, cs => do
    match ← nextKey first cs with
    | none => .ok (draft, (skipSpace cs).drop 1)
    | some rest =>
      let (key, rest) ← readQuoted rest
      match fields.slot (String.ofList key) draft with
      | .filled => .error .unfit
      | .unknown =>
        let rest ← skipAny (← expectColon rest)
        readMembers fields fuel false draft rest
      | .vacant read =>
        let (draft, rest) ← read (← expectColon rest)
        readMembers fields fuel false draft rest

/-- The tuple that the elements of a list make, and the text after the last of them. -/
def readItems : {δ ρ : Type} → Fields δ ρ → (first : Bool) → List Char → Except Failure (ρ × List Char)
  | _, _, .nil, _, cs => .ok ((), cs)
  | _, _, .cons field rest, first, cs => do
    match ← nextItem first cs with
    | none =>
      match field.inList with
      | none => .error .unfit
      | some a =>
        let (more, cs) ← rest.readItems first cs
        .ok ((a, more), cs)
    | some cs =>
      let (a, cs) ← field.codec.read cs
      let (more, cs) ← rest.readItems false cs
      .ok ((a, more), cs)

/-- The members that are written for a tuple. -/
def members : {δ ρ : Type} → Fields δ ρ → ρ → List (List Char)
  | _, _, .nil, _ => []
  | _, _, .cons field rest, (a, more) =>
    if field.skipped a then rest.members more
    else (quote field.name.toList ++ ':' :: field.codec.write a) :: rest.members more

end Fields

/-- The codec of the tuples that `fields` make. -/
def Codec.record {δ ρ : Type} (fields : Fields δ ρ) : Codec ρ where
  write r := '\x7b' :: [','].intercalate (fields.members r) ++ ['\x7d']
  read cs :=
    match skipSpace cs with
    | [] => .error .truncated
    | c :: rest =>
      if c = '[' then do
        let (r, rest) ← fields.readItems true rest
        .ok (r, ← endList rest)
      else if c = '\x7b' then do
        let (draft, rest) ← fields.readMembers (rest.length + 1) true fields.blank rest
        match fields.finish? draft with
        | some r => .ok (r, rest)
        | none => .error .unfit
      else .error (mismatch cs)

namespace Field

variable {α : Type}

/-- A field that has to be there. -/
def required (name : String) (codec : Codec α) : Field α := { name, codec }

/-- A field that is `d` where it is missing. -/
def withDefault (name : String) (codec : Codec α) (d : α) : Field α :=
  { name, codec, inObject := some d, inList := some d }

/-- A field that may be `null`, and is so where an object has no such member. -/
def nullable (name : String) (codec : Codec α) : Field (Option α) :=
  { name, codec := codec.nullable, inObject := some none }

/-- The same, without a member for `null`. -/
def omitted (name : String) (codec : Codec α) : Field (Option α) :=
  { nullable name codec with skipped := Option.isNone }

/-- The same, and `null` as well where a list has too few elements. -/
def optional (name : String) (codec : Codec α) : Field (Option α) :=
  { omitted name codec with inList := some none }

end Field

end TunnelBroker.Json
