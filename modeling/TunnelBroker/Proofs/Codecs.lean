/-
  TunnelBroker.Proofs.Codecs — values that are written as JSON and read back.

  A value is read back if what was written for it begins a value, and is read as the value wherever it stands: at the
  end of a text, or before what goes on with a list or an object. The codecs of plain kinds of values do so, and the
  ones that are made of codecs do if those do.

  - `readQuoted_quote`, `readNumber_digitsOf`: the texts of strings and numbers.
  - `Codec.ReadsBack`, `Codec.IsFaithful`: one value is read back, or all of them are.
  - `IsFaithful.list`, `IsFaithful.nullable`, `IsFaithful.iso`, `record_isFaithful`: what codecs of parts do, the codec
    of the whole does.
-/

import TunnelBroker.Json.Record
import TunnelBroker.Proofs.Digits

namespace TunnelBroker.Json

open TunnelBroker.Text (Stops isDigit ofDigits digitsOf joined joined_cons joined_nil stops_cons)

variable {rest : List Char}

@[simp] theorem ok_bind {ε α β : Type} (a : α) (f : α → Except ε β) : (Except.ok a >>= f) = f a := rfl

@[simp] theorem ok_map {ε α β : Type} (a : α) (f : α → β) : (Except.ok a : Except ε α).map f = .ok (f a) := rfl

/-! ## Strings -/

theorem readHex4_hexPair {n : Nat} (h : n < 32) : readHex4 ('0' :: '0' :: (hexPair n ++ rest)) = .ok (n, rest) := by
  unfold hexPair
  simp only [List.cons_append, List.nil_append, readHex4, Net.hexValue?_digitChar (show n / 16 < 16 by omega),
    Net.hexValue?_digitChar (show n % 16 < 16 by omega), show Net.hexValue? '0' = some 0 from rfl]
  rw [show ((0 * 16 + 0) * 16 + n / 16) * 16 + n % 16 = n by omega]

theorem readCodePoint_hexPair {n : Nat} (h : n < 32) :
    readCodePoint ('0' :: '0' :: (hexPair n ++ rest)) = .ok (Char.ofNat n, rest) := by
  unfold readCodePoint
  rw [readHex4_hexPair h, ok_bind]
  dsimp only
  rw [if_neg (by omega), if_neg (by omega)]

/-- A character that needs no escape is read as it is. -/
theorem readChar_plain {c : Char} (hquote : c ≠ '"') (hslash : c ≠ '\\') (hcontrol : ¬ c.toNat < 32) :
    readChar (c :: rest) = .ok (some c, rest) := by
  unfold readChar
  split
  · rename_i he
    cases he
  · rename_i he
    exact absurd (List.cons.inj he).1 hquote
  · rename_i he
    exact absurd (List.cons.inj he).1 hslash
  · rename_i he
    exact absurd (List.cons.inj he).1 hslash
  · rename_i he
    exact absurd (List.cons.inj he).1 hslash
  · rename_i he
    obtain ⟨rfl, rfl⟩ := List.cons.inj he
    exact if_neg hcontrol

/-- A character is read back from its escape. -/
theorem readChar_escapeChar (c : Char) : readChar (escapeChar c ++ rest) = .ok (some c, rest) := by
  have heq {n : Nat} (h : c.toNat = n) : Char.ofNat n = c := by rw [← h, Char.ofNat_toNat]
  unfold escapeChar
  split
  · rename_i h
    rw [h]
    rfl
  split
  · rename_i h
    rw [h]
    rfl
  split
  · rename_i h
    rw [h]
    rfl
  split
  · rename_i h
    rw [h]
    rfl
  split
  · rename_i h
    rw [h]
    rfl
  split
  · rename_i h
    rw [← heq h]
    rfl
  split
  · rename_i h
    rw [← heq h]
    rfl
  split
  · rename_i h
    have hread : readCodePoint ('0' :: '0' :: (hexPair c.toNat ++ rest)) = _ := readCodePoint_hexPair h
    rw [heq rfl] at hread
    show (readCodePoint ('0' :: '0' :: (hexPair c.toNat ++ rest))).map _ = _
    rw [hread]
    rfl
  · rename_i hquote hslash _ _ _ _ _ hcontrol
    exact readChar_plain hquote hslash hcontrol

theorem escapeChar_ne_nil (c : Char) : escapeChar c ≠ [] := by
  intro h
  have hread : readChar (escapeChar c ++ []) = .ok (some c, []) := readChar_escapeChar c
  rw [h] at hread
  cases hread

/-- The characters up to the closing quote are read back. -/
theorem readChars_escaped {cs : List Char} {fuel : Nat} (h : cs.length < fuel) :
    readChars fuel (cs.flatMap escapeChar ++ '"' :: rest) = .ok (cs, rest) := by
  induction cs generalizing fuel with
  | nil =>
    obtain ⟨fuel, rfl⟩ := Nat.exists_eq_add_of_lt h
    rfl
  | cons c cs ih =>
    rw [List.length_cons] at h
    obtain ⟨n, rfl⟩ : ∃ n, fuel = n + 1 := ⟨fuel - 1, by omega⟩
    unfold readChars
    rw [List.flatMap_cons, List.append_assoc, readChar_escapeChar, ok_bind]
    dsimp only
    rw [ih (by omega), ok_bind]

/-- The text of a string is read back. -/
theorem readQuoted_quote (cs : List Char) : readQuoted (cs.flatMap escapeChar ++ '"' :: rest) = .ok (cs, rest) := by
  have hlength : cs.length ≤ (cs.flatMap escapeChar).length := by
    induction cs with
    | nil => exact Nat.le_refl 0
    | cons c cs ih =>
      have hc := List.length_pos_iff.mpr (escapeChar_ne_nil c)
      rw [List.flatMap_cons, List.length_append, List.length_cons]
      omega
  unfold readQuoted
  refine readChars_escaped ?_
  rw [List.length_append]
  omega

/-! ## Numbers -/

/-- What goes on with a list or an object after one of its values. -/
def isFollower (c : Char) : Bool := c == ',' || c == ']' || c == '\x7d'

/-- Nothing stands after a value, or what goes on with a list or an object. -/
def Follows (rest : List Char) : Prop := Stops (fun c => !isFollower c) rest

@[simp] theorem follows_nil : Follows [] := .nil

@[simp] theorem follows_cons {c : Char} : Follows (c :: rest) ↔ isFollower c = true := by
  unfold Follows
  rw [stops_cons, Bool.not_eq_eq_eq_not, Bool.not_false]

/-- What follows a value is of no kind of which no follower is. -/
theorem Follows.stops {p : Char → Bool} (h : Follows rest) (hcomma : p ',' = false) (hbracket : p ']' = false)
    (hbrace : p '\x7d' = false) : Stops p rest := by
  intro c more he
  have hc : isFollower c = true := by simpa using h c more he
  simp only [isFollower, Bool.or_eq_true, beq_iff_eq] at hc
  rcases hc with (rfl | rfl) | rfl
  · exact hcomma
  · exact hbracket
  · exact hbrace

/-- Digits that make a number of 64 bits are all read. -/
theorem significand_eq {n : Nat} {ds : List Char} (h : ds.foldl (fun n c => 10 * n + Text.digitValue c) n < 2 ^ 64) :
    significand n ds = (ds.foldl (fun n c => 10 * n + Text.digitValue c) n, 0) := by
  induction ds generalizing n with
  | nil => rfl
  | cons c ds ih =>
    have hgrows (m : Nat) (cs : List Char) : m ≤ cs.foldl (fun n c => 10 * n + Text.digitValue c) m := by
      induction cs generalizing m with
      | nil => exact Nat.le_refl m
      | cons d cs ih => exact Nat.le_trans (show m ≤ 10 * m + Text.digitValue d by omega) (ih _)
    have hc : 10 * n + Text.digitValue c < 18446744073709551616 := Nat.lt_of_le_of_lt (hgrows _ ds) h
    unfold significand
    dsimp only
    rw [if_pos hc]
    exact ih h

/-- Rounding at most doubles a number. -/
theorem rounded_le (n : Nat) : rounded n ≤ 2 * n := by
  have hunit : n ≠ 0 → 2 ^ (n.log2 - 52) ≤ n := by
    intro hn
    exact Nat.le_trans (Nat.pow_le_pow_right (by decide) (Nat.sub_le ..)) (Nat.log2_self_le hn)
  have hdiv : n / 2 ^ (n.log2 - 52) * 2 ^ (n.log2 - 52) ≤ n := Nat.div_mul_le_self ..
  unfold rounded
  simp only [show Nat.pow 2 (n.log2 - 52) = 2 ^ (n.log2 - 52) from rfl]
  split
  · rename_i hup
    by_cases hn : n = 0
    · subst hn
      revert hup
      decide
    · have hle := hunit hn
      rw [Nat.add_mul, Nat.one_mul]
      omega
  · omega

/-- An integer of 64 bits is within the range of numbers. -/
theorem not_overflows {digits rest : List Char} (h : ofDigits digits < 2 ^ 64) :
    (Numeral.mk digits none none rest).overflows = false := by
  have hlimit : 2 ^ 65 * rounded (Text.powerOfTen 0) < Nat.pow 2 1024 - Nat.pow 2 970 := by decide +kernel
  have hround : rounded (ofDigits digits) * rounded (Text.powerOfTen 0) ≤ 2 ^ 65 * rounded (Text.powerOfTen 0) := by
    have hle := rounded_le (ofDigits digits)
    exact Nat.mul_le_mul_right _ (by omega)
  have hwhole : significand 0 digits = (ofDigits digits, 0) := significand_eq h
  unfold Numeral.overflows
  simp only [hwhole, Option.getD_none, significand, List.length_nil]
  split
  · rfl
  · rename_i exponent he _
    have hzero : exponent = 0 := Int.ofNat.inj he.symm
    rw [hzero, Bool.or_eq_false_iff]
    exact ⟨rfl, decide_eq_false (Nat.not_le.mpr (Nat.lt_of_le_of_lt hround hlimit))⟩
  · rename_i he _
    cases he

theorem readDigits_digitsOf (n : Nat) (hrest : Stops isDigit rest) :
    readDigits .truncated (digitsOf n ++ rest) = .ok (digitsOf n, rest) := by
  have hdigits : ∀ c ∈ digitsOf n, isDigit c = true := fun c hc => Text.isDigit_of_mem hc
  unfold readDigits
  rw [Text.takeWhile_append hdigits hrest, Text.dropWhile_append hdigits hrest]
  split
  · rename_i he
    exact absurd he (Text.digitsOf_ne_nil n)
  · rfl

theorem readFraction_follows (hrest : Follows rest) : readFraction .truncated rest = .ok (none, rest) := by
  have hdot : Stops (· == '.') rest := hrest.stops (by decide) (by decide) (by decide)
  unfold readFraction
  split
  · exact absurd (hdot _ _ rfl) (by decide)
  · rfl

theorem readExponent_follows (hrest : Follows rest) : readExponent .truncated rest = .ok (none, rest) := by
  have hmark : Stops (fun c => c == 'e' || c == 'E') rest := hrest.stops (by decide) (by decide) (by decide)
  cases rest with
  | nil => rfl
  | cons c more =>
    have hc := hmark c more rfl
    rw [Bool.or_eq_false_iff, beq_eq_false_iff_ne, beq_eq_false_iff_ne] at hc
    unfold readExponent
    dsimp only
    rw [if_neg (by rw [not_or]; exact hc)]

theorem readNumeral_digitsOf (n : Nat) (hrest : Follows rest) :
    readNumeral .truncated (digitsOf n ++ rest) = .ok ⟨digitsOf n, none, none, rest⟩ := by
  have hlead : ¬ (1 < (digitsOf n).length ∧ (digitsOf n).head? = some '0') := by
    rintro ⟨hlong, hzero⟩
    exact Text.head?_digitsOf hlong hzero
  unfold readNumeral
  rw [readDigits_digitsOf n (hrest.stops (by decide) (by decide) (by decide)), ok_bind]
  dsimp only
  rw [if_neg hlead, readFraction_follows hrest, ok_bind]
  dsimp only
  rw [readExponent_follows hrest, ok_bind]

/-- The digits of an integer of 64 bits are read as the integer. -/
theorem readNumber_digitsOf {n : Nat} (h : n < 2 ^ 64) (hrest : Follows rest) :
    readNumber (digitsOf n ++ rest) = .ok (some n, rest) := by
  have hsign : Stops (· == '-') (digitsOf n ++ rest) := by
    refine (Stops.of_mem fun c hc => ?_).append (Text.digitsOf_ne_nil n)
    rw [beq_eq_false_iff_ne]
    rintro rfl
    exact absurd (Text.isDigit_of_mem hc) (by decide)
  have hvalue : ofDigits (digitsOf n) = n := Text.ofDigits_digitsOf n
  have hlimit : n < 18446744073709551616 := h
  unfold readNumber
  split
  rename_i signed body he
  split at he
  · rename_i more hmore
    exact absurd (hsign _ _ hmore) (by decide)
  · obtain ⟨rfl, rfl⟩ := Prod.mk.inj he
    rw [readNumeral_digitsOf n hrest, ok_bind, not_overflows (by rw [hvalue]; exact h)]
    simp [hlimit]

/-! ## Values that are read back -/

namespace Codec

variable {α β : Type} {c : Codec α}

/-- The value is read back, whatever follows it in a list or an object, and can be told from the end of a list. -/
structure ReadsBack (c : Codec α) (a : α) : Prop where
  begins : ∃ d more, c.write a = d :: more ∧ isSpace d = false ∧ d ≠ ']'
  reads {rest : List Char} : Follows rest → c.read (c.write a ++ rest) = .ok (a, rest)

/-- Every value is read back. -/
def IsFaithful (c : Codec α) : Prop := ∀ a, c.ReadsBack a

/-- The value is not written as `null` is. -/
def IsPlain (c : Codec α) (a : α) : Prop := ∀ more, c.write a ≠ 'n' :: more

/-- A value that is read back is decoded from its text. -/
theorem ReadsBack.decode_encode {a : α} (h : c.ReadsBack a) : c.decode (c.encode a) = .ok a := by
  have hread := h.reads follows_nil
  rw [List.append_nil] at hread
  unfold decode encode
  rw [String.toList_ofList, hread, ok_bind]
  rfl

theorem skipSpace_cons {d : Char} (h : isSpace d = false) : Json.skipSpace (d :: rest) = d :: rest :=
  Text.dropWhile_of_stops (stops_cons.mpr h)

theorem ReadsBack.skipSpace {a : α} (h : c.ReadsBack a) : Json.skipSpace (c.write a ++ rest) = c.write a ++ rest := by
  obtain ⟨d, more, he, hspace, -⟩ := h.begins
  rw [he]
  exact skipSpace_cons hspace

theorem ReadsBack.refine {of? : α → Option β} {back : β → α} {b : β} (h : c.ReadsBack (back b)) (hof : of? (back b) = some b) :
    (c.refine of? back).ReadsBack b where
  begins := h.begins
  reads hrest := by
    unfold Codec.refine
    dsimp only
    rw [h.reads hrest, ok_bind]
    dsimp only
    rw [hof]

theorem IsFaithful.iso {of : α → β} {back : β → α} (h : c.IsFaithful) (hof : ∀ b, of (back b) = b) :
    (c.iso of back).IsFaithful := by
  intro b
  exact (h (back b)).refine (congrArg some (hof b))

/-! ## Plain kinds of values -/

theorem chars_isFaithful : chars.IsFaithful := by
  intro cs
  refine ⟨⟨'"', _, rfl, rfl, by decide⟩, ?_⟩
  intro rest _
  show readQuoted ((cs.flatMap escapeChar ++ ['"']) ++ rest) = _
  rw [List.append_assoc]
  exact readQuoted_quote cs

theorem text_isFaithful : text.IsFaithful := chars_isFaithful.iso fun _ => String.ofList_toList

theorem isSpace_of_isDigit {d : Char} (h : isDigit d = true) : isSpace d = false := by
  obtain ⟨hlow, -⟩ := Text.isDigit_iff.mp h
  cases hspace : isSpace d with
  | false => rfl
  | true =>
    simp only [isSpace, Bool.or_eq_true, decide_eq_true_eq] at hspace
    rcases hspace with ((rfl | rfl) | rfl) | rfl
    · exact absurd hlow (by decide)
    · exact absurd hlow (by decide)
    · exact absurd hlow (by decide)
    · exact absurd hlow (by decide)

theorem natBelow_readsBack {limit n : Nat} (h : n < limit) (hlimit : limit ≤ 2 ^ 64) : (natBelow limit).ReadsBack n := by
  cases he : digitsOf n with
  | nil => exact absurd he (Text.digitsOf_ne_nil n)
  | cons c cs =>
    have hdigit : isDigit c = true := Text.isDigit_of_mem (n := n) (by rw [he]; exact List.mem_cons_self ..)
    refine ⟨⟨c, cs, he, isSpace_of_isDigit hdigit, ?_⟩, ?_⟩
    · rintro rfl
      exact absurd hdigit (by decide)
    · intro rest hrest
      have hread := readNumber_digitsOf (Nat.lt_of_lt_of_le h hlimit) hrest
      rw [he, List.cons_append] at hread
      unfold natBelow
      dsimp only
      rw [he, List.cons_append, skipSpace_cons (isSpace_of_isDigit hdigit)]
      dsimp only
      rw [if_pos (Or.inr hdigit), hread, ok_bind]
      exact if_pos h

theorem word16_isFaithful : word16.IsFaithful := by
  intro n
  have hn : n.toNat < 65536 := n.toNat_lt
  have hof : some (UInt16.ofNat n.toNat) = some n := by rw [UInt16.ofNat_toNat]
  show ((natBelow 65536).refine (fun m => some (UInt16.ofNat m)) UInt16.toNat).ReadsBack n
  exact (natBelow_readsBack hn (by decide)).refine hof

theorem flag_isFaithful : flag.IsFaithful := by
  intro b
  cases b with
  | false => exact ⟨⟨'f', _, rfl, rfl, by decide⟩, fun _ => rfl⟩
  | true => exact ⟨⟨'t', _, rfl, rfl, by decide⟩, fun _ => rfl⟩

theorem IsFaithful.nullable (h : c.IsFaithful) (hplain : ∀ a, c.IsPlain a) : c.nullable.IsFaithful := by
  intro a
  cases a with
  | none => exact ⟨⟨'n', _, rfl, rfl, by decide⟩, fun _ => rfl⟩
  | some a =>
    refine ⟨(h a).begins, ?_⟩
    intro rest hrest
    obtain ⟨d, more, he, -, -⟩ := (h a).begins
    unfold Codec.nullable
    dsimp only
    rw [(h a).skipSpace]
    split
    · rename_i more' hnull
      rw [he] at hnull
      exact absurd (he.trans (by rw [(List.cons.inj hnull).1])) (hplain a more)
    · rw [(h a).reads hrest]
      rfl

/-! ## Lists -/

/-- The value begins the next element of a list. -/
theorem ReadsBack.nextItem {a : α} (h : c.ReadsBack a) (first : Bool) :
    Json.nextItem first ((if first then [] else [',']) ++ (c.write a ++ rest)) = .ok (some (c.write a ++ rest)) := by
  obtain ⟨d, more, he, hspace, hbracket⟩ := h.begins
  rw [he, List.cons_append]
  unfold Json.nextItem
  cases first with
  | true =>
    rw [if_pos rfl, List.nil_append, skipSpace_cons hspace]
    split
    · rename_i hnil
      cases hnil
    · rename_i hend
      exact absurd (List.cons.inj hend).1 hbracket
    · rename_i hcons
      rw [if_pos rfl, hcons]
  | false =>
    rw [if_neg (by decide), List.singleton_append, skipSpace_cons (by decide)]
    split
    · rename_i hnil
      cases hnil
    · rename_i hend
      exact absurd (List.cons.inj hend).1 (by decide)
    · rename_i hcons
      obtain ⟨rfl, rfl⟩ := List.cons.inj hcons
      rw [if_neg (by decide), if_pos rfl, skipSpace_cons hspace]
      split
      · rename_i hnil
        cases hnil
      · rename_i hend
        exact absurd (List.cons.inj hend).1 hbracket
      · rfl

/-- The elements of a list are read back up to its closing bracket. -/
theorem readItems_joined {items : List α} (h : ∀ a ∈ items, c.ReadsBack a) {fuel : Nat} {first : Bool}
    (hfuel : items.length < fuel) :
    readItems c fuel first (joined ',' first (items.map c.write) ++ ']' :: rest) = .ok (items, rest) := by
  induction items generalizing fuel first with
  | nil =>
    obtain ⟨n, rfl⟩ : ∃ n, fuel = n + 1 := ⟨fuel - 1, by simp at hfuel; omega⟩
    rw [List.map_nil, joined_nil]
    rfl
  | cons a items ih =>
    obtain ⟨n, rfl⟩ : ∃ n, fuel = n + 1 := ⟨fuel - 1, by simp at hfuel; omega⟩
    obtain ⟨ha, hmore⟩ := List.forall_mem_cons.mp h
    have hnext : nextItem first (joined ',' first ((a :: items).map c.write) ++ ']' :: rest) =
        .ok (some (c.write a ++ (joined ',' false (items.map c.write) ++ ']' :: rest))) := by
      rw [List.map_cons, joined_cons, List.append_assoc, List.append_assoc]
      exact ha.nextItem first
    have hfollows : Follows (joined ',' false (items.map c.write) ++ ']' :: rest) :=
      Text.stops_joined (by decide) (stops_cons.mpr (by decide))
    unfold readItems
    rw [hnext, ok_bind]
    dsimp only
    rw [ha.reads hfollows, ok_bind]
    dsimp only
    rw [ih hmore (by simpa using hfuel), ok_bind]

theorem IsFaithful.list (h : c.IsFaithful) : c.list.IsFaithful := by
  intro items
  refine ⟨⟨'[', _, rfl, rfl, by decide⟩, ?_⟩
  intro rest _
  have hnonempty : ∀ t ∈ items.map c.write, t ≠ [] := by
    intro t ht
    obtain ⟨a, -, rfl⟩ := List.mem_map.mp ht
    obtain ⟨d, more, he, -, -⟩ := (h a).begins
    rw [he]
    exact List.cons_ne_nil d more
  have hlength : _ ≤ (joined ',' true (items.map c.write)).length := Text.length_le_joined hnonempty
  show readItems c (((joined ',' true (items.map c.write) ++ [']']) ++ rest).length + 1) true
    ((joined ',' true (items.map c.write) ++ [']']) ++ rest) = _
  rw [List.append_assoc]
  refine readItems_joined (fun a _ => h a) ?_
  rw [List.length_map] at hlength
  rw [List.length_append]
  omega

end Codec

/-! ## Fields -/

namespace Field

variable {α : Type} {c : Codec α}

/-- Every value of the field is read back, or it is what stands for a member that is not written. -/
def IsFaithful (field : Field α) : Prop :=
  ∀ a, if field.skipped a then field.inObject = some a else field.codec.ReadsBack a

theorem required_isFaithful (name : String) (h : c.IsFaithful) : (required name c).IsFaithful := h

theorem withDefault_isFaithful (name : String) (h : c.IsFaithful) (d : α) : (withDefault name c d).IsFaithful := h

theorem nullable_isFaithful (name : String) (h : c.IsFaithful) (hplain : ∀ a, c.IsPlain a) :
    (nullable name c).IsFaithful := h.nullable hplain

theorem optional_isFaithful (name : String) (h : c.IsFaithful) (hplain : ∀ a, c.IsPlain a) :
    (optional name c).IsFaithful := by
  intro a
  cases a with
  | none =>
    rw [if_pos (show (optional name c).skipped none = true from rfl)]
    rfl
  | some a =>
    rw [if_neg (show ¬ (optional name c).skipped (some a) = true from Bool.false_ne_true)]
    exact h.nullable hplain (some a)

end Field

/-! ## Records -/

namespace Fields

variable {δ ρ Δ Ρ : Type}

def names : {δ ρ : Type} → Fields δ ρ → List String
  | _, _, .nil => []
  | _, _, .cons field rest => field.name :: rest.names

/-- Each field's values are read back, and no two fields have the same name. -/
def IsFaithful : {δ ρ : Type} → Fields δ ρ → Prop
  | _, _, .nil => True
  | _, _, .cons field rest => field.IsFaithful ∧ field.name ∉ rest.names ∧ rest.IsFaithful

theorem IsFaithful.nil : Fields.nil.IsFaithful := trivial

theorem IsFaithful.cons {α : Type} {field : Field α} {rest : Fields δ ρ} (hfield : field.IsFaithful)
    (hname : field.name ∉ rest.names) (hrest : rest.IsFaithful) : (Fields.cons field rest).IsFaithful :=
  ⟨hfield, hname, hrest⟩

theorem members_ne_nil (fields : Fields δ ρ) (r : ρ) : ∀ t ∈ fields.members r, t ≠ [] := by
  induction fields with
  | nil =>
    intro t ht
    cases ht
  | cons field rest ih =>
    obtain ⟨a, more⟩ := r
    unfold members
    split
    · exact ih more
    · intro t ht
      rcases List.mem_cons.mp ht with rfl | ht
      · exact List.cons_ne_nil _ _
      · exact ih more t ht

/-- What was read when all the members of a tuple were. -/
def draft : {δ ρ : Type} → Fields δ ρ → ρ → δ
  | _, _, .nil, _ => ()
  | _, _, .cons field rest, (a, more) => (if field.skipped a then none else some a, rest.draft more)

/-- The members of a tuple make the tuple. -/
theorem finish?_draft {fields : Fields δ ρ} (h : fields.IsFaithful) (r : ρ) : fields.finish? (fields.draft r) = some r := by
  induction fields with
  | nil => rfl
  | cons field rest ih =>
    obtain ⟨a, more⟩ := r
    obtain ⟨hfield, -, hmore⟩ := h
    have hvalue := hfield a
    unfold finish? draft
    dsimp only
    rw [ih hmore]
    by_cases hskipped : field.skipped a
    · rw [if_pos hskipped] at hvalue
      rw [if_pos hskipped, hvalue]
      rfl
    · rw [if_neg hskipped]
      rfl

theorem Slot.map_map {ε ζ : Type} (s : Slot δ) (f : δ → ε) (g : ε → ζ) : (s.map f).map g = s.map (g ∘ f) := by
  cases s with
  | unknown => rfl
  | filled => rfl
  | vacant read =>
    simp only [Slot.map, vacant.injEq]
    funext cs
    cases read cs with
    | error e => rfl
    | ok p => rfl

theorem Slot.map_id (s : Slot δ) : s.map id = s := by
  cases s with
  | unknown => rfl
  | filled => rfl
  | vacant read =>
    simp only [Slot.map, vacant.injEq]
    funext cs
    cases read cs with
    | error e => rfl
    | ok p => rfl

theorem slot_of_ne {α : Type} {field : Field α} {rest : Fields δ ρ} {key : String} (h : field.name ≠ key) (value : Option α)
    (d : δ) : (Fields.cons field rest).slot key (value, d) = (rest.slot key d).map fun d => (value, d) := by
  simp only [slot, if_neg h]

theorem slot_self {α : Type} (field : Field α) (rest : Fields δ ρ) (d : δ) :
    (Fields.cons field rest).slot field.name (none, d) =
      .vacant fun cs => (field.codec.read cs).map fun p => ((some p.1, d), p.2) := by
  unfold slot
  exact if_pos rfl

theorem expectColon_cons (cs : List Char) : expectColon (':' :: cs) = .ok cs := rfl

/-- The key of a member comes next. -/
theorem nextKey_quote (first : Bool) (name : List Char) :
    nextKey first ((if first then [] else [',']) ++ (quote name ++ rest)) =
      .ok (some (name.flatMap escapeChar ++ '"' :: rest)) := by
  have hquote : quote name ++ rest = '"' :: (name.flatMap escapeChar ++ '"' :: rest) := by
    unfold quote
    rw [List.cons_append, List.cons_append, List.append_assoc]
    rfl
  rw [hquote]
  unfold nextKey
  cases first with
  | true =>
    rw [if_pos rfl, List.nil_append, Codec.skipSpace_cons (by decide)]
    rfl
  | false =>
    rw [if_neg (by decide), List.singleton_append, Codec.skipSpace_cons (by decide)]
    rfl

/-- The members of a tuple are read back up to the closing brace of its object. The fields may be some of those of
the object; `part` makes what was read of the whole from what was read of these. -/
theorem readMembers_joined {inner : Fields δ ρ} (h : inner.IsFaithful) {r : ρ} {outer : Fields Δ Ρ} (part : δ → Δ)
    (hslot : ∀ key ∈ inner.names, ∀ d, outer.slot key (part d) = (inner.slot key d).map part) {fuel : Nat} {first : Bool}
    (hfuel : (inner.members r).length < fuel) :
    outer.readMembers fuel first (part inner.blank) (joined ',' first (inner.members r) ++ '\x7d' :: rest) =
      .ok (part (inner.draft r), rest) := by
  induction inner generalizing fuel first with
  | nil =>
    obtain ⟨n, rfl⟩ : ∃ n, fuel = n + 1 := ⟨fuel - 1, by omega⟩
    rw [members, joined_nil]
    rfl
  | cons field more ih =>
    obtain ⟨a, values⟩ := r
    obtain ⟨hfield, hname, hmore⟩ := h
    have hvalue := hfield a
    -- The fields that are left are some of the object's, whatever was read of this one.
    have hslot' (value : Option _) : ∀ key ∈ more.names, ∀ d,
        outer.slot key (part (value, d)) = (more.slot key d).map (part ∘ fun d => (value, d)) := by
      intro key hkey d
      have hne : field.name ≠ key := by
        rintro rfl
        exact hname hkey
      rw [hslot key (List.mem_cons_of_mem _ hkey), slot_of_ne hne, Slot.map_map]
    by_cases hskipped : field.skipped a
    · rw [members, if_pos hskipped] at hfuel ⊢
      rw [draft, if_pos hskipped, blank]
      exact ih hmore _ (hslot' none) hfuel
    · rw [if_neg hskipped] at hvalue
      rw [members, if_neg hskipped] at hfuel ⊢
      rw [draft, if_neg hskipped, blank]
      obtain ⟨n, rfl⟩ : ∃ n, fuel = n + 1 := ⟨fuel - 1, by omega⟩
      have hfollows : Follows (joined ',' false (more.members values) ++ '\x7d' :: rest) :=
        Text.stops_joined (by decide) (stops_cons.mpr (by decide))
      have hread : outer.slot (String.ofList field.name.toList) (part (none, more.blank)) =
          .vacant fun cs => (field.codec.read cs).map fun p => (part (some p.1, more.blank), p.2) := by
        rw [String.ofList_toList, hslot field.name (List.mem_cons_self ..), slot_self]
        simp only [Slot.map, Slot.vacant.injEq]
        funext cs
        cases field.codec.read cs with
        | error e => rfl
        | ok p => rfl
      rw [joined_cons, List.append_assoc, List.append_assoc, List.append_assoc]
      unfold readMembers
      rw [nextKey_quote, ok_bind]
      dsimp only
      rw [readQuoted_quote, ok_bind]
      dsimp only
      rw [hread]
      dsimp only
      rw [List.cons_append, expectColon_cons, ok_bind, hvalue.reads hfollows, ok_map, ok_bind]
      dsimp only
      exact ih hmore _ (hslot' (some a)) (by simpa using hfuel)

end Fields

/-- Tuples are read back if the values of their fields are. -/
theorem Codec.record_isFaithful {δ ρ : Type} {fields : Fields δ ρ} (h : fields.IsFaithful) :
    (Codec.record fields).IsFaithful := by
  intro r
  refine ⟨⟨'\x7b', _, rfl, rfl, by decide⟩, ?_⟩
  intro rest _
  have hlength : _ ≤ (joined ',' true (fields.members r)).length := Text.length_le_joined (fields.members_ne_nil r)
  have hread : fields.readMembers ((joined ',' true (fields.members r) ++ '\x7d' :: rest).length + 1) true fields.blank
      (joined ',' true (fields.members r) ++ '\x7d' :: rest) = .ok (fields.draft r, rest) := by
    refine Fields.readMembers_joined h id (fun key _ d => (Fields.Slot.map_id _).symm) ?_
    rw [List.length_append]
    omega
  have htext : (Codec.record fields).write r ++ rest = '\x7b' :: (joined ',' true (fields.members r) ++ '\x7d' :: rest) := by
    show '\x7b' :: (joined ',' true (fields.members r) ++ ['\x7d']) ++ rest = _
    rw [List.cons_append, List.append_assoc]
    rfl
  rw [htext]
  unfold Codec.record
  dsimp only
  rw [skipSpace_cons (by decide)]
  dsimp only
  rw [if_neg (by decide), if_pos rfl]
  rw [hread, ok_bind]
  dsimp only
  rw [Fields.finish?_draft h]

end TunnelBroker.Json
