/-
  TunnelBroker.Proofs.Digits — numbers and lists that are written and read back.

  - `mapM_ok_iff`, `mapM_error_iff`: a list is read item by item, up to the first that is refused.
  - `exists_mem_right_iff`: what is so of the items that were read, in terms of what they were read from.
  - `takeWhile_append`, `dropWhile_append`: a reader takes the characters of a kind up to the first that is of
    another one.
  - `joined_cons`: texts with a separator between them.
  - `ofDigits_digitsOf`, `ofDigits_padded`, `ofHexDigits_hexDigitsOf`: the digits of a number denote it.
  - `unsigned?_eq_some_iff`, `unsigned?_digitsOf`: what is read as a number up to a largest value.
-/

import Mathlib.Algebra.GroupWithZero.Nat
import Mathlib.Data.List.Forall2
import TunnelBroker.Net.Ip
import TunnelBroker.Time.Timestamp

namespace TunnelBroker

/-! ## Lists that are read item by item -/

section

variable {α β ε : Type} {f : α → Except ε β} {x : α} {xs : List α} {ys : List β} {e : ε}

theorem bind_ok_iff {a : Except ε α} {b : β} : a >>= f = .ok b ↔ ∃ x, a = .ok x ∧ f x = .ok b := by
  cases a <;> simp [bind, Except.bind]

theorem mapM_cons_ok_iff : (x :: xs).mapM f = .ok ys ↔ ∃ y more, f x = .ok y ∧ xs.mapM f = .ok more ∧ ys = y :: more := by
  rw [List.mapM_cons]
  cases hx : f x with
  | error e => simp [bind, Except.bind]
  | ok y => cases hxs : xs.mapM f <;> simp [bind, Except.bind, pure, Except.pure, eq_comm]

theorem mapM_cons_error_iff :
    (x :: xs).mapM f = .error e ↔ f x = .error e ∨ (∃ y, f x = .ok y) ∧ xs.mapM f = .error e := by
  rw [List.mapM_cons]
  cases hx : f x with
  | error e' => simp [bind, Except.bind]
  | ok y => cases hxs : xs.mapM f <;> simp [bind, Except.bind, pure, Except.pure]

theorem mapM_ok_iff : xs.mapM f = .ok ys ↔ List.Forall₂ (fun x y => f x = .ok y) xs ys := by
  induction xs generalizing ys with
  | nil =>
    rw [List.forall₂_nil_left_iff]
    exact ⟨fun h => by cases h; rfl, fun h => by cases h; rfl⟩
  | cons x xs ih =>
    rw [mapM_cons_ok_iff, List.forall₂_cons_left_iff]
    simp only [ih]

theorem exists_mapM_ok_iff : (∃ ys, xs.mapM f = .ok ys) ↔ ∀ x ∈ xs, ∃ y, f x = .ok y := by
  induction xs with
  | nil => exact ⟨fun _ _ h => (by cases h), fun _ => ⟨[], rfl⟩⟩
  | cons x xs ih =>
    rw [List.forall_mem_cons, ← ih]
    simp only [mapM_cons_ok_iff]
    constructor
    · rintro ⟨ys, y, more, hx, hxs, rfl⟩
      exact ⟨⟨y, hx⟩, more, hxs⟩
    · rintro ⟨⟨y, hx⟩, more, hxs⟩
      exact ⟨y :: more, y, more, hx, hxs, rfl⟩

/-- The error is that of the first item that is refused. -/
theorem mapM_error_iff : xs.mapM f = .error e ↔
    ∃ before x after, xs = before ++ x :: after ∧ (∀ y ∈ before, ∃ b, f y = .ok b) ∧ f x = .error e := by
  induction xs with
  | nil => simp [pure, Except.pure]
  | cons x xs ih =>
    rw [mapM_cons_error_iff, ih]
    constructor
    · rintro (hx | ⟨hx, before, y, after, rfl, hbefore, hy⟩)
      · exact ⟨[], x, xs, rfl, List.forall_mem_nil _, hx⟩
      · exact ⟨x :: before, y, after, rfl, List.forall_mem_cons.mpr ⟨hx, hbefore⟩, hy⟩
    · rintro ⟨before, y, after, hlist, hbefore, hy⟩
      cases before with
      | nil =>
        cases hlist
        exact .inl hy
      | cons z before =>
        cases hlist
        obtain ⟨hz, hbefore⟩ := List.forall_mem_cons.mp hbefore
        exact .inr ⟨hz, before, y, after, rfl, hbefore, hy⟩

/-- What is so of an item of the second list is so of what an item of the first is related to, if that is one item only. -/
theorem exists_mem_right_iff {R : α → β → Prop} {p : β → Prop} (h : List.Forall₂ R xs ys)
    (hunique : ∀ x y y', R x y → R x y' → y = y') : (∃ y ∈ ys, p y) ↔ ∃ x ∈ xs, ∃ y, R x y ∧ p y := by
  induction h with
  | nil => simp
  | @cons x y xs ys hfirst hrest ih =>
    have hone : p y ↔ ∃ y', R x y' ∧ p y' := by
      constructor
      · intro hy
        exact ⟨y, hfirst, hy⟩
      · rintro ⟨y', hy', hp⟩
        rwa [hunique x y y' hfirst hy']
    rw [List.exists_mem_cons_iff, List.exists_mem_cons_iff, ih, hone]

end

/-! ## Runs of characters -/

namespace Text

/-- The text does not begin with a character of this kind. -/
def Stops (p : Char → Bool) (cs : List Char) : Prop := ∀ c rest, cs = c :: rest → p c = false

variable {p : Char → Bool} {ds rest : List Char}

@[simp] theorem Stops.nil : Stops p [] := by
  intro c rest h
  cases h

@[simp] theorem stops_cons {c : Char} {cs : List Char} : Stops p (c :: cs) ↔ p c = false := by
  constructor
  · intro h
    exact h c cs rfl
  · intro h d ds he
    cases he
    exact h

theorem takeWhile_of_stops (h : Stops p rest) : rest.takeWhile p = [] := by
  cases rest with
  | nil => rfl
  | cons c cs => simp [stops_cons.mp h]

theorem dropWhile_of_stops (h : Stops p rest) : rest.dropWhile p = rest := by
  cases rest with
  | nil => rfl
  | cons c cs => simp [stops_cons.mp h]

theorem takeWhile_append (hds : ∀ c ∈ ds, p c = true) (h : Stops p rest) : (ds ++ rest).takeWhile p = ds := by
  rw [List.takeWhile_append_of_pos hds, takeWhile_of_stops h, List.append_nil]

theorem takeWhile_of_all (hds : ∀ c ∈ ds, p c = true) : ds.takeWhile p = ds := by
  have happend := takeWhile_append hds (Stops.nil (p := p))
  rwa [List.append_nil] at happend

theorem dropWhile_append (hds : ∀ c ∈ ds, p c = true) (h : Stops p rest) : (ds ++ rest).dropWhile p = rest := by
  rw [List.dropWhile_append_of_pos hds, dropWhile_of_stops h]

/-- A text that begins with a character of no such kind, whatever follows. -/
theorem Stops.append {cs : List Char} (hne : cs ≠ []) (h : Stops p cs) : Stops p (cs ++ rest) := by
  cases cs with
  | nil => exact absurd rfl hne
  | cons c cs => exact stops_cons.mpr (stops_cons.mp h)

theorem Stops.of_mem {cs : List Char} (h : ∀ c ∈ cs, p c = false) : Stops p cs := by
  intro c rest he
  exact h c (by rw [he]; exact List.mem_cons_self ..)

/-! ## Texts with separators -/

/-- Texts with a separator between them; one stands before the first text too unless that one begins the whole. -/
def joined (sep : Char) (first : Bool) (texts : List (List Char)) : List Char :=
  if first then [sep].intercalate texts else texts.flatMap fun t => sep :: t

@[simp] theorem joined_nil (sep : Char) (first : Bool) : joined sep first [] = [] := by cases first <;> rfl

theorem joined_cons (sep : Char) (first : Bool) (text : List Char) (more : List (List Char)) :
    joined sep first (text :: more) = (if first then [] else [sep]) ++ text ++ joined sep false more := by
  cases first with
  | false => rfl
  | true =>
    unfold joined
    rw [if_pos rfl, if_pos rfl, if_neg (by decide), List.nil_append]
    induction more generalizing text with
    | nil => simp
    | cons t more ih =>
      rw [List.intercalate_cons_cons, ih]
      simp

/-- After a text stands the next separator, or what ends the whole. -/
theorem stops_joined {sep : Char} {texts : List (List Char)} (hsep : p sep = false) (hrest : Stops p rest) :
    Stops p (joined sep false texts ++ rest) := by
  cases texts with
  | nil => exact hrest
  | cons t more => exact stops_cons.mpr hsep

theorem mem_joined {sep c : Char} {first : Bool} {texts : List (List Char)} (h : c ∈ joined sep first texts) :
    c = sep ∨ ∃ t ∈ texts, c ∈ t := by
  induction texts generalizing first with
  | nil =>
    rw [joined_nil] at h
    cases h
  | cons t more ih =>
    rw [joined_cons, List.mem_append, List.mem_append] at h
    rcases h with (h | h) | h
    · split at h
      · cases h
      · exact .inl (List.mem_singleton.mp h)
    · exact .inr ⟨t, List.mem_cons_self .., h⟩
    · rcases ih h with h | ⟨u, hu, h⟩
      · exact .inl h
      · exact .inr ⟨u, List.mem_cons_of_mem _ hu, h⟩

/-- There are no more texts than characters. -/
theorem length_le_joined {sep : Char} {first : Bool} {texts : List (List Char)} (h : ∀ t ∈ texts, t ≠ []) :
    texts.length ≤ (joined sep first texts).length := by
  induction texts generalizing first with
  | nil => exact Nat.zero_le _
  | cons t more ih =>
    obtain ⟨ht, hmore⟩ := List.forall_mem_cons.mp h
    have hlength : 0 < t.length := List.length_pos_iff.mpr ht
    have hrest : more.length ≤ (joined sep false more).length := ih hmore
    rw [joined_cons, List.length_append, List.length_append, List.length_cons]
    omega

/-! ## Decimal digits -/

theorem ofDigits_eq (cs : List Char) : ofDigits cs = Nat.ofDigitChars 10 cs 0 := rfl

@[simp] theorem ofDigits_digitsOf (n : Nat) : ofDigits (digitsOf n) = n := Nat.ofDigitChars_ten_toDigits

theorem isDigit_iff {c : Char} : isDigit c = true ↔ 48 ≤ c.toNat ∧ c.toNat ≤ 57 := by
  simp only [isDigit, Bool.and_eq_true, decide_eq_true_eq, Char.le_def, UInt32.le_iff_toNat_le]
  rfl

theorem isDigit_of_mem {n : Nat} {c : Char} (h : c ∈ digitsOf n) : isDigit c = true := by
  have hc : c.isDigit = true := Nat.isDigit_of_mem_toDigits (by decide) (by decide) h
  simp only [Char.isDigit, Bool.and_eq_true, decide_eq_true_eq, ge_iff_le, UInt32.le_iff_toNat_le] at hc
  exact isDigit_iff.mpr hc

@[simp] theorem digitsOf_ne_nil (n : Nat) : digitsOf n ≠ [] := Nat.toDigits_ne_nil

theorem length_digitsOf_le {n k : Nat} (hk : 0 < k) : (digitsOf n).length ≤ k ↔ n < 10 ^ k :=
  Nat.length_toDigits_le_iff (by decide) hk

/-- Only the digit of zero begins with a zero. -/
theorem head?_digitsOf {n : Nat} (h : 1 < (digitsOf n).length) : (digitsOf n).head? ≠ some '0' := by
  induction n using Nat.strongRecOn with
  | ind n ih =>
    by_cases hn : n < 10
    · rw [digitsOf, Nat.toDigits_of_lt_base hn] at h
      cases h with
      | step h => cases h
    · have hsplit : digitsOf n = digitsOf (n / 10) ++ [(n % 10).digitChar] :=
        Nat.toDigits_of_base_le (by decide) (Nat.le_of_not_lt hn)
      rw [hsplit, List.head?_append, Option.or_of_isSome (List.isSome_head?.mpr (digitsOf_ne_nil _))]
      by_cases hone : n / 10 < 10
      · rw [digitsOf, Nat.toDigits_of_lt_base hone]
        simp only [List.head?_cons, ne_eq, Option.some.injEq, Nat.digitChar_eq_zero]
        omega
      · refine ih (n / 10) (by omega) ?_
        have hlong : ¬ (digitsOf (n / 10)).length ≤ 1 := by
          rw [length_digitsOf_le (by decide)]
          omega
        omega

theorem nat?_digitsOf (n : Nat) : nat? (digitsOf n) = some n := by
  have hall : (digitsOf n).all isDigit = true := List.all_eq_true.mpr fun c hc => isDigit_of_mem hc
  unfold nat?
  simp [hall]

/-- A text that denotes a number: decimal digits, of which there is at least one, after at most one plus. -/
def IsNumeral (cs : List Char) (n : Nat) : Prop :=
  ∃ digits, (cs = digits ∨ cs = '+' :: digits) ∧ digits ≠ [] ∧ (∀ c ∈ digits, isDigit c = true) ∧
    Nat.ofDigitChars 10 digits 0 = n

theorem nat?_eq_some_iff {cs : List Char} {n : Nat} :
    nat? cs = some n ↔ cs ≠ [] ∧ (∀ c ∈ cs, isDigit c = true) ∧ Nat.ofDigitChars 10 cs 0 = n := by
  unfold nat?
  rw [Option.ite_none_right_eq_some, Bool.and_eq_true, Bool.not_eq_true', List.isEmpty_eq_false_iff, List.all_eq_true,
    Option.some.injEq, and_assoc, ofDigits_eq]

/-- What is read as a number up to a largest one is a numeral of it. -/
theorem unsigned?_eq_some_iff {most n : Nat} {cs : List Char} :
    unsigned? most cs = some n ↔ IsNumeral cs n ∧ n ≤ most := by
  unfold unsigned?
  rw [Option.filter_eq_some_iff, decide_eq_true_eq, and_congr_left_iff]
  intro _
  split
  · rename_i rest
    rw [nat?_eq_some_iff]
    constructor
    · intro h
      exact ⟨rest, .inr rfl, h⟩
    · rintro ⟨digits, rfl | hplus, hne, hdigits, hn⟩
      · -- a plus is no digit
        cases hdigits '+' (List.mem_cons_self ..)
      · cases hplus
        exact ⟨hne, hdigits, hn⟩
  · rename_i hplus
    rw [nat?_eq_some_iff]
    constructor
    · intro h
      exact ⟨cs, .inl rfl, h⟩
    · rintro ⟨digits, rfl | rfl, h⟩
      · exact h
      · exact absurd rfl (hplus digits)

theorem word16?_eq_some_iff {cs : List Char} {n : UInt16} : word16? cs = some n ↔ IsNumeral cs n.toNat := by
  unfold word16?
  rw [Option.map_eq_some_iff]
  constructor
  · rintro ⟨m, hm, rfl⟩
    obtain ⟨hnumeral, hle⟩ := unsigned?_eq_some_iff.mp hm
    rwa [UInt16.toNat_ofNat_of_lt' (Nat.lt_succ_of_le hle)]
  · intro hnumeral
    exact ⟨n.toNat, unsigned?_eq_some_iff.mpr ⟨hnumeral, Nat.le_of_lt_succ n.toNat_lt⟩, UInt16.ofNat_toNat⟩

theorem isNumeral_digitsOf (n : Nat) : IsNumeral (digitsOf n) n :=
  ⟨digitsOf n, .inl rfl, nat?_eq_some_iff.mp (nat?_digitsOf n)⟩

/-- The digits of a number are read as the number, if it is not too large. -/
theorem unsigned?_digitsOf {n most : Nat} (h : n ≤ most) : unsigned? most (digitsOf n) = some n :=
  unsigned?_eq_some_iff.mpr ⟨isNumeral_digitsOf n, h⟩

end Text

/-! ## Zeros before a number -/

namespace Time.Timestamp

open TunnelBroker.Text

@[simp] theorem ofDigits_padded (width n : Nat) : ofDigits (padded width n) = n := by
  rw [ofDigits_eq, padded, Nat.ofDigitChars_append, Nat.ofDigitChars_replicate_zero, Nat.mul_zero]
  exact ofDigits_digitsOf n

theorem isDigit_of_mem_padded {width n : Nat} {c : Char} (h : c ∈ padded width n) : isDigit c = true := by
  rcases List.mem_append.mp h with hzero | hdigit
  · rw [List.eq_of_mem_replicate hzero]
    rfl
  · exact isDigit_of_mem hdigit

theorem padded_ne_nil (width n : Nat) : padded width n ≠ [] := by
  unfold padded
  simp

theorem length_padded {width n : Nat} (hwidth : 0 < width) (h : n < 10 ^ width) : (padded width n).length = width := by
  have hle : (digitsOf n).length ≤ width := (length_digitsOf_le hwidth).mpr h
  unfold padded
  rw [List.length_append, List.length_replicate]
  omega

end Time.Timestamp

/-! ## Hexadecimal digits -/

namespace Net

theorem hexValue?_digitChar {n : Nat} (h : n < 16) : hexValue? n.digitChar = some n := by
  have hall : ∀ m < 16, hexValue? m.digitChar = some m := by decide
  exact hall n h

@[simp] theorem ofHexDigits_hexDigitsOf (n : Nat) : ofHexDigits (hexDigitsOf n) = n := by
  induction n using Nat.strongRecOn with
  | ind n ih =>
    unfold hexDigitsOf
    by_cases hn : n < 16
    · rw [Nat.toDigits_of_lt_base hn]
      simp [ofHexDigits, hexValue?_digitChar hn]
    · rw [Nat.toDigits_of_base_le (by decide) (Nat.le_of_not_lt hn)]
      have hrest : ofHexDigits (Nat.toDigits 16 (n / 16)) = n / 16 := ih (n / 16) (by omega)
      unfold ofHexDigits at hrest ⊢
      rw [List.foldl_append, hrest]
      simp only [List.foldl_cons, List.foldl_nil, hexValue?_digitChar (Nat.mod_lt n (by decide)), Option.getD_some]
      omega

theorem isHexDigit_of_mem {n : Nat} {c : Char} (h : c ∈ hexDigitsOf n) : isHexDigit c = true := by
  induction n using Nat.strongRecOn with
  | ind n ih =>
    unfold hexDigitsOf at h
    by_cases hn : n < 16
    · rw [Nat.toDigits_of_lt_base hn, List.mem_singleton] at h
      rw [h, isHexDigit, hexValue?_digitChar hn]
      rfl
    · rw [Nat.toDigits_of_base_le (by decide) (Nat.le_of_not_lt hn)] at h
      rcases List.mem_append.mp h with hrest | hlast
      · exact ih (n / 16) (by omega) hrest
      · rw [List.mem_singleton.mp hlast, isHexDigit, hexValue?_digitChar (Nat.mod_lt n (by decide))]
        rfl

@[simp] theorem hexDigitsOf_ne_nil (n : Nat) : hexDigitsOf n ≠ [] := Nat.toDigits_ne_nil

theorem length_hexDigitsOf_le {n k : Nat} (hk : 0 < k) : (hexDigitsOf n).length ≤ k ↔ n < 16 ^ k :=
  Nat.length_toDigits_le_iff (by decide) hk

end Net

end TunnelBroker
