/-
  TunnelBroker.Proofs.AddressText — addresses, networks and lists of callers that are written and read back.

  The groups of an IPv6 address are read up to the place where zeros were left out, and on from there. What was
  left out are zeros, since `longestZeros` finds a run of them.

  - `readGroups_written`: groups with colons between them.
  - `longestZeros_isRun`: what is left out.
  - `read?_chars`: an address is read back from its text; `Network.read_text`, `Acl.read_entries`: so are networks
    and lists of callers.
-/

import Mathlib.Data.List.Induction
import TunnelBroker.Acl
import TunnelBroker.Proofs.Digits

namespace TunnelBroker.Net

open TunnelBroker.Text (Stops isDigit digitsOf takeWhile_append dropWhile_append isDigit_of_mem stops_cons
  stops_joined)

variable {rest : List Char}

/-! ## IPv4 -/

theorem readPart?_digitsOf {n : Nat} (hn : n < 256) (hrest : Stops isDigit rest) :
    readPart? (digitsOf n ++ rest) = some (BitVec.ofNat 8 n, rest) := by
  have hdigits : ∀ c ∈ digitsOf n, isDigit c = true := fun c hc => isDigit_of_mem hc
  have hshort : (digitsOf n).length ≤ 3 := (Text.length_digitsOf_le (by decide)).mpr (by omega)
  have hsmall : ¬ 255 < n := by omega
  have hlead : ¬ (1 < (digitsOf n).length ∧ (digitsOf n).head? = some '0') := by
    rintro ⟨hlong, hzero⟩
    exact Text.head?_digitsOf hlong hzero
  unfold readPart?
  rw [takeWhile_append hdigits hrest, dropWhile_append hdigits hrest]
  simp only [Text.ofDigits_digitsOf, Bool.or_eq_true, Bool.and_eq_true, decide_eq_true_eq, List.isEmpty_iff,
    Text.digitsOf_ne_nil, hsmall, hlead, false_or, or_false]
  rw [if_neg (by omega)]

theorem toNat_append {w v : Nat} (x : BitVec w) (y : BitVec v) : (x ++ y).toNat = x.toNat * 2 ^ v + y.toNat := by
  rw [BitVec.toNat_append, ← Nat.shiftLeft_add_eq_or_of_lt y.isLt, Nat.shiftLeft_eq]

theorem toNat_extract_lt (a : BitVec 32) (i : Nat) : (a.extractLsb' i 8).toNat < 256 := (a.extractLsb' i 8).isLt

theorem readV4?_textV4 (a : BitVec 32) (hrest : Stops isDigit rest) : readV4? (textV4 a ++ rest) = some (a, rest) := by
  have hdot (cs : List Char) : Stops isDigit ('.' :: cs) := stops_cons.mpr rfl
  have hpart (i : Nat) {cs : List Char} (hcs : Stops isDigit cs) :
      readPart? (digitsOf (a.extractLsb' i 8).toNat ++ cs) = some (a.extractLsb' i 8, cs) := by
    rw [readPart?_digitsOf (toNat_extract_lt a i) hcs, BitVec.ofNat_toNat, BitVec.setWidth_eq]
  have hword : a.extractLsb' 24 8 ++ a.extractLsb' 16 8 ++ a.extractLsb' 8 8 ++ a.extractLsb' 0 8 = a := by
    apply BitVec.eq_of_toNat_eq
    simp only [toNat_append, BitVec.extractLsb'_toNat, Nat.shiftRight_eq_div_pow]
    have hlt := a.isLt
    omega
  unfold readV4? textV4
  simp only [List.append_assoc, List.cons_append, hpart _ (hdot _), hpart _ hrest, eat?, if_true, Option.bind_eq_bind,
    Option.bind_some, hword]
  rfl

/-- What does not go on with a point after its first digits is not an IPv4 address. -/
theorem readV4?_eq_none {cs : List Char} (h : Stops (· == '.') (cs.dropWhile isDigit)) : readV4? cs = none := by
  unfold readV4? readPart?
  dsimp only
  split
  · rfl
  · simp only [Option.bind_eq_bind, Option.bind_some]
    have heat : eat? '.' (cs.dropWhile isDigit) = none := by
      cases hcs : cs.dropWhile isDigit with
      | nil => rfl
      | cons c more =>
        rw [hcs, stops_cons, beq_eq_false_iff_ne] at h
        exact if_neg h
    rw [heat]
    rfl

/-! ## Groups -/

/-- What follows a text of digits and letters shows up after its first digits, or a letter does. -/
theorem stops_dot_dropWhile {ds : List Char} (hds : ∀ c ∈ ds, isHexDigit c = true) (hdigit : Stops isDigit rest)
    (hdot : Stops (· == '.') rest) : Stops (· == '.') ((ds ++ rest).dropWhile isDigit) := by
  induction ds with
  | nil =>
    rw [List.nil_append, Text.dropWhile_of_stops hdigit]
    exact hdot
  | cons d ds ih =>
    obtain ⟨hd, hmore⟩ := List.forall_mem_cons.mp hds
    rw [List.cons_append, List.dropWhile_cons]
    split
    · exact ih hmore
    · rw [stops_cons, beq_eq_false_iff_ne]
      rintro rfl
      exact absurd hd (by decide)

theorem readGroup?_hexDigitsOf (g : BitVec 16) (hrest : Stops isHexDigit rest) :
    readGroup? (hexDigitsOf g.toNat ++ rest) = some (g, rest) := by
  have hdigits : ∀ c ∈ hexDigitsOf g.toNat, isHexDigit c = true := fun c hc => isHexDigit_of_mem hc
  have hshort : (hexDigitsOf g.toNat).length ≤ 4 := (length_hexDigitsOf_le (by decide)).mpr g.isLt
  unfold readGroup?
  rw [takeWhile_append hdigits hrest, dropWhile_append hdigits hrest]
  simp only [ofHexDigits_hexDigitsOf, Bool.or_eq_true, decide_eq_true_eq, List.isEmpty_iff, hexDigitsOf_ne_nil, false_or,
    BitVec.ofNat_toNat, BitVec.setWidth_eq]
  rw [if_neg (by omega)]

/-- Groups as they are written; a colon stands before the first one too unless it begins the text. -/
def written (first : Bool) (groups : List (BitVec 16)) : List Char :=
  Text.joined ':' first (groups.map fun g => hexDigitsOf g.toNat)

theorem written_cons (first : Bool) (g : BitVec 16) (more : List (BitVec 16)) :
    written first (g :: more) = (if first then [] else [':']) ++ hexDigitsOf g.toNat ++ written false more :=
  Text.joined_cons ..

/-- Nothing that could be a group comes next. -/
structure EndsGroups (first : Bool) (rest : List Char) : Prop where
  hex : Stops isHexDigit rest
  dot : Stops (· == '.') rest
  none (room : Nat) : readGroups room first rest = ⟨[], false, rest⟩

theorem EndsGroups.digit {first : Bool} (h : EndsGroups first rest) : Stops isDigit rest := by
  intro c more he
  have hhex : isHexDigit c = false := h.hex c more he
  unfold isHexDigit hexValue? at hhex
  cases hdigit : isDigit c with
  | false => rfl
  | true =>
    rw [hdigit] at hhex
    cases hhex

theorem EndsGroups.nil (first : Bool) : EndsGroups first [] where
  hex := .nil
  dot := .nil
  none room := by
    cases room with
    | zero => rfl
    | succ room =>
      cases first with
      | false => simp [readGroups, eat?]
      | true => simp [readGroups, readV4?, readPart?, readGroup?]

/-- Groups end where some were left out. -/
theorem EndsGroups.gap (first : Bool) (more : List Char) : EndsGroups first (':' :: ':' :: more) where
  hex := stops_cons.mpr (by decide)
  dot := stops_cons.mpr (by decide)
  none room := by
    have hv4 (cs : List Char) : readV4? (':' :: cs) = Option.none :=
      readV4?_eq_none (stops_cons.mpr (by decide))
    have hgroup (cs : List Char) : readGroup? (':' :: cs) = Option.none := by
      simp [readGroup?, show isHexDigit ':' = false by decide]
    cases room with
    | zero => rfl
    | succ room =>
      cases first with
      | false => simp [readGroups, eat?, hv4, hgroup]
      | true => simp [readGroups, hv4, hgroup]

/-- Groups are read back up to what ends them. -/
theorem readGroups_written {groups : List (BitVec 16)} {room : Nat} {first : Bool} (hroom : groups.length ≤ room)
    (hrest : EndsGroups (first && groups.isEmpty) rest) :
    readGroups room first (written first groups ++ rest) = ⟨groups, false, rest⟩ := by
  induction groups generalizing room first with
  | nil =>
    rw [show written first [] = [] from Text.joined_nil ':' first, List.nil_append]
    simpa using hrest.none room
  | cons g more ih =>
    have hend : EndsGroups false rest := by simpa using hrest
    obtain ⟨room, rfl⟩ : ∃ n, room = n + 1 := ⟨room - 1, by simp at hroom; omega⟩
    have hhex : Stops isHexDigit (written false more ++ rest) := stops_joined (by decide) hend.hex
    have hv4 : readV4? (hexDigitsOf g.toNat ++ (written false more ++ rest)) = none :=
      readV4?_eq_none <| stops_dot_dropWhile (fun c hc => isHexDigit_of_mem hc)
        (stops_joined (by decide) hend.digit) (stops_joined (by decide) hend.dot)
    have hbody : (if first then some (written first (g :: more) ++ rest)
        else eat? ':' (written first (g :: more) ++ rest)) = some (hexDigitsOf g.toNat ++ (written false more ++ rest)) := by
      rw [written_cons]
      cases first with
      | false => simp [eat?]
      | true => simp
    have hmore : readGroups room false (written false more ++ rest) = ⟨more, false, rest⟩ :=
      ih (Nat.le_of_succ_le_succ hroom) (by simpa using hend)
    unfold readGroups
    simp only [hbody, Option.bind_some, hv4, ite_self, readGroup?_hexDigitsOf g hhex, hmore]

/-! ## The word of eight groups -/

theorem toNat_shift_or {n : BitVec 128} (h : n.toNat < 2 ^ 112) (g : BitVec 16) :
    ((n <<< 16) ||| g.setWidth 128).toNat = n.toNat * 2 ^ 16 + g.toNat := by
  have hg := g.isLt
  have hn : n.toNat * 2 ^ 16 < 2 ^ 128 := by omega
  rw [BitVec.toNat_or, BitVec.toNat_shiftLeft, BitVec.toNat_setWidth, Nat.shiftLeft_eq, Nat.mod_eq_of_lt hn,
    Nat.mod_eq_of_lt (Nat.lt_trans hg (by decide)), ← Nat.shiftLeft_eq, ← Nat.shiftLeft_add_eq_or_of_lt hg]

/-- At most eight groups are the digits of their word. -/
theorem toNat_ofGroups {groups : List (BitVec 16)} (h : groups.length ≤ 8) :
    (ofGroups groups).toNat = groups.foldl (fun n g => n * 2 ^ 16 + g.toNat) 0 ∧
      (ofGroups groups).toNat < 2 ^ (16 * groups.length) := by
  induction groups using List.reverseRecOn with
  | nil => exact ⟨rfl, by decide⟩
  | append_singleton groups g ih =>
    rw [List.length_append, List.length_singleton] at h ⊢
    obtain ⟨hvalue, hbound⟩ := ih (by omega)
    have hsmall : (ofGroups groups).toNat < 2 ^ 112 :=
      Nat.lt_of_lt_of_le hbound (Nat.pow_le_pow_right (by decide) (by omega))
    have hword : ofGroups (groups ++ [g]) = (ofGroups groups <<< 16) ||| g.setWidth 128 := by
      simp [ofGroups, List.foldl_append]
    rw [hword, toNat_shift_or hsmall, List.foldl_append, ← hvalue]
    refine ⟨rfl, ?_⟩
    have hg := g.isLt
    rw [Nat.mul_add, Nat.pow_add]
    omega

/-- One group more of a number that is read from its highest group on. -/
theorem shiftRight_step (n k : Nat) : n >>> (k + 16) * 2 ^ 16 + n >>> k % 2 ^ 16 = n >>> k := by
  rw [Nat.shiftRight_add, Nat.shiftRight_eq_div_pow (n >>> k) 16]
  omega

theorem ofGroups_toGroups (a : BitVec 128) : ofGroups (toGroups a) = a := by
  have hcount : (toGroups a).length ≤ 8 := by simp [toGroups]
  have hhighest : 0 * 2 ^ 16 + a.toNat >>> 112 % 2 ^ 16 = a.toNat >>> (96 + 16) := by
    rw [Nat.shiftRight_eq_div_pow]
    have hlt := a.isLt
    omega
  apply BitVec.eq_of_toNat_eq
  rw [(toNat_ofGroups hcount).1]
  simp only [toGroups, List.map_cons, List.map_nil, List.foldl_cons, List.foldl_nil, BitVec.extractLsb'_toNat]
  rw [hhighest, shiftRight_step _ 96, shiftRight_step _ 80, shiftRight_step _ 64, shiftRight_step _ 48,
    shiftRight_step _ 32, shiftRight_step _ 16, shiftRight_step _ 0, Nat.shiftRight_zero]

/-- The groups of an address that maps an IPv4 address. -/
theorem ofGroups_mapped {a : BitVec 128} (h : a.extractLsb' 32 96 = 0xffff) :
    ofGroups (List.replicate 5 0 ++ [0xffff, (a.extractLsb' 0 32).extractLsb' 16 16, (a.extractLsb' 0 32).extractLsb' 0 16])
      = a := by
  have hhigh : a.toNat / 2 ^ 32 = 65535 := by
    have hword : a.toNat / 2 ^ 32 % 2 ^ 96 = 65535 := by
      rw [← Nat.shiftRight_eq_div_pow, ← BitVec.extractLsb'_toNat, h]
      rfl
    have hlt := a.isLt
    omega
  have hlow : a.toNat % 2 ^ 32 / 2 ^ 16 % 2 ^ 16 * 2 ^ 16 + a.toNat % 2 ^ 32 % 2 ^ 16 = a.toNat % 2 ^ 32 := by omega
  have hzero : (0 : BitVec 16).toNat = 0 := by decide
  have hmark : (0xffff : BitVec 16).toNat = 65535 := by decide
  apply BitVec.eq_of_toNat_eq
  rw [(toNat_ofGroups (by simp)).1]
  simp only [List.replicate, List.cons_append, List.nil_append, List.foldl_cons, List.foldl_nil, BitVec.extractLsb'_toNat,
    Nat.shiftRight_eq_div_pow, hzero, hmark, Nat.zero_mul, Nat.zero_add, Nat.pow_zero, Nat.div_one]
  rw [Nat.add_mul, Nat.add_assoc, hlow]
  clear hzero hmark hlow h
  omega

/-! ## Zeros that are left out -/

/-- The run is one of zeros among the groups. -/
def ZeroRun.IsRun (r : ZeroRun) (groups : List (BitVec 16)) : Prop :=
  r.start + r.length ≤ groups.length ∧ (groups.drop r.start).take r.length = List.replicate r.length 0

namespace ZeroRun.IsRun

variable {r : ZeroRun} {groups : List (BitVec 16)}

theorem append (h : r.IsRun groups) (g : BitVec 16) : r.IsRun (groups ++ [g]) := by
  obtain ⟨hle, hzero⟩ := h
  refine ⟨by rw [List.length_append]; omega, ?_⟩
  rw [List.drop_append_of_le_length (by omega), List.take_append_of_le_length (by rw [List.length_drop]; omega), hzero]

/-- A run that ends with the groups goes on with one more zero. -/
theorem snoc (h : r.IsRun groups) (hend : r.start + r.length = groups.length) :
    (ZeroRun.mk r.start (r.length + 1)).IsRun (groups ++ [0]) := by
  obtain ⟨-, hzero⟩ := h
  have hall : groups.drop r.start = List.replicate r.length 0 := by
    rw [← hzero, List.take_of_length_le (by rw [List.length_drop]; omega)]
  refine ⟨?_, ?_⟩
  · rw [List.length_append, List.length_singleton, ← hend]
    exact Nat.le_refl _
  · rw [List.drop_append_of_le_length (Nat.le.intro hend), hall, List.replicate_succ', List.take_of_length_le (by simp)]

/-- The groups, with the run in its place. -/
theorem split (h : r.IsRun groups) :
    groups.take r.start ++ List.replicate r.length 0 ++ groups.drop (r.start + r.length) = groups := by
  obtain ⟨-, hzero⟩ := h
  rw [← hzero, List.append_assoc, ← List.drop_drop, List.take_append_drop, List.take_append_drop]

end ZeroRun.IsRun

/-- The run that is found is one. Before the groups that are left, `current` is the run that ends there, if there is
one, and `longest` is some run. -/
theorem longestZeros_isRun {before groups : List (BitVec 16)} {current longest : ZeroRun}
    (hcurrent : current.length ≠ 0 → current.IsRun before ∧ current.start + current.length = before.length)
    (hlongest : longest.IsRun before) :
    (longestZeros before.length current longest groups).IsRun (before ++ groups) := by
  induction groups generalizing before current longest with
  | nil => simpa [longestZeros] using hlongest
  | cons g rest ih =>
    have hlength : (before ++ [g]).length = before.length + 1 := by simp
    have hassoc : before ++ g :: rest = (before ++ [g]) ++ rest := by simp
    unfold longestZeros
    rw [hassoc, ← hlength]
    split
    · rename_i hg
      subst hg
      have hnext : (ZeroRun.mk (if current.length = 0 then before.length else current.start) (current.length + 1)).IsRun
          (before ++ [0]) := by
        split
        · rename_i hnone
          rw [hnone]
          exact ⟨by simp, by simp⟩
        · rename_i hsome
          exact (hcurrent hsome).1.snoc (hcurrent hsome).2
      have hends : (if current.length = 0 then before.length else current.start) + (current.length + 1) =
          (before ++ [(0 : BitVec 16)]).length := by
        rw [hlength]
        split
        · rename_i hnone
          rw [hnone]
        · rename_i hsome
          rw [← (hcurrent hsome).2, Nat.add_assoc]
      exact ih (fun _ => ⟨hnext, hends⟩) <|
        iteInduction (motive := fun r : ZeroRun => r.IsRun (before ++ [0])) (fun _ => hnext) fun _ => hlongest.append 0
    · exact ih (fun hlength => absurd rfl hlength) (hlongest.append g)

/-! ## IPv6 -/

/-- All eight groups are written. -/
theorem readV6?_written {groups : List (BitVec 16)} (h : groups.length = 8) :
    readV6? (textGroups groups) = some (ofGroups groups, []) := by
  have hread : readGroups 8 true (textGroups groups) = ⟨groups, false, []⟩ := by
    have hwritten : readGroups 8 true (written true groups ++ []) = _ :=
      readGroups_written (Nat.le_of_eq h) (.nil (true && groups.isEmpty))
    rwa [List.append_nil] at hwritten
  unfold readV6?
  rw [hread]
  exact if_pos h

/-- Some groups are left out, which are zeros. -/
theorem readV6?_gap {head tail : List (BitVec 16)} {n : Nat} (hn : 0 < n) (h : head.length + n + tail.length = 8) :
    readV6? (textGroups head ++ [':', ':'] ++ textGroups tail) = some (ofGroups (head ++ List.replicate n 0 ++ tail), []) := by
  have hhead : readGroups 8 true (textGroups head ++ [':', ':'] ++ textGroups tail) =
      ⟨head, false, ':' :: ':' :: textGroups tail⟩ := by
    rw [List.append_assoc]
    exact readGroups_written (by omega) (.gap _ _)
  have htail : readGroups (7 - head.length) true (textGroups tail) = ⟨tail, false, []⟩ := by
    have hwritten : readGroups (7 - head.length) true (written true tail ++ []) = _ :=
      readGroups_written (by omega) (.nil (true && tail.isEmpty))
    rwa [List.append_nil] at hwritten
  have hgap : 8 - head.length - tail.length = n := by omega
  unfold readV6?
  simp only [hhead, show ¬ head.length = 8 by omega, if_false, Bool.false_eq_true, eat?, if_true, Option.bind_eq_bind,
    Option.bind_some, htail, hgap]
  rfl

/-- The last two groups are written as an IPv4 address. -/
theorem readV6?_mapped {a : BitVec 128} (h : a.extractLsb' 32 96 = 0xffff) :
    readV6? ([':', ':', 'f', 'f', 'f', 'f', ':'] ++ textV4 (a.extractLsb' 0 32)) = some (a, []) := by
  have hmark : readGroup? (['f', 'f', 'f', 'f'] ++ ':' :: textV4 (a.extractLsb' 0 32)) =
      some (0xffff, ':' :: textV4 (a.extractLsb' 0 32)) :=
    readGroup?_hexDigitsOf 0xffff (stops_cons.mpr (by decide))
  have hnotV4 : readV4? (['f', 'f', 'f', 'f'] ++ ':' :: textV4 (a.extractLsb' 0 32)) = none :=
    readV4?_eq_none (stops_cons.mpr (by decide))
  have hv4 : readV4? (textV4 (a.extractLsb' 0 32)) = some (a.extractLsb' 0 32, []) := by
    have hread := readV4?_textV4 (a.extractLsb' 0 32) .nil
    rwa [List.append_nil] at hread
  have hlast : readGroups 6 false (':' :: textV4 (a.extractLsb' 0 32)) =
      ⟨[(a.extractLsb' 0 32).extractLsb' 16 16, (a.extractLsb' 0 32).extractLsb' 0 16], true, []⟩ := by
    unfold readGroups
    simp [eat?, hv4]
  have htail : readGroups 7 true (['f', 'f', 'f', 'f'] ++ ':' :: textV4 (a.extractLsb' 0 32)) =
      ⟨[0xffff, (a.extractLsb' 0 32).extractLsb' 16 16, (a.extractLsb' 0 32).extractLsb' 0 16], true, []⟩ := by
    unfold readGroups
    simp only [if_true, Option.bind_some, hnotV4, ite_self, hmark, hlast]
  have hhead := (EndsGroups.gap true (['f', 'f', 'f', 'f'] ++ ':' :: textV4 (a.extractLsb' 0 32))).none 8
  unfold readV6?
  rw [show ([':', ':', 'f', 'f', 'f', 'f', ':'] ++ textV4 (a.extractLsb' 0 32) : List Char) =
    ':' :: ':' :: (['f', 'f', 'f', 'f'] ++ ':' :: textV4 (a.extractLsb' 0 32)) from rfl]
  simp only [hhead, List.length_nil, show ¬ 0 = 8 by decide, if_false, Bool.false_eq_true, eat?, if_true,
    Option.bind_eq_bind, Option.bind_some, Nat.sub_zero, htail]
  rw [show 8 - [(0xffff : BitVec 16), (a.extractLsb' 0 32).extractLsb' 16 16, (a.extractLsb' 0 32).extractLsb' 0 16].length
    = 5 from rfl, List.nil_append, ofGroups_mapped h]
  rfl

theorem readV6?_textV6 (a : BitVec 128) : readV6? (textV6 a) = some (a, []) := by
  unfold textV6
  split
  · rename_i hmapped
    exact readV6?_mapped hmapped
  · have hcount : (toGroups a).length = 8 := by simp [toGroups]
    have hrun : (longestZeros 0 ⟨0, 0⟩ ⟨0, 0⟩ (toGroups a)).IsRun (toGroups a) :=
      @longestZeros_isRun [] _ _ _ (fun h => absurd rfl h) ⟨Nat.le_refl 0, rfl⟩
    dsimp only
    split
    · rename_i hlong
      rw [readV6?_gap (n := (longestZeros 0 ⟨0, 0⟩ ⟨0, 0⟩ (toGroups a)).length), hrun.split, ofGroups_toGroups]
      · exact Nat.lt_of_succ_lt hlong
      · have hle := hrun.1
        rw [List.length_take, List.length_drop]
        omega
    · rw [readV6?_written hcount, ofGroups_toGroups]

/-- Groups are not taken for an IPv4 address. -/
theorem readV4?_written {groups : List (BitVec 16)} (hrest : EndsGroups groups.isEmpty rest) :
    readV4? (textGroups groups ++ rest) = none := by
  cases groups with
  | nil => exact readV4?_eq_none (stops_dot_dropWhile (List.forall_mem_nil _) hrest.digit hrest.dot)
  | cons g more =>
    rw [show textGroups (g :: more) = written true (g :: more) from rfl, written_cons, if_pos rfl, List.nil_append,
      List.append_assoc]
    exact readV4?_eq_none <| stops_dot_dropWhile (fun c hc => isHexDigit_of_mem hc)
      (stops_joined (by decide) hrest.digit) (stops_joined (by decide) hrest.dot)

theorem readV4?_textV6 (a : BitVec 128) : readV4? (textV6 a) = none := by
  unfold textV6
  split
  · exact readV4?_eq_none (stops_cons.mpr (by decide))
  · dsimp only
    split
    · rw [List.append_assoc]
      exact readV4?_written (.gap _ _)
    · rw [← List.append_nil (textGroups (toGroups a))]
      exact readV4?_written (.nil _)

/-! ## Addresses -/

/-- An address is read back from its text. -/
theorem IpAddr.read?_chars (ip : IpAddr) : IpAddr.read? ip.chars = some ip := by
  unfold IpAddr.read? readIp?
  cases ip with
  | v4 a =>
    have hread := readV4?_textV4 a .nil
    rw [List.append_nil] at hread
    simp [IpAddr.chars, hread]
  | v6 a => simp [IpAddr.chars, readV4?_textV6, readV6?_textV6]

theorem IpAddr.width_le (ip : IpAddr) : ip.width ≤ 128 := by
  cases ip with
  | v4 a => exact (by decide : 32 ≤ 128)
  | v6 a => exact Nat.le_refl 128

/-- What the text of an address is made of. -/
def isAddressChar (c : Char) : Bool := isHexDigit c || c == ':' || c == '.'

theorem isAddressChar_of_isHexDigit {c : Char} (h : isHexDigit c = true) : isAddressChar c = true := by
  simp [isAddressChar, h]

theorem isAddressChar_of_mem_textV4 {a : BitVec 32} {c : Char} (h : c ∈ textV4 a) : isAddressChar c = true := by
  have hdigit (n : Nat) (hc : c ∈ digitsOf n) : isAddressChar c = true := by
    apply isAddressChar_of_isHexDigit
    rw [isHexDigit, hexValue?, if_pos (isDigit_of_mem hc)]
    rfl
  simp only [textV4, List.mem_append, List.mem_cons] at h
  rcases h with ((h | rfl | h) | rfl | h) | rfl | h
  · exact hdigit _ h
  · rfl
  · exact hdigit _ h
  · rfl
  · exact hdigit _ h
  · rfl
  · exact hdigit _ h

theorem isAddressChar_of_mem_textGroups {groups : List (BitVec 16)} {c : Char} (h : c ∈ textGroups groups) :
    isAddressChar c = true := by
  have hjoined : c ∈ Text.joined ':' true (groups.map fun g => hexDigitsOf g.toNat) := h
  rcases Text.mem_joined hjoined with rfl | ⟨t, ht, hc⟩
  · rfl
  · obtain ⟨g, -, rfl⟩ := List.mem_map.mp ht
    exact isAddressChar_of_isHexDigit (isHexDigit_of_mem hc)

theorem IpAddr.isAddressChar_of_mem {ip : IpAddr} {c : Char} (h : c ∈ ip.chars) : isAddressChar c = true := by
  have hmark : ∀ d ∈ [':', ':', 'f', 'f', 'f', 'f', ':'], isAddressChar d = true := List.all_eq_true.mp rfl
  have hgap : ∀ d ∈ [':', ':'], isAddressChar d = true := List.all_eq_true.mp rfl
  cases ip with
  | v4 a => exact isAddressChar_of_mem_textV4 h
  | v6 a =>
    simp only [IpAddr.chars, textV6] at h
    split at h
    · rcases List.mem_append.mp h with h | h
      · exact hmark c h
      · exact isAddressChar_of_mem_textV4 h
    · split at h
      · rw [List.mem_append, List.mem_append] at h
        rcases h with (h | h) | h
        · exact isAddressChar_of_mem_textGroups h
        · exact hgap c h
        · exact isAddressChar_of_mem_textGroups h
      · exact isAddressChar_of_mem_textGroups h

theorem toNat_of_isHexDigit {c : Char} (h : isHexDigit c = true) : 48 ≤ c.toNat ∧ c.toNat ≤ 102 := by
  unfold isHexDigit hexValue? at h
  split at h
  · rename_i hdigit
    obtain ⟨hlow, hhigh⟩ := Text.isDigit_iff.mp hdigit
    exact ⟨hlow, Nat.le_trans hhigh (by decide)⟩
  · simp only [Bool.and_eq_true, decide_eq_true_eq, Char.le_def, UInt32.le_iff_toNat_le] at h
    split at h
    · rename_i hlower
      exact ⟨Nat.le_trans (by decide) hlower.1, hlower.2⟩
    · split at h
      · rename_i hupper
        exact ⟨Nat.le_trans (by decide) hupper.1, Nat.le_trans hupper.2 (by decide)⟩
      · cases h

/-- There are no blanks in addresses. -/
theorem isBlank_of_isAddressChar {c : Char} (h : isAddressChar c = true) : Text.isBlank c = false := by
  have hrange : 46 ≤ c.toNat ∧ c.toNat ≤ 102 := by
    simp only [isAddressChar, Bool.or_eq_true, beq_iff_eq] at h
    rcases h with (hhex | rfl) | rfl
    · obtain ⟨hlow, hhigh⟩ := toNat_of_isHexDigit hhex
      exact ⟨Nat.le_trans (by decide) hlow, hhigh⟩
    · decide
    · decide
  simp only [Text.isBlank, Bool.or_eq_false_iff, Bool.and_eq_false_iff, decide_eq_false_iff_not, beq_eq_false_iff_ne]
  omega

end TunnelBroker.Net

namespace TunnelBroker

open TunnelBroker.Net (IpAddr isAddressChar)

/-! ## Networks -/

namespace Text

/-- There are no blanks that do not count. -/
theorem trim_of_no_blank {cs : List Char} (h : ∀ c ∈ cs, isBlank c = false) : trim cs = cs := by
  have hreverse : ∀ c ∈ cs.reverse, isBlank c = false := fun c hc => h c (List.mem_reverse.mp hc)
  rw [trim, trimStart, dropWhile_of_stops (Stops.of_mem h), trimEnd, dropWhile_of_stops (Stops.of_mem hreverse),
    List.reverse_reverse]

theorem cut?_of_not_mem {sep : Char} {cs : List Char} (h : sep ∉ cs) : cut? sep cs = none := by
  induction cs with
  | nil => rfl
  | cons c cs ih =>
    rw [List.mem_cons, not_or] at h
    rw [cut?, if_neg (Ne.symm h.1), ih h.2]
    rfl

theorem cut?_append {sep : Char} {before : List Char} (h : sep ∉ before) (after : List Char) :
    cut? sep (before ++ sep :: after) = some (before, after) := by
  induction before with
  | nil => exact if_pos rfl
  | cons c before ih =>
    rw [List.mem_cons, not_or] at h
    rw [List.cons_append, cut?, if_neg (Ne.symm h.1), ih h.2]
    rfl

end Text

namespace Network

theorem isBlank_of_mem {n : Network} {c : Char} (h : c ∈ n.chars) : Text.isBlank c = false := by
  unfold chars at h
  split at h
  · exact Net.isBlank_of_isAddressChar (IpAddr.isAddressChar_of_mem h)
  · rcases List.mem_append.mp h with h | h
    · exact Net.isBlank_of_isAddressChar (IpAddr.isAddressChar_of_mem h)
    · rcases List.mem_cons.mp h with rfl | h
      · decide
      · obtain ⟨hlow, hhigh⟩ := Text.isDigit_iff.mp (Text.isDigit_of_mem h)
        simp only [Text.isBlank, Bool.or_eq_false_iff, Bool.and_eq_false_iff, decide_eq_false_iff_not,
          beq_eq_false_iff_ne]
        omega

/-- A network is read back from its text. -/
theorem read_text (n : Network) : read n.text = .ok n := by
  obtain ⟨ip, bits, hbits⟩ := n
  have hslash : '/' ∉ ip.chars := by
    intro h
    exact absurd (IpAddr.isAddressChar_of_mem h) (by decide)
  unfold read
  rw [text, String.toList_ofList, Text.trim_of_no_blank fun c hc => isBlank_of_mem hc]
  unfold chars
  split
  · rename_i hall
    have hbits' : bits = ip.width := hall
    subst hbits'
    simp only [Text.cut?_of_not_mem hslash, IpAddr.read?_chars]
  · have hwidth := ip.width_le
    have hread : Text.unsigned? 255 (Text.digitsOf bits) = some bits := Text.unsigned?_digitsOf (by omega)
    simp only [Text.cut?_append hslash, IpAddr.read?_chars, hread, Option.bind_some, make?, hbits, dif_pos]

end Network

/-- A list of callers is read back from its entries. -/
theorem Acl.read_entries (acl : Acl) : Acl.read acl.entries = .ok acl := by
  have hnetworks : acl.entries.mapM Network.read = .ok acl.networks := by
    rw [mapM_ok_iff, Acl.entries, List.forall₂_map_left_iff, List.forall₂_same]
    exact fun n _ => Network.read_text n
  rw [Acl.read, hnetworks]
  rfl

end TunnelBroker
