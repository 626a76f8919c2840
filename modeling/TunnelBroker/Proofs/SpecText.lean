/-
  TunnelBroker.Proofs.SpecText — forwards that are written and read back.

  The writer puts brackets around a host with a colon unless it starts with one, the reader takes a segment in brackets
  up to the first that closes, and whoever listens on a host takes any number of brackets off its ends. The three agree
  on hosts without brackets.

  - `isAddressChar_of_read?`: what is read as an address is made of the characters of addresses.
  - `segments_append_plain`: a last segment does not change how the text before it is cut.
  - `segments_bracketed_iff`: which hosts a reader takes as one segment when they are written.
  - `text_reads_back_iff`: of which valid forwards the text denotes the same endpoints.
-/

import TunnelBroker.Forward.Spec
import TunnelBroker.Proofs.AddressText

namespace TunnelBroker

/-! ## What is read as an address -/

namespace Net

/-- The reader went over characters of addresses only. -/
def Passes (cs rest : List Char) : Prop := ∃ before, cs = before ++ rest ∧ ∀ c ∈ before, isAddressChar c = true

section

variable {cs rest rest' : List Char}

theorem Passes.refl (cs : List Char) : Passes cs cs := ⟨[], rfl, fun _ hc => by cases hc⟩

theorem Passes.trans (h : Passes cs rest) (h' : Passes rest rest') : Passes cs rest' := by
  obtain ⟨before, rfl, hbefore⟩ := h
  obtain ⟨before', rfl, hbefore'⟩ := h'
  exact ⟨before ++ before', (List.append_assoc ..).symm, List.forall_mem_append.mpr ⟨hbefore, hbefore'⟩⟩

theorem Passes.dropWhile {p : Char → Bool} (h : ∀ c, p c = true → isAddressChar c = true) (cs : List Char) :
    Passes cs (cs.dropWhile p) :=
  ⟨cs.takeWhile p, List.takeWhile_append_dropWhile.symm, fun c hc => h c (List.all_eq_true.mp List.all_takeWhile c hc)⟩

theorem isAddressChar_of_isDigit {c : Char} (h : Text.isDigit c = true) : isAddressChar c = true := by
  apply isAddressChar_of_isHexDigit
  rw [isHexDigit, hexValue?, if_pos h]
  rfl

theorem Passes.eat? {c : Char} (hc : isAddressChar c = true) (h : Net.eat? c cs = some rest) : Passes cs rest := by
  cases cs with
  | nil => cases h
  | cons d cs =>
    by_cases hd : d = c
    · rw [Net.eat?, if_pos hd] at h
      cases h
      exact ⟨[d], rfl, fun e he => by rw [List.mem_singleton.mp he, hd]; exact hc⟩
    · rw [Net.eat?, if_neg hd] at h
      cases h

theorem Passes.readPart? {a : BitVec 8} (h : Net.readPart? cs = some (a, rest)) : Passes cs rest := by
  unfold Net.readPart? at h
  dsimp only at h
  split at h
  · cases h
  · cases h
    exact .dropWhile (fun _ => isAddressChar_of_isDigit) cs

theorem Passes.readV4? {a : BitVec 32} (h : Net.readV4? cs = some (a, rest)) : Passes cs rest := by
  have hdot : isAddressChar '.' = true := rfl
  simp only [Net.readV4?, Option.bind_eq_bind, Option.bind_eq_some_iff] at h
  obtain ⟨⟨a₁, r₁⟩, h₁, s₁, e₁, ⟨a₂, r₂⟩, h₂, s₂, e₂, ⟨a₃, r₃⟩, h₃, s₃, e₃, ⟨a₄, r₄⟩, h₄, hlast⟩ := h
  cases hlast
  have hfirst := (Passes.readPart? h₁).trans ((Passes.eat? hdot e₁).trans (.readPart? h₂))
  have hsecond := (Passes.readPart? h₃).trans ((Passes.eat? hdot e₃).trans (.readPart? h₄))
  exact hfirst.trans ((Passes.eat? hdot e₂).trans hsecond)

theorem Passes.readGroup? {g : BitVec 16} (h : Net.readGroup? cs = some (g, rest)) : Passes cs rest := by
  unfold Net.readGroup? at h
  dsimp only at h
  split at h
  · cases h
  · cases h
    exact .dropWhile (fun _ => isAddressChar_of_isHexDigit) cs

theorem Passes.readGroups (room : Nat) (first : Bool) (cs : List Char) :
    Passes cs (Net.readGroups room first cs).rest := by
  induction room generalizing first cs with
  | zero => exact .refl cs
  | succ room ih =>
    have hbody {body : List Char} (h : (if first then some cs else Net.eat? ':' cs) = some body) : Passes cs body := by
      cases first with
      | true => cases h; exact .refl cs
      | false => exact .eat? rfl h
    unfold Net.readGroups
    dsimp only
    split
    · rename_i a rest hv4
      split at hv4
      · obtain ⟨body, hb, hread⟩ := Option.bind_eq_some_iff.mp hv4
        exact (hbody hb).trans (.readV4? hread)
      · cases hv4
    · split
      · rename_i g rest hgroup
        obtain ⟨body, hb, hread⟩ := Option.bind_eq_some_iff.mp hgroup
        exact ((hbody hb).trans (.readGroup? hread)).trans (ih false rest)
      · exact .refl cs

theorem Passes.readV6? {a : BitVec 128} (h : Net.readV6? cs = some (a, rest)) : Passes cs rest := by
  have hhead := Passes.readGroups 8 true cs
  unfold Net.readV6? at h
  dsimp only at h
  split at h
  · cases h
    exact hhead
  · split at h
    · cases h
    · simp only [Option.bind_eq_bind, Option.bind_eq_some_iff] at h
      obtain ⟨r₁, e₁, r₂, e₂, hlast⟩ := h
      cases hlast
      exact hhead.trans ((Passes.eat? rfl e₁).trans ((Passes.eat? rfl e₂).trans (.readGroups ..)))

theorem isAddressChar_of_read? {ip : IpAddr} (h : IpAddr.read? cs = some ip) : ∀ c ∈ cs, isAddressChar c = true := by
  have hpasses : Passes cs [] := by
    unfold IpAddr.read? at h
    split at h
    · rename_i ip' hread
      unfold readIp? at hread
      split at hread
      · rename_i a rest hv4
        cases hread
        exact .readV4? hv4
      · obtain ⟨⟨a, rest⟩, hv6, he⟩ := Option.map_eq_some_iff.mp hread
        cases he
        exact .readV6? hv6
    · cases h
  obtain ⟨before, rfl, hbefore⟩ := hpasses
  rwa [List.append_nil]

theorem ne_nil_of_read? {ip : IpAddr} (h : IpAddr.read? cs = some ip) : cs ≠ [] := by
  rintro rfl
  cases h

end

end Net

/-! ## Cutting texts -/

namespace Text

variable {sep : Char} {cs before after : List Char}

theorem trimEnd_of_getLast {c : Char} (hc : isBlank c = false) (cs : List Char) : trimEnd (cs ++ [c]) = cs ++ [c] := by
  have hstops : Stops isBlank (c :: cs.reverse) := stops_cons.mpr hc
  rw [trimEnd, List.reverse_append, List.reverse_singleton, List.singleton_append, dropWhile_of_stops hstops,
    List.reverse_cons, List.reverse_reverse]

theorem not_mem_digitsOf {c : Char} (hc : isDigit c = false) (n : Nat) : c ∉ digitsOf n := fun h =>
  Bool.false_ne_true (hc.symm.trans (isDigit_of_mem h))

theorem not_mem_of_cut? (h : cut? sep cs = none) : sep ∉ cs := by
  intro hmem
  obtain ⟨before, after, hcs, hnot⟩ := List.eq_append_cons_of_mem hmem
  rw [hcs, cut?_append hnot] at h
  cases h

/-- What stands before the separator is passed. -/
theorem cut?_append_left (hbefore : sep ∉ before) (cs : List Char) :
    cut? sep (before ++ cs) = (cut? sep cs).map fun p => (before ++ p.1, p.2) := by
  cases hcut : cut? sep cs with
  | none =>
    have hnot : sep ∉ cs := not_mem_of_cut? hcut
    exact cut?_of_not_mem (by simp [hbefore, hnot])
  | some p =>
    obtain ⟨rfl, hnot⟩ := eq_of_cut? hcut
    rw [← List.append_assoc, cut?_append (by simp [hbefore, hnot])]
    rfl

end Text

/-! ## Segments -/

section

variable {cs rest inner : List Char} {c : Char} {parts : List (List Char)}

theorem segments_plain (hhead : cs.head? ≠ some '[') (hcolon : ':' ∉ cs) (rest : List Char) :
    segments (cs ++ ':' :: rest) = (segments rest).map (cs :: ·) := by
  have hhead' : (cs ++ ':' :: rest).head? ≠ some '[' := by
    cases cs with
    | nil => simp
    | cons c cs => exact hhead
  have hcut := Text.cut?_append hcolon rest
  rw [segments, if_neg hhead']
  split
  · rename_i hnone
    rw [hcut] at hnone
    cases hnone
  · rename_i segment rest' hsome
    rw [hcut] at hsome
    cases hsome
    rfl

theorem segments_last (hhead : cs.head? ≠ some '[') (hcolon : ':' ∉ cs) : segments cs = .ok [cs] := by
  have hcut := Text.cut?_of_not_mem hcolon
  rw [segments, if_neg hhead]
  split
  · rfl
  · rename_i hsome
    rw [hcut] at hsome
    cases hsome

/-- A text that starts with a bracket. -/
theorem segments_open (cs : List Char) : segments ('[' :: cs) =
    match Text.cut? ']' cs with
    | none => .error .unclosedBracket
    | some (inner, []) => .ok [inner]
    | some (inner, c :: rest) => if c = ':' then (segments rest).map (inner :: ·) else .error .missingColon := by
  rw [segments]
  simp only [List.head?_cons, if_true, List.tail_cons]
  split
  · rename_i hcut; rw [hcut]
  · rename_i hcut; rw [hcut]
  · rename_i hcut; rw [hcut]

theorem segments_closed (hinner : ']' ∉ inner) : segments ('[' :: (inner ++ [']'])) = .ok [inner] := by
  rw [segments_open, Text.cut?_append hinner]

theorem segments_bracketed (hinner : ']' ∉ inner) (rest : List Char) :
    segments ('[' :: (inner ++ ']' :: ':' :: rest)) = (segments rest).map (inner :: ·) := by
  rw [segments_open, Text.cut?_append hinner]
  exact if_pos rfl

theorem segments_closed_twice (hinner : ']' ∉ inner) (hc : c ≠ ':') (rest : List Char) :
    segments ('[' :: (inner ++ ']' :: c :: rest)) = .error .missingColon := by
  rw [segments_open, Text.cut?_append hinner]
  exact if_neg hc

theorem segments_cons_ok {cs' : List Char} (h : (segments cs').map (cs :: ·) = .ok parts) :
    ∃ more, segments cs' = .ok more ∧ parts = cs :: more := by
  cases hmore : segments cs' with
  | error fault => rw [hmore] at h; cases h
  | ok more => rw [hmore] at h; cases h; exact ⟨more, rfl, rfl⟩

/-- What is read of a text that starts with a bracket: up to the first that closes, and what comes after a colon. -/
theorem segments_open_ok (h : segments ('[' :: cs) = .ok parts) :
    ∃ inner after more, cs = inner ++ ']' :: after ∧ ']' ∉ inner ∧ parts = inner :: more ∧
      (after = [] ∧ more = [] ∨ ∃ rest, after = ':' :: rest ∧ segments rest = .ok more) := by
  rw [segments_open] at h
  split at h
  · cases h
  · rename_i inner hcut
    obtain ⟨rfl, hinner⟩ := Text.eq_of_cut? hcut
    cases h
    exact ⟨inner, [], [], rfl, hinner, rfl, .inl ⟨rfl, rfl⟩⟩
  · rename_i inner c rest hcut
    obtain ⟨rfl, hinner⟩ := Text.eq_of_cut? hcut
    split at h
    · rename_i hc
      obtain ⟨more, hmore, rfl⟩ := segments_cons_ok h
      exact ⟨inner, c :: rest, more, rfl, hinner, rfl, .inr ⟨rest, by rw [hc], hmore⟩⟩
    · cases h

/-- A text that starts with a bracket which is closed. -/
theorem eq_of_open (hopen : cs.head? = some '[') (hcut : Text.cut? ']' cs.tail = some (inner, rest)) :
    cs = '[' :: (inner ++ ']' :: rest) ∧ ']' ∉ inner := by
  obtain ⟨tail, rfl⟩ := List.head?_eq_some_iff.mp hopen
  obtain ⟨htail, hinner⟩ := Text.eq_of_cut? hcut
  exact ⟨congrArg ('[' :: ·) htail, hinner⟩

/-- The segments of a text are no longer than it, with what stands between them. -/
theorem length_segments_le (h : segments cs = .ok parts) :
    (parts.map fun part => part.length + 1).sum ≤ cs.length + 1 := by
  fun_induction segments cs generalizing parts with
  | case1 cs hopen hcut => cases h
  | case2 cs hopen inner hcut =>
    obtain ⟨rfl, -⟩ := eq_of_open hopen hcut
    cases h
    simp
  | case3 cs hopen inner rest hcut ih =>
    obtain ⟨rfl, -⟩ := eq_of_open hopen hcut
    obtain ⟨more, hmore, rfl⟩ := segments_cons_ok h
    have hle := ih hmore
    simp only [List.map_cons, List.sum_cons, List.length_append, List.length_cons]
    omega
  | case4 cs hopen inner c rest hcut hc => cases h
  | case5 cs hopen hcut =>
    cases h
    simp
  | case6 cs hopen segment rest hcut ih =>
    obtain ⟨rfl, -⟩ := Text.eq_of_cut? hcut
    obtain ⟨more, hmore, rfl⟩ := segments_cons_ok h
    have hle := ih hmore
    simp only [List.map_cons, List.sum_cons, List.length_append, List.length_cons]
    omega

/-- A last segment without colons and brackets does not change how the text before it is cut. -/
theorem segments_append_plain {last : List Char} (hhead : last.head? ≠ some '[') (hcolon : ':' ∉ last)
    (hbracket : ']' ∉ last) (cs : List Char) : segments (cs ++ ':' :: last) = (segments cs).map (· ++ [last]) := by
  have hlast := segments_last hhead hcolon
  fun_induction segments cs with
  | case1 cs hopen hcut =>
    obtain ⟨tail, rfl⟩ := List.head?_eq_some_iff.mp hopen
    have htail : ']' ∉ tail := Text.not_mem_of_cut? hcut
    have hnot : ']' ∉ tail ++ ':' :: last := by simp [htail, hbracket]
    rw [List.cons_append, segments_open, Text.cut?_of_not_mem hnot]
    rfl
  | case2 cs hopen inner hcut =>
    obtain ⟨rfl, hinner⟩ := eq_of_open hopen hcut
    rw [List.cons_append, List.append_assoc, List.singleton_append, segments_bracketed hinner, hlast]
    rfl
  | case3 cs hopen inner rest hcut ih =>
    obtain ⟨rfl, hinner⟩ := eq_of_open hopen hcut
    rw [List.cons_append, List.append_assoc, List.cons_append, List.cons_append, segments_bracketed hinner, ih]
    cases segments rest <;> rfl
  | case4 cs hopen inner c rest hcut hc =>
    obtain ⟨rfl, hinner⟩ := eq_of_open hopen hcut
    rw [List.cons_append, List.append_assoc, List.cons_append, List.cons_append, segments_closed_twice hinner hc]
    rfl
  | case5 cs hopen hcut =>
    rw [segments_plain hopen (Text.not_mem_of_cut? hcut), hlast]
    rfl
  | case6 cs hopen segment rest hcut ih =>
    obtain ⟨rfl, hsegment⟩ := Text.eq_of_cut? hcut
    have hplain : segment.head? ≠ some '[' := by
      cases segment with
      | nil => simp
      | cons c segment => exact hopen
    rw [List.append_assoc, List.cons_append, segments_plain hplain hsegment, ih]
    cases segments rest <;> rfl

theorem segments_ne_nil : segments cs ≠ .ok [] := by
  intro h
  unfold segments at h
  split at h
  · split at h
    · cases h
    · cases h
    · split at h
      · obtain ⟨more, -, hparts⟩ := segments_cons_ok h
        cases hparts
      · cases h
  · split at h
    · cases h
    · obtain ⟨more, -, hparts⟩ := segments_cons_ok h
      cases hparts

end

/-! ## Written hosts -/

namespace Forward

/-- A host without a bracket at its start. If it has colons, no bracket in it may close. -/
def isPlainHost (host : List Char) : Bool := host.head? != some '[' && !(host.contains ':' && host.contains ']')

/-- A host in brackets, of which the first that closes is the last character. -/
def isBracketedHost (host : List Char) : Bool :=
  host.head? == some '[' && (Text.cut? ']' host.tail).any (·.2.isEmpty)

section

variable {host inner rest : List Char} {h : String}

theorem isPlainHost_iff : isPlainHost host = true ↔ host.head? ≠ some '[' ∧ (':' ∈ host → ']' ∉ host) := by
  simp [isPlainHost, imp_iff_not_or]

theorem isBracketedHost_iff :
    isBracketedHost host = true ↔ ∃ inner, host = '[' :: (inner ++ [']']) ∧ ']' ∉ inner := by
  unfold isBracketedHost
  rw [Bool.and_eq_true, beq_iff_eq, Option.any_eq_true]
  constructor
  · rintro ⟨hopen, ⟨inner, rest⟩, hcut, hrest⟩
    obtain rfl : rest = [] := List.isEmpty_iff.mp hrest
    exact ⟨inner, eq_of_open hopen hcut⟩
  · rintro ⟨inner, rfl, hinner⟩
    exact ⟨rfl, (inner, []), Text.cut?_append hinner [], rfl⟩

/-- The writer puts brackets around a host with colons that does not start with one. -/
theorem bracketed_eq (h : String) : bracketed h =
    if h.toList.head? ≠ some '[' ∧ ':' ∈ h.toList then '[' :: (h.toList ++ [']']) else h.toList := by
  simp [bracketed, and_comm]

theorem length_bracketed_le (h : String) : (bracketed h).length ≤ h.toList.length + 2 := by
  rw [bracketed_eq]
  split
  · simp
  · exact Nat.le_add_right ..

/-- A plain host is one segment, whatever follows. -/
theorem segments_plainHost (hplain : isPlainHost h.toList = true) (rest : List Char) :
    segments (bracketed h ++ ':' :: rest) = (segments rest).map (h.toList :: ·) := by
  obtain ⟨hhead, hclosing⟩ := isPlainHost_iff.mp hplain
  rw [bracketed_eq]
  split
  · rename_i hcolon
    rw [List.cons_append, List.append_assoc]
    exact segments_bracketed (hclosing hcolon.2) rest
  · rename_i hcolon
    exact segments_plain hhead (fun hmem => hcolon ⟨hhead, hmem⟩) rest

/-- Only a plain host is read back from what is written for it. -/
theorem segments_bracketed_iff : segments (bracketed h) = .ok [h.toList] ↔ isPlainHost h.toList = true := by
  rw [bracketed_eq, isPlainHost_iff]
  constructor
  · intro hread
    have hhead : h.toList.head? ≠ some '[' := by
      -- what is read is shorter than the host, as the brackets are gone
      intro hopen
      rw [if_neg fun hcond => hcond.1 hopen] at hread
      obtain ⟨tail, htail⟩ := List.head?_eq_some_iff.mp hopen
      rw [htail] at hread
      obtain ⟨inner, after, more, heq, -, hparts, -⟩ := segments_open_ok hread
      have hlength := congrArg List.length (List.cons.inj hparts).1
      rw [heq] at hlength
      simp only [List.length_cons, List.length_append] at hlength
      omega
    refine ⟨hhead, fun hcolon => ?_⟩
    rw [if_pos ⟨hhead, hcolon⟩] at hread
    obtain ⟨inner, after, more, -, hinner, hparts, -⟩ := segments_open_ok hread
    rw [(List.cons.inj hparts).1]
    exact hinner
  · rintro ⟨hhead, hclosing⟩
    split
    · rename_i hcolon
      exact segments_closed (hclosing hcolon.2)
    · rename_i hcolon
      exact segments_last hhead fun hmem => hcolon ⟨hhead, hmem⟩

/-! ## Local hosts -/

/-- What is taken off a host are brackets at its ends. -/
theorem eq_unbracket (host : List Char) :
    ∃ a b, host = List.replicate a '[' ++ (unbracket host ++ List.replicate b ']') := by
  have hsplit (c : Char) (cs : List Char) :
      cs = List.replicate (cs.takeWhile (· = c)).length c ++ cs.dropWhile (· = c) := by
    have hall : cs.takeWhile (· = c) = List.replicate (cs.takeWhile (· = c)).length c :=
      List.eq_replicate_of_mem fun d hd => of_decide_eq_true (List.all_eq_true.mp List.all_takeWhile d hd)
    rw [← hall, List.takeWhile_append_dropWhile]
  have hend := congrArg List.reverse (hsplit ']' (host.dropWhile (· = '[')).reverse)
  rw [List.reverse_reverse, List.reverse_append, List.reverse_replicate] at hend
  exact ⟨_, _, (hsplit '[' host).trans (congrArg _ hend)⟩

/-- All brackets are taken off an address. -/
theorem unbracket_replicate {address : List Char} (hne : address ≠ []) (ha : ∀ c ∈ address, Net.isAddressChar c = true)
    (a b : Nat) : unbracket (List.replicate a '[' ++ (address ++ List.replicate b ']')) = address := by
  have hopen (c : Char) (hc : c ∈ List.replicate a '[') : decide (c = '[') = true :=
    decide_eq_true (List.eq_of_mem_replicate hc)
  have hclose (c : Char) (hc : c ∈ List.replicate b ']') : decide (c = ']') = true :=
    decide_eq_true (List.eq_of_mem_replicate hc)
  have hstart : Text.Stops (· = '[') address := .of_mem fun c hc => decide_eq_false fun h => by
    rw [h] at hc; cases ha _ hc
  have hend : Text.Stops (· = ']') address.reverse := .of_mem fun c hc => decide_eq_false fun h => by
    rw [h, List.mem_reverse] at hc; cases ha _ hc
  unfold unbracket
  rw [Text.dropWhile_append hopen (hstart.append hne), List.reverse_append, List.reverse_replicate,
    Text.dropWhile_append hclose hend, List.reverse_reverse]

/-- A host that denotes an address, with the brackets at its ends. -/
theorem eq_of_read? {ip : Net.IpAddr} (hread : Net.IpAddr.read? (unbracket h.toList) = some ip) : ∃ a b address,
    h.toList = List.replicate a '[' ++ (address ++ List.replicate b ']') ∧ address ≠ [] ∧
      ∀ c ∈ address, Net.isAddressChar c = true := by
  obtain ⟨a, b, heq⟩ := eq_unbracket h.toList
  exact ⟨a, b, _, heq, Net.ne_nil_of_read? hread, Net.isAddressChar_of_read? hread⟩

theorem bracketed_of_open {tail : List Char} (hopen : h.toList = '[' :: tail) : bracketed h = '[' :: tail := by
  rw [bracketed_eq, if_neg fun hcond => hcond.1 (by rw [hopen]; rfl), hopen]

/-- A plain host and one in brackets are one segment, which denotes the same address. -/
theorem segments_localHost {ip : Net.IpAddr} (hread : Net.IpAddr.read? (unbracket h.toList) = some ip)
    (hform : isPlainHost h.toList = true ∨ isBracketedHost h.toList = true) : ∃ segment,
      (∀ rest, segments (bracketed h ++ ':' :: rest) = (segments rest).map (segment :: ·)) ∧
        unbracket segment = unbracket h.toList := by
  rcases hform with hplain | hbrackets
  · exact ⟨h.toList, segments_plainHost hplain, rfl⟩
  · obtain ⟨inner, hinner, hclosing⟩ := isBracketedHost_iff.mp hbrackets
    refine ⟨inner, fun rest => ?_, ?_⟩
    · rw [bracketed_of_open hinner, List.cons_append, List.append_assoc]
      exact segments_bracketed hclosing rest
    · obtain ⟨a, b, address, heq, hne, ha⟩ := eq_of_read? hread
      have hboth := hinner.symm.trans heq
      rw [heq, unbracket_replicate hne ha]
      cases a with
      | zero =>
        obtain ⟨c, address, rfl⟩ := List.exists_cons_of_ne_nil hne
        obtain ⟨rfl, -⟩ := List.cons.inj hboth
        cases ha _ (List.mem_cons_self ..)
      | succ a =>
        rw [List.replicate_succ, List.cons_append] at hboth
        obtain ⟨-, hboth⟩ := List.cons.inj hboth
        cases b with
        | zero =>
          rw [List.replicate_zero, List.append_nil] at hboth
          have hmem : ']' ∈ List.replicate a '[' ++ address := by simp [← hboth]
          rcases List.mem_append.mp hmem with hmem | hmem
          · cases List.eq_of_mem_replicate hmem
          · cases ha _ hmem
        | succ b =>
          rw [List.replicate_succ', ← List.append_assoc, ← List.append_assoc] at hboth
          rw [(List.append_inj' hboth rfl).1, List.append_assoc, unbracket_replicate hne ha]

/-- Any other host that denotes an address breaks the text, or opens a bracket that it does not close. -/
theorem segments_badHost {ip : Net.IpAddr} (hread : Net.IpAddr.read? (unbracket h.toList) = some ip)
    (hplain : isPlainHost h.toList = false) (hbrackets : isBracketedHost h.toList = false) :
    (∀ rest, segments (bracketed h ++ ':' :: rest) = .error .missingColon) ∨
      ∃ tail, bracketed h = '[' :: tail ∧ ']' ∉ tail := by
  obtain ⟨a, b, address, heq, hne, ha⟩ := eq_of_read? hread
  have hclosing : ']' ∉ List.replicate (a - 1) '[' ++ address := by
    intro hmem
    rcases List.mem_append.mp hmem with hmem | hmem
    · cases List.eq_of_mem_replicate hmem
    · cases ha _ hmem
  have hbreaks (inner more : List Char) (hinner : ']' ∉ inner)
      (hwritten : bracketed h = '[' :: (inner ++ ']' :: ']' :: more)) (rest : List Char) :
      segments (bracketed h ++ ':' :: rest) = .error .missingColon := by
    rw [hwritten, List.cons_append, List.append_assoc]
    exact segments_closed_twice hinner (by decide) _
  cases a with
  | zero =>
    left
    rw [List.replicate_zero, List.nil_append] at heq hclosing
    have hhead : h.toList.head? ≠ some '[' := by
      obtain ⟨c, address, rfl⟩ := List.exists_cons_of_ne_nil hne
      rw [heq]
      intro hc
      obtain rfl := Option.some.inj hc
      cases ha _ (List.mem_cons_self ..)
    have hboth : ':' ∈ h.toList ∧ ']' ∈ h.toList := by
      by_contra hnot
      have hiff := isPlainHost_iff.not.mp (Bool.not_eq_true _ ▸ hplain)
      exact hiff ⟨hhead, fun hcolon hmem => hnot ⟨hcolon, hmem⟩⟩
    cases b with
    | zero =>
      have hmem := hboth.2
      rw [heq, List.replicate_zero, List.append_nil] at hmem
      exact absurd hmem hclosing
    | succ b =>
      refine hbreaks address (List.replicate b ']') hclosing ?_
      rw [bracketed_eq, if_pos ⟨hhead, hboth.1⟩, heq, List.append_assoc, ← List.replicate_succ', List.replicate_succ,
        List.replicate_succ]
  | succ a =>
    rw [Nat.add_sub_cancel] at hclosing
    have hopen : h.toList = '[' :: (List.replicate a '[' ++ address ++ List.replicate b ']') := by
      rw [heq, List.replicate_succ, List.cons_append, List.append_assoc]
    have hwritten := bracketed_of_open hopen
    rcases b with _ | _ | b
    · exact .inr ⟨_, hwritten, by rw [List.replicate_zero, List.append_nil]; exact hclosing⟩
    · rw [isBracketedHost_iff.mpr ⟨_, hopen, hclosing⟩] at hbrackets
      cases hbrackets
    · exact .inl (hbreaks _ (List.replicate b ']') hclosing hwritten)

end

/-! ## Written forwards -/

section

variable {f g : Forward} {port : Net.Port} {parts : List (List Char)} {last : List Char}

/-- A written forward, up to the colon before its remote port. -/
def charsBefore (f : Forward) (port : Net.Port) : List Char :=
  bracketed f.localHostText ++ ':' :: (Text.digitsOf port.toNat ++ ':' :: bracketed f.remoteHost)

theorem chars_eq (hport : f.localPort = some port) :
    f.chars = f.charsBefore port ++ ':' :: Text.digitsOf f.remotePort.toNat := by
  simp [chars, charsBefore, remoteChars, hport]

/-- Blanks around the text do not count, but there are none after it. -/
theorem trim_chars (hstart : Text.Stops Text.isBlank f.chars) : Text.trim f.chars = f.chars := by
  have hlast : ∃ before c, f.chars = before ++ [c] ∧ Text.isBlank c = false := by
    obtain ⟨ds, c, hds⟩ := (List.eq_nil_or_concat _).resolve_left (Text.digitsOf_ne_nil f.remotePort.toNat)
    rw [List.concat_eq_append] at hds
    have hdigit : Text.isDigit c = true := Text.isDigit_of_mem (n := f.remotePort.toNat) (by rw [hds]; simp)
    have hblank := Net.isBlank_of_isAddressChar (Net.isAddressChar_of_isDigit hdigit)
    cases hport : f.localPort with
    | none => exact ⟨bracketed f.remoteHost ++ ':' :: ds, c, by simp [chars, remoteChars, hport, hds], hblank⟩
    | some port => exact ⟨f.charsBefore port ++ ':' :: ds, c, by rw [chars_eq hport, hds]; simp, hblank⟩
  obtain ⟨before, c, heq, hblank⟩ := hlast
  rw [Text.trim, Text.trimStart, Text.dropWhile_of_stops hstart, heq]
  exact Text.trimEnd_of_getLast hblank before

/-- The last segment of a written forward is its remote port. -/
theorem segments_chars (hport : f.localPort = some port) :
    segments f.chars = (segments (f.charsBefore port)).map (· ++ [Text.digitsOf f.remotePort.toNat]) := by
  rw [chars_eq hport]
  refine segments_append_plain ?_ (Text.not_mem_digitsOf rfl _) (Text.not_mem_digitsOf rfl _) _
  intro hhead
  exact Text.not_mem_digitsOf (c := '[') rfl _ (List.mem_of_mem_head? hhead)

/-- A forward is read from the segments of its text without the blanks around it. -/
theorem read_ok_iff {spec : String} : read spec = .ok g ↔
    ∃ parts, segments (Text.trim spec.toList) = .ok parts ∧ ofSegments parts = .ok g ∧ g.remoteHost.isEmpty = false := by
  unfold read
  dsimp only
  cases segments (Text.trim spec.toList) with
  | error fault => simp
  | ok parts =>
    simp only [Except.ok.injEq, exists_eq_left']
    cases ofSegments parts with
    | error fault => simp
    | ok g' =>
      simp only [Except.ok.injEq]
      constructor
      · intro hread
        split at hread
        · cases hread
        · rename_i hempty
          cases hread
          exact ⟨rfl, Bool.not_eq_true _ ▸ hempty⟩
      · rintro ⟨rfl, hempty⟩
        rw [hempty]
        rfl

theorem read_text (hstart : Text.Stops Text.isBlank f.chars) : read f.text = .ok g ↔
    ∃ parts, segments f.chars = .ok parts ∧ ofSegments parts = .ok g ∧ g.remoteHost.isEmpty = false := by
  rw [read_ok_iff, text, String.toList_ofList, trim_chars hstart]

theorem word16?_digitsOf (port : Net.Port) : Text.word16? (Text.digitsOf port.toNat) = some port :=
  Text.word16?_eq_some_iff.mpr (Text.isNumeral_digitsOf _)

/-- A port is written with digits, and with a plus at most. -/
theorem not_mem_of_word16? {cs : List Char} {c : Char} (hread : Text.word16? cs = some port)
    (hc : Text.isDigit c = false) (hplus : c ≠ '+') : c ∉ cs := by
  obtain ⟨digits, htext, -, hdigits, -⟩ := Text.word16?_eq_some_iff.mp hread
  have hnot : c ∉ digits := fun hmem => Bool.false_ne_true (hc.symm.trans (hdigits c hmem))
  rcases htext with rfl | rfl
  · exact hnot
  · exact List.not_mem_cons_of_ne_of_not_mem hplus hnot

theorem readPort_ok_iff {fault : String → SpecFault} {cs : List Char} :
    readPort fault cs = .ok port ↔ Text.IsNumeral cs port.toNat := by
  rw [← Text.word16?_eq_some_iff, readPort]
  cases Text.word16? cs <;> simp

/-- What is read of a written forward with a local port has three or four segments. -/
theorem ofSegments_concat (h : ofSegments (parts ++ [last]) = .ok g) (hport : g.localPort = some port) :
    (∃ localPort remoteHost, parts = [localPort, remoteHost] ∧ Text.word16? localPort = some port) ∨
      ∃ localHost localPort remoteHost, parts = [localHost, localPort, remoteHost] ∧
        g.remoteHost = String.ofList remoteHost := by
  rcases parts with _ | ⟨p₁, _ | ⟨p₂, _ | ⟨p₃, _ | ⟨p₄, more⟩⟩⟩⟩
  · obtain ⟨rp, -, hg⟩ := bind_ok_iff.mp h
    cases hg
    cases hport
  · obtain ⟨rp, -, hg⟩ := bind_ok_iff.mp h
    cases hg
    cases hport
  · obtain ⟨rp, -, h⟩ := bind_ok_iff.mp h
    obtain ⟨lp, hlp, hg⟩ := bind_ok_iff.mp h
    cases hg
    cases hport
    exact .inl ⟨p₁, p₂, rfl, Text.word16?_eq_some_iff.mpr (readPort_ok_iff.mp hlp)⟩
  · obtain ⟨rp, -, h⟩ := bind_ok_iff.mp h
    obtain ⟨lp, hlp, hg⟩ := bind_ok_iff.mp h
    cases hg
    exact .inr ⟨p₁, p₂, p₃, rfl, rfl⟩
  · cases more with
    | nil => cases h
    | cons p more => cases h

/-- What opens a bracket before the local port and closes it after that, if at all, cannot be read as meant: the local
port is gone, or the remote host is a part of what was written. -/
theorem not_read_of_unclosed {tail : List Char} {port' : Net.Port} (hwritten : bracketed f.localHostText = '[' :: tail)
    (htail : ']' ∉ tail) (hread : segments (f.charsBefore port) = .ok parts)
    (hparts : (∃ localPort remoteHost, parts = [localPort, remoteHost] ∧ Text.word16? localPort = some port') ∨
      ∃ localHost localPort, parts = [localHost, localPort, f.remoteHost.toList]) : False := by
  unfold charsBefore at hread
  rw [hwritten, List.cons_append] at hread
  obtain ⟨inner, after, more, heq, hinner, rfl, hmore⟩ := segments_open_ok hread
  -- the first segment reaches over the local port
  have hcut := Text.cut?_append hinner after
  have hbefore : ']' ∉ tail ++ ':' :: (Text.digitsOf port.toNat ++ [':']) := by
    simp [htail, Text.not_mem_digitsOf (c := ']') rfl]
  have hwhole : tail ++ ':' :: (Text.digitsOf port.toNat ++ ':' :: bracketed f.remoteHost) =
      tail ++ ':' :: (Text.digitsOf port.toNat ++ [':']) ++ bracketed f.remoteHost := by simp
  rw [← heq, hwhole, Text.cut?_append_left hbefore] at hcut
  obtain ⟨⟨first, after'⟩, hremote, hpair⟩ := Option.map_eq_some_iff.mp hcut
  obtain ⟨rfl, rfl⟩ := Prod.mk.inj hpair
  obtain ⟨hhost, -⟩ := Text.eq_of_cut? hremote
  rcases hparts with ⟨localPort, remoteHost, hlist, hport⟩ | ⟨localHost, localPort, hlist⟩
  · obtain ⟨rfl, -⟩ := List.cons.inj hlist
    exact not_mem_of_word16? hport (c := ':') rfl (by decide) (by simp)
  · obtain ⟨-, rfl⟩ := List.cons.inj hlist
    rcases hmore with ⟨-, hnil⟩ | ⟨rest, hafter, hrest⟩
    · cases hnil
    · have hlength := length_segments_le hrest
      have hwhole := congrArg List.length hhost
      have hle := length_bracketed_le f.remoteHost
      simp only at hafter
      rw [hafter] at hwhole
      simp only [List.map_cons, List.map_nil, List.sum_cons, List.sum_nil, List.length_append, List.length_cons] at *
      omega

/-- The hosts have no brackets that are in the way when the text of the forward is read. -/
def isReadable (f : Forward) : Bool :=
  (isPlainHost f.localHostText.toList || isBracketedHost f.localHostText.toList) && isPlainHost f.remoteHost.toList

theorem localIp_ok_iff {ip : Net.IpAddr} :
    f.localIp = .ok ip ↔ Net.IpAddr.read? (unbracket f.localHostText.toList) = some ip := by
  have hall : Net.IpAddr.read? (unbracket allInterfaces.toList) = some (.v4 0) := rfl
  unfold localIp localHostText
  cases f.localHost with
  | none =>
    rw [Option.getD_none, hall, Except.ok.injEq, Option.some.injEq]
  | some host =>
    dsimp only [Option.getD_some]
    split
    · rename_i ip' hread
      rw [hread, Except.ok.injEq, Option.some.injEq]
    · rename_i hread
      rw [hread]
      exact ⟨nofun, nofun⟩

/-- What a valid forward has. -/
theorem validate_ok (hv : f.validate = .ok ()) :
    f.remoteHost.isEmpty = false ∧ ∃ port ip, f.localPort = some port ∧ f.localIp = .ok ip := by
  unfold validate at hv
  split at hv
  · cases hv
  · rename_i htrim
    split at hv
    · cases hv
    · refine ⟨?_, ?_⟩
      · by_contra hempty
        rw [Bool.not_eq_false, String.isEmpty_iff] at hempty
        rw [hempty] at htrim
        exact htrim rfl
      · split at hv
        · cases hv
        · rename_i port hport
          split at hv
          · cases hv
          · cases hip : f.localIp with
            | error e => rw [hip] at hv; cases hv
            | ok ip => exact ⟨port, ip, hport, rfl⟩

/-- A host that denotes an address is written without a blank at its start. -/
theorem stops_bracketed {h : String} {ip : Net.IpAddr} (hread : Net.IpAddr.read? (unbracket h.toList) = some ip)
    (rest : List Char) : Text.Stops Text.isBlank (bracketed h ++ rest) := by
  obtain ⟨a, b, address, heq, hne, ha⟩ := eq_of_read? hread
  have hhost : Text.Stops Text.isBlank (h.toList ++ rest) := by
    rw [heq]
    cases a with
    | zero =>
      rw [List.replicate_zero, List.nil_append, List.append_assoc]
      exact (Text.Stops.of_mem fun c hc => Net.isBlank_of_isAddressChar (ha c hc)).append hne
    | succ a => exact Text.stops_cons.mpr rfl
  rw [bracketed_eq]
  split
  · exact Text.stops_cons.mpr rfl
  · exact hhost

/-- Where the local host is one segment, the next ones are the local port and what is read of the remote host. -/
theorem segments_charsBefore {segment : List Char}
    (hsegment : ∀ rest, segments (bracketed f.localHostText ++ ':' :: rest) = (segments rest).map (segment :: ·)) :
    segments (f.charsBefore port) =
      (segments (bracketed f.remoteHost)).map fun more => segment :: Text.digitsOf port.toNat :: more := by
  have hhead : (Text.digitsOf port.toNat).head? ≠ some '[' := fun hhead =>
    Text.not_mem_digitsOf (c := '[') rfl _ (List.mem_of_mem_head? hhead)
  rw [charsBefore, hsegment, segments_plain hhead (Text.not_mem_digitsOf rfl _)]
  cases segments (bracketed f.remoteHost) <;> rfl

/-- The text of a valid forward denotes the same endpoints again if and only if its hosts are readable. -/
theorem text_reads_back_iff (hv : f.validate = .ok ()) :
    (∃ g, read f.text = .ok g ∧ g.remoteHost = f.remoteHost ∧ g.remotePort = f.remotePort ∧
      g.localPort = f.localPort ∧ g.localIp = f.localIp) ↔ f.isReadable = true := by
  obtain ⟨hremote, port, ip, hport, hip⟩ := validate_ok hv
  have haddress := localIp_ok_iff.mp hip
  have hstart : Text.Stops Text.isBlank f.chars := by
    rw [chars_eq hport, charsBefore, List.append_assoc]
    exact stops_bracketed haddress _
  have hsegments := segments_chars hport
  unfold isReadable
  rw [Bool.and_eq_true, Bool.or_eq_true]
  constructor
  · rintro ⟨g, hread, hhost, -, hport', -⟩
    obtain ⟨parts, hparts, hg, -⟩ := (read_text hstart).mp hread
    rw [hsegments] at hparts
    cases hbefore : segments (f.charsBefore port) with
    | error fault => rw [hbefore] at hparts; cases hparts
    | ok before =>
      rw [hbefore] at hparts
      cases hparts
      have hform := ofSegments_concat hg (hport'.trans hport)
      have hhosts (remoteHost : List Char) (heq : g.remoteHost = String.ofList remoteHost) :
          remoteHost = f.remoteHost.toList := by rw [← hhost, heq, String.toList_ofList]
      by_cases hlocal : isPlainHost f.localHostText.toList = true ∨ isBracketedHost f.localHostText.toList = true
      · refine ⟨hlocal, segments_bracketed_iff.mp ?_⟩
        obtain ⟨segment, hsegment, -⟩ := segments_localHost haddress hlocal
        rw [segments_charsBefore hsegment] at hbefore
        cases hmore : segments (bracketed f.remoteHost) with
        | error fault => rw [hmore] at hbefore; cases hbefore
        | ok more =>
          rw [hmore] at hbefore
          cases hbefore
          rcases hform with ⟨localPort, remoteHost, hlist, -⟩ | ⟨localHost, localPort, remoteHost, hlist, heq⟩
          · cases hlist
            exact absurd hmore segments_ne_nil
          · cases hlist
            rw [hhosts remoteHost heq]
      · rw [not_or, Bool.not_eq_true, Bool.not_eq_true] at hlocal
        exfalso
        rcases segments_badHost haddress hlocal.1 hlocal.2 with hbroken | ⟨tail, hwritten, htail⟩
        · rw [charsBefore, hbroken] at hbefore
          cases hbefore
        · refine not_read_of_unclosed hwritten htail hbefore (hform.imp_right ?_)
          rintro ⟨localHost, localPort, remoteHost, hlist, heq⟩
          exact ⟨localHost, localPort, by rw [hlist, hhosts remoteHost heq]⟩
  · rintro ⟨hlocal, hplain⟩
    obtain ⟨segment, hsegment, hsame⟩ := segments_localHost haddress hlocal
    rw [segments_charsBefore hsegment, segments_bracketed_iff.mpr hplain] at hsegments
    let g : Forward := ⟨some (String.ofList segment), some port, f.remoteHost, f.remotePort⟩
    have hg : ofSegments [segment, Text.digitsOf port.toNat, f.remoteHost.toList, Text.digitsOf f.remotePort.toNat] =
        .ok g := by
      have hread (fault : String → SpecFault) (port : Net.Port) :
          readPort fault (Text.digitsOf port.toNat) = .ok port := by
        rw [readPort, word16?_digitsOf]
      have hhost : String.ofList f.remoteHost.toList = f.remoteHost := String.ofList_toList ..
      rw [ofSegments, hread, hread, hhost]
      rfl
    have hsegmentIp : g.localIp = .ok ip := by
      refine localIp_ok_iff.mpr ?_
      show Net.IpAddr.read? (unbracket (String.ofList segment).toList) = some ip
      rw [String.toList_ofList, hsame]
      exact haddress
    exact ⟨g, (read_text hstart).mpr ⟨_, hsegments, hg, hremote⟩, rfl, rfl, hport.symm, hsegmentIp.trans hip.symm⟩

/-- A remote host that starts with a bracket and does not close it: the forward is read and valid, its text is not
read back. -/
theorem open_bracket_is_not_read_back :
    let f : Forward := { localPort := some 8080, remoteHost := "[db", remotePort := 80 }
    read "0.0.0.0:8080:[[db]:80" = .ok (f.withLocal allInterfaces 8080) ∧ f.validate = .ok () ∧
      f.text = "0.0.0.0:8080:[db:80" ∧ read f.text = .error (.parse f.text .unclosedBracket) ∧
      ¬ ∃ g, read f.text = .ok g ∧ g.remoteHost = f.remoteHost ∧ g.remotePort = f.remotePort ∧
        g.localPort = f.localPort ∧ g.localIp = f.localIp := by
  intro f
  have hvalid : f.validate = .ok () := by decide
  have hunreadable : f.isReadable = false := by decide
  have htext : f.text = "0.0.0.0:8080:[db:80" := by decide
  have hread : read "0.0.0.0:8080:[db:80" = .error (.parse "0.0.0.0:8080:[db:80" .unclosedBracket) := by
    decide +kernel
  refine ⟨by decide +kernel, hvalid, htext, by rw [htext]; exact hread, fun h => ?_⟩
  rw [text_reads_back_iff hvalid, hunreadable] at h
  cases h

/-- Brackets around an address are written as they came and taken off by the reader. -/
example :
    let f : Forward := { localHost := some "[::1]", localPort := some 8080, remoteHost := "web", remotePort := 80 }
    f.isReadable = true := rfl

end

end Forward

end TunnelBroker
