/-
  TunnelBroker.Proofs.Pools — which ports the texts of a pool denote.

  `PortRange.Denotes` says which range a text denotes, `IsFaulty` what is wrong with a text that denotes none, and
  `IsListed` which ports lie in a range of a list of texts.

  Proved:
  (1) A text is read as the range that it denotes (`PortRange.read_ok_iff`), and refused for what is wrong with it
      (`PortRange.read_error_iff`).
  (2) A set to which ranges are added and from which ranges are removed stays an ascending list, and has the ports that
      it should have (`IsSetOf.addTo`, `IsSetOf.removeFrom` for one range, `IsSetOf.addAll`, `IsSetOf.removeAll` for all).
  (3) In an ascending list, halving finds the ports that are there (`search_eq_true_iff`).
  (4) A pool has exactly the ports that are listed as used and not as excluded (`pool_has_the_listed_ports`).
-/

import Mathlib.Data.List.Sort
import TunnelBroker.Ports.Pool
import TunnelBroker.Proofs.SpecText

namespace TunnelBroker

namespace Text

variable {p : Char → Bool} {c : Char} {cs : List Char}

theorem mem_dropWhile (hc : p c = false) (h : c ∈ cs) : c ∈ cs.dropWhile p := by
  rw [← List.takeWhile_append_dropWhile (p := p) (l := cs), List.mem_append] at h
  refine h.resolve_left fun htaken => ?_
  rw [List.all_eq_true.mp List.all_takeWhile c htaken] at hc
  cases hc

/-- Trimming takes blanks away only. -/
theorem mem_trim (hc : isBlank c = false) (h : c ∈ cs) : c ∈ trim cs := by
  rw [trim, trimEnd, List.mem_reverse]
  exact mem_dropWhile hc (List.mem_reverse.mpr (mem_dropWhile hc h))

end Text

namespace Ports

open TunnelBroker.Net (Port)

/-! ## Ranges -/

namespace PortRange

/-- The text, blanks around it apart, is the number of a port, which is not 0. -/
def IsPort (cs : List Char) (port : Port) : Prop := Text.IsNumeral (Text.trim cs) port.toNat ∧ port ≠ 0

/-- The range that a text denotes: that of one port, or that from a first to a last port with `-` between them. -/
inductive Denotes (spec : String) (r : PortRange) : Prop
  | single (hport : IsPort spec.toList r.first) (hone : r.last = r.first)
  | range {a b : List Char} (hspec : spec.toList = a ++ '-' :: b) (hfirst : IsPort a r.first) (hlast : IsPort b r.last)
      (hle : r.first ≤ r.last)

/-- What is wrong with a text that is not the number of a port. -/
inductive IsFaultyPort (cs : List Char) : PoolFault → Prop
  | notAPort (h : ∀ port : Port, ¬ Text.IsNumeral (Text.trim cs) port.toNat) :
      IsFaultyPort cs (.notAPort (String.ofList (Text.trim cs)))
  | zeroPort (h : Text.IsNumeral (Text.trim cs) 0) : IsFaultyPort cs .zeroPort

/-- What is wrong with a text that denotes no range: the only port, the first one, the last one after a good first one,
or their order. -/
inductive IsFaulty (spec : String) : PoolFault → Prop
  | single {fault : PoolFault} (hspec : '-' ∉ spec.toList) (h : IsFaultyPort spec.toList fault) : IsFaulty spec fault
  | first {fault : PoolFault} {a b : List Char} (hspec : spec.toList = a ++ '-' :: b) (hcut : '-' ∉ a)
      (h : IsFaultyPort a fault) : IsFaulty spec fault
  | last {fault : PoolFault} {a b : List Char} {port : Port} (hspec : spec.toList = a ++ '-' :: b) (hfirst : IsPort a port)
      (h : IsFaultyPort b fault) : IsFaulty spec fault
  | reversed {a b : List Char} {first last : Port} (hspec : spec.toList = a ++ '-' :: b) (hfirst : IsPort a first)
      (hlast : IsPort b last) (h : last < first) : IsFaulty spec .reversed

section

variable {spec : String} {cs a b : List Char} {port : Port} {fault : PoolFault} {r r' : PortRange} {e : PortError}

theorem readPort_of_isPort (spec : String) (h : IsPort cs port) : readPort spec cs = .ok port := by
  unfold readPort
  dsimp only
  rw [Text.word16?_eq_some_iff.mpr h.1]
  exact if_neg h.2

theorem readPort_of_isFaultyPort (spec : String) (h : IsFaultyPort cs fault) :
    readPort spec cs = .error (fault.inSpec spec) := by
  unfold readPort
  dsimp only
  cases h with
  | notAPort h =>
    have hnone : Text.word16? (Text.trim cs) = none := by
      rw [Option.eq_none_iff_forall_ne_some]
      intro port hport
      exact h port (Text.word16?_eq_some_iff.mp hport)
    rw [hnone]
  | zeroPort h =>
    have hzero : Text.word16? (Text.trim cs) = some 0 := Text.word16?_eq_some_iff.mpr h
    rw [hzero]
    rfl

theorem isPort_or_isFaultyPort (cs : List Char) : (∃ port, IsPort cs port) ∨ ∃ fault, IsFaultyPort cs fault := by
  cases hport : Text.word16? (Text.trim cs) with
  | none =>
    refine .inr ⟨_, .notAPort fun port hnumeral => ?_⟩
    rw [Text.word16?_eq_some_iff.mpr hnumeral] at hport
    cases hport
  | some port =>
    have hnumeral := Text.word16?_eq_some_iff.mp hport
    by_cases hzero : port = 0
    · subst hzero
      exact .inr ⟨_, .zeroPort hnumeral⟩
    · exact .inl ⟨port, hnumeral, hzero⟩

/-- There is no `-` in the number of a port. -/
theorem IsPort.not_mem (h : IsPort cs port) : '-' ∉ cs := by
  intro hmem
  have htrim : '-' ∈ Text.trim cs := Text.mem_trim (by decide) hmem
  exact Forward.not_mem_of_word16? (Text.word16?_eq_some_iff.mpr h.1) (by decide) (by decide) htrim

theorem read_of_denotes (h : Denotes spec r) : read spec = .ok r := by
  obtain ⟨first, last⟩ := r
  unfold read
  cases h with
  | single hport hone =>
    dsimp only at hport hone
    subst hone
    rw [Text.cut?_of_not_mem hport.not_mem]
    dsimp only
    rw [readPort_of_isPort spec hport]
    rfl
  | range hspec hfirst hlast hle =>
    rw [hspec, Text.cut?_append hfirst.not_mem]
    dsimp only at hfirst hlast hle ⊢
    rw [readPort_of_isPort spec hfirst, readPort_of_isPort spec hlast]
    exact if_neg (UInt16.not_lt.mpr hle)

theorem read_of_isFaulty (h : IsFaulty spec fault) : read spec = .error (fault.inSpec spec) := by
  unfold read
  cases h with
  | single hspec h =>
    rw [Text.cut?_of_not_mem hspec]
    dsimp only
    rw [readPort_of_isFaultyPort spec h]
    rfl
  | first hspec hcut h =>
    rw [hspec, Text.cut?_append hcut]
    dsimp only
    rw [readPort_of_isFaultyPort spec h]
    rfl
  | last hspec hfirst h =>
    rw [hspec, Text.cut?_append hfirst.not_mem]
    dsimp only
    rw [readPort_of_isPort spec hfirst, readPort_of_isFaultyPort spec h]
    rfl
  | reversed hspec hfirst hlast h =>
    rw [hspec, Text.cut?_append hfirst.not_mem]
    dsimp only
    rw [readPort_of_isPort spec hfirst, readPort_of_isPort spec hlast]
    exact if_pos h

/-- A text denotes a range, or something is wrong with it. -/
theorem denotes_or_isFaulty (spec : String) : (∃ r, Denotes spec r) ∨ ∃ fault, IsFaulty spec fault := by
  cases hcut : Text.cut? '-' spec.toList with
  | none =>
    rcases isPort_or_isFaultyPort spec.toList with ⟨port, hport⟩ | ⟨fault, hfault⟩
    · exact .inl ⟨⟨port, port⟩, .single hport rfl⟩
    · exact .inr ⟨fault, .single (Text.not_mem_of_cut? hcut) hfault⟩
  | some p =>
    obtain ⟨a, b⟩ := p
    obtain ⟨hspec, hnot⟩ := Text.eq_of_cut? hcut
    rcases isPort_or_isFaultyPort a with ⟨first, hfirst⟩ | ⟨fault, hfault⟩
    · rcases isPort_or_isFaultyPort b with ⟨last, hlast⟩ | ⟨fault, hfault⟩
      · by_cases hle : first ≤ last
        · exact .inl ⟨⟨first, last⟩, .range hspec hfirst hlast hle⟩
        · exact .inr ⟨_, .reversed hspec hfirst hlast (UInt16.not_le.mp hle)⟩
      · exact .inr ⟨fault, .last hspec hfirst hfault⟩
    · exact .inr ⟨fault, .first hspec hnot hfault⟩

/-- A text is read as the range that it denotes. -/
theorem read_ok_iff : read spec = .ok r ↔ Denotes spec r := by
  refine ⟨fun hread => ?_, read_of_denotes⟩
  rcases denotes_or_isFaulty spec with ⟨r', hr'⟩ | ⟨fault, hfault⟩
  · rw [read_of_denotes hr', Except.ok.injEq] at hread
    rwa [← hread]
  · rw [read_of_isFaulty hfault] at hread
    cases hread

/-- A text that denotes no range is refused for what is wrong with it. -/
theorem read_error_iff : read spec = .error e ↔ ∃ fault, IsFaulty spec fault ∧ e = fault.inSpec spec := by
  constructor
  · intro hread
    rcases denotes_or_isFaulty spec with ⟨r, hr⟩ | ⟨fault, hfault⟩
    · rw [read_of_denotes hr] at hread
      cases hread
    · rw [read_of_isFaulty hfault, Except.error.injEq] at hread
      exact ⟨fault, hfault, hread.symm⟩
  · rintro ⟨fault, hfault, rfl⟩
    exact read_of_isFaulty hfault

theorem exists_read_ok_iff : (∃ r, read spec = .ok r) ↔ ∃ r, Denotes spec r := exists_congr fun _ => read_ok_iff

theorem Denotes.unique (h : Denotes spec r) (h' : Denotes spec r') : r = r' :=
  Except.ok.inj ((read_of_denotes h).symm.trans (read_of_denotes h'))

end

/-! ## The text of a range -/

section

variable {first last port port' : Port} {r : PortRange}

theorem isPort_digitsOf_iff : IsPort (Text.digitsOf port.toNat) port' ↔ port' = port ∧ port ≠ 0 := by
  have htrim : Text.trim (Text.digitsOf port.toNat) = Text.digitsOf port.toNat :=
    Text.trim_of_no_blank fun c hc => Net.isBlank_of_isAddressChar (Net.isAddressChar_of_isDigit (Text.isDigit_of_mem hc))
  rw [IsPort, htrim, ← Text.word16?_eq_some_iff, Forward.word16?_digitsOf, Option.some.injEq]
  constructor
  · rintro ⟨rfl, hne⟩
    exact ⟨rfl, hne⟩
  · rintro ⟨rfl, hne⟩
    exact ⟨rfl, hne⟩

theorem toList_bounds (first last : Port) : (s!"{first.toNat}-{last.toNat}").toList =
    Text.digitsOf first.toNat ++ '-' :: Text.digitsOf last.toNat := by
  simp [Text.digitsOf, toString]

/-- A range is denoted by its first and its last port with `-` between them, unless they are in the wrong order or the
first one is 0. -/
theorem denotes_bounds_iff :
    Denotes s!"{first.toNat}-{last.toNat}" r ↔ r = ⟨first, last⟩ ∧ first ≤ last ∧ first ≠ 0 := by
  constructor
  · intro h
    cases h with
    | single hport hone =>
      refine absurd ?_ hport.not_mem
      rw [toList_bounds]
      exact List.mem_append_right _ (List.mem_cons_self ..)
    | @range a b hspec hfirst hlast hle =>
      -- the text has one `-` only
      have hcut : Text.cut? '-' (s!"{first.toNat}-{last.toNat}").toList = some (a, b) := by
        rw [hspec]
        exact Text.cut?_append hfirst.not_mem b
      rw [toList_bounds, Text.cut?_append (Text.not_mem_digitsOf (by decide) _)] at hcut
      cases hcut
      obtain ⟨rfl, hfirst⟩ := isPort_digitsOf_iff.mp hfirst
      obtain ⟨rfl, -⟩ := isPort_digitsOf_iff.mp hlast
      exact ⟨rfl, hle, hfirst⟩
  · rintro ⟨rfl, hle, hne⟩
    have hlast : last ≠ 0 := by
      rintro rfl
      exact hne (UInt16.le_zero_iff.mp hle)
    exact .range (toList_bounds first last) (isPort_digitsOf_iff.mpr ⟨rfl, hne⟩) (isPort_digitsOf_iff.mpr ⟨rfl, hlast⟩) hle

end

/-! ## The ports of a range -/

/-- The port lies in the range. -/
def Covers (r : PortRange) (port : Port) : Prop := r.first ≤ port ∧ port ≤ r.last

theorem Denotes.first_le_last {spec : String} {r : PortRange} (h : Denotes spec r) : r.first ≤ r.last := by
  cases h with
  | single hport hone =>
    rw [hone]
    exact UInt16.le_refl _
  | range hspec hfirst hlast hle => exact hle

theorem Denotes.first_ne_zero {spec : String} {r : PortRange} (h : Denotes spec r) : r.first ≠ 0 := by
  cases h with
  | single hport hone => exact hport.2
  | range hspec hfirst hlast hle => exact hfirst.2

theorem mem_ports {r : PortRange} {port : Port} : port ∈ r.ports ↔ r.Covers port := by
  have hlast : r.last.toNat < UInt16.size := r.last.toNat_lt
  rw [ports, List.mem_map, Covers, UInt16.le_iff_toNat_le, UInt16.le_iff_toNat_le]
  simp only [List.mem_range'_1]
  constructor
  · rintro ⟨n, hn, rfl⟩
    rw [UInt16.toNat_ofNat_of_lt' (by omega)]
    omega
  · intro hport
    exact ⟨port.toNat, by omega, UInt16.ofNat_toNat⟩

theorem pairwise_ports (r : PortRange) : r.ports.Pairwise (· < ·) := by
  have hlast : r.last.toNat < UInt16.size := r.last.toNat_lt
  rw [ports, List.pairwise_map]
  refine List.Pairwise.imp_of_mem ?_ List.pairwise_lt_range'
  intro m n hm hn hlt
  rw [List.mem_range'_1] at hm hn
  rw [UInt16.lt_iff_toNat_lt, UInt16.toNat_ofNat_of_lt' (by omega), UInt16.toNat_ofNat_of_lt' (by omega)]
  exact hlt

end PortRange

/-! ## Sets of ports -/

section

variable {set : List Port} {port limit : Port}

theorem mem_takeWhile_lt (h : set.Pairwise (· < ·)) : port ∈ set.takeWhile (· < limit) ↔ port ∈ set ∧ port < limit := by
  induction set with
  | nil => simp
  | cons first rest ih =>
    obtain ⟨hfirst, hrest⟩ := List.pairwise_cons.mp h
    rw [List.takeWhile_cons]
    split
    · rename_i hlt
      have hlt := of_decide_eq_true hlt
      rw [List.mem_cons, List.mem_cons, ih hrest]
      constructor
      · rintro (rfl | ⟨hmem, hport⟩)
        · exact ⟨.inl rfl, hlt⟩
        · exact ⟨.inr hmem, hport⟩
      · rintro ⟨rfl | hmem, hport⟩
        · exact .inl rfl
        · exact .inr ⟨hmem, hport⟩
    · rename_i hnot
      constructor
      · intro hmem
        cases hmem
      · rintro ⟨hmem, hport⟩
        refine absurd ?_ hnot
        -- the first port is the smallest one
        rcases List.mem_cons.mp hmem with rfl | hmem
        · exact decide_eq_true hport
        · exact decide_eq_true (UInt16.lt_trans (hfirst port hmem) hport)

theorem mem_dropWhile_le (h : set.Pairwise (· < ·)) : port ∈ set.dropWhile (· ≤ limit) ↔ port ∈ set ∧ limit < port := by
  induction set with
  | nil => simp
  | cons first rest ih =>
    obtain ⟨hfirst, hrest⟩ := List.pairwise_cons.mp h
    rw [List.dropWhile_cons]
    split
    · rename_i hle
      have hle := of_decide_eq_true hle
      rw [List.mem_cons, ih hrest, and_congr_left_iff]
      intro hport
      refine (or_iff_right ?_).symm
      rintro rfl
      exact UInt16.not_lt.mpr hle hport
    · rename_i hnot
      have hlt : limit < first := UInt16.not_le.mp fun hle => hnot (decide_eq_true hle)
      refine (and_iff_left_of_imp fun hmem => ?_).symm
      rcases List.mem_cons.mp hmem with rfl | hmem
      · exact hlt
      · exact UInt16.lt_trans hlt (hfirst port hmem)

end

/-- The list of a set of ports: an ascending list of the ports with a property. -/
structure IsSetOf (set : List Port) (p : Port → Prop) : Prop where
  ascending : set.Pairwise (· < ·)
  mem_iff : ∀ port, port ∈ set ↔ p port

namespace IsSetOf

open PortRange (Covers)

variable {set set' : List Port} {p q : Port → Prop} {r : PortRange} {ranges : List PortRange}

theorem nil : IsSetOf [] fun _ => False := ⟨.nil, fun _ => by simp⟩

theorem ports (r : PortRange) : IsSetOf r.ports r.Covers := ⟨r.pairwise_ports, fun _ => PortRange.mem_ports⟩

theorem congr (h : IsSetOf set p) (hpq : ∀ port, p port ↔ q port) : IsSetOf set q :=
  ⟨h.ascending, fun port => (h.mem_iff port).trans (hpq port)⟩

theorem unique (h : IsSetOf set p) (h' : IsSetOf set' p) : set = set' :=
  h.ascending.eq_of_mem_iff h'.ascending fun port => (h.mem_iff port).trans (h'.mem_iff port).symm

/-- The ports before a range, and those after it. -/
theorem before_lt_after (h : IsSetOf set p) (hr : r.first ≤ r.last) :
    ∀ before ∈ set.takeWhile (· < r.first), ∀ after ∈ set.dropWhile (· ≤ r.last), before < after := by
  intro before hbefore after hafter
  have hlt := ((mem_takeWhile_lt h.ascending).mp hbefore).2
  have hgt := ((mem_dropWhile_le h.ascending).mp hafter).2
  exact UInt16.lt_trans (UInt16.lt_of_lt_of_le hlt hr) hgt

theorem addTo (h : IsSetOf set p) (hr : r.first ≤ r.last) : IsSetOf (r.addTo set) fun port => p port ∨ r.Covers port := by
  constructor
  · rw [PortRange.addTo, List.append_assoc]
    refine List.pairwise_append.mpr ⟨h.ascending.sublist (List.takeWhile_sublist _), ?_, ?_⟩
    · refine List.pairwise_append.mpr ⟨r.pairwise_ports, h.ascending.sublist (List.dropWhile_sublist _), ?_⟩
      intro port hport after hafter
      exact UInt16.lt_of_le_of_lt (PortRange.mem_ports.mp hport).2 ((mem_dropWhile_le h.ascending).mp hafter).2
    · intro before hbefore port hport
      rcases List.mem_append.mp hport with hport | hafter
      · exact UInt16.lt_of_lt_of_le ((mem_takeWhile_lt h.ascending).mp hbefore).2 (PortRange.mem_ports.mp hport).1
      · exact h.before_lt_after hr before hbefore port hafter
  · intro port
    rw [PortRange.addTo, List.mem_append, List.mem_append, mem_takeWhile_lt h.ascending, mem_dropWhile_le h.ascending,
      PortRange.mem_ports, h.mem_iff, Covers, ← UInt16.not_le, ← UInt16.not_le]
    tauto

theorem removeFrom (h : IsSetOf set p) (hr : r.first ≤ r.last) :
    IsSetOf (r.removeFrom set) fun port => p port ∧ ¬ r.Covers port := by
  constructor
  · rw [PortRange.removeFrom]
    exact List.pairwise_append.mpr ⟨h.ascending.sublist (List.takeWhile_sublist _),
      h.ascending.sublist (List.dropWhile_sublist _), h.before_lt_after hr⟩
  · intro port
    rw [PortRange.removeFrom, List.mem_append, mem_takeWhile_lt h.ascending, mem_dropWhile_le h.ascending, h.mem_iff, Covers,
      ← UInt16.not_le, ← UInt16.not_le]
    tauto

theorem addAll (h : IsSetOf set p) (hranges : ∀ r ∈ ranges, r.first ≤ r.last) :
    IsSetOf (ranges.foldl (fun set r => r.addTo set) set) fun port => p port ∨ ∃ r ∈ ranges, r.Covers port := by
  induction ranges generalizing set p with
  | nil => exact h.congr fun port => by simp
  | cons r rest ih =>
    obtain ⟨hr, hrest⟩ := List.forall_mem_cons.mp hranges
    refine (ih (h.addTo hr) hrest).congr fun port => ?_
    rw [List.exists_mem_cons_iff, or_assoc]

theorem removeAll (h : IsSetOf set p) (hranges : ∀ r ∈ ranges, r.first ≤ r.last) :
    IsSetOf (ranges.foldl (fun set r => r.removeFrom set) set) fun port => p port ∧ ¬ ∃ r ∈ ranges, r.Covers port := by
  induction ranges generalizing set p with
  | nil => exact h.congr fun port => by simp
  | cons r rest ih =>
    obtain ⟨hr, hrest⟩ := List.forall_mem_cons.mp hranges
    refine (ih (h.removeFrom hr) hrest).congr fun port => ?_
    rw [List.exists_mem_cons_iff, not_or, and_assoc]

end IsSetOf

/-! ## Halving -/

namespace Pool

section

variable {ports : Array Port} {port : Port} {lo hi : Nat}

theorem lt_of_ascending (h : ports.toList.Pairwise (· < ·)) {i j : Nat} (hij : i < j) (hj : j < ports.size) :
    ports[i] < ports[j] :=
  List.pairwise_iff_getElem.mp h i j (Nat.lt_trans hij hj) hj hij

/-- A search finds the port if it is between the bounds: the half that is left out has smaller ports only, or larger
ones only. -/
theorem search_eq_true_iff (h : ports.toList.Pairwise (· < ·)) (hle : hi ≤ ports.size) :
    search ports port lo hi hle = true ↔ ∃ i, ∃ hsize : i < ports.size, lo ≤ i ∧ i < hi ∧ ports[i] = port := by
  fun_induction search ports port lo hi hle with
  | case1 lo hi hle hlt mid found hfound =>
    exact ⟨fun _ => ⟨mid, by omega, by omega, by omega, hfound⟩, fun _ => rfl⟩
  | case2 lo hi hle hlt mid found hfound hsmall ih =>
    rw [ih]
    constructor
    · rintro ⟨i, hsize, hlo, hhi, hi⟩
      exact ⟨i, hsize, by omega, hhi, hi⟩
    · rintro ⟨i, hsize, hlo, hhi, rfl⟩
      have hmid : mid < i := by
        by_contra hnot
        rcases Nat.lt_or_eq_of_le (Nat.le_of_not_lt hnot) with hbefore | rfl
        · exact UInt16.lt_irrefl _ (UInt16.lt_trans hsmall (lt_of_ascending h hbefore (by omega)))
        · exact hfound rfl
      exact ⟨i, hsize, hmid, hhi, rfl⟩
  | case3 lo hi hle hlt mid found hfound hnot ih =>
    rw [ih]
    constructor
    · rintro ⟨i, hsize, hlo, hhi, hi⟩
      exact ⟨i, hsize, hlo, by omega, hi⟩
    · rintro ⟨i, hsize, hlo, hhi, rfl⟩
      have hmid : i < mid := by
        by_contra hafter
        rcases Nat.lt_or_eq_of_le (Nat.le_of_not_lt hafter) with hafter | rfl
        · exact hnot (lt_of_ascending h hafter hsize)
        · exact hfound rfl
      exact ⟨i, hsize, hlo, hmid, rfl⟩
  | case4 lo hi hle hnot =>
    constructor
    · intro hfound
      cases hfound
    · rintro ⟨i, -, hlo, hhi, -⟩
      omega

theorem contains_iff {pool : Pool} (h : pool.toList.Pairwise (· < ·)) : pool.contains port = true ↔ port ∈ pool.toList := by
  rw [contains, search_eq_true_iff h, toList, ← Array.mem_def, Array.mem_iff_getElem]
  constructor
  · rintro ⟨i, hsize, -, -, hi⟩
    exact ⟨i, hsize, hi⟩
  · rintro ⟨i, hsize, hi⟩
    exact ⟨i, hsize, Nat.zero_le _, hsize, hi⟩

end

end Pool

/-! ## Pools -/

/-- The port lies in the range that one of the texts denotes. -/
def IsListed (specs : List String) (port : Port) : Prop := ∃ spec ∈ specs, ∃ r, PortRange.Denotes spec r ∧ r.Covers port

/-- The error tells what is wrong with the first text that denotes no range. -/
def IsFirstFault (specs : List String) (e : PortError) : Prop := ∃ before spec after fault,
  specs = before ++ spec :: after ∧ (∀ earlier ∈ before, ∃ r, PortRange.Denotes earlier r) ∧
    PortRange.IsFaulty spec fault ∧ e = fault.inSpec spec

section

variable {specs : List String} {ranges : List PortRange} {port : Port} {e : PortError}

theorem isListed_iff (h : List.Forall₂ PortRange.Denotes specs ranges) :
    (∃ r ∈ ranges, r.Covers port) ↔ IsListed specs port :=
  exists_mem_right_iff h fun _ _ _ hr hr' => hr.unique hr'

theorem first_le_last_of_denotes (h : List.Forall₂ PortRange.Denotes specs ranges) :
    ∀ r ∈ ranges, r.first ≤ r.last := by
  intro r hr
  obtain ⟨spec, -, r', hspec, rfl⟩ := (exists_mem_right_iff h fun _ _ _ hr hr' => hr.unique hr').mp ⟨r, hr, rfl⟩
  exact hspec.first_le_last

theorem mapM_read_ok_iff : specs.mapM PortRange.read = .ok ranges ↔ List.Forall₂ PortRange.Denotes specs ranges := by
  simp only [mapM_ok_iff, PortRange.read_ok_iff]

theorem mapM_read_error_iff : specs.mapM PortRange.read = .error e ↔ IsFirstFault specs e := by
  simp only [mapM_error_iff, PortRange.exists_read_ok_iff, PortRange.read_error_iff, IsFirstFault, exists_and_left]

theorem exists_mapM_read_ok_iff :
    (∃ ranges, specs.mapM PortRange.read = .ok ranges) ↔ ∀ spec ∈ specs, ∃ r, PortRange.Denotes spec r := by
  simp only [exists_mapM_ok_iff, PortRange.read_ok_iff]

end

namespace Pool

/-- The pool that lists of used and of excluded texts denote: all of them denote ranges, and the pool has the ports that
are listed as used and not as excluded, of which there is one. -/
structure IsReadFrom (pool : Pool) (used excluded : List String) : Prop where
  denote : ∀ spec ∈ used ++ excluded, ∃ r, PortRange.Denotes spec r
  ports : IsSetOf pool.toList fun port => IsListed used port ∧ ¬ IsListed excluded port
  nonempty : pool.toList ≠ []

section

variable {used excluded : List String} {pool pool' : Pool} {port first last : Port} {e : PortError}

theorem ext_toList (h : pool.toList = pool'.toList) : pool = pool' := by
  cases pool
  cases pool'
  exact congrArg Pool.mk (Array.toList_inj.mp h)

theorem isSetOf_ofRanges {ranges without : List PortRange} (hused : List.Forall₂ PortRange.Denotes used ranges)
    (hexcluded : List.Forall₂ PortRange.Denotes excluded without) :
    IsSetOf (ofRanges ranges without).toList fun port => IsListed used port ∧ ¬ IsListed excluded port := by
  have hset := (IsSetOf.nil.addAll (first_le_last_of_denotes hused)).removeAll (first_le_last_of_denotes hexcluded)
  refine hset.congr fun port => ?_
  rw [false_or, isListed_iff hused, isListed_iff hexcluded]

theorem read_of_faulty (h : (used ++ excluded).mapM PortRange.read = .error e) : read used excluded = .error e := by
  rw [List.mapM_append] at h
  unfold read
  cases hused : used.mapM PortRange.read with
  | error e' =>
    rw [hused] at h
    cases h
    rfl
  | ok ranges =>
    cases hexcluded : excluded.mapM PortRange.read with
    | error e' =>
      rw [hused, hexcluded] at h
      cases h
      rfl
    | ok without =>
      rw [hused, hexcluded] at h
      cases h

/-- From texts that denote ranges a pool is read, unless it is empty. -/
theorem read_of_denote (h : ∀ spec ∈ used ++ excluded, ∃ r, PortRange.Denotes spec r) :
    ∃ pool : Pool, IsSetOf pool.toList (fun port => IsListed used port ∧ ¬ IsListed excluded port) ∧
      read used excluded =
        if pool.toList = [] then .error (PoolFault.nothingLeft.inSpec (",".intercalate used)) else .ok pool := by
  obtain ⟨hused, hexcluded⟩ := List.forall_mem_append.mp h
  obtain ⟨ranges, hranges⟩ := exists_mapM_read_ok_iff.mpr hused
  obtain ⟨without, hwithout⟩ := exists_mapM_read_ok_iff.mpr hexcluded
  refine ⟨ofRanges ranges without, isSetOf_ofRanges (mapM_read_ok_iff.mp hranges) (mapM_read_ok_iff.mp hwithout), ?_⟩
  unfold read
  rw [hranges, hwithout]
  simp only [toList, Array.toList_eq_nil_iff, ← Array.isEmpty_iff]
  rfl

theorem toList_eq_nil_iff (h : IsSetOf pool.toList fun port => IsListed used port ∧ ¬ IsListed excluded port) :
    pool.toList = [] ↔ ∀ port, IsListed used port → IsListed excluded port := by
  rw [List.eq_nil_iff_forall_not_mem]
  simp only [h.mem_iff, not_and, not_not]

/-- A pool is read if and only if it is the one that the lists denote. -/
theorem read_ok_iff : read used excluded = .ok pool ↔ pool.IsReadFrom used excluded := by
  constructor
  · intro hread
    cases hmap : (used ++ excluded).mapM PortRange.read with
    | error e =>
      rw [read_of_faulty hmap] at hread
      cases hread
    | ok ranges =>
      have hdenote := exists_mapM_read_ok_iff.mp ⟨ranges, hmap⟩
      obtain ⟨pool', hset, hread'⟩ := read_of_denote hdenote
      rw [hread'] at hread
      split at hread
      · cases hread
      · rename_i hne
        cases hread
        exact ⟨hdenote, hset, hne⟩
  · intro h
    obtain ⟨pool', hset, hread⟩ := read_of_denote h.denote
    cases ext_toList (hset.unique h.ports)
    rw [hread, if_neg h.nonempty]

/-- No pool is read if a text denotes no range, or if no port is left. -/
theorem read_error_iff : read used excluded = .error e ↔ IsFirstFault (used ++ excluded) e ∨
    (∀ spec ∈ used ++ excluded, ∃ r, PortRange.Denotes spec r) ∧ (∀ port, IsListed used port → IsListed excluded port) ∧
      e = PoolFault.nothingLeft.inSpec (",".intercalate used) := by
  rw [← mapM_read_error_iff, ← exists_mapM_read_ok_iff]
  cases hmap : (used ++ excluded).mapM PortRange.read with
  | error e' =>
    rw [read_of_faulty hmap]
    constructor
    · intro h
      cases h
      exact .inl rfl
    · rintro (h | ⟨⟨ranges, h⟩, -⟩)
      · cases h
        rfl
      · cases h
  | ok ranges =>
    obtain ⟨pool, hset, hread⟩ := read_of_denote (exists_mapM_read_ok_iff.mp ⟨ranges, hmap⟩)
    rw [hread]
    constructor
    · intro h
      split at h
      · rename_i hnil
        cases h
        exact .inr ⟨⟨ranges, rfl⟩, (toList_eq_nil_iff hset).mp hnil, rfl⟩
      · cases h
    · rintro (h | ⟨-, hnone, rfl⟩)
      · cases h
      · exact if_pos ((toList_eq_nil_iff hset).mpr hnone)

theorem exists_read_ok_iff : (∃ pool, read used excluded = .ok pool) ↔
    (∀ spec ∈ used ++ excluded, ∃ r, PortRange.Denotes spec r) ∧ ∃ port, IsListed used port ∧ ¬ IsListed excluded port := by
  constructor
  · rintro ⟨pool, hread⟩
    have h := read_ok_iff.mp hread
    obtain ⟨port, hport⟩ := List.exists_mem_of_ne_nil _ h.nonempty
    exact ⟨h.denote, port, (h.ports.mem_iff port).mp hport⟩
  · rintro ⟨hdenote, port, hport⟩
    obtain ⟨pool, hset, hread⟩ := read_of_denote hdenote
    exact ⟨pool, hread.trans (if_neg (List.ne_nil_of_mem ((hset.mem_iff port).mpr hport)))⟩

/-- The pool of a range is the one that is read from the text of the range. -/
theorem ofRange_ok_iff : ofRange first last = .ok pool ↔ pool.IsReadFrom [s!"{first.toNat}-{last.toNat}"] [] := by
  unfold ofRange
  split
  · rename_i h
    refine ⟨fun h => (by cases h), fun hread => ?_⟩
    obtain ⟨r, hr⟩ := hread.denote _ (List.mem_cons_self ..)
    obtain ⟨-, hle, hne⟩ := PortRange.denotes_bounds_iff.mp hr
    exact absurd h (not_or.mpr ⟨UInt16.not_lt.mpr hle, hne⟩)
  · rename_i h
    obtain ⟨hnot, hne⟩ := not_or.mp h
    have hdenotes := PortRange.denotes_bounds_iff.mpr ⟨rfl, UInt16.not_lt.mp hnot, hne⟩
    have hset : IsSetOf (PortRange.ports ⟨first, last⟩)
        fun port => IsListed [s!"{first.toNat}-{last.toNat}"] port ∧ ¬ IsListed [] port := by
      refine (IsSetOf.ports ⟨first, last⟩).congr fun port => ?_
      rw [← isListed_iff (.cons hdenotes .nil), ← isListed_iff .nil]
      simp
    constructor
    · intro hpool
      cases hpool
      refine ⟨?_, hset, ?_⟩
      · intro spec hspec
        rw [List.append_nil, List.mem_singleton] at hspec
        rw [hspec]
        exact ⟨_, hdenotes⟩
      · exact List.ne_nil_of_mem (PortRange.mem_ports.mpr ⟨UInt16.le_refl _, UInt16.not_lt.mp hnot⟩)
    · intro h
      exact congrArg Except.ok (ext_toList (hset.unique h.ports))

theorem IsReadFrom.nodup (h : pool.IsReadFrom used excluded) : pool.toList.Nodup :=
  h.ports.ascending.imp UInt16.ne_of_lt

/-- No range begins with port 0. -/
theorem IsReadFrom.zero_not_mem (h : pool.IsReadFrom used excluded) : 0 ∉ pool.toList := by
  intro hzero
  obtain ⟨⟨spec, -, r, hr, hcovers⟩, -⟩ := (h.ports.mem_iff 0).mp hzero
  exact hr.first_ne_zero (UInt16.le_zero_iff.mp hcovers.1)

/-- Neither the order of the texts counts nor how often one is listed. -/
theorem IsReadFrom.congr {used' excluded' : List String} (h : pool.IsReadFrom used excluded)
    (hused : ∀ spec, spec ∈ used' ↔ spec ∈ used) (hexcluded : ∀ spec, spec ∈ excluded' ↔ spec ∈ excluded) :
    pool.IsReadFrom used' excluded' := by
  refine ⟨fun spec hspec => h.denote spec ?_, h.ports.congr fun port => ?_, h.nonempty⟩
  · rwa [List.mem_append, ← hused, ← hexcluded, ← List.mem_append]
  · simp only [IsListed, hused, hexcluded]

end

end Pool

/-- A pool is read from lists of used and of excluded texts if and only if each of them denotes a range and a port is left;
otherwise the error is that of the first text that denotes none, or that no port is left. A pool that is read has its
ports in ascending order and without 0, and it has the ports that are listed as used and not as excluded, in whatever
order and however often. The pool of one range is the one that is read from the text of the range. -/
theorem pool_has_the_listed_ports (used excluded : List String) :
    ((∃ pool, Pool.read used excluded = .ok pool) ↔
      (∀ spec ∈ used ++ excluded, ∃ r, PortRange.Denotes spec r) ∧ ∃ port, IsListed used port ∧ ¬ IsListed excluded port) ∧
    (∀ e, Pool.read used excluded = .error e ↔ IsFirstFault (used ++ excluded) e ∨
      (∀ spec ∈ used ++ excluded, ∃ r, PortRange.Denotes spec r) ∧ (∀ port, IsListed used port → IsListed excluded port) ∧
        e = PoolFault.nothingLeft.inSpec (",".intercalate used)) ∧
    (∀ pool, Pool.read used excluded = .ok pool →
      pool.toList.Pairwise (· < ·) ∧ pool.toList ≠ [] ∧ 0 ∉ pool.toList ∧
      (∀ port, (port ∈ pool.toList ↔ pool.contains port = true) ∧
        (pool.contains port = true ↔ IsListed used port ∧ ¬ IsListed excluded port)) ∧
      ∀ used' excluded', (∀ spec, spec ∈ used' ↔ spec ∈ used) → (∀ spec, spec ∈ excluded' ↔ spec ∈ excluded) →
        Pool.read used' excluded' = .ok pool) ∧
    ∀ first last pool, Pool.ofRange first last = .ok pool ↔
      Pool.read [s!"{first.toNat}-{last.toNat}"] [] = .ok pool := by
  refine ⟨Pool.exists_read_ok_iff, fun e => Pool.read_error_iff, fun pool hread => ?_, fun first last pool => ?_⟩
  · have h := Pool.read_ok_iff.mp hread
    refine ⟨h.ports.ascending, h.nonempty, h.zero_not_mem, fun port => ?_, fun used' excluded' hused hexcluded => ?_⟩
    · rw [Pool.contains_iff h.ports.ascending]
      exact ⟨Iff.rfl, h.ports.mem_iff port⟩
    · exact Pool.read_ok_iff.mpr (h.congr hused hexcluded)
  · rw [Pool.ofRange_ok_iff, Pool.read_ok_iff]

/-- Ranges that overlap or are repeated, an exclusion that splits one, and the last port of all. Of the texts that denote
no range the first one is reported. -/
theorem split_range_has_its_ends :
    let used := [" 20002 - +20005 ", "65535", "20000-20003", "65535"]
    let excluded := ["1-1024", "020001-20002"]
    let pool : Pool := ⟨#[20000, 20003, 20004, 20005, 65535]⟩
    let ending : Pool := ⟨#[65534, 65535]⟩
    Pool.read used excluded = .ok pool ∧ (IsListed used 65535 ∧ ¬ IsListed excluded 65535) ∧
      ¬ (IsListed used 20002 ∧ ¬ IsListed excluded 20002) ∧ Pool.read used.reverse (excluded ++ excluded) = .ok pool ∧
      Pool.ofRange 65534 65535 = .ok ending ∧ Pool.read ["65534-65535"] [] = .ok ending ∧
      IsFirstFault ["1-2", "0-7", "8-x", "9-8"] (PoolFault.zeroPort.inSpec "0-7") := by
  intro used excluded pool ending
  have hread : Pool.read used excluded = .ok pool := by decide +kernel
  have hlast : pool.contains 65535 = true := by decide +kernel
  have hsplit : pool.contains 20002 = false := by decide +kernel
  have hending : Pool.ofRange 65534 65535 = .ok ending := by decide +kernel
  have hfault : Pool.read ["1-2", "0-7"] ["8-x", "9-8"] = .error (PoolFault.zeroPort.inSpec "0-7") := by decide +kernel
  have hno : ¬ PoolFault.zeroPort.inSpec "0-7" = PoolFault.nothingLeft.inSpec (",".intercalate ["1-2", "0-7"]) := by
    decide +kernel
  obtain ⟨-, -, hpool, hrange⟩ := pool_has_the_listed_ports used excluded
  obtain ⟨-, -, -, hports, hagain⟩ := hpool pool hread
  obtain ⟨-, herror, -, -⟩ := pool_has_the_listed_ports ["1-2", "0-7"] ["8-x", "9-8"]
  refine ⟨hread, (hports 65535).2.mp hlast, fun hlisted => ?_, ?_, hending, (hrange 65534 65535 ending).mp hending, ?_⟩
  · rw [(hports 20002).2.mpr hlisted] at hsplit
    cases hsplit
  · exact hagain used.reverse (excluded ++ excluded) (fun _ => List.mem_reverse) fun _ => by rw [List.mem_append, or_self]
  · exact ((herror _).mp hfault).resolve_right fun h => hno h.2.2

end Ports

end TunnelBroker
