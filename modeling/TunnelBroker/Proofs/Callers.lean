/-
  TunnelBroker.Proofs.Callers — which callers a list of entries lets in.

  `Network.Denotes` says which network an entry denotes, `IsFaulty` what is wrong with an entry that denotes none, and
  `Network.Covers` which addresses lie in a network, bit by bit: nothing in them is cut, masked or shifted.

  Proved:
  (1) An entry is read as the network that it denotes (`Network.read_ok_iff`), and refused for what is wrong with it
      (`Network.read_error_iff`); of a list it is the first entry that is refused (`mapM_error_iff`).
  (2) A network contains what it covers (`Network.contains_iff`), by masks that are never shifted by their whole width.
  (3) A list lets in whom one of its entries covers, or everybody if it is empty (`Acl.lets_in_exactly_the_covered`).
  (4) The normal form of a list denotes the same networks, and is its own normal form (`Acl.normal_form_is_lossless`).
-/

import TunnelBroker.Proofs.SpecText

namespace TunnelBroker

open TunnelBroker.Net (IpAddr)

/-! ## Entries -/

namespace Network

/-- The network that an entry denotes, blanks around it apart: that of an address with all its bits, or that of an
address, a slash and a number of leading bits, of which the address has enough as every network does. -/
inductive Denotes (entry : String) (n : Network) : Prop
  | address (hip : IpAddr.read? (Text.trim entry.toList) = some n.ip) (hall : n.bits = n.ip.width)
  | range {address length : List Char} (hentry : Text.trim entry.toList = address ++ '/' :: length)
      (hip : IpAddr.read? address = some n.ip) (hlength : Text.IsNumeral length n.bits)

/-- What is wrong with an entry: what stands before its first slash is no address, or what stands after it is not the
number of some of the bits of that address. -/
inductive IsFaulty (entry : String) : AclError → Prop
  | address (hip : IpAddr.read? ((Text.trim entry.toList).takeWhile (· ≠ '/')) = none) :
      IsFaulty entry (.invalidAddress (String.ofList (Text.trim entry.toList)))
  | range {address length : List Char} {ip : IpAddr} (hentry : Text.trim entry.toList = address ++ '/' :: length)
      (hip : IpAddr.read? address = some ip) (hlength : ∀ bits, Text.IsNumeral length bits → ip.width < bits) :
      IsFaulty entry (.invalidRange (String.ofList (Text.trim entry.toList)))

section

variable {entry : String} {n : Network} {ip : IpAddr} {e : AclError}

theorem slash_not_mem_of_read? {cs : List Char} (h : IpAddr.read? cs = some ip) : '/' ∉ cs := by
  intro hmem
  cases Net.isAddressChar_of_read? h '/' hmem

theorem takeWhile_of_cut? {sep : Char} {cs before after : List Char} (h : Text.cut? sep cs = some (before, after)) :
    cs.takeWhile (· ≠ sep) = before := by
  obtain ⟨rfl, hnot⟩ := Text.eq_of_cut? h
  refine Text.takeWhile_append (fun c hc => decide_eq_true fun heq => hnot (heq ▸ hc)) (Text.stops_cons.mpr ?_)
  simp

theorem takeWhile_of_not_mem {sep : Char} {cs : List Char} (h : sep ∉ cs) : cs.takeWhile (· ≠ sep) = cs :=
  Text.takeWhile_of_all fun _ hc => decide_eq_true fun heq => h (heq ▸ hc)

/-- A number of leading bits that an address has. -/
theorem unsigned?_bind_make? {length : List Char} :
    (Text.unsigned? 255 length).bind (make? ip) = some n ↔ n.ip = ip ∧ Text.IsNumeral length n.bits := by
  rw [Option.bind_eq_some_iff]
  constructor
  · rintro ⟨bits, hbits, hmake⟩
    unfold make? at hmake
    split at hmake
    · cases hmake
      exact ⟨rfl, (Text.unsigned?_eq_some_iff.mp hbits).1⟩
    · cases hmake
  · rintro ⟨rfl, hnumeral⟩
    have hle := n.bits_le
    have hwidth := n.ip.width_le
    exact ⟨n.bits, Text.unsigned?_eq_some_iff.mpr ⟨hnumeral, by omega⟩, dif_pos hle⟩

theorem unsigned?_bind_make?_eq_none {length : List Char} (h : (Text.unsigned? 255 length).bind (make? ip) = none)
    (bits : Nat) (hnumeral : Text.IsNumeral length bits) : ip.width < bits := by
  by_contra hle
  let n : Network := ⟨ip, bits, Nat.le_of_not_lt hle⟩
  have hsome : (Text.unsigned? 255 length).bind (make? ip) = some n := unsigned?_bind_make?.mpr ⟨rfl, hnumeral⟩
  rw [h] at hsome
  cases hsome

theorem read_of_denotes (h : Denotes entry n) : read entry = .ok n := by
  obtain ⟨ip, bits, hbits⟩ := n
  unfold read
  cases h with
  | address hip hall =>
    dsimp only at hip hall
    subst hall
    dsimp only
    rw [Text.cut?_of_not_mem (slash_not_mem_of_read? hip)]
    dsimp only
    rw [hip]
  | range hentry hip hlength =>
    dsimp only
    rw [hentry, Text.cut?_append (slash_not_mem_of_read? hip)]
    dsimp only
    rw [hip]
    dsimp only
    rw [unsigned?_bind_make?.mpr ⟨rfl, hlength⟩]

theorem read_of_isFaulty (h : IsFaulty entry e) : read entry = .error e := by
  unfold read
  cases h with
  | address hip =>
    dsimp only
    cases hcut : Text.cut? '/' (Text.trim entry.toList) with
    | none =>
      rw [takeWhile_of_not_mem (Text.not_mem_of_cut? hcut)] at hip
      dsimp only
      rw [hip]
    | some p =>
      rw [takeWhile_of_cut? hcut] at hip
      dsimp only
      rw [hip]
  | @range address length ip hentry hip hlength =>
    have hnone : (Text.unsigned? 255 length).bind (make? ip) = none := by
      rw [Option.eq_none_iff_forall_ne_some]
      intro n hn
      obtain ⟨rfl, hnumeral⟩ := unsigned?_bind_make?.mp hn
      have hle := n.bits_le
      have hlt := hlength n.bits hnumeral
      omega
    dsimp only
    rw [hentry, Text.cut?_append (slash_not_mem_of_read? hip)]
    dsimp only
    rw [hip]
    dsimp only
    rw [hnone]

/-- An entry denotes a network, or something is wrong with it. -/
theorem denotes_or_isFaulty (entry : String) : (∃ n, Denotes entry n) ∨ ∃ e, IsFaulty entry e := by
  cases hcut : Text.cut? '/' (Text.trim entry.toList) with
  | none =>
    cases hip : IpAddr.read? (Text.trim entry.toList) with
    | none => exact .inr ⟨_, .address (by rw [takeWhile_of_not_mem (Text.not_mem_of_cut? hcut), hip])⟩
    | some ip => exact .inl ⟨⟨ip, ip.width, Nat.le_refl _⟩, .address hip rfl⟩
  | some p =>
    obtain ⟨address, length⟩ := p
    obtain ⟨hentry, -⟩ := Text.eq_of_cut? hcut
    cases hip : IpAddr.read? address with
    | none => exact .inr ⟨_, .address (by rw [takeWhile_of_cut? hcut, hip])⟩
    | some ip =>
      cases hbits : (Text.unsigned? 255 length).bind (make? ip) with
      | none => exact .inr ⟨_, .range hentry hip (unsigned?_bind_make?_eq_none hbits)⟩
      | some n =>
        obtain ⟨rfl, hnumeral⟩ := unsigned?_bind_make?.mp hbits
        exact .inl ⟨n, .range hentry hip hnumeral⟩

/-- An entry is read as the network that it denotes. -/
theorem read_ok_iff : read entry = .ok n ↔ Denotes entry n := by
  refine ⟨fun hread => ?_, read_of_denotes⟩
  rcases denotes_or_isFaulty entry with ⟨m, hm⟩ | ⟨e, he⟩
  · rw [read_of_denotes hm, Except.ok.injEq] at hread
    rwa [← hread]
  · rw [read_of_isFaulty he] at hread
    cases hread

/-- An entry that denotes no network is refused for what is wrong with it. -/
theorem read_error_iff : read entry = .error e ↔ IsFaulty entry e := by
  refine ⟨fun hread => ?_, read_of_isFaulty⟩
  rcases denotes_or_isFaulty entry with ⟨m, hm⟩ | ⟨e', he⟩
  · rw [read_of_denotes hm] at hread
    cases hread
  · rw [read_of_isFaulty he, Except.error.injEq] at hread
    rwa [← hread]

theorem exists_read_ok_iff : (∃ n, read entry = .ok n) ↔ ∃ n, Denotes entry n := exists_congr fun _ => read_ok_iff

end

/-! ## Bits -/

/-- The address is of the network's family and has the same leading bits. -/
def Covers (n : Network) (ip : IpAddr) : Prop :=
  match n.ip, ip with
  | .v4 a, .v4 b => ∀ i < n.bits, a.getMsbD i = b.getMsbD i
  | .v6 a, .v6 b => ∀ i < n.bits, a.getMsbD i = b.getMsbD i
  | _, _ => False

section

variable {w bits : Nat} {n : Network} {ip : IpAddr}

/-- The bits of a mask are those from the top. -/
theorem getMsbD_mask (hbits : bits ≤ w) (i : Nat) :
    (BitVec.allOnes w <<< (w - bits)).getMsbD i = decide (i < bits) := by
  rw [BitVec.getMsbD_shiftLeft, BitVec.getMsbD_eq_getLsbD, BitVec.getLsbD_allOnes]
  by_cases hi : i < bits
  · simp only [hi, decide_true, Bool.and_eq_true, decide_eq_true_eq]
    omega
  · simp only [hi, decide_false, Bool.and_eq_false_iff, decide_eq_false_iff_not]
    omega

/-- Two words are the same under a mask if their leading bits are. -/
theorem and_mask_eq_iff (hbits : bits ≤ w) (a b : BitVec w) :
    a &&& BitVec.allOnes w <<< (w - bits) = b &&& BitVec.allOnes w <<< (w - bits) ↔
      ∀ i < bits, a.getMsbD i = b.getMsbD i := by
  constructor
  · intro heq i hi
    have hbit := congrArg (BitVec.getMsbD · i) heq
    simpa only [BitVec.getMsbD_and, getMsbD_mask hbits, hi, decide_true, Bool.and_true] using hbit
  · intro hsame
    refine BitVec.eq_of_getMsbD_eq fun i _ => ?_
    rw [BitVec.getMsbD_and, BitVec.getMsbD_and, getMsbD_mask hbits]
    by_cases hi : i < bits
    · rw [hsame i hi]
    · simp only [hi, decide_false, Bool.and_false]

theorem agree?_eq_some_true_iff (hpos : bits ≠ 0) (hbits : bits ≤ w) (a b : BitVec w) :
    agree? bits a b = some true ↔ ∀ i < bits, a.getMsbD i = b.getMsbD i := by
  have hlt : w - bits < w := by omega
  rw [agree?, shiftLeft?, if_pos hlt, Option.map_some, Option.some.injEq, beq_iff_eq, and_mask_eq_iff hbits]

theorem contains_eq_true_iff : n.contains ip = true ↔ n.contains? ip = some true := by
  unfold contains
  rw [Option.eq_some_iff_get_eq]
  exact ⟨fun h => ⟨_, h⟩, fun ⟨_, h⟩ => h⟩

/-- A network contains the addresses that it covers. -/
theorem contains_iff : n.contains ip = true ↔ n.Covers ip := by
  obtain ⟨net, bits, hbits⟩ := n
  rw [contains_eq_true_iff]
  unfold contains? Covers
  dsimp only
  by_cases hzero : bits = 0
  · -- no bit is compared
    subst hzero
    cases net <;> cases ip <;> simp [IpAddr.isV4]
  · rw [if_neg hzero]
    cases net with
    | v4 a =>
      cases ip with
      | v4 b => exact agree?_eq_some_true_iff hzero hbits a b
      | v6 b => simp
    | v6 a =>
      cases ip with
      | v4 b => simp
      | v6 b => exact agree?_eq_some_true_iff hzero hbits a b

end

end Network

/-! ## Lists of callers -/

section

variable {entries : List String} {networks : List Network} {acl : Acl} {entry : String} {n m : Network} {ip : IpAddr}

theorem Network.Denotes.unique (h : Denotes entry n) (h' : Denotes entry m) : n = m :=
  Except.ok.inj ((read_of_denotes h).symm.trans (read_of_denotes h'))

/-- What is so of one of the networks is so of what one of the entries denotes. -/
theorem exists_network_iff {p : Network → Prop} (h : List.Forall₂ Network.Denotes entries networks) :
    (∃ n ∈ networks, p n) ↔ ∃ entry ∈ entries, ∃ n, Network.Denotes entry n ∧ p n :=
  exists_mem_right_iff h fun _ _ _ hn hm => hn.unique hm

namespace Acl

theorem read_ok_iff : Acl.read entries = .ok acl ↔ List.Forall₂ Network.Denotes entries acl.networks := by
  have hread : Acl.read entries = .ok acl ↔ entries.mapM Network.read = .ok acl.networks := by
    unfold Acl.read
    cases entries.mapM Network.read with
    | error e => exact ⟨fun h => (by cases h), fun h => (by cases h)⟩
    | ok networks => exact ⟨fun h => by cases h; rfl, fun h => by cases h; rfl⟩
  simp only [hread, mapM_ok_iff, Network.read_ok_iff]

theorem read_error_iff {e : AclError} : Acl.read entries = .error e ↔ ∃ before entry after,
    entries = before ++ entry :: after ∧ (∀ earlier ∈ before, ∃ n, Network.Denotes earlier n) ∧
      Network.IsFaulty entry e := by
  have hread : Acl.read entries = .error e ↔ entries.mapM Network.read = .error e := by
    unfold Acl.read
    cases entries.mapM Network.read with
    | error e' => exact ⟨fun h => by cases h; rfl, fun h => by cases h; rfl⟩
    | ok networks => exact ⟨fun h => (by cases h), fun h => (by cases h)⟩
  simp only [hread, mapM_error_iff, Network.exists_read_ok_iff, Network.read_error_iff]

theorem eq_unrestricted_iff (h : List.Forall₂ Network.Denotes entries acl.networks) :
    acl = unrestricted ↔ entries = [] := by
  obtain ⟨networks⟩ := acl
  cases h with
  | nil => exact ⟨fun _ => rfl, fun _ => rfl⟩
  | cons hfirst hrest => exact ⟨fun h => (by cases h), fun h => (by cases h)⟩

/-- A list lets in whom one of its entries covers, or everybody if it is empty. -/
theorem allows_iff (h : List.Forall₂ Network.Denotes entries acl.networks) :
    acl.allows ip = true ↔ entries = [] ∨ ∃ entry ∈ entries, ∃ n, Network.Denotes entry n ∧ n.Covers ip := by
  have hempty : acl.networks = [] ↔ entries = [] := by
    rw [← List.length_eq_zero_iff, ← List.length_eq_zero_iff, h.length_eq]
  rw [allows, Bool.or_eq_true, List.isEmpty_iff, List.any_eq_true, hempty]
  simp only [Network.contains_iff, exists_network_iff h]

theorem exists_read_ok_iff : (∃ acl, Acl.read entries = .ok acl) ↔ ∀ entry ∈ entries, ∃ n, Network.Denotes entry n := by
  simp only [← Network.read_ok_iff, ← exists_mapM_ok_iff]
  unfold Acl.read
  cases entries.mapM Network.read with
  | error e => exact ⟨fun ⟨_, h⟩ => (by cases h), fun ⟨_, h⟩ => (by cases h)⟩
  | ok networks => exact ⟨fun _ => ⟨networks, rfl⟩, fun _ => ⟨⟨networks⟩, rfl⟩⟩

/-- A list of entries is read if and only if each of them denotes a network, the first that does not is the error, and
what is read lets in exactly the addresses that an entry covers. -/
theorem lets_in_exactly_the_covered (entries : List String) :
    ((∃ acl, Acl.read entries = .ok acl) ↔ ∀ entry ∈ entries, ∃ n, Network.Denotes entry n) ∧
    (∀ e, Acl.read entries = .error e ↔ ∃ before entry after, entries = before ++ entry :: after ∧
      (∀ earlier ∈ before, ∃ n, Network.Denotes earlier n) ∧ Network.IsFaulty entry e) ∧
    ∀ acl, Acl.read entries = .ok acl →
      List.Forall₂ Network.Denotes entries acl.networks ∧ (acl = unrestricted ↔ entries = []) ∧
      ∀ ip, (acl.allows ip = true ↔
          entries = [] ∨ ∃ entry ∈ entries, ∃ n, Network.Denotes entry n ∧ n.Covers ip) ∧
        -- the answers are worked out without a shift by a whole word
        ∀ n ∈ acl.networks, n.contains? ip = some (n.contains ip) := by
  refine ⟨exists_read_ok_iff, fun e => read_error_iff, fun acl hread => ?_⟩
  have hall := read_ok_iff.mp hread
  exact ⟨hall, eq_unrestricted_iff hall, fun ip => ⟨allows_iff hall, fun n _ => (Option.some_get _).symm⟩⟩

/-- The bits of an entry after the leading ones do not count: `10.1.2.3/8` covers 10.255.255.255, but not 11.1.2.3. -/
theorem trailing_bits_do_not_count :
    let entries := ["10.1.2.3/+08", " 2001:db8::/32\t"]
    let acl : Acl := ⟨[⟨.v4 0x0a010203, 8, by decide⟩, ⟨.v6 0x20010db8000000000000000000000000, 32, by decide⟩]⟩
    Acl.read entries = .ok acl ∧
      (∃ entry ∈ entries, ∃ n, Network.Denotes entry n ∧ n.Covers (.v4 0x0affffff)) ∧
      ¬ (∃ entry ∈ entries, ∃ n, Network.Denotes entry n ∧ n.Covers (.v4 0x0b010203)) := by
  intro entries acl
  have hread : Acl.read entries = .ok acl := by decide +kernel
  obtain ⟨-, -, hlist⟩ := lets_in_exactly_the_covered entries
  obtain ⟨-, -, hcallers⟩ := hlist acl hread
  have hin := (hcallers (.v4 0x0affffff)).1.mp (by decide)
  have hout := (hcallers (.v4 0x0b010203)).1.not.mp (by decide)
  exact ⟨hread, hin.resolve_left (by decide), fun hcovers => hout (.inr hcovers)⟩

/-! ## Normal forms -/

/-- The normal form of a list is read as the same list, and so has the same normal form; entry by entry it denotes what
was written, and no other list has it. -/
theorem normal_form_is_lossless (hread : Acl.read entries = .ok acl) :
    (∃ again, Acl.read acl.entries = .ok again ∧ again = acl ∧ (∀ ip, again.allows ip = acl.allows ip) ∧
      again.entries = acl.entries) ∧
    List.Forall₂ (fun entry text => ∃ n, Network.Denotes entry n ∧ Network.Denotes text n) entries acl.entries ∧
    ∀ other : Acl, other.entries = acl.entries → other = acl := by
  refine ⟨⟨acl, read_entries acl, rfl, fun _ => rfl, rfl⟩, ?_, ?_⟩
  · have hall := read_ok_iff.mp hread
    unfold Acl.entries
    rw [List.forall₂_map_right_iff]
    exact hall.imp fun entry n hn => ⟨n, hn, Network.read_ok_iff.mp (Network.read_text n)⟩
  · intro other hsame
    have hagain := read_entries other
    rw [hsame, read_entries acl] at hagain
    exact (Except.ok.inj hagain).symm

/-- The number of bits is left out where it is that of the whole address; other bits stay as they were written. -/
theorem mixed_list_in_normal_form :
    let entries := [" 10.1.2.3/8", "192.0.2.1/32", "2001:DB8:0:0::1/+128", "::/0"]
    let acl : Acl := ⟨[⟨.v4 0x0a010203, 8, by decide⟩, ⟨.v4 0xc0000201, 32, by decide⟩,
      ⟨.v6 0x20010db8000000000000000000000001, 128, by decide⟩, ⟨.v6 0, 0, by decide⟩]⟩
    Acl.read entries = .ok acl ∧ acl.entries = ["10.1.2.3/8", "192.0.2.1", "2001:db8::1", "::/0"] ∧
      Acl.read ["10.1.2.3/8", "192.0.2.1", "2001:db8::1", "::/0"] = .ok acl := by
  intro entries acl
  have hread : Acl.read entries = .ok acl := by decide +kernel
  have htexts : acl.entries = ["10.1.2.3/8", "192.0.2.1", "2001:db8::1", "::/0"] := by decide +kernel
  obtain ⟨⟨again, hagain, rfl, -, -⟩, -, -⟩ := normal_form_is_lossless hread
  rw [htexts] at hagain
  exact ⟨hread, htexts, hagain⟩

end Acl

end

end TunnelBroker
