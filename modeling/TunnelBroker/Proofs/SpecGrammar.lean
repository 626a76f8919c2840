/-
  TunnelBroker.Proofs.SpecGrammar — the texts that denote forwards.

  The text of a forward is one segment, or a segment, a colon and such a text (`Spells`). A `Segment` is a text in
  brackets up to the first that closes, or a plain text without colons that does not begin with a bracket.

  Proved:
  (1) Texts are cut along this grammar and nothing else is (`segments_ok_iff`), in the only way there is
      (`Spells.unique`), in no more rounds than a text has characters and one (`Cutting.rounds`).
  (2) A forward is read from one to four segments with its ports and its remote host in their places
      (`Forward.reads_exactly_the_grammar`).
  (3) A forward is read back from its text if its hosts have no brackets, with the local host that it listens on
      (`Forward.ordinary_text_reads_back`). It need not be valid: its local host may be no address, its ports zero.
-/

import Mathlib.Logic.Function.Iterate
import TunnelBroker.Proofs.SpecText

namespace TunnelBroker

open TunnelBroker.Net (Port)

/-! ## The grammar -/

/-- One part of the text of a forward, as it is written. -/
inductive Segment where
  | bracketed (text : List Char) (closed : ']' ∉ text)
  | plain (text : List Char) (uncut : ':' ∉ text) (unopened : text.head? ≠ some '[')

namespace Segment

def text : Segment → List Char
  | bracketed text _ => text
  | plain text _ _ => text

def chars : Segment → List Char
  | bracketed text _ => '[' :: (text ++ [']'])
  | plain text _ _ => text

end Segment

/-- The segments are written one after the other with colons between them. -/
inductive Spells : List Segment → List Char → Prop
  | last (s : Segment) : Spells [s] s.chars
  | cons (s : Segment) {parts : List Segment} {rest : List Char} (hrest : Spells parts rest) :
      Spells (s :: parts) (s.chars ++ ':' :: rest)

section

variable {s s' : Segment} {parts parts' : List Segment} {cs rest rest' : List Char} {texts : List (List Char)}

theorem segments_of_spells (h : Spells parts cs) : segments cs = .ok (parts.map Segment.text) := by
  induction h with
  | last s =>
    cases s with
    | bracketed text closed => exact segments_closed closed
    | plain text uncut unopened => exact segments_last unopened uncut
  | @cons s parts rest hrest ih =>
    have hfirst : segments (s.chars ++ ':' :: rest) = (segments rest).map (s.text :: ·) := by
      cases s with
      | bracketed text closed =>
        rw [Segment.chars, List.cons_append, List.append_assoc]
        exact segments_bracketed closed rest
      | plain text uncut unopened => exact segments_plain unopened uncut rest
    rw [hfirst, ih]
    rfl

theorem spells_of_segments (h : segments cs = .ok texts) : ∃ parts, Spells parts cs ∧ parts.map Segment.text = texts := by
  fun_induction segments cs generalizing texts with
  | case1 cs hopen hcut => cases h
  | case2 cs hopen inner hcut =>
    obtain ⟨rfl, hinner⟩ := eq_of_open hopen hcut
    cases h
    exact ⟨[.bracketed inner hinner], .last _, rfl⟩
  | case3 cs hopen inner rest hcut ih =>
    obtain ⟨rfl, hinner⟩ := eq_of_open hopen hcut
    obtain ⟨more, hmore, rfl⟩ := segments_cons_ok h
    obtain ⟨parts, hparts, rfl⟩ := ih hmore
    have hspells := Spells.cons (.bracketed inner hinner) hparts
    rw [Segment.chars, List.cons_append, List.append_assoc] at hspells
    exact ⟨_, hspells, rfl⟩
  | case4 cs hopen inner c rest hcut hc => cases h
  | case5 cs hopen hcut =>
    cases h
    exact ⟨[.plain cs (Text.not_mem_of_cut? hcut) hopen], .last _, rfl⟩
  | case6 cs hopen segment rest hcut ih =>
    obtain ⟨rfl, hsegment⟩ := Text.eq_of_cut? hcut
    have hplain : segment.head? ≠ some '[' := by
      cases segment with
      | nil => simp
      | cons c segment => exact hopen
    obtain ⟨more, hmore, rfl⟩ := segments_cons_ok h
    obtain ⟨parts, hparts, rfl⟩ := ih hmore
    exact ⟨_, .cons (.plain segment hsegment hplain) hparts, rfl⟩

/-- A text is cut if it is one of the grammar, and into the texts of its segments. -/
theorem segments_ok_iff : segments cs = .ok texts ↔ ∃ parts, Spells parts cs ∧ parts.map Segment.text = texts := by
  refine ⟨spells_of_segments, ?_⟩
  rintro ⟨parts, hparts, rfl⟩
  exact segments_of_spells hparts

/-! ## One way to cut a text -/

/-- What may follow a segment: nothing, or a colon. -/
abbrev EndsSegment (rest : List Char) : Prop := Text.Stops (· ≠ ':') rest

theorem Segment.plain_ne_open {text : List Char} (unopened : text.head? ≠ some '[') (hrest : EndsSegment rest)
    (more : List Char) : text ++ rest ≠ '[' :: more := by
  intro heq
  cases text with
  | nil => cases hrest _ _ heq
  | cons c text =>
    obtain ⟨rfl, -⟩ := List.cons.inj heq
    exact unopened rfl

/-- A segment is known from where it starts. -/
theorem Segment.chars_append_inj (hrest : EndsSegment rest) (hrest' : EndsSegment rest')
    (heq : s.chars ++ rest = s'.chars ++ rest') : s = s' ∧ rest = rest' := by
  cases s with
  | bracketed text closed =>
    cases s' with
    | bracketed text' closed' =>
      simp only [chars, List.cons_append, List.append_assoc, List.nil_append, List.cons.injEq, true_and] at heq
      have hcut := Text.cut?_append closed rest
      rw [heq, Text.cut?_append closed'] at hcut
      cases hcut
      exact ⟨rfl, rfl⟩
    | plain text' uncut' unopened' => exact absurd heq.symm (plain_ne_open unopened' hrest' _)
  | plain text uncut unopened =>
    cases s' with
    | bracketed text' closed' => exact absurd heq (plain_ne_open unopened hrest _)
    | plain text' uncut' unopened' =>
      have hnot {cs : List Char} (h : ':' ∉ cs) : ∀ c ∈ cs, decide (c ≠ ':') = true := fun c hc =>
        decide_eq_true fun hcolon => h (hcolon ▸ hc)
      have htext := Text.takeWhile_append (hnot uncut) hrest
      have hafter := Text.dropWhile_append (hnot uncut) hrest
      simp only [chars] at heq
      rw [heq, Text.takeWhile_append (hnot uncut') hrest'] at htext
      rw [heq, Text.dropWhile_append (hnot uncut') hrest'] at hafter
      subst htext hafter
      exact ⟨rfl, rfl⟩

/-- A text is spelled by one list of segments at most. -/
theorem Spells.unique (h : Spells parts cs) (h' : Spells parts' cs) : parts = parts' := by
  have hnone : EndsSegment [] := .nil
  have hcolon (rest : List Char) : EndsSegment (':' :: rest) := Text.stops_cons.mpr (by simp)
  induction h generalizing parts' with
  | last s =>
    generalize hcs : s.chars = cs at h'
    rw [← List.append_nil s.chars] at hcs
    cases h' with
    | last s' =>
      rw [← List.append_nil s'.chars] at hcs
      rw [(Segment.chars_append_inj hnone hnone hcs).1]
    | cons s' hrest' => cases (Segment.chars_append_inj hnone (hcolon _) hcs).2
  | @cons s parts rest hrest ih =>
    generalize hcs : s.chars ++ ':' :: rest = cs at h'
    cases h' with
    | last s' =>
      rw [← List.append_nil s'.chars] at hcs
      cases (Segment.chars_append_inj (hcolon _) hnone hcs).2
    | cons s' hrest' =>
      obtain ⟨rfl, hsame⟩ := Segment.chars_append_inj (hcolon _) (hcolon _) hcs
      cases hsame
      rw [ih hrest']

end

/-! ## Rounds -/

/-- A text that is being cut: the segments so far and the text that is left, or what came of it. -/
inductive Cutting where
  | going (texts : List (List Char)) (rest : List Char)
  | ended (outcome : Except SpecFault (List (List Char)))

namespace Cutting

/-- One segment is taken off the text that is left. -/
def round : Cutting → Cutting
  | ended outcome => ended outcome
  | going texts rest =>
    if rest.head? = some '[' then
      match Text.cut? ']' rest.tail with
      | none => ended (.error .unclosedBracket)
      | some (inner, []) => ended (.ok (texts ++ [inner]))
      | some (inner, c :: rest) => if c = ':' then going (texts ++ [inner]) rest else ended (.error .missingColon)
    else
      match Text.cut? ':' rest with
      | none => ended (.ok (texts ++ [rest]))
      | some (segment, rest) => going (texts ++ [segment]) rest

theorem round_ended (outcome : Except SpecFault (List (List Char))) (n : Nat) : round^[n] (ended outcome) = ended outcome :=
  Function.iterate_fixed rfl n

/-- A round ends with what the text is cut into, or takes off its first segment. -/
theorem round_cases (texts : List (List Char)) (cs : List Char) :
    round (going texts cs) = ended ((segments cs).map (texts ++ ·)) ∨
      ∃ segment rest, rest.length < cs.length ∧ round (going texts cs) = going (texts ++ [segment]) rest ∧
        segments cs = (segments rest).map (segment :: ·) := by
  fun_cases segments cs with
  | case1 hopen hcut =>
    left
    simp only [round, hopen, hcut, if_true]
    rfl
  | case2 hopen inner hcut =>
    left
    simp only [round, hopen, hcut, if_true]
    rfl
  | case3 hopen inner rest hcut =>
    have hlength := Text.length_lt_of_cut? hcut
    rw [List.length_tail, List.length_cons] at hlength
    refine .inr ⟨inner, rest, by omega, ?_, rfl⟩
    simp only [round, hopen, hcut, if_true]
  | case4 hopen inner c rest hcut hc =>
    left
    simp only [round, hopen, hcut, if_true, hc, if_false]
    rfl
  | case5 hopen hcut =>
    left
    simp only [round, hopen, hcut, if_false]
    rfl
  | case6 hopen segment rest hcut =>
    refine .inr ⟨segment, rest, Text.length_lt_of_cut? hcut, ?_, rfl⟩
    simp only [round, hopen, hcut, if_false]

/-- Every text is done after as many rounds as it has characters, and one. -/
theorem rounds {cs : List Char} {n : Nat} (texts : List (List Char)) (h : cs.length ≤ n) :
    round^[n + 1] (going texts cs) = ended ((segments cs).map (texts ++ ·)) := by
  induction n generalizing texts cs with
  | zero =>
    rcases round_cases texts cs with hround | ⟨segment, rest, hshort, -, -⟩
    · exact hround
    · omega
  | succ n ih =>
    rw [Function.iterate_succ_apply]
    rcases round_cases texts cs with hround | ⟨segment, rest, hshort, hround, hsegments⟩
    · rw [hround, round_ended]
    · rw [hround, ih _ (by omega), hsegments]
      cases segments rest with
      | error fault => rfl
      | ok more => simp [Except.map]

end Cutting

/-! ## Forwards -/

namespace Forward

/-- The forward that the texts of one to four segments make: the last one is the remote port, the one before it the
remote host, and before these stand the local port and, ahead of it, the local host. -/
inductive IsMadeOf : Forward → List (List Char) → Prop
  | remotePort {remotePort : List Char} {port : Port} (hremote : Text.IsNumeral remotePort port.toNat) :
      IsMadeOf ⟨none, none, defaultRemoteHost, port⟩ [remotePort]
  | remote {remoteHost remotePort : List Char} {port : Port} (hhost : remoteHost ≠ [])
      (hremote : Text.IsNumeral remotePort port.toNat) :
      IsMadeOf ⟨none, none, String.ofList remoteHost, port⟩ [remoteHost, remotePort]
  | localPort {localPort remoteHost remotePort : List Char} {lport port : Port}
      (hlocal : Text.IsNumeral localPort lport.toNat) (hhost : remoteHost ≠ [])
      (hremote : Text.IsNumeral remotePort port.toNat) :
      IsMadeOf ⟨none, some lport, String.ofList remoteHost, port⟩ [localPort, remoteHost, remotePort]
  | both {localHost localPort remoteHost remotePort : List Char} {lport port : Port}
      (hlocal : Text.IsNumeral localPort lport.toNat) (hhost : remoteHost ≠ [])
      (hremote : Text.IsNumeral remotePort port.toNat) :
      IsMadeOf ⟨some (String.ofList localHost), some lport, String.ofList remoteHost, port⟩
        [localHost, localPort, remoteHost, remotePort]

section

variable {f g : Forward} {spec : String} {cs : List Char} {texts : List (List Char)} {port : Port}

theorem isEmpty_ofList_eq_false_iff : (String.ofList cs).isEmpty = false ↔ cs ≠ [] := by
  cases cs <;> simp

/-- A forward is made of segments in the places of its parts. -/
theorem ofSegments_ok_iff : (ofSegments texts = .ok f ∧ f.remoteHost.isEmpty = false) ↔ f.IsMadeOf texts := by
  constructor
  · rintro ⟨hread, hhost⟩
    rcases texts with _ | ⟨t₁, _ | ⟨t₂, _ | ⟨t₃, _ | ⟨t₄, _ | ⟨t₅, more⟩⟩⟩⟩⟩
    · cases hread
    · obtain ⟨port, hport, hf⟩ := bind_ok_iff.mp hread
      cases hf
      exact .remotePort (readPort_ok_iff.mp hport)
    · obtain ⟨port, hport, hf⟩ := bind_ok_iff.mp hread
      cases hf
      exact .remote (isEmpty_ofList_eq_false_iff.mp hhost) (readPort_ok_iff.mp hport)
    · obtain ⟨port, hport, hread⟩ := bind_ok_iff.mp hread
      obtain ⟨lport, hlport, hf⟩ := bind_ok_iff.mp hread
      cases hf
      exact .localPort (readPort_ok_iff.mp hlport) (isEmpty_ofList_eq_false_iff.mp hhost) (readPort_ok_iff.mp hport)
    · obtain ⟨port, hport, hread⟩ := bind_ok_iff.mp hread
      obtain ⟨lport, hlport, hf⟩ := bind_ok_iff.mp hread
      cases hf
      exact .both (readPort_ok_iff.mp hlport) (isEmpty_ofList_eq_false_iff.mp hhost) (readPort_ok_iff.mp hport)
    · cases hread
  · intro hmade
    cases hmade with
    | remotePort hremote =>
      rw [ofSegments, readPort_ok_iff.mpr hremote]
      exact ⟨rfl, rfl⟩
    | remote hhost hremote =>
      rw [ofSegments, readPort_ok_iff.mpr hremote]
      exact ⟨rfl, isEmpty_ofList_eq_false_iff.mpr hhost⟩
    | localPort hlocal hhost hremote =>
      rw [ofSegments, readPort_ok_iff.mpr hremote, readPort_ok_iff.mpr hlocal]
      exact ⟨rfl, isEmpty_ofList_eq_false_iff.mpr hhost⟩
    | both hlocal hhost hremote =>
      rw [ofSegments, readPort_ok_iff.mpr hremote, readPort_ok_iff.mpr hlocal]
      exact ⟨rfl, isEmpty_ofList_eq_false_iff.mpr hhost⟩

theorem read_ok_iff_spells :
    read spec = .ok f ↔ ∃ parts, Spells parts (Text.trim spec.toList) ∧ f.IsMadeOf (parts.map Segment.text) := by
  simp only [read_ok_iff, ofSegments_ok_iff]
  constructor
  · rintro ⟨texts, htexts, hmade⟩
    obtain ⟨parts, hparts, rfl⟩ := segments_ok_iff.mp htexts
    exact ⟨parts, hparts, hmade⟩
  · rintro ⟨parts, hparts, hmade⟩
    exact ⟨_, segments_of_spells hparts, hmade⟩

/-- A text denotes a forward if and only if it is cut into segments that make the forward: this is so of the texts of
the grammar, which are cut in one way, and the cutting always comes to its end. -/
theorem reads_exactly_the_grammar (spec : String) :
    (∀ texts, segments (Text.trim spec.toList) = .ok texts ↔
      ∃ parts, Spells parts (Text.trim spec.toList) ∧ parts.map Segment.text = texts) ∧
    (∀ parts parts', Spells parts (Text.trim spec.toList) → Spells parts' (Text.trim spec.toList) → parts = parts') ∧
    (∀ f, read spec = .ok f ↔ ∃ parts, Spells parts (Text.trim spec.toList) ∧ f.IsMadeOf (parts.map Segment.text)) ∧
    Cutting.round^[(Text.trim spec.toList).length + 1] (.going [] (Text.trim spec.toList)) =
      .ended (segments (Text.trim spec.toList)) := by
  refine ⟨fun texts => segments_ok_iff, fun parts parts' h h' => h.unique h', fun f => read_ok_iff_spells, ?_⟩
  rw [Cutting.rounds [] (Nat.le_refl _)]
  cases segments (Text.trim spec.toList) <;> rfl

/-- Brackets around a port are taken off like those around a host, and a plus before it is passed; nothing but a colon may
follow them. -/
theorem brackets_around_any_segment :
    (∃! parts, Spells parts "[::1]:[+8080]:[fd00::5]:05432".toList ∧
      IsMadeOf ⟨some "::1", some 8080, "fd00::5", 5432⟩ (parts.map Segment.text)) ∧
    ¬ ∃ parts, Spells parts "[::1]8080:db:5432".toList := by
  have hspec : Text.trim " [::1]:[+8080]:[fd00::5]:05432\n".toList = "[::1]:[+8080]:[fd00::5]:05432".toList := by
    decide +kernel
  have hread : read " [::1]:[+8080]:[fd00::5]:05432\n" = .ok ⟨some "::1", some 8080, "fd00::5", 5432⟩ := by
    decide +kernel
  have hmissing : Text.trim "[::1]8080:db:5432".toList = "[::1]8080:db:5432".toList := by decide +kernel
  have hcut : segments "[::1]8080:db:5432".toList = .error .missingColon := by decide +kernel
  obtain ⟨-, hone, hforward, -⟩ := reads_exactly_the_grammar " [::1]:[+8080]:[fd00::5]:05432\n"
  obtain ⟨hsegments, -, -, -⟩ := reads_exactly_the_grammar "[::1]8080:db:5432"
  rw [hspec] at hone
  rw [hmissing] at hsegments
  constructor
  · obtain ⟨parts, hparts, hmade⟩ := (hforward _).mp hread
    rw [hspec] at hparts
    exact ⟨parts, ⟨hparts, hmade⟩, fun parts' h => hone parts' parts h.1 hparts⟩
  · rintro ⟨parts, hparts⟩
    have hok := (hsegments _).mpr ⟨parts, hparts, rfl⟩
    rw [hcut] at hok
    cases hok

end

/-! ## Ordinary forwards -/

/-- The host that the text of a forward begins with. -/
def firstHost (f : Forward) : String := if f.localPort.isSome then f.localHostText else f.remoteHost

/-- A forward with a remote host, hosts without brackets, a local host only beside a local port, and a first host that is
written in brackets, as it has colons, or does not begin with a blank. -/
structure IsOrdinary (f : Forward) : Prop where
  remote_ne : f.remoteHost ≠ ""
  unbracketed : ∀ host ∈ f.localHost.toList ++ [f.remoteHost], '[' ∉ host.toList ∧ ']' ∉ host.toList
  complete : f.localPort = none → f.localHost = none
  starts : ':' ∉ f.firstHost.toList → Text.Stops Text.isBlank f.firstHost.toList

/-- The forward with the local host that it listens on, if it has a local port. -/
def explicit (f : Forward) : Forward :=
  match f.localPort with
  | none => f
  | some port => f.withLocal f.localHostText port

section

variable {f g : Forward} {h : String} {port : Port}

theorem explicit_of_none (hport : f.localPort = none) : f.explicit = f := by
  rw [explicit, hport]

theorem explicit_of_some (hport : f.localPort = some port) :
    f.explicit = ⟨some f.localHostText, some port, f.remoteHost, f.remotePort⟩ := by
  rw [explicit, hport]
  rfl

/-- What is made explicit is what was meant. -/
theorem same_of_explicit (hsame : g.explicit = f.explicit) : g.remoteHost = f.remoteHost ∧
    g.remotePort = f.remotePort ∧ g.localPort = f.localPort ∧ g.localHostText = f.localHostText := by
  have hfields (f : Forward) : f.explicit.remoteHost = f.remoteHost ∧ f.explicit.remotePort = f.remotePort ∧
      f.explicit.localPort = f.localPort ∧ f.explicit.localHostText = f.localHostText := by
    cases hport : f.localPort with
    | none =>
      rw [explicit_of_none hport]
      exact ⟨rfl, rfl, hport, rfl⟩
    | some port =>
      rw [explicit_of_some hport]
      exact ⟨rfl, rfl, rfl, rfl⟩
  obtain ⟨hg₁, hg₂, hg₃, hg₄⟩ := hfields g
  obtain ⟨hf₁, hf₂, hf₃, hf₄⟩ := hfields f
  rw [hsame] at hg₁ hg₂ hg₃ hg₄
  exact ⟨hg₁.symm.trans hf₁, hg₂.symm.trans hf₂, hg₃.symm.trans hf₃, hg₄.symm.trans hf₄⟩

/-- What is written for a host without brackets is one segment. -/
theorem exists_segment_of_host (hopen : '[' ∉ h.toList) (hclose : ']' ∉ h.toList) :
    ∃ s : Segment, s.text = h.toList ∧ s.chars = bracketed h := by
  have hhead : h.toList.head? ≠ some '[' := fun hhead => hopen (List.mem_of_mem_head? hhead)
  rw [bracketed_eq]
  by_cases hcolon : ':' ∈ h.toList
  · rw [if_pos ⟨hhead, hcolon⟩]
    exact ⟨.bracketed h.toList hclose, rfl, rfl⟩
  · rw [if_neg fun hcond => hcolon hcond.2]
    exact ⟨.plain h.toList hcolon hhead, rfl, rfl⟩

/-- What is written for a port is one segment. -/
theorem exists_segment_of_port (port : Port) :
    ∃ s : Segment, s.text = Text.digitsOf port.toNat ∧ s.chars = Text.digitsOf port.toNat := by
  have hhead : (Text.digitsOf port.toNat).head? ≠ some '[' := fun hhead =>
    Text.not_mem_digitsOf (c := '[') rfl _ (List.mem_of_mem_head? hhead)
  exact ⟨.plain _ (Text.not_mem_digitsOf rfl _) hhead, rfl, rfl⟩

theorem IsOrdinary.localHostText_unbracketed (hf : f.IsOrdinary) :
    '[' ∉ f.localHostText.toList ∧ ']' ∉ f.localHostText.toList := by
  have hhosts := hf.unbracketed
  unfold localHostText
  cases hhost : f.localHost with
  | none => exact ⟨by decide, by decide⟩
  | some host => exact hhosts host (by simp [hhost])

/-- An ordinary forward is written as segments that make it. -/
theorem IsOrdinary.spells (hf : f.IsOrdinary) :
    ∃ parts, Spells parts f.chars ∧ f.explicit.IsMadeOf (parts.map Segment.text) := by
  have hnumeral (port : Port) : Text.IsNumeral (Text.digitsOf port.toNat) port.toNat := Text.isNumeral_digitsOf _
  have hremote : f.remoteHost.toList ≠ [] := fun hnil => hf.remote_ne (String.toList_eq_nil_iff.mp hnil)
  obtain ⟨hopen, hclose⟩ := hf.unbracketed f.remoteHost (by simp)
  obtain ⟨remoteHost, hhostText, hhostChars⟩ := exists_segment_of_host hopen hclose
  obtain ⟨remotePort, hportText, hportChars⟩ := exists_segment_of_port f.remotePort
  have hend : Spells [remoteHost, remotePort] f.remoteChars := by
    have hspells := Spells.cons remoteHost (Spells.last remotePort)
    rwa [hhostChars, hportChars] at hspells
  cases hport : f.localPort with
  | none =>
    have hself : f = ⟨none, none, String.ofList f.remoteHost.toList, f.remotePort⟩ := by
      rw [String.ofList_toList, ← hport, ← hf.complete hport]
    refine ⟨[remoteHost, remotePort], ?_, ?_⟩
    · unfold chars
      rw [hport]
      exact hend
    · rw [explicit_of_none hport, hself, List.map_cons, List.map_singleton, hhostText, hportText]
      exact .remote hremote (hnumeral f.remotePort)
  | some port =>
    obtain ⟨hlocalOpen, hlocalClose⟩ := hf.localHostText_unbracketed
    obtain ⟨localHost, hlocalText, hlocalChars⟩ := exists_segment_of_host hlocalOpen hlocalClose
    obtain ⟨localPort, hlportText, hlportChars⟩ := exists_segment_of_port port
    have hself : f.explicit = ⟨some (String.ofList f.localHostText.toList), some port,
        String.ofList f.remoteHost.toList, f.remotePort⟩ := by
      rw [explicit_of_some hport, String.ofList_toList, String.ofList_toList]
    refine ⟨[localHost, localPort, remoteHost, remotePort], ?_, ?_⟩
    · have hspells := Spells.cons localHost (Spells.cons localPort hend)
      rw [hlocalChars, hlportChars] at hspells
      unfold chars
      rw [hport]
      simpa using hspells
    · rw [hself, List.map_cons, List.map_cons, List.map_cons, List.map_singleton, hlocalText, hlportText, hhostText,
        hportText]
      exact .both (hnumeral port) hremote (hnumeral f.remotePort)

/-- No blank at the start of the text is part of it. -/
theorem IsOrdinary.stops_chars (hf : f.IsOrdinary) : Text.Stops Text.isBlank f.chars := by
  obtain ⟨rest, hrest⟩ : ∃ rest, f.chars = bracketed f.firstHost ++ ':' :: rest := by
    unfold chars firstHost
    cases f.localPort with
    | none => exact ⟨_, rfl⟩
    | some port => exact ⟨Text.digitsOf port.toNat ++ ':' :: f.remoteChars, by simp⟩
  rw [hrest, bracketed_eq]
  split
  · exact Text.stops_cons.mpr rfl
  · rename_i hplain
    cases hhost : f.firstHost.toList with
    | nil => exact Text.stops_cons.mpr rfl
    | cons c host =>
      by_cases hcolon : ':' ∈ f.firstHost.toList
      · -- a host with colons that is written as it is starts with a bracket
        obtain rfl : c = '[' := by
          by_contra hc
          exact hplain ⟨by rw [hhost]; simpa using hc, hcolon⟩
        exact Text.stops_cons.mpr rfl
      · have hstarts := hf.starts hcolon
        rw [hhost] at hstarts
        exact Text.stops_cons.mpr (Text.stops_cons.mp hstarts)

/-- An ordinary forward is read back from its text, with the local host that it listens on, so that forwards that are
written alike have the same ports and hosts. -/
theorem ordinary_text_reads_back (hf : f.IsOrdinary) :
    read f.text = .ok f.explicit ∧
      ∀ g : Forward, g.IsOrdinary → g.text = f.text → g.remoteHost = f.remoteHost ∧ g.remotePort = f.remotePort ∧
        g.localPort = f.localPort ∧ g.localHostText = f.localHostText := by
  have hread {f : Forward} (hf : f.IsOrdinary) : read f.text = .ok f.explicit := by
    obtain ⟨parts, hparts, hmade⟩ := hf.spells
    refine read_ok_iff_spells.mpr ⟨parts, ?_, hmade⟩
    rwa [text, String.toList_ofList, trim_chars hf.stops_chars]
  refine ⟨hread hf, fun g hg hsame => same_of_explicit ?_⟩
  have hboth := hread hg
  rw [hsame, hread hf] at hboth
  exact (Except.ok.inj hboth).symm

/-- A remote host with a blank at its start, a colon and other odd characters; the local host that is left out is the one
that is written. -/
theorem odd_host_reads_back :
    let f : Forward := { localPort := some 0, remoteHost := " a:b/c\t", remotePort := 65535 }
    let g : Forward := f.withLocal "0.0.0.0" 0
    f.IsOrdinary ∧ g.IsOrdinary ∧ g.text = f.text ∧ read "0.0.0.0:0:[ a:b/c\t]:65535" = .ok g ∧
      g.localHostText = f.localHostText := by
  intro f g
  have hfirst : f.firstHost.toList = ['0', '.', '0', '.', '0', '.', '0'] := by decide
  have hstarts : Text.Stops Text.isBlank f.firstHost.toList := by
    rw [hfirst]
    exact Text.stops_cons.mpr rfl
  have hf : f.IsOrdinary := ⟨by decide, by decide, by decide, fun _ => hstarts⟩
  have hg : g.IsOrdinary := ⟨by decide, by decide, by decide, fun _ => hstarts⟩
  have htext : f.text = "0.0.0.0:0:[ a:b/c\t]:65535" := by decide
  have hsame : g.text = f.text := by decide
  obtain ⟨hread, hlike⟩ := ordinary_text_reads_back hf
  obtain ⟨-, -, -, hlocal⟩ := hlike g hg hsame
  rw [htext] at hread
  exact ⟨hf, hg, hsame, hread, hlocal⟩

end

end Forward

end TunnelBroker
