/-
# One key, one place in the store

Every proof is asked for by a key, which is the text of an ICS-24 path.  The text is
its segments joined with `/`, and no identifier contains one, so different paths
have different keys (`Path.display_injective`).  The keys of `get_key_path` behind
the prefix of a connection are the same exactly if the same kind of thing is meant
and the identifiers of the two packets agree on the end that this kind is kept
under.
-/

import HyperspaceLight.Core.PacketUtils
import Std.Data.String.ToNat

namespace HyperspaceLight

/-- Joining with a separator that none of the parts contains loses nothing. -/
theorem intercalate_inj {α : Type} [DecidableEq α] {x : α} {ls ls' : List (List α)}
    (h : ∀ l ∈ ls, x ∉ l) (h' : ∀ l ∈ ls', x ∉ l) (hne : ls ≠ []) (hne' : ls' ≠ [])
    (heq : [x].intercalate ls = [x].intercalate ls') : ls = ls' := by
  rw [← List.splitOn_intercalate x h hne, heq, List.splitOn_intercalate x h' hne']

/-- A decimal numeral has only digits. -/
theorem notMem_toDigits {c : Char} (hc : c.isDigit = false) (n : ℕ) :
    c ∉ Nat.toDigits 10 n := by
  intro hmem
  rw [Nat.isDigit_of_mem_toDigits (by omega) (by omega) hmem] at hc
  cases hc

/-- Identifiers of one text are the same. -/
theorem Ident.text_inj {k : IdKind} {a b : Ident k} : a.text = b.text ↔ a = b :=
  ⟨Ident.ext, fun h => h ▸ rfl⟩

namespace Path

/-- The parts of a path between its slashes. -/
def segments : Path → List String
  | clientState id => ["clients", id.text, "clientState"]
  | clientConsensusState id epoch height =>
      ["clients", id.text, "consensusStates", toString epoch ++ "-" ++ toString height]
  | connections id => ["connections", id.text]
  | channelEnds p c => ["channelEnds", "ports", p.text, "channels", c.text]
  | seqRecvs p c => ["nextSequenceRecv", "ports", p.text, "channels", c.text]
  | commitments p c n =>
      ["commitments", "ports", p.text, "channels", c.text, "sequences", toString n]
  | acks p c n => ["acks", "ports", p.text, "channels", c.text, "sequences", toString n]
  | receipts p c n => ["receipts", "ports", p.text, "channels", c.text, "sequences", toString n]

/-- **A path is its segments, joined with `/`.** -/
theorem display_toList (p : Path) :
    p.display.toList = ['/'].intercalate (p.segments.map String.toList) := by
  unfold display
  cases p <;> simp [segments, channelText, List.intercalate_cons_cons]

/-- No segment of a path contains a slash. -/
theorem slash_notMem_segments (p : Path) : ∀ l ∈ p.segments.map String.toList, '/' ∉ l := by
  have hdigits := notMem_toDigits (c := '/') rfl
  cases p <;> simp [segments, Ident.slash_notMem, hdigits]

/-- The last segment of a consensus state path. -/
theorem epochHeight_inj {epoch epoch' height height' : ℕ}
    (h : toString epoch ++ "-" ++ toString height = toString epoch' ++ "-" ++ toString height') :
    epoch = epoch' ∧ height = height' := by
  have hlists : [(toString epoch).toList, (toString height).toList] =
      [(toString epoch').toList, (toString height').toList] := by
    have hdigits := notMem_toDigits (c := '-') rfl
    refine intercalate_inj (x := '-') ?_ ?_ (by simp) (by simp) ?_
    · simp [hdigits]
    · simp [hdigits]
    · simpa [List.intercalate_cons_cons] using congrArg String.toList h
  simp only [List.cons.injEq, and_true, String.toList_inj] at hlists
  exact ⟨Nat.repr_injective hlists.1, Nat.repr_injective hlists.2⟩

/-- **The segments name the path.** -/
theorem segments_injective {p q : Path} (h : p.segments = q.segments) : p = q := by
  cases p <;> cases q <;> try simp [segments] at h
  case clientConsensusState.clientConsensusState =>
      obtain ⟨hid, htext⟩ := h
      obtain ⟨rfl, rfl⟩ := epochHeight_inj htext
      rw [Ident.ext hid]
  all_goals simp_all [Ident.text_inj]

/-- **Different paths have different texts.** -/
theorem display_injective {p q : Path} (h : p.display = q.display) : p = q := by
  have hlists : p.segments.map String.toList = q.segments.map String.toList := by
    refine intercalate_inj p.slash_notMem_segments q.slash_notMem_segments ?_ ?_ ?_
    · cases p <;> simp [segments]
    · cases q <;> simp [segments]
    · rw [← display_toList, ← display_toList, h]
  exact segments_injective ((List.map_inj_right fun _ _ => String.toList_inj.mp).mp hlists)

/-- **The key names the path.** -/
theorem key_inj {p q : Path} : p.key = q.key ↔ p = q :=
  ⟨fun h => display_injective (utf8_inj h), fun h => h ▸ rfl⟩

end Path

/-! ### The keys of packets -/

namespace KeyPathType

/-- The path that a packet has for each kind of key. -/
def path (keyPathType : KeyPathType) (packet : Packet) : Path :=
  match keyPathType with
  | seqRecv => .seqRecvs packet.destinationPort packet.destinationChannel
  | receiptPath => .receipts packet.destinationPort packet.destinationChannel packet.sequence
  | commitmentPath => .commitments packet.sourcePort packet.sourceChannel packet.sequence
  | acksPath => .acks packet.sourcePort packet.sourceChannel packet.sequence
  | channelPath => .channelEnds packet.destinationPort packet.destinationChannel

/-- The end of the channel that keeps this kind of thing. -/
def channelEnd (keyPathType : KeyPathType) (packet : Packet) : PortId × ChannelId :=
  match keyPathType with
  | seqRecv | receiptPath | channelPath => (packet.destinationPort, packet.destinationChannel)
  | commitmentPath | acksPath => (packet.sourcePort, packet.sourceChannel)

/-- Is there one of these for each packet, and not one for the channel? -/
def perPacket : KeyPathType → Bool
  | receiptPath | commitmentPath | acksPath => true
  | seqRecv | channelPath => false

/-- The path of a packet is displayed as the source formats it. -/
theorem display_path (t : KeyPathType) (packet : Packet) :
    (t.path packet).display = getKeyPath t packet := by
  cases t <;> rfl

/-- When two packets have one path: the kinds agree, the ends, and the sequence where the path has
one. -/
theorem path_inj {t u : KeyPathType} {p q : Packet} : t.path p = u.path q ↔
    t = u ∧ t.channelEnd p = t.channelEnd q ∧ (t.perPacket → p.sequence = q.sequence) := by
  cases t <;> cases u <;> simp [path, channelEnd, perPacket, and_assoc]

end KeyPathType

/-- **Two packets have the same key behind a prefix exactly if the same kind of thing is asked
for, of the same end of the same channel, and under the same sequence where there is one for
each packet.** -/
theorem applyPrefix_getKeyPath_iff (commitmentPrefix : Bytes) (t u : KeyPathType) (p q : Packet) :
    applyPrefix commitmentPrefix (getKeyPath t p) = applyPrefix commitmentPrefix (getKeyPath u q) ↔
      t = u ∧ t.channelEnd p = t.channelEnd q ∧ (t.perPacket → p.sequence = q.sequence) := by
  calc applyPrefix commitmentPrefix (getKeyPath t p) = applyPrefix commitmentPrefix (getKeyPath u q)
    _ ↔ (t.path p).key = (u.path q).key := by
        rw [applyPrefix, applyPrefix, List.append_cancel_left_eq, Path.key, Path.key,
          t.display_path, u.display_path]
    _ ↔ t.path p = u.path q := Path.key_inj
    _ ↔ _ := KeyPathType.path_inj

end HyperspaceLight
