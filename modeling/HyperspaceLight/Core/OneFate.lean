/-
# Each packet has one fate

A packet that the source sent is received by the sink or times out, and the relayer
must not submit both messages: the two chains would race for the same funds.
`query_ready_and_timed_out_packets` fills one list for the sink and one for the source,
over all whitelisted channels, and reports on each packet at most once
(`queryReadyAndTimedOutPackets_oneFate`).

The theorem is about chains over any signature, so the two chains may move between the
queries.  What it needs of the source is that `query_send_packets` answers for the
channel it was asked about and reports a sequence once (`SentOnce`), and of the
whitelist that no channel is repeated.

What a round adds to the two lists is read off as a list of keys (`ReadyPackets.fates`):
a round over a sent packet adds the packet's key or nothing (`sendPacketStep_fates`), a
channel adds keys of its own (`channelStep_fates`).
-/

import Mathlib.Data.List.Nodup
import HyperspaceLight.Core.ReadyPackets

namespace HyperspaceLight

open Interaction

/-- A packet on the chain that sent it: source port, source channel and sequence. -/
abbrev PacketKey := PortId × ChannelId × ℕ

def Packet.sentKey (packet : Packet) : PacketKey :=
  (packet.sourcePort, packet.sourceChannel, packet.sequence)

/-- The packet of the source that a message is about.  An acknowledgement is about a
packet that the sink sent. -/
def Msg.sentPacket : Msg → Option Packet
  | .recvPacket m => some m.packet
  | .timeout m => some m.packet
  | .timeoutOnClose m => some m.packet
  | _ => none

/-- The key of the packet of the source that a message is about. -/
def Any.fate (a : Any) : Option PacketKey := a.msg.sentPacket.map Packet.sentKey

/-- The packets of the source that the two lists are about, once for each message. -/
def ReadyPackets.fates (ready : ReadyPackets) : List PacketKey :=
  (ready.messages ++ ready.timeouts).filterMap Any.fate

section Fates

variable {S : Sig} {A : (o : S.Op) → Except Error (S.Res o) → Prop} {source sink : Chain S}
  {tips : Tips} {c : ChannelId} {p : PortId} {view : ChannelView} {acc acc' : ReadyPackets}

/-- What `query_send_packets` documents of its answers: packets of the channel that was
asked for, and at most one for each sequence. -/
structure SentOnce (A : (o : S.Op) → Except Error (S.Res o) → Prop) (source : Chain S) : Prop where
  named : ∀ c p ns infos, (source.querySendPackets c p ns).Leaf A (.ok infos) → ∀ i ∈ infos,
    i.sourcePort = p.text ∧ i.sourceChannel = c.text
  once : ∀ c p ns infos, (source.querySendPackets c p ns).Leaf A (.ok infos) →
    (infos.map PacketInfo.sequence).Nodup

/-! ### What a message adds -/

/-- One message has at most one fate. -/
theorem filterMap_fate_singleton (a : Any) : [a].filterMap Any.fate = a.fate.toList := by
  cases h : a.fate with
  | none => simp [h]
  | some k => simp [h]

/-- The fates are those of the messages and of the timeouts. -/
theorem ReadyPackets.fates_eq (ready : ReadyPackets) :
    ready.fates = ready.messages.filterMap Any.fate ++ ready.timeouts.filterMap Any.fate :=
  List.filterMap_append

/-- A message adds its fate. -/
theorem ReadyPackets.fates_addMessage (acc : ReadyPackets) (a : Any) :
    ({ acc with messages := acc.messages ++ [a] } : ReadyPackets).fates.Perm
      (acc.fates ++ a.fate.toList) := by
  rw [fates_eq, fates_eq, List.filterMap_append, filterMap_fate_singleton, List.append_assoc,
    List.append_assoc]
  exact List.perm_append_comm.append_left _

/-- A timeout adds its fate. -/
theorem ReadyPackets.fates_addTimeout (acc : ReadyPackets) (a : Any) :
    ({ acc with timeouts := acc.timeouts ++ [a] } : ReadyPackets).fates =
      acc.fates ++ a.fate.toList := by
  rw [fates_eq, fates_eq, List.filterMap_append, filterMap_fate_singleton, List.append_assoc]

variable [Crates]

/-- A timeout decides its packet. -/
theorem constructTimeoutMessage_fate {channelEnd : ChannelEnd} {packet : Packet} {next : ℕ}
    {t : Height} {a : Any}
    (h : (constructTimeoutMessage source.toIbcProvider sink.toIbcProvider channelEnd packet next
      t).Leaf A (.ok a)) : a.fate = some packet.sentKey := by
  obtain ⟨m, ⟨rfl, -⟩, hmsg⟩ := constructTimeoutMessage_returns h
  rw [Any.fate, hmsg]
  split_ifs
  · rfl
  · rfl

/-- A received packet is decided by its message. -/
theorem constructRecvMessage_fate {packet : Packet} {t : Height} {a : Any}
    (h : (constructRecvMessage source.toIbcProvider sink.toIbcProvider packet t).Leaf A (.ok a)) :
    a.fate = some packet.sentKey := by
  obtain ⟨m, ⟨rfl, -⟩, hmsg⟩ := constructRecvMessage_returns h
  rw [Any.fate, hmsg]
  rfl

/-- An acknowledgement decides none of the packets sent. -/
theorem constructAckMessage_fate {packet : Packet} {ack : Bytes} {t : Height} {a : Any}
    (h : (constructAckMessage source.toIbcProvider sink.toIbcProvider packet ack t).Leaf A
      (.ok a)) : a.fate = none := by
  obtain ⟨m, -, hmsg⟩ := constructAckMessage_returns h
  rw [Any.fate, hmsg]
  rfl

/-! ### What a round adds -/

/-- **A round over a sent packet adds the packet's key or nothing.** -/
theorem sendPacketStep_fates {info : PacketInfo}
    (h : (sendPacketStep source sink tips view acc info).Leaf A (.ok acc'))
    (hport : info.sourcePort = p.text) (hchannel : info.sourceChannel = c.text) :
    acc'.fates.Perm acc.fates ∨ acc'.fates.Perm (acc.fates ++ [(p, c, info.sequence)]) := by
  obtain ⟨packet, hpacket, hround⟩ := sendPacketStep_returns h
  obtain ⟨hseq, ⟨hp, hc⟩, -⟩ := packetInfoToPacket_returns hpacket
  have hkey : packet.sentKey = (p, c, info.sequence) := by
    obtain rfl : packet.sourcePort = p := Ident.ext (hp.trans hport)
    obtain rfl : packet.sourceChannel = c := Ident.ext (hc.trans hchannel)
    rw [← hseq]
    rfl
  cases hround with
  | noTimeoutHeight | sinkClosed | notReady => exact .inl (.refl _)
  | timeout hto hheight hmsg =>
      right
      rw [acc.fates_addTimeout, constructTimeoutMessage_fate hmsg, hkey]
      rfl
  | @recv _ a hto hclosed hheight hmsg =>
      right
      have hfate := constructRecvMessage_fate hmsg
      have hadd := acc.fates_addMessage a
      rw [hfate, hkey] at hadd
      exact hadd

/-- The loop over the acknowledgements adds nothing. -/
theorem acknowledgements_fates {infos : List PacketInfo}
    (h : (infos.foldlM (acknowledgementStep source sink tips view) acc).Leaf A (.ok acc')) :
    acc'.fates = acc.fates := by
  obtain ⟨added, rfl, hadded⟩ := acknowledgements_returns h
  have hnone : added.filterMap Any.fate = [] := by
    refine List.filterMap_eq_nil_iff.mpr fun a ha => ?_
    obtain ⟨info, -, packet, ack, t, -, -, -, hmsg⟩ := hadded a ha
    exact constructAckMessage_fate hmsg
  rw [ReadyPackets.fates_eq, ReadyPackets.fates_eq, List.filterMap_append, hnone, List.append_nil]

/-- **The loop over the sent packets** adds some of their keys, each at most once. -/
theorem sendPackets_fates {infos : List PacketInfo}
    (hnamed : ∀ i ∈ infos, i.sourcePort = p.text ∧ i.sourceChannel = c.text)
    (h : (infos.foldlM (sendPacketStep source sink tips view) acc).Leaf A (.ok acc')) :
    ∃ added, added.Sublist (infos.map fun i => (p, c, i.sequence)) ∧
      acc'.fates.Perm (acc.fates ++ added) := by
  refine Prog.leaf_foldlM (fun seen s => ∃ added,
    added.Sublist (seen.map fun i => (p, c, i.sequence)) ∧ s.fates.Perm (acc.fates ++ added))
    ⟨[], List.Sublist.refl _, by rw [List.append_nil]⟩ ?_ h
  rintro seen i s s' ⟨added, hsub, hperm⟩ hi hstep
  rw [List.map_append]
  obtain ⟨hport, hchannel⟩ := hnamed i hi
  obtain hsame | hadd := sendPacketStep_fates hstep hport hchannel
  · exact ⟨added, hsub.trans (List.sublist_append_left _ _), hsame.trans hperm⟩
  · refine ⟨added ++ [(p, c, i.sequence)], hsub.append (List.Sublist.refl _), hadd.trans ?_⟩
    rw [← List.append_assoc]
    exact hperm.append_right _

/-- **A channel adds keys of its own**, each at most once. -/
theorem channelStep_fates (hsource : SentOnce A source)
    (h : (channelStep source sink tips acc (c, p)).Leaf A (.ok acc')) :
    ∃ added : List PacketKey, added.Nodup ∧ (∀ k ∈ added, k.1 = p ∧ k.2.1 = c) ∧
      acc'.fates.Perm (acc.fates ++ added) := by
  obtain ⟨-, rfl⟩ | ⟨view, seqs, infos, acc₁, acks, -, -, hinfos, hfold, -, hrest⟩ :=
    channelStep_returns h
  · exact ⟨[], List.nodup_nil, fun k hk => absurd hk List.not_mem_nil, by rw [List.append_nil]⟩
  obtain ⟨added, hsub, hperm⟩ := sendPackets_fates (hsource.named c p seqs infos hinfos) hfold
  have hnodup : (infos.map fun i => ((p, c, i.sequence) : PacketKey)).Nodup := by
    have honce := hsource.once c p seqs infos hinfos
    have hinj : Function.Injective fun n : ℕ => ((p, c, n) : PacketKey) := fun m n hmn =>
      congrArg (fun k => k.2.2) hmn
    have hkeys := List.Nodup.map hinj honce
    rwa [List.map_map] at hkeys
  refine ⟨added, hsub.nodup hnodup, fun k hk => ?_, ?_⟩
  · obtain ⟨i, -, rfl⟩ := List.mem_map.mp (hsub.subset hk)
    exact ⟨rfl, rfl⟩
  · obtain rfl | ⟨-, received, -, hacks⟩ := hrest
    · exact hperm
    · rw [acknowledgements_fates hacks]
      exact hperm

/-- The keys collected over the channels `seen`: none twice, and all of these channels. -/
structure FatesOf (seen : List (ChannelId × PortId)) (ready : ReadyPackets) : Prop where
  nodup : ready.fates.Nodup
  channel : ∀ k ∈ ready.fates, (k.2.1, k.1) ∈ seen

/-- **One channel**: the fates it adds are those of its own packets. -/
theorem FatesOf.step {seen : List (ChannelId × PortId)} (hsource : SentOnce A source)
    (hacc : FatesOf seen acc) (hnew : (c, p) ∉ seen)
    (h : (channelStep source sink tips acc (c, p)).Leaf A (.ok acc')) :
    FatesOf (seen ++ [(c, p)]) acc' := by
  obtain ⟨added, hnodup, hchannel, hperm⟩ := channelStep_fates hsource h
  constructor
  · refine hperm.nodup_iff.mpr (List.nodup_append.mpr ⟨hacc.nodup, hnodup, ?_⟩)
    -- a key of an earlier channel is not one of this channel
    rintro k hk _ hk' rfl
    obtain ⟨rfl, rfl⟩ := hchannel k hk'
    exact hnew (hacc.channel k hk)
  · intro k hk
    rcases List.mem_append.mp (hperm.mem_iff.mp hk) with hk | hk
    · exact List.mem_append_left _ (hacc.channel k hk)
    · obtain ⟨rfl, rfl⟩ := hchannel k hk
      exact List.mem_append_right _ (List.mem_singleton.mpr rfl)

/-- **Each packet has one fate.**  If no channel of the whitelist is repeated and the
source reports a sequence once, no packet of the source occurs in two of the returned
messages; so none has both a message for the sink and a timeout for the source. -/
theorem queryReadyAndTimedOutPackets_oneFate (source sink : Chain S) (hsource : SentOnce A source)
    (hwl : source.channelWhitelist.Nodup) (ready : ReadyPackets)
    (h : (queryReadyAndTimedOutPackets source sink).Leaf A (.ok ready)) :
    ready.fates.Nodup ∧
      ∀ a ∈ ready.messages, ∀ b ∈ ready.timeouts, ∀ sent timedOut,
        a.msg.sentPacket = some sent → b.msg.sentPacket = some timedOut →
          sent.sentKey ≠ timedOut.sentKey := by
  obtain ⟨tips, -, h⟩ := Prog.leaf_bind_ok.mp h
  have hfates : FatesOf source.channelWhitelist ready := by
    refine Prog.leaf_foldlM (fun seen s => seen.Nodup → FatesOf seen s) (fun _ => ?_) ?_ h hwl
    · exact ⟨List.nodup_nil, fun k hk => absurd hk List.not_mem_nil⟩
    · rintro seen ⟨c, p⟩ s s' hs - hstep hnodup
      obtain ⟨hseen, -, hdisjoint⟩ := List.nodup_append.mp hnodup
      have hnew : (c, p) ∉ seen := fun hmem =>
        hdisjoint _ hmem _ (List.mem_singleton.mpr rfl) rfl
      exact (hs hseen).step hsource hnew hstep
  refine ⟨hfates.nodup, fun a ha b hb sent timedOut hsent htimedOut heq => ?_⟩
  have hnodup := hfates.nodup
  rw [ready.fates_eq, List.nodup_append] at hnodup
  have ha' : a.fate = some sent.sentKey := by rw [Any.fate, hsent]; rfl
  have hb' : b.fate = some timedOut.sentKey := by rw [Any.fate, htimedOut]; rfl
  exact hnodup.2.2 _ (List.mem_filterMap.mpr ⟨a, ha, ha'⟩) _ (List.mem_filterMap.mpr ⟨b, hb, hb'⟩)
    heq

end Fates

/-- The source of the example chains reports a sequence once. -/
theorem readySource_sentOnce : SentOnce (fun _ _ => True) readySource where
  named c p ns infos hr i hi := ((readySource_honest (height0 48)).sent c p ns infos hr i hi).2
  once c p ns infos hr := by
    simp only [readySource, Prog.leaf_pure, Outcome.ok.injEq] at hr
    rw [← hr]
    have hnodup : ([packetInfo 40 1 1000 none, packetInfo 40 2 45 none].map
      PacketInfo.sequence).Nodup := by decide
    exact (List.filter_sublist.map _).nodup hnodup

/-- The theorem at work: packet 1 goes to the sink and packet 2 back to the source. -/
theorem readySource_oneFate : let _ := Crates.reference
    ∃ ready, (queryReadyAndTimedOutPackets readySource (readySink (height0 48))).Returns ready ∧
      ready.fates = [(transferPort, channel0, 1), (transferPort, channel0, 2)] ∧
      ready.fates.Nodup ∧
      ∀ a ∈ ready.messages, ∀ b ∈ ready.timeouts, ∀ sent timedOut,
        a.msg.sentPacket = some sent → b.msg.sentPacket = some timedOut →
          sent.sentKey ≠ timedOut.sentKey := by
  intro _
  obtain ⟨ready, hr, hfates⟩ : ∃ ready,
      (queryReadyAndTimedOutPackets readySource (readySink (height0 48))).Returns ready ∧
        ready.fates = [(transferPort, channel0, 1), (transferPort, channel0, 2)] :=
    Prog.returns_of_outcome (by decide +kernel)
  exact ⟨ready, hr, hfates, queryReadyAndTimedOutPackets_oneFate _ _ readySource_sentOnce
    (by decide) ready hr⟩

end HyperspaceLight
