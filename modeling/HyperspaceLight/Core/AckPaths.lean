/-
# Where acknowledgements are looked up

A packet that the source of the relay has received is acknowledged there, and
ICS-24 stores the acknowledgement under the packet's destination port and
channel: these name the source's end of the channel, while the source port and
channel of the packet name an object of the other chain.

Both ways to relay an acknowledgement use the packet's source identifiers: the
`WriteAcknowledgement` arm of `parse_events` for the channel end, the connection
and the acknowledgement, and `construct_ack_message` for the key of its proof.
The questions are the right ones exactly for packets whose two pairs of
identifiers coincide.
-/

import HyperspaceLight.Core.Events
import HyperspaceLight.Core.PacketUtils

namespace HyperspaceLight

open Interaction

/-- The source answers channel queries from `ends`. -/
def ChannelsAnswered (ends : PortId → ChannelId → ChannelEnd) :
    (o : TraitSig.Op) → Except Error (TraitSig.Res o) → Prop
  | (.source, .queryChannelEnd _ c p), .ok r => r.value = some (.ok (ends p c))
  | _, _ => True

/-- A question about the acknowledgement of `packet` where it is written: the
channel end, its connection, the acknowledgement, or a proof of it by key. -/
def AckLookup (ends : PortId → ChannelId → ChannelEnd) (storePrefix : StorePrefix)
    (packet : Packet) : TraitSig.Op → Prop
  | (.source, .queryChannelEnd _ c p) =>
      p = packet.destinationPort ∧ c = packet.destinationChannel
  | (.source, .queryConnectionEnd _ id) =>
      (ends packet.destinationPort packet.destinationChannel).connectionHops.head? = some id
  | (.source, .queryPacketAcknowledgement _ p c n) =>
      (p = packet.destinationPort ∧ c = packet.destinationChannel) ∧ n = packet.sequence
  | (.source, .queryProof _ keys) => keys = [applyPrefix storePrefix.bytes
      (Path.acks packet.destinationPort packet.destinationChannel packet.sequence).display]
  | _ => False

/-- The `WriteAcknowledgement` event of a packet. -/
def writeAckEvent (packet : Packet) (ack : Bytes) (height : Height) (pos : EventPos) :
    IbcEventWithHeight :=
  { event := .writeAcknowledgement packet ack, height, pos }

section

variable [Crates] {ends : PortId → ChannelId → ChannelEnd} {packet : Packet} {ack : Bytes}
  {height : Height} {pos : EventPos} {source sink : ChainInfo}

omit [Crates] in
/-- The proof of an answer asks for nothing. -/
theorem packetProof_asks {S : Sig} {α : Type} {A : (o : S.Op) → Except Error (S.Res o) → Prop}
    {C : S.Op → Prop} {arm : String} {response : WithProof α} :
    (packetProof arm response : Prog S Error (CommitmentProofBytes × Height)).Asks A C := by
  refine CommitmentProofBytes.tryFrom_asks.bind fun _ _ => ?_
  refine (Prog.asks_expect _ _).bind fun _ _ => ?_
  exact (Prog.asks_okOr _ _).bind fun _ _ => trivial

omit [Crates] in
/-- **The delay is looked up at the packet's destination, if its identifiers
coincide.** -/
theorem channelDelay_asks (hport : packet.sourcePort = packet.destinationPort)
    (hchannel : packet.sourceChannel = packet.destinationChannel) :
    (channelDelay (Chain.trait source .source).toIbcProvider height packet.sourceChannel
      packet.sourcePort).Asks (ChannelsAnswered ends)
        (AckLookup ends source.connectionPrefix packet) := by
  refine ((Prog.asks_ask _).mpr ⟨hport, hchannel⟩).bind fun response hresponse => ?_
  refine (Prog.asks_okOr _ _).bind fun raw hraw => ?_
  refine Raw.tryFrom_asks.bind fun channelEnd hend => ?_
  refine (Prog.asks_okOr _ _).bind fun id hid => ?_
  -- the hop comes from the end that was answered
  have hanswer : response.value = some (.ok (ends packet.sourcePort packet.sourceChannel)) :=
    Prog.leaf_ask_ok.mp hresponse
  rw [Prog.leaf_okOr_ok] at hraw hid
  rw [Raw.leaf_tryFrom_ok] at hend
  have hends : channelEnd = ends packet.destinationPort packet.destinationChannel := by
    rw [hraw, hend, hport, hchannel] at hanswer
    exact Except.ok.inj (Option.some.inj hanswer)
  rw [hends] at hid
  refine ((Prog.asks_ask _).mpr hid).bind fun _ _ => ?_
  refine (Prog.asks_okOr _ _).bind fun _ _ => ?_
  exact Raw.tryFrom_asks.bind fun _ _ => trivial

/-- **The write-acknowledgement arm.**  Between ends of one name it looks up this acknowledgement
only. -/
theorem writeAcknowledgementArm_asks {sinkChain : IbcProvider TraitSig}
    (hport : packet.sourcePort = packet.destinationPort)
    (hchannel : packet.sourceChannel = packet.destinationChannel) :
    (writeAcknowledgementArm (Chain.trait source .source).toIbcProvider sinkChain
      (writeAckEvent packet ack height pos) packet ack).Asks (ChannelsAnswered ends)
        (AckLookup ends source.connectionPrefix packet) := by
  refine (channelDelay_asks hport hchannel).bind fun delay _ => ?_
  split_ifs
  · trivial
  · refine ((Prog.asks_ask _).mpr ⟨⟨hport, hchannel⟩, rfl⟩).bind fun _ _ => ?_
    refine packetProof_asks.bind fun _ _ => ?_
    exact Msg.toAny_asks.bind fun _ _ => trivial

/-- **The acknowledgement of the delayed path**, likewise. -/
theorem constructAckMessage_asks {sinkChain : IbcProvider TraitSig}
    (hport : packet.sourcePort = packet.destinationPort)
    (hchannel : packet.sourceChannel = packet.destinationChannel) :
    (constructAckMessage (Chain.trait source .source).toIbcProvider sinkChain packet ack
      height).Asks (ChannelsAnswered ends) (AckLookup ends source.connectionPrefix packet) := by
  have hkey : AckLookup ends source.connectionPrefix packet (.source, .queryProof height
      [applyPrefix source.connectionPrefix.bytes (getKeyPath .acksPath packet)]) := by
    simp only [AckLookup, getKeyPath, hport, hchannel]
  refine ((Prog.asks_ask _).mpr hkey).unwrap.bind fun _ _ => ?_
  refine CommitmentProofBytes.tryFrom_asks.unwrap.bind fun _ _ => ?_
  exact Msg.toAny_asks

/-- **The key names the packet's source end.** -/
theorem coincide_of_constructAckMessage_asks {sinkChain : IbcProvider TraitSig}
    (h : (constructAckMessage (Chain.trait source .source).toIbcProvider sinkChain packet ack
      height).Asks (ChannelsAnswered ends) (AckLookup ends source.connectionPrefix packet)) :
    packet.sourcePort = packet.destinationPort ∧
      packet.sourceChannel = packet.destinationChannel := by
  have hkeys : [applyPrefix source.connectionPrefix.bytes (getKeyPath .acksPath packet)] =
      [applyPrefix source.connectionPrefix.bytes
        (Path.acks packet.destinationPort packet.destinationChannel packet.sequence).display] := h.1
  have hbytes := List.append_cancel_left (List.singleton_inj.mp hkeys)
  exact Path.acks_display_inj (utf8_inj hbytes)

/-- **Acknowledgements are looked up where they are written, exactly for packets
whose source and destination identifiers coincide.**  Whatever the chains answer
and whatever channel ends the source has, the `WriteAcknowledgement` arm asks
about the packet's destination end if and only if the packet's ports are equal
and its channels are equal, and so does `construct_ack_message`. -/
theorem ackLookup_iff (source sink : ChainInfo) (ends : PortId → ChannelId → ChannelEnd)
    (packet : Packet) (ack : Bytes) (height : Height) (pos : EventPos) :
    ((parseEvent (Chain.trait source .source).toIbcProvider (Chain.trait sink .sink).toIbcProvider
        (writeAckEvent packet ack height pos)).Asks (ChannelsAnswered ends)
          (AckLookup ends source.connectionPrefix packet) ↔
      packet.sourcePort = packet.destinationPort ∧
        packet.sourceChannel = packet.destinationChannel) ∧
    ((constructAckMessage (Chain.trait source .source).toIbcProvider
        (Chain.trait sink .sink).toIbcProvider packet ack height).Asks (ChannelsAnswered ends)
          (AckLookup ends source.connectionPrefix packet) ↔
      packet.sourcePort = packet.destinationPort ∧
        packet.sourceChannel = packet.destinationChannel) := by
  refine ⟨⟨fun h => ?_, fun h => ?_⟩, ⟨fun h => ?_, fun h => ?_⟩⟩
  · -- the first question of the arm names the channel
    exact h.1
  · exact writeAcknowledgementArm_asks h.1 h.2
  · exact coincide_of_constructAckMessage_asks h
  · exact constructAckMessage_asks h.1 h.2

end

/-- A packet that leaves its chain on `channel-1` and arrives on `channel-0`. -/
def crossedPacket : Packet where
  sequence := 1
  sourcePort := transferPort
  sourceChannel := ⟨"channel-1", by decide⟩
  destinationPort := transferPort
  destinationChannel := channel0
  data := utf8 "data"
  timeoutHeight := .never
  timeoutTimestamp := .fromNanoseconds (seconds 1)

/-- **The wrong end is asked.**  For this packet both ways to relay its
acknowledgement look it up under `channel-1`, which is not where it is written. -/
theorem crossedPacket_asks_wrong_end :
    ¬(@parseEvent TraitSig Crates.reference (Chain.trait (chainInfo "source") .source).toIbcProvider
        (Chain.trait (chainInfo "sink") .sink).toIbcProvider
        (writeAckEvent crossedPacket (utf8 "ok") (height0 5) ⟨0, 0⟩)).Asks
          (ChannelsAnswered fun _ _ => openEnd .unordered)
          (AckLookup (fun _ _ => openEnd .unordered) ibcPrefix crossedPacket) ∧
    ¬(@constructAckMessage TraitSig Crates.reference
        (Chain.trait (chainInfo "source") .source).toIbcProvider
        (Chain.trait (chainInfo "sink") .sink).toIbcProvider crossedPacket (utf8 "ok")
        (height0 5)).Asks (ChannelsAnswered fun _ _ => openEnd .unordered)
          (AckLookup (fun _ _ => openEnd .unordered) ibcPrefix crossedPacket) := by
  have hne : crossedPacket.sourceChannel ≠ crossedPacket.destinationChannel := by decide
  refine ⟨fun h => hne h.1.2, fun h => ?_⟩
  let _ := Crates.reference
  exact hne (coincide_of_constructAckMessage_asks h).2

end HyperspaceLight
