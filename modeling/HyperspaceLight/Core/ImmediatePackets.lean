/-
# What the immediate path checks

`query_ready_and_timed_out_packets` returns the `MsgRecvPacket` of a packet only if the
packet has not timed out at the sink and the sink's end of the channel is not closed.
The `SendPacket` arm of `parse_events` builds the same message and never asks the sink:
whether it does depends on the answers of the source alone (`Emittable`).
-/

import HyperspaceLight.Core.ReadyPackets
import HyperspaceLight.Core.Events

namespace HyperspaceLight

open Interaction

/-- The state of the sink that a packet meets: its height, its time and its end of the
channel. -/
structure SinkAt (sink : Chain Static) (packet : Packet) (height : Height) (timestamp : Timestamp)
    (channelEnd : ChannelEnd) : Prop where
  tip : sink.latestHeightAndTimestamp.Returns (height, timestamp)
  channelEnd_decoded : Decoded
    (sink.queryChannelEnd height packet.destinationChannel packet.destinationPort) channelEnd

section

variable [Crates]

/-- The sink would still accept the packet: it has not timed out, and the sink's end of the
channel is not closed. -/
def Acceptable (sink : Chain Static) (packet : Packet) : Prop :=
  ∀ height timestamp channelEnd, SinkAt sink packet height timestamp channelEnd →
    Crates.timedOut packet timestamp height = false ∧ channelEnd.state ≠ .closed

/-- What `parse_events` sends on at once is acceptable: in every list of events, the message
of the event `ev` of `packet`. -/
def ImmediateAllowed (source sink : Chain Static) (ev : IbcEventWithHeight) (packet : Packet) :
    Prop :=
  ∀ events messages timeouts proofHeightRef, ev ∈ events →
    (parseEvents source.toIbcProvider sink.toIbcProvider events).Returns
      (messages, timeouts, proofHeightRef) →
    ∀ a proofHeight, (parseEvent source.toIbcProvider sink.toIbcProvider ev).Returns
      (some (a, proofHeight)) → a ∈ messages → Acceptable sink packet

/-- The message of a packet, with the proof that the source has given. -/
def recvMessage (packet : Packet) (signer : Signer) (proof : CommitmentProofBytes)
    (proofHeight : Height) : MsgRecvPacket where
  packet
  proofs := ⟨proof, none, none, none, proofHeight⟩
  signer

/-- **The source's answers that make a message**: an open connection of zero delay under the
channel, a proof of the commitment that is not empty, a proof height that is not zero, and
a message that encodes. -/
structure Emittable (source : Chain Static) (signer : Signer) (height : Height) (packet : Packet) :
    Prop where
  zeroDelay : ∃ channelEnd id connectionEnd,
    Decoded (source.queryChannelEnd height packet.sourceChannel packet.sourcePort) channelEnd ∧
      channelEnd.connectionHops.head? = some id ∧
      Decoded (source.queryConnectionEnd height id) connectionEnd ∧ connectionEnd.delayPeriod = 0
  proven : ∃ response proof raw proofHeight bytes,
    (source.queryPacketCommitment height packet.sourcePort packet.sourceChannel
      packet.sequence).Returns response ∧
      (CommitmentProofBytes.tryFrom response.proof :
        Prog Static Error CommitmentProofBytes).Returns proof ∧
      response.proofHeight = some raw ∧
      Height.new raw.revisionNumber raw.revisionHeight = some proofHeight ∧
      Crates.encodeVec (.recvPacket (recvMessage packet signer proof proofHeight)) = .ok bytes

variable {source sink : Chain Static} {ev : IbcEventWithHeight} {packet : Packet}

omit [Crates] in
/-- The delay of a channel is that of the first hop of its end. -/
theorem channelDelay_returns_iff {height : Height} {c : ChannelId} {p : PortId} {delay : Duration} :
    (channelDelay source.toIbcProvider height c p).Returns delay ↔
      ∃ channelEnd id connectionEnd, Decoded (source.queryChannelEnd height c p) channelEnd ∧
        channelEnd.connectionHops.head? = some id ∧
        Decoded (source.queryConnectionEnd height id) connectionEnd ∧
        connectionEnd.delayPeriod = delay := by
  simp only [channelDelay, Prog.Returns, Decoded, Prog.leaf_bind_ok, Prog.leaf_okOr_ok,
    Raw.leaf_tryFrom_ok, Prog.leaf_pure, Outcome.ok.injEq]
  constructor
  · rintro ⟨response, hresponse, raw, hraw, channelEnd, rfl, id, hid, conn, hconn, raw', hraw',
      connectionEnd, rfl, hdelay⟩
    exact ⟨channelEnd, id, connectionEnd, ⟨response, hresponse, hraw⟩, hid, ⟨conn, hconn, hraw'⟩,
      hdelay⟩
  · rintro ⟨channelEnd, id, connectionEnd, ⟨response, hresponse, hraw⟩, hid, ⟨conn, hconn, hraw'⟩,
      hdelay⟩
    exact ⟨response, hresponse, _, hraw, channelEnd, rfl, id, hid, conn, hconn, _, hraw',
      connectionEnd, rfl, hdelay⟩

omit [Crates] in
/-- The proof of a packet is returned if it is not empty and has a positive height. -/
theorem packetProof_returns_iff {arm : String} {response : WithProof Bytes}
    {proof : CommitmentProofBytes} {proofHeight : Height} :
    (packetProof arm response : Prog Static Error _).Returns (proof, proofHeight) ↔
      ∃ raw, (CommitmentProofBytes.tryFrom response.proof :
          Prog Static Error CommitmentProofBytes).Returns proof ∧
        response.proofHeight = some raw ∧
        Height.new raw.revisionNumber raw.revisionHeight = some proofHeight := by
  simp only [packetProof, newProofHeight, Prog.Returns, Prog.leaf_bind_ok, Prog.leaf_expect_ok,
    Prog.leaf_okOr_ok, Prog.leaf_pure, Outcome.ok.injEq, Prod.mk.injEq]
  constructor
  · rintro ⟨_, hproof, raw, hraw, _, hnew, rfl, rfl⟩
    exact ⟨raw, hproof, hraw, hnew⟩
  · rintro ⟨raw, hproof, hraw, hnew⟩
    exact ⟨_, hproof, raw, hraw, _, hnew, rfl, rfl⟩

/-- A message is made exactly if it can be encoded. -/
theorem toAny_returns_iff {m : Msg} {context : String} {origin : Option IbcEventWithHeight} :
    (∃ a, (m.toAny context origin : Prog Static Error Any).Returns a) ↔
      ∃ bytes, Crates.encodeVec m = .ok bytes := by
  unfold Msg.toAny Prog.Returns
  cases Crates.encodeVec m with
  | ok bytes => exact ⟨fun _ => ⟨bytes, rfl⟩, fun _ => ⟨_, rfl⟩⟩
  | error e => exact ⟨fun ⟨_, h⟩ => (nomatch h), fun ⟨_, h⟩ => (nomatch h)⟩

/-- **A message is built exactly where the source's answers allow it.** -/
theorem parseEvent_emits_iff (hev : ev.event = .sendPacket packet) :
    (∃ a proofHeight, (parseEvent source.toIbcProvider sink.toIbcProvider ev).Returns
      (some (a, proofHeight))) ↔ Emittable source sink.accountId ev.height packet := by
  have harm : parseEvent source.toIbcProvider sink.toIbcProvider ev =
      sendPacketArm source.toIbcProvider sink.toIbcProvider ev packet := by
    rw [parseEvent, hev]
  rw [harm]
  constructor
  · rintro ⟨a, proofHeight, h⟩
    obtain ⟨delay, hdelay, h⟩ := Prog.leaf_bind_ok.mp h
    split at h
    · cases h
    next hzero =>
      obtain ⟨response, hresponse, h⟩ := Prog.leaf_bind_ok.mp h
      obtain ⟨⟨proof, proofHeight⟩, hproof, h⟩ := Prog.leaf_bind_ok.mp h
      obtain ⟨raw, hbytes, hraw, hnew⟩ := packetProof_returns_iff.mp hproof
      obtain ⟨any, hany, -⟩ := Prog.leaf_bind_ok.mp h
      obtain ⟨bytes, henc⟩ := toAny_returns_iff.mp ⟨any, hany⟩
      rw [not_not] at hzero
      exact ⟨channelDelay_returns_iff.mp (hzero ▸ hdelay),
        response, proof, raw, proofHeight, bytes, hresponse, hbytes, hraw, hnew, henc⟩
  · rintro ⟨hdelay, response, proof, raw, proofHeight, bytes, hresponse, hbytes, hraw, hnew, henc⟩
    have htoAny : ∃ any, ((Msg.recvPacket (recvMessage packet sink.accountId proof proofHeight)).toAny
        (encodingContext "send_packet") (some ev) : Prog Static Error Any).Returns any :=
      toAny_returns_iff.mpr ⟨bytes, henc⟩
    obtain ⟨any, hany⟩ := htoAny
    refine ⟨any, proofHeight, Prog.leaf_bind_ok.mpr ⟨0, channelDelay_returns_iff.mpr hdelay, ?_⟩⟩
    rw [if_neg (not_not.mpr rfl)]
    refine Prog.leaf_bind_ok.mpr ⟨response, hresponse, ?_⟩
    refine Prog.leaf_bind_ok.mpr ⟨(proof, proofHeight), ?_, ?_⟩
    · exact packetProof_returns_iff.mpr ⟨raw, hbytes, hraw, hnew⟩
    · exact Prog.leaf_bind_ok.mpr ⟨any, hany, rfl⟩

/-- The event alone is a list of events, and its message is returned. -/
theorem parseEvents_singleton {a : Any} {proofHeight : Height}
    (h : (parseEvent source.toIbcProvider sink.toIbcProvider ev).Returns (some (a, proofHeight))) :
    ∃ proofHeightRef, (parseEvents source.toIbcProvider sink.toIbcProvider [ev]).Returns
      ([a], [], proofHeightRef) := by
  let parsed := ParsedEvents.push ⟨[], firstProofHeightRef⟩ a proofHeight
  have hstep : (parseEventStep source.toIbcProvider sink.toIbcProvider
      ⟨[], firstProofHeightRef⟩ ev).Returns parsed :=
    Prog.leaf_bind_ok.mpr ⟨(), rfl, Prog.leaf_bind_ok.mpr ⟨_, h, rfl⟩⟩
  refine ⟨parsed.proofHeightRef, Prog.leaf_bind_ok.mpr ⟨parsed, ?_, rfl⟩⟩
  exact Prog.leaf_bind_ok.mpr ⟨parsed, hstep, rfl⟩

/-- The condition, for a packet that was sent. -/
theorem immediateAllowed_iff (hev : ev.event = .sendPacket packet) :
    ImmediateAllowed source sink ev packet ↔
      Acceptable sink packet ∨ ¬Emittable source sink.accountId ev.height packet := by
  constructor
  · intro h
    by_cases hemit : Emittable source sink.accountId ev.height packet
    · obtain ⟨a, proofHeight, hreturns⟩ := (parseEvent_emits_iff hev).mpr hemit
      obtain ⟨proofHeightRef, hparsed⟩ := parseEvents_singleton hreturns
      exact .inl (h [ev] [a] [] proofHeightRef (List.mem_singleton_self _) hparsed a proofHeight
        hreturns (List.mem_singleton_self _))
    · exact .inr hemit
  · rintro (h | h) events messages timeouts proofHeightRef - - a proofHeight hreturns -
    · exact h
    · exact absurd ((parseEvent_emits_iff hev).mp ⟨a, proofHeight, hreturns⟩) h

end

/-- A sink at height 50 whose end of every channel is closed. -/
def closedSink (signer : Signer) : Chain Static :=
  { (Chain.unavailable (chainInfo signer) : Chain Static) with
    latestHeightAndTimestamp := pure (height0 50, .ofTime (seconds 700))
    queryChannelEnd := fun _ _ _ =>
      pure (proven (some (.ok { openEnd .unordered with state := .closed }))) }

/-- A sink whose end is closed accepts no packet. -/
theorem closedSink_not_acceptable [Crates] (signer : Signer) (packet : Packet) :
    ¬Acceptable (closedSink signer) packet :=
  fun h => (h _ _ _ ⟨rfl, ⟨_, rfl, rfl⟩⟩).2 rfl

/-- **The immediate path checks nothing of the sink.**  For every source, every `SendPacket`
event and every sink, what is sent on at once is acceptable if and only if it happens to be,
or the source's answers leave nothing to send; and it is acceptable for every state of the
sink only if they leave nothing to send. -/
theorem immediate_checks_no_sink [Crates] (source : Chain Static) (ev : IbcEventWithHeight)
    (packet : Packet) (hev : ev.event = .sendPacket packet) :
    (∀ sink : Chain Static, ImmediateAllowed source sink ev packet ↔
      Acceptable sink packet ∨ ¬Emittable source sink.accountId ev.height packet) ∧
    ∀ signer, (∀ sink : Chain Static, sink.accountId = signer →
      ImmediateAllowed source sink ev packet) ↔ ¬Emittable source signer ev.height packet := by
  refine ⟨fun sink => immediateAllowed_iff hev, fun signer => ⟨fun h => ?_, fun h sink hsigner => ?_⟩⟩
  · exact ((immediateAllowed_iff hev).mp (h (closedSink signer) rfl)).resolve_left
      (closedSink_not_acceptable signer packet)
  · exact (immediateAllowed_iff hev).mpr (.inr (hsigner ▸ h))

/-! ### A packet that has expired -/

/-- A packet that times out at height 45. -/
def expiredPacket : Packet where
  sequence := 1
  sourcePort := transferPort
  sourceChannel := channel0
  destinationPort := transferPort
  destinationChannel := channel0
  data := utf8 "data"
  timeoutHeight := .atHeight (height0 45)
  timeoutTimestamp := .fromNanoseconds (seconds 600)

def expiredEvent : IbcEventWithHeight := ⟨.sendPacket expiredPacket, height0 40, ⟨0, 0⟩⟩

/-- A source with an open channel over a connection without delay. -/
def openSource : Chain Static :=
  { (Chain.unavailable (chainInfo "source") : Chain Static) with
    queryChannelEnd := fun _ _ _ => pure (proven (some (.ok (openEnd .unordered))))
    queryConnectionEnd := fun _ _ => pure (proven (some (.ok (openConnection 0))))
    queryPacketCommitment := fun _ _ _ _ => pure (proven [1]) }

/-- The message is emitted to a closed sink nevertheless. -/
theorem expiredEvent_emitted : ∃ a proofHeight,
    (@parseEvent Static Crates.reference openSource.toIbcProvider
      (closedSink "sink").toIbcProvider expiredEvent).Returns (some (a, proofHeight)) :=
  ⟨_, _, rfl⟩

/-- The hypothesis of `immediate_checks_no_sink` can be met. -/
theorem expiredEvent_iff :
    @ImmediateAllowed Crates.reference openSource (closedSink "sink") expiredEvent expiredPacket ↔
      @Acceptable Crates.reference (closedSink "sink") expiredPacket ∨
        ¬@Emittable Crates.reference openSource "sink" (height0 40) expiredPacket := by
  exact (@immediate_checks_no_sink Crates.reference openSource expiredEvent expiredPacket rfl).1
    (closedSink "sink")

/-- **An expired packet is sent on.**  It timed out at height 45, the sink is at height 50
and has closed the channel, and `parse_events` builds its `MsgRecvPacket`. -/
theorem expiredEvent_sent_on :
    ¬@ImmediateAllowed Crates.reference openSource (closedSink "sink") expiredEvent expiredPacket ∧
    @Crates.timedOut Crates.reference expiredPacket (.ofTime (seconds 700)) (height0 50) = true := by
  let _ := Crates.reference
  refine ⟨fun h => ?_, by decide⟩
  obtain ⟨a, proofHeight, hreturns⟩ := expiredEvent_emitted
  obtain ⟨proofHeightRef, hparsed⟩ := parseEvents_singleton hreturns
  exact closedSink_not_acceptable "sink" expiredPacket (h [expiredEvent] [a] [] proofHeightRef
    (List.mem_singleton_self _) hparsed a proofHeight hreturns (List.mem_singleton_self _))

end HyperspaceLight
