/-
# Packets that are ready and packets that timed out

`src/core/packets.rs`: `query_ready_and_timed_out_packets`.  The function is one
loop over the whitelisted channels, with a loop over the undelivered packets and
one over the undelivered acknowledgements inside; every `continue` of the source
returns the accumulator unchanged.  `packet_relay_status` is compiled only under
the feature `testing`, which the crate does not declare.
-/

import HyperspaceLight.Core.PacketUtils

namespace HyperspaceLight

open Interaction

variable {S : Sig} {A : (o : S.Op) → Except Error (S.Res o) → Prop}

/-- The heights and timestamps read at the start. -/
structure Tips where
  sourceHeight : Height
  sourceTimestamp : Timestamp
  sinkHeight : Height
  sinkTimestamp : Timestamp

/-- What the function reads about one channel before it looks at packets. -/
structure ChannelView where
  sourceChannelEnd : ChannelEnd
  delayPeriod : Duration
  sinkChannelEnd : ChannelEnd
  nextSequenceRecv : ℕ
  latestSourceHeightOnSink : Height
  latestSinkHeightOnSource : Height

/-- The two lists the function returns. -/
structure ReadyPackets where
  messages : List Any
  timeouts : List Any

/-- The client state that both look-alike queries of the source ask for: the
source's client, on the sink. -/
def queryClientStateOnSink (source sink : Chain S) (sinkHeight : Height) :
    Prog S Error ClientState := do
  let response ← sink.queryClientState sinkHeight source.clientId
  let raw ← .okOr (.custom s!"Client state for {source.name} should exist on {sink.name}")
    response.value
  raw.tryFrom.mapErr fun _ =>
    .custom s!"Invalid Client state for {source.name} should found on {sink.name}"

/-- The queries about one whitelisted channel; `none` skips the channel. -/
def queryChannelView (source sink : Chain S) (tips : Tips) (channelId : ChannelId)
    (portId : PortId) : Prog S Error (Option ChannelView) := do
  let sourceChannelResponse ← source.queryChannelEnd tips.sourceHeight channelId portId
  let raw ← .okOr (.custom "ChannelEnd not found") sourceChannelResponse.value
  let sourceChannelEnd ← raw.tryFrom
  if ¬(sourceChannelEnd.state = .open ∨ sourceChannelEnd.state = .closed) then
    return none
  let connectionId ← .okOr (.custom "Channel end missing connection id")
    sourceChannelEnd.connectionHops.head?
  let connectionResponse ← source.queryConnectionEnd tips.sourceHeight connectionId
  let raw ← .okOr
    (.custom ("[query_ready_and_timed_out_packets] ConnectionEnd not found for "
      ++ connectionId.debug))
    connectionResponse.value
  let sourceConnectionEnd ← raw.tryFrom
  let sinkChannelId ← .okOr
    (.custom " An Open Channel End should have a valid counterparty channel id")
    sourceChannelEnd.counterparty.channelId
  let sinkPortId := sourceChannelEnd.counterparty.portId
  let sinkChannelResponse ← sink.queryChannelEnd tips.sinkHeight sinkChannelId sinkPortId
  let raw ← .okOr
    (.custom "Failed to convert to concrete channel end from raw channel end")
    sinkChannelResponse.value
  let sinkChannelEnd ← raw.tryFrom
  let nextSequenceRecv ← sink.queryNextSequenceRecv tips.sinkHeight sinkPortId sinkChannelId
  let sourceClientStateOnSink ← queryClientStateOnSink source sink tips.sinkHeight
  -- the second query repeats the first: it does not ask the source
  let sinkClientStateOnSource ← queryClientStateOnSink source sink tips.sinkHeight
  return some {
    sourceChannelEnd
    delayPeriod := sourceConnectionEnd.delayPeriod
    sinkChannelEnd
    nextSequenceRecv := nextSequenceRecv.value
    latestSourceHeightOnSink := sourceClientStateOnSink.latestHeight
    latestSinkHeightOnSource := sinkClientStateOnSource.latestHeight }

/-- The height for a membership proof of something the source stored at
`height`, if the source's client on the sink has one and the delay is over. -/
def queryReadyHeight (source sink : Chain S) (tips : Tips) (view : ChannelView) (height : ℕ)
    (sequence : ℕ) : Prog S Error (Option Height) := do
  let latest := view.latestSourceHeightOnSink
  if latest.revisionHeight < height then
    return none
  let startHeight ← .expect s!"Invalid proof height for packet {sequence}"
    (Height.new latest.revisionNumber height)
  match ← findSuitableProofHeightForClient sink.toIbcProvider tips.sinkHeight source.clientId
      startHeight none latest with
  | none => return none
  | some proofHeight =>
      if ← verifyDelayPassed source.toIbcProvider sink.toIbcProvider tips.sourceTimestamp
          tips.sourceHeight tips.sinkTimestamp tips.sinkHeight view.delayPeriod proofHeight
          .sink then
        return some proofHeight
      else
        return none

/-- The height for a non-membership proof of a packet that timed out, if the
search finds one and the delay is over. -/
def queryTimeoutHeight (source sink : Chain S) (tips : Tips) (view : ChannelView)
    (packet : Packet) (height : ℕ) : Prog S Error (Option Height) := do
  match ← getTimeoutProofHeight source.toIbcProvider sink.toIbcProvider tips.sourceHeight
      tips.sinkHeight tips.sinkTimestamp view.latestSinkHeightOnSource packet height with
  | none => return none
  | some proofHeight =>
      if ← verifyDelayPassed source.toIbcProvider sink.toIbcProvider tips.sourceTimestamp
          tips.sourceHeight tips.sinkTimestamp tips.sinkHeight view.delayPeriod proofHeight
          .source then
        return some proofHeight
      else
        return none

variable [Crates]

/-- One round of the loop over the sent packets. -/
def sendPacketStep (source sink : Chain S) (tips : Tips) (view : ChannelView)
    (acc : ReadyPackets) (sendPacket : PacketInfo) : Prog S Error ReadyPackets := do
  let packet ← packetInfoToPacket sendPacket
  if Crates.timedOut packet tips.sinkTimestamp tips.sinkHeight then
    match ← queryTimeoutHeight source sink tips view packet sendPacket.height with
    | none => return acc
    | some proofHeight =>
        let msg ← constructTimeoutMessage source.toIbcProvider sink.toIbcProvider
          view.sinkChannelEnd packet view.nextSequenceRecv proofHeight
        return { acc with timeouts := acc.timeouts ++ [msg] }
  else if view.sinkChannelEnd.state = .closed then
    return acc
  else
    match ← queryReadyHeight source sink tips view sendPacket.height sendPacket.sequence with
    | none => return acc
    | some proofHeight =>
        let msg ← constructRecvMessage source.toIbcProvider sink.toIbcProvider packet proofHeight
        return { acc with messages := acc.messages ++ [msg] }

/-- What a round over the sent packets does with the packet: nothing, a timeout
for the source, or a message for the sink. -/
inductive SendPacketRound (A : (o : S.Op) → Except Error (S.Res o) → Prop) (source sink : Chain S)
    (tips : Tips) (view : ChannelView) (acc : ReadyPackets) (info : PacketInfo) (packet : Packet) :
    ReadyPackets → Prop
  | noTimeoutHeight (hto : Crates.timedOut packet tips.sinkTimestamp tips.sinkHeight = true)
      (hheight : (queryTimeoutHeight source sink tips view packet info.height).Leaf A (.ok none)) :
      SendPacketRound A source sink tips view acc info packet acc
  | timeout {t : Height} {a : Any}
      (hto : Crates.timedOut packet tips.sinkTimestamp tips.sinkHeight = true)
      (hheight : (queryTimeoutHeight source sink tips view packet info.height).Leaf A
        (.ok (some t)))
      (hmsg : (constructTimeoutMessage source.toIbcProvider sink.toIbcProvider view.sinkChannelEnd
        packet view.nextSequenceRecv t).Leaf A (.ok a)) :
      SendPacketRound A source sink tips view acc info packet
        { acc with timeouts := acc.timeouts ++ [a] }
  | sinkClosed (hto : Crates.timedOut packet tips.sinkTimestamp tips.sinkHeight = false)
      (hclosed : view.sinkChannelEnd.state = .closed) :
      SendPacketRound A source sink tips view acc info packet acc
  | notReady (hto : Crates.timedOut packet tips.sinkTimestamp tips.sinkHeight = false)
      (hclosed : view.sinkChannelEnd.state ≠ .closed)
      (hheight : (queryReadyHeight source sink tips view info.height info.sequence).Leaf A
        (.ok none)) :
      SendPacketRound A source sink tips view acc info packet acc
  | recv {t : Height} {a : Any}
      (hto : Crates.timedOut packet tips.sinkTimestamp tips.sinkHeight = false)
      (hclosed : view.sinkChannelEnd.state ≠ .closed)
      (hheight : (queryReadyHeight source sink tips view info.height info.sequence).Leaf A
        (.ok (some t)))
      (hmsg : (constructRecvMessage source.toIbcProvider sink.toIbcProvider packet t).Leaf A
        (.ok a)) :
      SendPacketRound A source sink tips view acc info packet
        { acc with messages := acc.messages ++ [a] }

/-- **What one round over the sent packets can do.** -/
theorem sendPacketStep_returns {source sink : Chain S} {tips : Tips} {view : ChannelView}
    {acc acc' : ReadyPackets} {info : PacketInfo}
    (h : (sendPacketStep source sink tips view acc info).Leaf A (.ok acc')) :
    ∃ packet, (packetInfoToPacket info : Prog S Error Packet).Leaf A (.ok packet) ∧
      SendPacketRound A source sink tips view acc info packet acc' := by
  obtain ⟨packet, hpacket, h⟩ := Prog.leaf_bind_ok.mp h
  refine ⟨packet, hpacket, ?_⟩
  split_ifs at h with hto hclosed
  · obtain ⟨_ | t, hheight, h⟩ := Prog.leaf_bind_ok.mp h
    · simp only [Prog.leaf_pure, Outcome.ok.injEq] at h
      exact h ▸ .noTimeoutHeight hto hheight
    · obtain ⟨a, hmsg, h⟩ := Prog.leaf_bind_ok.mp h
      simp only [Prog.leaf_pure, Outcome.ok.injEq] at h
      exact h ▸ .timeout hto hheight hmsg
  · simp only [Prog.leaf_pure, Outcome.ok.injEq] at h
    exact h ▸ .sinkClosed (eq_false_of_ne_true hto) hclosed
  · obtain ⟨_ | t, hheight, h⟩ := Prog.leaf_bind_ok.mp h
    · simp only [Prog.leaf_pure, Outcome.ok.injEq] at h
      exact h ▸ .notReady (eq_false_of_ne_true hto) hclosed hheight
    · obtain ⟨a, hmsg, h⟩ := Prog.leaf_bind_ok.mp h
      simp only [Prog.leaf_pure, Outcome.ok.injEq] at h
      exact h ▸ .recv (eq_false_of_ne_true hto) hclosed hheight hmsg

/-- One round of the loop over the acknowledgements. -/
def acknowledgementStep (source sink : Chain S) (tips : Tips) (view : ChannelView)
    (acc : ReadyPackets) (acknowledgement : PacketInfo) : Prog S Error ReadyPackets := do
  let packet ← packetInfoToPacket acknowledgement
  match acknowledgement.ack with
  | none => return acc
  | some ack =>
      match ← queryReadyHeight source sink tips view acknowledgement.height
          acknowledgement.sequence with
      | none => return acc
      | some proofHeight =>
          let msg ← constructAckMessage source.toIbcProvider sink.toIbcProvider packet ack
            proofHeight
          return { acc with messages := acc.messages ++ [msg] }

/-- **What one round over the acknowledgements can do**: nothing, or add the
message of a packet that has acknowledgement bytes and a proof height. -/
theorem acknowledgementStep_returns {source sink : Chain S} {tips : Tips} {view : ChannelView}
    {acc acc' : ReadyPackets} {info : PacketInfo}
    (h : (acknowledgementStep source sink tips view acc info).Leaf A (.ok acc')) :
    ∃ packet, (packetInfoToPacket info : Prog S Error Packet).Leaf A (.ok packet) ∧
      (acc' = acc ∨ ∃ ack t a, info.ack = some ack ∧
        (queryReadyHeight source sink tips view info.height info.sequence).Leaf A (.ok (some t)) ∧
        (constructAckMessage source.toIbcProvider sink.toIbcProvider packet ack t).Leaf A (.ok a) ∧
        acc' = { acc with messages := acc.messages ++ [a] }) := by
  obtain ⟨packet, hpacket, h⟩ := Prog.leaf_bind_ok.mp h
  refine ⟨packet, hpacket, ?_⟩
  split at h
  · simp only [Prog.leaf_pure, Outcome.ok.injEq] at h
    exact .inl h.symm
  · rename_i ack hack
    obtain ⟨_ | t, hheight, h⟩ := Prog.leaf_bind_ok.mp h
    · simp only [Prog.leaf_pure, Outcome.ok.injEq] at h
      exact .inl h.symm
    · obtain ⟨a, hmsg, h⟩ := Prog.leaf_bind_ok.mp h
      simp only [Prog.leaf_pure, Outcome.ok.injEq] at h
      exact .inr ⟨ack, t, a, hack, hheight, hmsg, h.symm⟩

/-- `a` is the message of an acknowledgement that has bytes and a proof height. -/
def AckMessage (A : (o : S.Op) → Except Error (S.Res o) → Prop) (source sink : Chain S)
    (tips : Tips) (view : ChannelView) (info : PacketInfo) (a : Any) : Prop :=
  ∃ packet ack t, (packetInfoToPacket info : Prog S Error Packet).Leaf A (.ok packet) ∧
    info.ack = some ack ∧
    (queryReadyHeight source sink tips view info.height info.sequence).Leaf A (.ok (some t)) ∧
    (constructAckMessage source.toIbcProvider sink.toIbcProvider packet ack t).Leaf A (.ok a)

/-- **What the loop over the acknowledgements can do**: add messages of some of them. -/
theorem acknowledgements_returns {source sink : Chain S} {tips : Tips} {view : ChannelView}
    {acc acc' : ReadyPackets} {infos : List PacketInfo}
    (h : (infos.foldlM (acknowledgementStep source sink tips view) acc).Leaf A (.ok acc')) :
    ∃ added : List Any, acc' = { acc with messages := acc.messages ++ added } ∧
      ∀ a ∈ added, ∃ info ∈ infos, AckMessage A source sink tips view info a := by
  refine Prog.leaf_foldlM (fun _ s => ∃ added : List Any,
    s = { acc with messages := acc.messages ++ added } ∧
      ∀ a ∈ added, ∃ info ∈ infos, AckMessage A source sink tips view info a) ?_ ?_ h
  · exact ⟨[], by rw [List.append_nil], fun a ha => absurd ha List.not_mem_nil⟩
  · rintro _ info _ s' ⟨added, rfl, hadded⟩ hinfo hstep
    obtain ⟨packet, hpacket, rfl | ⟨ack, t, a, hack, hheight, hmsg, rfl⟩⟩ :=
      acknowledgementStep_returns hstep
    · exact ⟨added, rfl, hadded⟩
    · refine ⟨added ++ [a], by rw [← List.append_assoc], fun b hb => ?_⟩
      rcases List.mem_append.mp hb with hb | hb
      · exact hadded b hb
      · rw [List.mem_singleton.mp hb]
        exact ⟨info, hinfo, packet, ack, t, hpacket, hack, hheight, hmsg⟩

/-- One round of the loop over the whitelist. -/
def channelStep (source sink : Chain S) (tips : Tips) (acc : ReadyPackets)
    (channel : ChannelId × PortId) : Prog S Error ReadyPackets := do
  let (channelId, portId) := channel
  match ← queryChannelView source sink tips channelId portId with
  | none => return acc
  | some view =>
      let seqs ← queryUndeliveredSequences tips.sourceHeight tips.sinkHeight channelId portId
        source.toIbcProvider sink.toIbcProvider
      let sendPackets ← source.querySendPackets channelId portId seqs
      let acc ← sendPackets.foldlM (sendPacketStep source sink tips view) acc
      let acks ← queryUndeliveredAcks tips.sourceHeight tips.sinkHeight channelId portId
        source.toIbcProvider sink.toIbcProvider
      if view.sourceChannelEnd.state = .closed then
        return acc
      let acknowledgements ← source.queryRecvPackets channelId portId acks
      acknowledgements.foldlM (acknowledgementStep source sink tips view) acc

/-- **What one round over the whitelist can do**: skip the channel, or visit it
with its view, its undelivered sequences and the packets sent with these. -/
theorem channelStep_returns {source sink : Chain S} {tips : Tips} {acc acc' : ReadyPackets}
    {c : ChannelId} {p : PortId} (h : (channelStep source sink tips acc (c, p)).Leaf A (.ok acc')) :
    (queryChannelView source sink tips c p).Leaf A (.ok none) ∧ acc' = acc ∨
      ∃ view seqs infos acc₁ acks, (queryChannelView source sink tips c p).Leaf A (.ok (some view)) ∧
        (queryUndeliveredSequences tips.sourceHeight tips.sinkHeight c p source.toIbcProvider
          sink.toIbcProvider).Leaf A (.ok seqs) ∧
        (source.querySendPackets c p seqs).Leaf A (.ok infos) ∧
        (infos.foldlM (sendPacketStep source sink tips view) acc).Leaf A (.ok acc₁) ∧
        (queryUndeliveredAcks tips.sourceHeight tips.sinkHeight c p source.toIbcProvider
          sink.toIbcProvider).Leaf A (.ok acks) ∧
        (acc' = acc₁ ∨ view.sourceChannelEnd.state ≠ .closed ∧ ∃ received,
          (source.queryRecvPackets c p acks).Leaf A (.ok received) ∧
          (received.foldlM (acknowledgementStep source sink tips view) acc₁).Leaf A (.ok acc')) := by
  obtain ⟨_ | view, hview, h⟩ := Prog.leaf_bind_ok.mp h
  · simp only [Prog.leaf_pure, Outcome.ok.injEq] at h
    exact .inl ⟨hview, h.symm⟩
  · obtain ⟨seqs, hseqs, h⟩ := Prog.leaf_bind_ok.mp h
    obtain ⟨infos, hinfos, h⟩ := Prog.leaf_bind_ok.mp h
    obtain ⟨acc₁, hfold, h⟩ := Prog.leaf_bind_ok.mp h
    obtain ⟨acks, hacks, h⟩ := Prog.leaf_bind_ok.mp h
    refine .inr ⟨view, seqs, infos, acc₁, acks, hview, hseqs, hinfos, hfold, hacks, ?_⟩
    split_ifs at h with hclosed
    · simp only [Prog.leaf_pure, Outcome.ok.injEq] at h
      exact .inl h.symm
    · obtain ⟨received, hreceived, h⟩ := Prog.leaf_bind_ok.mp h
      exact .inr ⟨hclosed, received, hreceived, h⟩

/-- The reads at the start of the function. -/
def queryTips (source sink : Chain S) : Prog S Error Tips := do
  let (sourceHeight, sourceTimestamp) ← source.latestHeightAndTimestamp
  let (sinkHeight, sinkTimestamp) ← sink.latestHeightAndTimestamp
  return { sourceHeight, sourceTimestamp, sinkHeight, sinkTimestamp }

/-- `query_ready_and_timed_out_packets`. -/
def queryReadyAndTimedOutPackets (source sink : Chain S) : Prog S Error ReadyPackets := do
  let tips ← queryTips source sink
  source.channelWhitelist.foldlM (channelStep source sink tips) { messages := [], timeouts := [] }

end HyperspaceLight
