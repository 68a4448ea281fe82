/-
# Undelivered packets and proof heights

`src/primitives/funcs.rs`: `query_undelivered_sequences`,
`query_undelivered_acks`, `packet_info_to_packet`,
`find_suitable_proof_height_for_client` and `apply_prefix`.

The search for a proof height has two modes.  Without a timestamp it walks the
heights upwards and takes the first with a consensus state (`linearSearch`).
With a timestamp it bisects (`bisectLoop`); an unavailable midpoint moves the
lower bound up by one, and the loop leaves one or two heights of which only the
lower is probed at the end.
-/

import HyperspaceLight.Primitives.Traits

namespace HyperspaceLight

open Interaction

variable {S : Sig} {A : (o : S.Op) → Except Error (S.Res o) → Prop}

/-- `query_undelivered_sequences`. -/
def queryUndeliveredSequences (sourceHeight sinkHeight : Height) (channelId : ChannelId)
    (portId : PortId) (source sink : IbcProvider S) : Prog S Error (List ℕ) := do
  let channelResponse ← source.queryChannelEnd sourceHeight channelId portId
  let raw ← .okOr (.custom "ChannelEnd not could not be decoded") channelResponse.value
  let channelEnd ← raw.tryFrom.mapErr fun e => .custom e.text
  -- first all packet commitments of the source
  let seqs ← source.queryPacketCommitments sourceHeight channelId portId
  let counterpartyChannelId ←
    .okOr (.custom "Expected counterparty channel id") channelEnd.counterparty.channelId
  let counterpartyPortId := channelEnd.counterparty.portId
  if channelEnd.ordering = .unordered then
    sink.queryUnreceivedPackets sinkHeight counterpartyChannelId counterpartyPortId seqs
  else
    let nextSeqRecv ←
      sink.queryNextSequenceRecv sinkHeight counterpartyPortId counterpartyChannelId
    return seqs.filter fun seq => decide (nextSeqRecv.value < seq)

/-- `query_undelivered_acks`. -/
def queryUndeliveredAcks (sourceHeight sinkHeight : Height) (channelId : ChannelId)
    (portId : PortId) (source sink : IbcProvider S) : Prog S Error (List ℕ) := do
  let channelResponse ← source.queryChannelEnd sourceHeight channelId portId
  let raw ← .okOr (.custom "ChannelEnd not could not be decoded") channelResponse.value
  let channelEnd ← raw.tryFrom.mapErr fun e => .custom e.text
  let seqs ← source.queryPacketAcknowledgements sourceHeight channelId portId
  let counterpartyChannelId ←
    .okOr (.custom "Expected counterparty channel id") channelEnd.counterparty.channelId
  let counterpartyPortId := channelEnd.counterparty.portId
  sink.queryUnreceivedAcknowledgements sinkHeight counterpartyChannelId counterpartyPortId seqs

/-- `TimeoutHeight::try_from` of a raw height: only `0-0` is no timeout. -/
def TimeoutHeight.tryFrom (h : RawHeight) : Option TimeoutHeight :=
  if h.revisionNumber = 0 ∧ h.revisionHeight = 0 then some .never
  else (Height.new h.revisionNumber h.revisionHeight).map .atHeight

/-- `packet_info_to_packet`. -/
def packetInfoToPacket [Crates] (packetInfo : PacketInfo) : Prog S Error Packet := do
  let sourcePort ← .expect "Port should be valid" (Ident.parse .port packetInfo.sourcePort)
  let sourceChannel ←
    .expect "Channel should be valid" (Ident.parse .channel packetInfo.sourceChannel)
  let destinationPort ←
    .expect "Port should be valid" (Ident.parse .port packetInfo.destinationPort)
  let destinationChannel ←
    .expect "Channel should be valid" (Ident.parse .channel packetInfo.destinationChannel)
  let timeoutHeight ←
    .expect "Height should be valid" (TimeoutHeight.tryFrom packetInfo.timeoutHeight)
  return {
    sequence := packetInfo.sequence
    sourcePort
    sourceChannel
    destinationPort
    destinationChannel
    data := packetInfo.data
    timeoutHeight
    timeoutTimestamp := .fromNanoseconds packetInfo.timeoutTimestamp }

/-- What a converted packet has of its packet info. -/
theorem packetInfoToPacket_returns [Crates] {info : PacketInfo} {packet : Packet}
    (h : (packetInfoToPacket info : Prog S Error Packet).Leaf A (.ok packet)) :
    packet.sequence = info.sequence ∧
      (packet.sourcePort.text = info.sourcePort ∧ packet.sourceChannel.text = info.sourceChannel) ∧
      packet.destinationPort.text = info.destinationPort ∧
        packet.destinationChannel.text = info.destinationChannel := by
  simp only [packetInfoToPacket, Prog.leaf_bind_ok, Prog.leaf_expect_ok, Prog.leaf_pure,
    Outcome.ok.injEq] at h
  obtain ⟨sp, hsp, sc, hsc, dp, hdp, dc, hdc, th, -, rfl⟩ := h
  exact ⟨rfl, ⟨Ident.parse_text hsp, Ident.parse_text hsc⟩, Ident.parse_text hdp,
    Ident.parse_text hdc⟩

/-- The linear mode of `find_suitable_proof_height_for_client`: `n` heights from
`height` on, all of revision `revisionNumber`. -/
def linearSearch (chain : IbcProvider S) (h : Height) (clientId : ClientId)
    (revisionNumber : ℕ) : ℕ → ℕ → Prog S Error (Option Height)
  | 0, _ => pure none
  | n + 1, height => do
      let tempHeight ←
        .expect "Could not create Height" (Height.new revisionNumber height)
      match ← (chain.queryClientConsensus h clientId tempHeight).attempt with
      | .error _ => linearSearch chain h clientId revisionNumber n (height + 1)
      | .ok _ => return some tempHeight

/-- The consensus time in an answer, if it has a state and the state decodes. -/
def consensusTime (r : QueryConsensusStateResponse) : Option Timestamp :=
  match r.value with
  | some (.ok cs) => some (.ofTime cs.timestamp)
  | _ => none

/-- The loop of the bisecting mode, with `fuel` rounds.  It returns the lower
bound it ends at and the last height known to be late enough; `none` is the
early return on a consensus state that is absent or does not decode. -/
def bisectLoop (chain : IbcProvider S) (h : Height) (clientId : ClientId)
    (revisionNumber : ℕ) (target : Timestamp) :
    ℕ → ℕ → ℕ → Option Height → Prog S Error (Option (ℕ × Option Height))
  | 0, _, _, _ => .done .spin
  | fuel + 1, start, stop, lastKnownValidHeight => do
      let gap ← u64Sub stop start
      if gap ≤ 1 then
        return some (start, lastKnownValidHeight)
      let sum ← u64Add stop start
      let mid := sum / 2
      let tempHeight ← .expect "Could not create Height" (Height.new revisionNumber mid)
      match ← (chain.queryClientConsensus h clientId tempHeight).attempt with
      | .error _ =>
          bisectLoop chain h clientId revisionNumber target fuel (start + 1) stop
            lastKnownValidHeight
      | .ok response =>
          match consensusTime response with
          | none => return none
          | some time =>
              if time.nanoseconds < target.nanoseconds then
                bisectLoop chain h clientId revisionNumber target fuel (mid + 1) stop
                  lastKnownValidHeight
              else
                bisectLoop chain h clientId revisionNumber target fuel start mid
                  (some tempHeight)

/-- The bisecting mode of `find_suitable_proof_height_for_client`. -/
def bisectSearch (chain : IbcProvider S) (h : Height) (clientId : ClientId)
    (startHeight : Height) (target : Timestamp) (latestClientHeight : Height) :
    Prog S Error (Option Height) := do
  let start := startHeight.revisionHeight
  let stop := latestClientHeight.revisionHeight
  if stop < start then
    return none
  match ← bisectLoop chain h clientId startHeight.revisionNumber target (stop - start + 1) start
      stop none with
  | none => return none
  | some (start, lastKnownValidHeight) =>
      let startHeight ←
        .expect "Could not create Height" (Height.new startHeight.revisionNumber start)
      match ← (chain.queryClientConsensus h clientId startHeight).attempt with
      | .error _ => return lastKnownValidHeight
      | .ok response =>
          match consensusTime response with
          | none => return none
          | some time =>
              if target.nanoseconds ≤ time.nanoseconds then
                return some startHeight
              else
                return lastKnownValidHeight

/-- `find_suitable_proof_height_for_client`. -/
def findSuitableProofHeightForClient (chain : IbcProvider S) (h : Height) (clientId : ClientId)
    (startHeight : Height) (timestampToMatch : Option Timestamp) (latestClientHeight : Height) :
    Prog S Error (Option Height) :=
  match timestampToMatch with
  | none =>
      linearSearch chain h clientId startHeight.revisionNumber
        (latestClientHeight.revisionHeight + 1 - startHeight.revisionHeight)
        startHeight.revisionHeight
  | some target => bisectSearch chain h clientId startHeight target latestClientHeight

/-- `apply_prefix`. -/
def applyPrefix (commitmentPrefix : Bytes) (path : String) : Bytes :=
  commitmentPrefix ++ utf8 path

end HyperspaceLight
