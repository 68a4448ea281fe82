/-
# From events to messages

`src/core/events.rs`: `parse_events`.  The loop over the events keeps the messages
and the reference height the relay loop waits for; what happens to one event is
`parseEvent`, with a definition for each arm of the source's `match`.  An arm
returns the message with its proof height, or nothing where the source goes on to
the next event.

The connection arms fail where an answer is incomplete; the channel and packet
arms panic at some of the same places.  The query for packets that wait for a
connection delay is commented out in the source, and the list of timeouts is
always empty.
-/

import HyperspaceLight.Primitives.Traits

namespace HyperspaceLight

open Interaction

variable {S : Sig} {A : (o : S.Op) → Except Error (S.Res o) → Prop}

/-- The text that starts the errors of an arm. -/
def armLabel (arm : String) : String := "[get_messages_for_events - " ++ arm ++ "] "

/-- `{:?}` of the connection id of an event. -/
def debugOption (id : ConnectionId) : String := "Some(" ++ id.debug ++ ")"

/-- `Height::new` of the proof height in an answer. -/
def newProofHeight (arm : String) (h : RawHeight) : Prog S Error Height :=
  .okOr (.custom (armLabel arm ++ "Invalid proof height: ZeroHeight"))
    (Height.new h.revisionNumber h.revisionHeight)

/-- `query_consensus_proof`. -/
def queryConsensusProof (consensusProof : QueryConsensusStateResponse) : Bytes :=
  consensusProof.proof

/-! ### Connection events -/

/-- The connection end with its proof, and the answer they come from. -/
def connectionEndWithProof (arm : String) (source : IbcProvider S) (height : Height)
    (connectionId : ConnectionId) :
    Prog S Error (QueryConnectionResponse × ConnectionEnd × CommitmentProofBytes) := do
  let connectionResponse ← source.queryConnectionEnd height connectionId
  let raw ← .okOr
    (.custom (armLabel arm ++ "Connection end not found for " ++ debugOption connectionId))
    connectionResponse.value
  let connectionEnd ← raw.tryFrom
  let connectionProof ← CommitmentProofBytes.tryFrom connectionResponse.proof
  return (connectionResponse, connectionEnd, connectionProof)

/-- The proof height of a connection answer. -/
def connectionProofHeight (arm : String) (connectionResponse : QueryConnectionResponse) :
    Prog S Error Height := do
  let proofHeight ← .okOr (.custom (armLabel arm ++ "Proof height not found in response"))
    connectionResponse.proofHeight
  newProofHeight arm proofHeight

/-- The client state in an answer, with its proof where that is not empty. -/
def clientStateWithProof (clientStateResponse : QueryClientStateResponse) :
    Prog S Error (Option CommitmentProofBytes × ClientState) := do
  let clientStateProof : Option CommitmentProofBytes :=
    if h : clientStateResponse.proof ≠ [] then some ⟨clientStateResponse.proof, h⟩ else none
  let raw ← .okOr (.custom "Client state is empty") clientStateResponse.value
  let clientState ← raw.tryFrom
  return (clientStateProof, clientState)

variable [Crates]

/-- The text put before an encoding error of an arm. -/
def encodingContext (arm : String) : String := armLabel arm ++ "Error encoding message: "

/-- `IbcEvent::OpenInitConnection`. -/
def openInitConnectionArm (source sink : IbcProvider S) (ev : IbcEventWithHeight)
    (openInit : ConnectionAttributes) : Prog S Error (Option (Any × Height)) :=
  match openInit.connectionId with
  | none => return none
  | some connectionId => do
      let (connectionResponse, connectionEnd, connectionProof) ←
        connectionEndWithProof "open_conn_init" source ev.height connectionId
      let counterparty := connectionEnd.counterparty
      let clientStateResponse ← source.queryClientState ev.height openInit.clientId
      let proofHeight ← connectionProofHeight "open_conn_init" connectionResponse
      let (clientStateProof, clientState) ← clientStateWithProof clientStateResponse
      let consensusProof ←
        source.queryClientConsensus ev.height openInit.clientId clientState.latestHeight
      let consensusProof ← CommitmentProofBytes.tryFrom (queryConsensusProof consensusProof)
      let msg : MsgConnectionOpenTry := {
        previousConnectionId := counterparty.connectionId
        clientId := counterparty.clientId
        clientState := some clientState
        counterparty := ⟨openInit.clientId, some connectionId, source.connectionPrefix⟩
        counterpartyVersions := connectionEnd.versions
        proofs := ⟨connectionProof, clientStateProof,
          some ⟨consensusProof, clientState.latestHeight⟩, none, proofHeight⟩
        delayPeriod := connectionEnd.delayPeriod
        signer := sink.accountId }
      let msg ← (Msg.connectionOpenTry msg).toAny (encodingContext "open_conn_init") (some ev)
      return some (msg, proofHeight)

/-- `IbcEvent::OpenTryConnection`. -/
def openTryConnectionArm (source sink : IbcProvider S) (ev : IbcEventWithHeight)
    (openTry : ConnectionAttributes) : Prog S Error (Option (Any × Height)) :=
  match openTry.connectionId with
  | none => return none
  | some connectionId => do
      let (connectionResponse, connectionEnd, connectionProof) ←
        connectionEndWithProof "open_conn_try" source ev.height connectionId
      let counterparty := connectionEnd.counterparty
      let clientStateResponse ← source.queryClientState ev.height openTry.clientId
      let proofHeight ← connectionProofHeight "open_conn_try" connectionResponse
      let (clientStateProof, clientState) ← clientStateWithProof clientStateResponse
      let consensusProof ←
        source.queryClientConsensus ev.height openTry.clientId clientState.latestHeight
      let counterpartyId ← .okOr (.custom (armLabel "open_conn_try" ++ "Connection Id not found"))
        counterparty.connectionId
      let consensusProof ← CommitmentProofBytes.tryFrom (queryConsensusProof consensusProof)
      let version ← .okOr
        (.custom (armLabel "open_conn_try" ++ "Connection version is missing for  "
          ++ debugOption connectionId))
        connectionEnd.versions.head?
      let msg : MsgConnectionOpenAck := {
        connectionId := counterpartyId
        counterpartyConnectionId := connectionId
        clientState := some clientState
        proofs := ⟨connectionProof, clientStateProof,
          some ⟨consensusProof, clientState.latestHeight⟩, none, proofHeight⟩
        version
        signer := sink.accountId }
      let msg ← (Msg.connectionOpenAck msg).toAny (encodingContext "open_conn_try") (some ev)
      return some (msg, proofHeight)

/-- `IbcEvent::OpenAckConnection`. -/
def openAckConnectionArm (source sink : IbcProvider S) (ev : IbcEventWithHeight)
    (openAck : ConnectionAttributes) : Prog S Error (Option (Any × Height)) :=
  match openAck.connectionId with
  | none => return none
  | some connectionId => do
      let (connectionResponse, connectionEnd, connectionProof) ←
        connectionEndWithProof "open_conn_ack" source ev.height connectionId
      let counterparty := connectionEnd.counterparty
      let proofHeight ← connectionProofHeight "open_conn_ack" connectionResponse
      let counterpartyId ← .okOr (.custom (armLabel "open_conn_ack" ++ "Connection Id not found"))
        counterparty.connectionId
      let msg : MsgConnectionOpenConfirm := {
        connectionId := counterpartyId
        proofs := ⟨connectionProof, none, none, none, proofHeight⟩
        signer := sink.accountId }
      let msg ← (Msg.connectionOpenConfirm msg).toAny (encodingContext "open_conn_ack") (some ev)
      return some (msg, proofHeight)

/-! ### Channel events -/

/-- How a channel arm treats a channel end that does not decode. -/
inductive DecodeMode where
  | expect
  | question

/-- The channel end in an answer. -/
def DecodeMode.decode (mode : DecodeMode) (raw : Raw ChannelEnd) : Prog S Error ChannelEnd :=
  match mode with
  | expect => raw.tryFrom.unwrap "Channel end decoding should not fail"
  | question => raw.tryFrom

/-- The channel end with its proof and proof height. -/
def channelEndWithProof (arm : String) (mode : DecodeMode) (missingHeight : String)
    (source : IbcProvider S) (height : Height) (channelId : ChannelId) (portId : PortId) :
    Prog S Error (ChannelEnd × CommitmentProofBytes × Height) := do
  let channelResponse ← source.queryChannelEnd height channelId portId
  let raw ← .okOr (.custom (armLabel arm ++ "ChannelEnd not found")) channelResponse.value
  let channelEnd ← mode.decode raw
  let channelProof ← CommitmentProofBytes.tryFrom channelResponse.proof
  let proofHeight ← .expect missingHeight channelResponse.proofHeight
  let proofHeight ← newProofHeight arm proofHeight
  return (channelEnd, channelProof, proofHeight)

/-- `IbcEvent::OpenInitChannel`. -/
def openInitChannelArm (source sink : IbcProvider S) (ev : IbcEventWithHeight)
    (openInit : ChannelAttributes) : Prog S Error (Option (Any × Height)) :=
  match openInit.channelId with
  | none => return none
  | some channelId => do
      let (channelEnd, channelProof, proofHeight) ←
        channelEndWithProof "open_chan_init" .expect
          "[get_messages_for_events - open_chan_init]Proof height should be present"
          source ev.height channelId openInit.portId
      let counterparty := channelEnd.counterparty
      -- the channel end as the receiving chain is expected to build it
      let channel : ChannelEnd := {
        state := .tryOpen
        ordering := channelEnd.ordering
        counterparty := ⟨openInit.portId, some channelId⟩
        connectionHops := channelEnd.connectionHops
        version := channelEnd.version }
      let msg : MsgChannelOpenTry := {
        portId := counterparty.portId
        previousChannelId := counterparty.channelId
        channel
        counterpartyVersion := channelEnd.version
        proofs := ⟨channelProof, none, none, none, proofHeight⟩
        signer := sink.accountId }
      let msg ← (Msg.channelOpenTry msg).toAny (encodingContext "open_chan_init") (some ev)
      return some (msg, proofHeight)

/-- `IbcEvent::OpenTryChannel`. -/
def openTryChannelArm (source sink : IbcProvider S) (ev : IbcEventWithHeight)
    (openTry : ChannelAttributes) : Prog S Error (Option (Any × Height)) :=
  match openTry.channelId with
  | none => return none
  | some channelId => do
      let (channelEnd, channelProof, proofHeight) ←
        channelEndWithProof "open_chan_try" .expect
          "[get_messages_for_events - open_chan_try] Proof height should be present"
          source ev.height channelId openTry.portId
      let counterparty := channelEnd.counterparty
      let counterpartyId ← .expect "Expect channel id to be set" counterparty.channelId
      let msg : MsgChannelOpenAck := {
        portId := counterparty.portId
        channelId := counterpartyId
        counterpartyChannelId := channelId
        counterpartyVersion := channelEnd.version
        proofs := ⟨channelProof, none, none, none, proofHeight⟩
        signer := sink.accountId }
      let msg ← (Msg.channelOpenAck msg).toAny (encodingContext "open_chan_try") (some ev)
      return some (msg, proofHeight)

/-- `IbcEvent::OpenAckChannel`. -/
def openAckChannelArm (source sink : IbcProvider S) (ev : IbcEventWithHeight)
    (openAck : ChannelAttributes) : Prog S Error (Option (Any × Height)) :=
  match openAck.channelId with
  | none => return none
  | some channelId => do
      let (channelEnd, channelProof, proofHeight) ←
        channelEndWithProof "open_chan_ack" .question "Proof height should be present"
          source ev.height channelId openAck.portId
      let counterparty := channelEnd.counterparty
      let counterpartyId ← .expect "Expect channel id to be set" counterparty.channelId
      let msg : MsgChannelConfirm := {
        portId := counterparty.portId
        channelId := counterpartyId
        proofs := ⟨channelProof, none, none, none, proofHeight⟩
        signer := sink.accountId }
      let msg ← (Msg.channelOpenConfirm msg).toAny (encodingContext "open_chan_ack") (some ev)
      return some (msg, proofHeight)

/-- `IbcEvent::CloseInitChannel`. -/
def closeInitChannelArm (source sink : IbcProvider S) (ev : IbcEventWithHeight)
    (closeInit : CloseInitAttributes) : Prog S Error (Option (Any × Height)) := do
  let (channelEnd, channelProof, proofHeight) ←
    channelEndWithProof "close_chan_init" .question "Proof height should be present"
      source ev.height closeInit.channelId closeInit.portId
  let counterparty := channelEnd.counterparty
  let counterpartyId ← .expect "Expect channel id to be set" counterparty.channelId
  let msg : MsgChannelConfirm := {
    portId := counterparty.portId
    channelId := counterpartyId
    proofs := ⟨channelProof, none, none, none, proofHeight⟩
    signer := sink.accountId }
  let msg ← (Msg.channelCloseConfirm msg).toAny (encodingContext "close_chan_init") (some ev)
  return some (msg, proofHeight)

/-! ### Packet events -/

/-- The delay of the connection under a channel, as the packet arms look it up. -/
def channelDelay (source : IbcProvider S) (height : Height) (channelId : ChannelId)
    (portId : PortId) : Prog S Error Duration := do
  let channelResponse ← source.queryChannelEnd height channelId portId
  let raw ← .okOr (.custom "Failed to convert to concrete channel end from raw channel end")
    channelResponse.value
  let channelEnd ← raw.tryFrom
  let connectionId ← .okOr (.custom "Channel end missing connection id")
    channelEnd.connectionHops.head?
  let connectionResponse ← source.queryConnectionEnd height connectionId
  let raw ← .okOr (.custom ("ConnectionEnd not found for " ++ connectionId.debug))
    connectionResponse.value
  let connectionEnd ← raw.tryFrom
  return connectionEnd.delayPeriod

/-- The proof in a packet answer with its proof height. -/
def packetProof {α : Type} (arm : String) (response : WithProof α) :
    Prog S Error (CommitmentProofBytes × Height) := do
  let commitmentProof ← CommitmentProofBytes.tryFrom response.proof
  let proofHeight ← .expect "Proof height should be present" response.proofHeight
  let proofHeight ← newProofHeight arm proofHeight
  return (commitmentProof, proofHeight)

/-- `IbcEvent::SendPacket`. -/
def sendPacketArm (source sink : IbcProvider S) (ev : IbcEventWithHeight) (packet : Packet) :
    Prog S Error (Option (Any × Height)) := do
  let portId := packet.sourcePort
  let channelId := packet.sourceChannel
  let delayPeriod ← channelDelay source ev.height channelId portId
  if delayPeriod ≠ 0 then
    return none
  let response ← source.queryPacketCommitment ev.height portId channelId packet.sequence
  let (commitmentProof, proofHeight) ← packetProof "send_packet" response
  let msg : MsgRecvPacket := {
    packet
    proofs := ⟨commitmentProof, none, none, none, proofHeight⟩
    signer := sink.accountId }
  let msg ← (Msg.recvPacket msg).toAny (encodingContext "send_packet") (some ev)
  return some (msg, proofHeight)

/-- `IbcEvent::WriteAcknowledgement`.  The packet was received here; its source
port and channel are used all the same. -/
def writeAcknowledgementArm (source sink : IbcProvider S) (ev : IbcEventWithHeight)
    (packet : Packet) (ack : Bytes) : Prog S Error (Option (Any × Height)) := do
  let portId := packet.sourcePort
  let channelId := packet.sourceChannel
  let delayPeriod ← channelDelay source ev.height channelId portId
  if delayPeriod ≠ 0 then
    return none
  let response ← source.queryPacketAcknowledgement ev.height portId channelId packet.sequence
  let (commitmentProof, proofHeight) ← packetProof "write_ack" response
  let msg : MsgAcknowledgement := {
    packet
    acknowledgement := ack
    proofs := ⟨commitmentProof, none, none, none, proofHeight⟩
    signer := sink.accountId }
  let msg ← (Msg.acknowledgement msg).toAny (encodingContext "write_ack") (some ev)
  return some (msg, proofHeight)

/-! ### The loop -/

/-- The `match` of `parse_events` on one event. -/
def parseEvent (source sink : IbcProvider S) (ev : IbcEventWithHeight) :
    Prog S Error (Option (Any × Height)) :=
  match ev.event with
  | .openInitConnection openInit => openInitConnectionArm source sink ev openInit
  | .openTryConnection openTry => openTryConnectionArm source sink ev openTry
  | .openAckConnection openAck => openAckConnectionArm source sink ev openAck
  | .openInitChannel openInit => openInitChannelArm source sink ev openInit
  | .openTryChannel openTry => openTryChannelArm source sink ev openTry
  | .openAckChannel openAck => openAckChannelArm source sink ev openAck
  | .closeInitChannel closeInit => closeInitChannelArm source sink ev closeInit
  | .sendPacket packet => sendPacketArm source sink ev packet
  | .writeAcknowledgement packet ack => writeAcknowledgementArm source sink ev packet ack
  | _ => return none

/-- What the loop keeps: the messages and the largest proof height so far. -/
structure ParsedEvents where
  messages : List Any
  proofHeightRef : Height

/-- `Height::new(0, 1)`. -/
def firstProofHeightRef : Height := ⟨0, 1, Nat.one_pos⟩

/-- Only the revision heights are compared. -/
def ParsedEvents.push (acc : ParsedEvents) (msg : Any) (proofHeight : Height) : ParsedEvents where
  messages := acc.messages ++ [msg]
  proofHeightRef :=
    if proofHeight.revisionHeight ≤ acc.proofHeightRef.revisionHeight then acc.proofHeightRef
    else proofHeight

/-- One round of the loop over the events. -/
def parseEventStep [Logger S] (source sink : IbcProvider S) (acc : ParsedEvents)
    (ev : IbcEventWithHeight) : Prog S Error ParsedEvents := do
  Logger.info (.processing ev)
  match ← parseEvent source sink ev with
  | none => return acc
  | some (msg, proofHeight) => return acc.push msg proofHeight

/-- `parse_events`: the messages, the timeouts and the reference height. -/
def parseEvents [Logger S] (source sink : IbcProvider S) (events : List IbcEventWithHeight) :
    Prog S Error (List Any × List Any × Height) := do
  let parsed ← events.foldlM (parseEventStep source sink) ⟨[], firstProofHeightRef⟩
  return (parsed.messages, [], parsed.proofHeightRef)

/-- `has_packet_events`. -/
def hasPacketEvents (eventTypes : List IbcEventType) : Bool :=
  eventTypes.any fun
    | .sendPacket | .writeAck => true
    | _ => false

end HyperspaceLight
