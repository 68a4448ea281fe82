/-
# The provider of a Cosmos chain

`src/cosmos/provider.rs` and `src/cosmos/utils.rs`: `IbcProvider for CosmosClient`.

A query with a proof makes two independent calls.  The gRPC service answers from
the node's current state; the ABCI query is for the height the caller names.  Six
queries take their value from the first and two theirs from the second
(`queryThenProve`, `queryThenPath`); the proof height is that of the first answer,
plus one.

`query_latest_ibc_events` reads the height of a light client on the counterparty,
scans the blocks above it, and builds the client update from light blocks that it
fetches last.
-/

import HyperspaceLight.Cosmos.Client

namespace HyperspaceLight

open Interaction

/-- `incerement_proof_height`. -/
def incerementProofHeight {S : Sig} : Option RawHeight → Prog S Error (Option RawHeight)
  | some height => do
      let revisionHeight ← u64Add height.revisionHeight 1
      return some ⟨height.revisionNumber, revisionHeight⟩
  | none => return none

/-- The decoder's answer for one event: `ibc_event_try_from_abci_event(&event).ok()`,
where it does not panic. -/
def decoded [Crates] (event : AbciEvent) : Option IbcEvent :=
  (ibcEventTryFromAbciEvent event).outcome.toOption

namespace CosmosClient

variable (self : CosmosClient)

/-! ### Queries with a proof -/

/-- `query_proof`; only the first key is used. -/
def queryProof [Crates] (at' : Height) (keys : List Bytes) : Prog Net Error Bytes := do
  let key ← .expect "index out of bounds: the len is 0 but the index is 0" keys.head?
  let (_, proof) ← self.queryPath key at' true
  return proof

/-- A value by gRPC, then its proof by ABCI. -/
def queryThenProve [Crates] {α : Type} (op : NodeOp) (response : op.Res → GrpcResponse α)
    (path : Path) (at' : Height) : Prog Net Error (WithProof α) := do
  let answer ← self.side.grpc op
  let proof ← self.queryProof at' [path.key]
  let proofHeight ← incerementProofHeight (response answer).proofHeight
  return ⟨(response answer).value, proof, proofHeight⟩

/-- A gRPC query whose value is dropped, then value and proof by ABCI. -/
def queryThenPath [Crates] {α β : Type} (op : NodeOp) (response : op.Res → GrpcResponse α)
    (path : Path) (at' : Height) (value : Bytes → Prog Net Error β) :
    Prog Net Error (WithProof β) := do
  let answer ← self.side.grpc op
  let (res, proof) ← self.queryPath path.key at' true
  let value ← value res.value
  let proofHeight ← incerementProofHeight (response answer).proofHeight
  return ⟨value, proof, proofHeight⟩

/-- `query_client_consensus`. -/
def queryClientConsensus [Crates] (at' : Height) (clientId : ClientId) (consensusHeight : Height) :
    Prog Net Error QueryConsensusStateResponse :=
  self.queryThenProve
    (.consensusState clientId consensusHeight.revisionNumber consensusHeight.revisionHeight) id
    (.clientConsensusState clientId consensusHeight.revisionNumber consensusHeight.revisionHeight)
    at'

/-- `query_client_state`. -/
def queryClientState [Crates] (at' : Height) (clientId : ClientId) :
    Prog Net Error QueryClientStateResponse :=
  self.queryThenProve (.clientState clientId) id (.clientState clientId) at'

/-- `query_connection_end`. -/
def queryConnectionEnd [Crates] (at' : Height) (connectionId : ConnectionId) :
    Prog Net Error QueryConnectionResponse :=
  self.queryThenProve (.connection connectionId) id (.connections connectionId) at'

/-- `query_channel_end`. -/
def queryChannelEnd [Crates] (at' : Height) (channelId : ChannelId) (portId : PortId) :
    Prog Net Error QueryChannelResponse :=
  self.queryThenProve (.channel portId channelId) id (.channelEnds portId channelId) at'

/-- `query_packet_commitment`. -/
def queryPacketCommitment [Crates] (at' : Height) (portId : PortId) (channelId : ChannelId)
    (seq : ℕ) : Prog Net Error QueryPacketCommitmentResponse :=
  self.queryThenProve (.packetCommitment portId channelId seq) id
    (.commitments portId channelId seq) at'

/-- `query_packet_acknowledgement`: the acknowledgement is the ABCI value. -/
def queryPacketAcknowledgement [Crates] (at' : Height) (portId : PortId) (channelId : ChannelId)
    (seq : ℕ) : Prog Net Error QueryPacketAcknowledgementResponse :=
  self.queryThenPath (.packetAcknowledgement portId channelId seq) id
    (.acks portId channelId seq) at' fun value => pure value

/-- `query_next_sequence_recv`. -/
def queryNextSequenceRecv [Crates] (at' : Height) (portId : PortId) (channelId : ChannelId) :
    Prog Net Error QueryNextSequenceReceiveResponse :=
  self.queryThenProve (.nextSequenceReceive portId channelId) id (.seqRecvs portId channelId) at'

/-- `query_packet_receipt`: received is a first byte of one in the ABCI value. -/
def queryPacketReceipt [Crates] (at' : Height) (portId : PortId) (channelId : ChannelId)
    (seq : ℕ) : Prog Net Error QueryPacketReceiptResponse :=
  self.queryThenPath (.packetReceipt portId channelId seq) id (.receipts portId channelId seq)
    at' fun value => do
      let first ← .expect "index out of bounds: the len is 0 but the index is 0" value.head?
      return first = 1

/-! ### Queries without a proof -/

/-- `latest_height_and_timestamp`. -/
def latestHeightAndTimestamp [Crates] : Prog Net Error (Height × Timestamp) := do
  let response ← self.side.ask .status .ofRpc
  .require (response.catchingUp = false) (.custom "Node is still syncing")
  let height ← .okOr (.custom "Error ZeroHeight")
    (Height.new (Crates.chainVersion response.network) response.latestBlockHeight)
  return (height, .ofTime response.latestBlockTime)

/-- `query_packet_commitments`; one page is asked for. -/
def queryPacketCommitments (_at : Height) (channelId : ChannelId) (portId : PortId) :
    Prog Net Error (List ℕ) := do
  let response ← self.side.grpc (.packetCommitments portId channelId)
  return response.sequences

/-- `query_packet_acknowledgements`; one page is asked for. -/
def queryPacketAcknowledgements (_at : Height) (channelId : ChannelId) (portId : PortId) :
    Prog Net Error (List ℕ) := do
  let response ← self.side.grpc (.packetAcknowledgements portId channelId)
  return response.sequences

/-- `query_unreceived_packets`. -/
def queryUnreceivedPackets (_at : Height) (channelId : ChannelId) (portId : PortId)
    (seqs : List ℕ) : Prog Net Error (List ℕ) :=
  self.side.grpc (.unreceivedPackets portId channelId seqs)

/-- `query_unreceived_acknowledgements`. -/
def queryUnreceivedAcknowledgements (_at : Height) (channelId : ChannelId) (portId : PortId)
    (seqs : List ℕ) : Prog Net Error (List ℕ) :=
  self.side.grpc (.unreceivedAcks portId channelId seqs)

/-- `query_send_packets`: the searches are made, the packets are not built. -/
def querySendPackets (channelId : ChannelId) (portId : PortId) (seqs : List ℕ) :
    Prog Net Error (List PacketInfo) := do
  seqs.foldlM (fun _ seq => self.side.ask (.blockSearch portId channelId seq) .ofRpc) ()
  .panic "not yet implemented"

/-- `query_recv_packets`. -/
def queryRecvPackets (_channelId : ChannelId) (_portId : PortId) (_seqs : List ℕ) :
    Prog Net Error (List PacketInfo) :=
  .panic "not yet implemented"

/-- `query_client_update_time_and_height`. -/
def queryClientUpdateTimeAndHeight (_clientId : ClientId) (_clientHeight : Height) :
    Prog Net Error (Height × Time) :=
  .panic "not yet implemented"

/-- `query_timestamp_at`. -/
def queryTimestampAt (blockNumber : ℕ) : Prog Net Error ℕ := do
  let height ← (TmHeight.tryFrom blockNumber).mapErr (.within "Invalid block number: ")
  let time ← self.side.ask (.block height) .ofRpc
  return (Timestamp.ofTime time).nanoseconds

/-- `IbcProvider for CosmosClient`. -/
def provider [Crates] : IbcProvider Net where
  queryClientConsensus := self.queryClientConsensus
  queryClientState := self.queryClientState
  queryConnectionEnd := self.queryConnectionEnd
  queryChannelEnd := self.queryChannelEnd
  queryProof := self.queryProof
  queryPacketCommitment := self.queryPacketCommitment
  queryPacketAcknowledgement := self.queryPacketAcknowledgement
  queryNextSequenceRecv := self.queryNextSequenceRecv
  queryPacketReceipt := self.queryPacketReceipt
  latestHeightAndTimestamp := self.latestHeightAndTimestamp
  queryPacketCommitments := self.queryPacketCommitments
  queryPacketAcknowledgements := self.queryPacketAcknowledgements
  queryUnreceivedPackets := self.queryUnreceivedPackets
  queryUnreceivedAcknowledgements := self.queryUnreceivedAcknowledgements
  channelWhitelist := self.channelWhitelist
  querySendPackets := self.querySendPackets
  queryRecvPackets := CosmosClient.queryRecvPackets
  expectedBlockTime := Duration.fromSecs 30
  queryClientUpdateTimeAndHeight := CosmosClient.queryClientUpdateTimeAndHeight
  connectionPrefix := self.commitmentPrefix
  clientId := self.clientId
  queryTimestampAt := self.queryTimestampAt
  accountId := self.accountId

/-! ### The scan -/

/-- One event of a transaction; one that does not decode is left out. -/
def scanEvent [Crates] (revisionNumber height tx : ℕ) (ibcEvents : List IbcEventWithHeight)
    (event : AbciEvent × ℕ) : Prog Net Error (List IbcEventWithHeight) := do
  let ibcEvent ← Prog.lift (ibcEventTryFromAbciEvent event.1).attempt
  match ibcEvent.toOption with
  | some ev => do
      let height ← .expect "called `Result::unwrap()` on an `Err` value"
        (Height.new revisionNumber height)
      return ibcEvents ++ [{ event := ev, height, pos := ⟨tx, event.2⟩ }]
  | none => return ibcEvents

/-- One block of the scan; only the transaction results are looked at. -/
def scanBlock [Crates] (revisionNumber : ℕ) (ibcEvents : List IbcEventWithHeight) (height : ℕ) :
    Prog Net Error (List IbcEventWithHeight) := do
  let tmHeight ←
    (TmHeight.tryFrom height).unwrap "called `Result::unwrap()` on an `Err` value"
  let blockResults ← self.side.ask (.blockResults tmHeight)
    (.within ("Failed to query block result for height " ++ toString height ++ ": "))
  match blockResults.txsResults with
  | none => return ibcEvents
  | some txResults =>
      txResults.zipIdx.foldlM (fun ibcEvents tx =>
        tx.1.events.zipIdx.foldlM (scanEvent revisionNumber height tx.2) ibcEvents) ibcEvents

/-- `query_latest_ibc_events`. -/
def queryLatestIbcEvents [Crates] (_finalityEvent : FinalityEvent)
    (counterparty : IbcProvider Net) :
    Prog Net Error (Any × List IbcEventWithHeight × UpdateType) := do
  let clientId := counterparty.clientId
  let (latestCpHeight, _) ← counterparty.latestHeightAndTimestamp
  let latestCpClientState ← counterparty.queryClientState latestCpHeight clientId
  let clientStateResponse ← .okOr (.custom "counterparty returned empty client state")
    latestCpClientState.value
  let clientState ← clientStateResponse.tryFrom.mapErr fun _ =>
    .custom "failed to decode client state response"
  let latestCpClientHeight := clientState.latestHeight.revisionHeight
  let (latestHeight, _) ← self.latestHeightAndTimestamp
  let first ← u64Add latestCpClientHeight 1
  let past ← u64Add latestHeight.revisionHeight 1
  let ibcEvents ← (List.range' first (past - first)).foldlM
    (self.scanBlock latestHeight.revisionNumber) []
  let (header, updateType) ← self.msgUpdateClientHeader clientState.latestHeight
  let msg : MsgUpdateClient := {
    clientId := self.clientId
    header
    signer := counterparty.accountId }
  let updateClientHeader ←
    (Msg.updateClient msg).toAny "Failed to encode MsgUpdateClient: " none
  return (updateClientHeader, ibcEvents, updateType)

end CosmosClient
end HyperspaceLight
