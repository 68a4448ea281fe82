/-
# The chain interface

`src/primitives/traits.rs`: the traits `IbcProvider`, `KeyProvider` and `Chain`
as records of programs.  An implementation of a trait is a value of the record;
the signature `S` is what that implementation may ask its nodes.  The generic
functions of the relayer take any such value, as they take any `impl Chain`.

Over the signature without questions an implementation answers from a state
that does not move, which is how a statement about "a state of both chains" is
made (`Static`).  Over `TraitSig` every method is one question, which is how a
statement about what a function asks is made (`Chain.trait`).

`query_latest_ibc_events` takes the other chain as an argument, so it stands in
`Chain`, after the queries that it needs of the other chain.  Methods that no
modelled function calls are left out.
-/

import HyperspaceLight.RelayerTypes.Messages

namespace HyperspaceLight

open Interaction

/-- An answer with its proof: `QueryChannelResponse` and its siblings. -/
structure WithProof (α : Type) where
  value : α
  proof : Bytes
  proofHeight : Option RawHeight

abbrev QueryConsensusStateResponse := WithProof (Option (Raw ConsensusState))
abbrev QueryClientStateResponse := WithProof (Option (Raw ClientState))
abbrev QueryConnectionResponse := WithProof (Option (Raw ConnectionEnd))
abbrev QueryChannelResponse := WithProof (Option (Raw ChannelEnd))
abbrev QueryPacketCommitmentResponse := WithProof Bytes
abbrev QueryPacketAcknowledgementResponse := WithProof Bytes
abbrev QueryNextSequenceReceiveResponse := WithProof ℕ
abbrev QueryPacketReceiptResponse := WithProof Bool

/-- `provider::FinalityEvent::Tendermint`. -/
abbrev FinalityEvent := ℕ

/-- The hash of a transaction. -/
abbrev TransactionId := ℕ

/-- `traits::UpdateType`. -/
inductive UpdateType where
  | mandatory
  | optional
  deriving DecidableEq

/-- `UpdateType::is_optional`. -/
def UpdateType.isOptional : UpdateType → Bool
  | mandatory => false
  | optional => true

/-- The log line of `parse_events` that the model keeps, with the event it is
about. -/
inductive LogLine where
  | processing (ev : IbcEventWithHeight)

/-- A signature whose programs can write to the log. -/
class Logger (S : Sig) where
  info : LogLine → Prog S Error Unit

/-- `traits::IbcProvider` and `traits::KeyProvider`. -/
structure IbcProvider (S : Sig) where
  queryClientConsensus : Height → ClientId → Height → Prog S Error QueryConsensusStateResponse
  queryClientState : Height → ClientId → Prog S Error QueryClientStateResponse
  queryConnectionEnd : Height → ConnectionId → Prog S Error QueryConnectionResponse
  queryChannelEnd : Height → ChannelId → PortId → Prog S Error QueryChannelResponse
  queryProof : Height → List Bytes → Prog S Error Bytes
  queryPacketCommitment :
    Height → PortId → ChannelId → ℕ → Prog S Error QueryPacketCommitmentResponse
  queryPacketAcknowledgement :
    Height → PortId → ChannelId → ℕ → Prog S Error QueryPacketAcknowledgementResponse
  queryNextSequenceRecv :
    Height → PortId → ChannelId → Prog S Error QueryNextSequenceReceiveResponse
  queryPacketReceipt :
    Height → PortId → ChannelId → ℕ → Prog S Error QueryPacketReceiptResponse
  latestHeightAndTimestamp : Prog S Error (Height × Timestamp)
  queryPacketCommitments : Height → ChannelId → PortId → Prog S Error (List ℕ)
  queryPacketAcknowledgements : Height → ChannelId → PortId → Prog S Error (List ℕ)
  queryUnreceivedPackets : Height → ChannelId → PortId → List ℕ → Prog S Error (List ℕ)
  queryUnreceivedAcknowledgements : Height → ChannelId → PortId → List ℕ → Prog S Error (List ℕ)
  channelWhitelist : List (ChannelId × PortId)
  querySendPackets : ChannelId → PortId → List ℕ → Prog S Error (List PacketInfo)
  queryRecvPackets : ChannelId → PortId → List ℕ → Prog S Error (List PacketInfo)
  expectedBlockTime : Duration
  queryClientUpdateTimeAndHeight : ClientId → Height → Prog S Error (Height × Time)
  connectionPrefix : StorePrefix
  clientId : ClientId
  queryTimestampAt : ℕ → Prog S Error ℕ
  accountId : Signer

/-- `traits::Chain`. -/
structure Chain (S : Sig) extends IbcProvider S where
  name : String
  blockMaxWeight : ℕ
  estimateWeight : List Any → Prog S Error ℕ
  submit : List Any → Prog S Error TransactionId
  queryLatestIbcEvents : FinalityEvent → IbcProvider S →
    Prog S Error (Any × List IbcEventWithHeight × UpdateType)

/-! ### A chain whose state does not move -/

/-- A chain that answers from a fixed state. -/
abbrev Static := Sig.none

instance : Logger Static := ⟨fun _ => pure ()⟩

/-- The program answers a protobuf value that decodes to `a`. -/
def Decoded {α : Type} (p : Prog Static Error (WithProof (Option (Raw α)))) (a : α) : Prop :=
  ∃ r, p.Returns r ∧ r.value = some (.ok a)

/-- An answer decodes to one value. -/
theorem Decoded.unique {α : Type} {p : Prog Static Error (WithProof (Option (Raw α)))} {a b : α}
    (ha : Decoded p a) (hb : Decoded p b) : a = b := by
  obtain ⟨r, hr, hra⟩ := ha
  obtain ⟨r', hr', hrb⟩ := hb
  obtain rfl := Prog.Returns.unique hr hr'
  rw [hra] at hrb
  exact Except.ok.inj (Option.some.inj hrb)

/-- The constants of a chain: the methods that do not wait. -/
structure ChainInfo where
  name : String
  blockMaxWeight : ℕ
  channelWhitelist : List (ChannelId × PortId)
  expectedBlockTime : Duration
  connectionPrefix : StorePrefix
  clientId : ClientId
  accountId : Signer

/-- A chain none of whose queries succeeds; concrete chains override some. -/
def Chain.unavailable {S : Sig} (info : ChainInfo) : Chain S where
  queryClientConsensus _ _ _ := .fail (.rpcError "unavailable")
  queryClientState _ _ := .fail (.rpcError "unavailable")
  queryConnectionEnd _ _ := .fail (.rpcError "unavailable")
  queryChannelEnd _ _ _ := .fail (.rpcError "unavailable")
  queryProof _ _ := .fail (.rpcError "unavailable")
  queryPacketCommitment _ _ _ _ := .fail (.rpcError "unavailable")
  queryPacketAcknowledgement _ _ _ _ := .fail (.rpcError "unavailable")
  queryNextSequenceRecv _ _ _ := .fail (.rpcError "unavailable")
  queryPacketReceipt _ _ _ _ := .fail (.rpcError "unavailable")
  latestHeightAndTimestamp := .fail (.rpcError "unavailable")
  queryPacketCommitments _ _ _ := .fail (.rpcError "unavailable")
  queryPacketAcknowledgements _ _ _ := .fail (.rpcError "unavailable")
  queryUnreceivedPackets _ _ _ _ := .fail (.rpcError "unavailable")
  queryUnreceivedAcknowledgements _ _ _ _ := .fail (.rpcError "unavailable")
  channelWhitelist := info.channelWhitelist
  querySendPackets _ _ _ := .fail (.rpcError "unavailable")
  queryRecvPackets _ _ _ := .fail (.rpcError "unavailable")
  expectedBlockTime := info.expectedBlockTime
  queryClientUpdateTimeAndHeight _ _ := .fail (.rpcError "unavailable")
  connectionPrefix := info.connectionPrefix
  clientId := info.clientId
  queryTimestampAt _ := .fail (.rpcError "unavailable")
  accountId := info.accountId
  name := info.name
  blockMaxWeight := info.blockMaxWeight
  estimateWeight _ := .fail (.rpcError "unavailable")
  submit _ := .fail (.rpcError "unavailable")
  queryLatestIbcEvents _ _ := .fail (.rpcError "unavailable")

/-! ### Data of concrete chains -/

/-- A height of revision zero; the first one for `0`, which is no height. -/
def height0 (n : ℕ) : Height := ⟨0, max n 1, Nat.le_max_right n 1⟩

/-- Seconds as nanoseconds. -/
def seconds (n : ℕ) : ℕ := n * 1000000000

/-- The channel identifier of the examples has no slash. -/
theorem slash_notMem_channel0 : '/' ∉ "channel-0".toList := by decide

/-- The connection identifier of the examples has no slash. -/
theorem slash_notMem_connection0 : '/' ∉ "connection-0".toList := by decide

/-- The client identifier of the examples has no slash. -/
theorem slash_notMem_client0 : '/' ∉ "07-tendermint-0".toList := by decide

def transferPort : PortId := ⟨"transfer", by decide⟩

def channel0 : ChannelId := ⟨"channel-0", slash_notMem_channel0⟩

def connection0 : ConnectionId := ⟨"connection-0", slash_notMem_connection0⟩

def client0 : ClientId := ⟨"07-tendermint-0", slash_notMem_client0⟩

def ibcPrefix : StorePrefix := ⟨utf8 "ibc", by decide⟩

/-- An open end of `channel-0`, as stored on both chains. -/
def openEnd (ordering : Order) : ChannelEnd where
  state := .open
  ordering
  counterparty := ⟨transferPort, some channel0⟩
  connectionHops := [connection0]
  version := "ics20-1"

def openConnection (delay : Duration) : ConnectionEnd where
  state := .open
  clientId := client0
  counterparty := ⟨client0, some connection0, ibcPrefix⟩
  versions := [⟨"1", ["ORDER_ORDERED", "ORDER_UNORDERED"]⟩]
  delayPeriod := delay

def chainInfo (name : String) : ChainInfo where
  name
  blockMaxWeight := 1000
  channelWhitelist := [(channel0, transferPort)]
  expectedBlockTime := seconds 30
  connectionPrefix := ibcPrefix
  clientId := client0
  accountId := name

/-- An answer with a proof. -/
def proven {α : Type} (a : α) : WithProof α := ⟨a, utf8 "proof", some ⟨0, 1⟩⟩

/-! ### A chain known by its interface only -/

/-- Which of its two arguments a generic function asks. -/
inductive Role where
  | source
  | sink
  deriving DecidableEq

/-- The questions of the generic functions: the methods that wait for an
answer. -/
inductive TraitOp where
  | queryClientConsensus (height : Height) (clientId : ClientId) (consensusHeight : Height)
  | queryClientState (height : Height) (clientId : ClientId)
  | queryConnectionEnd (height : Height) (connectionId : ConnectionId)
  | queryChannelEnd (height : Height) (channelId : ChannelId) (portId : PortId)
  | queryProof (height : Height) (keys : List Bytes)
  | queryPacketCommitment (height : Height) (portId : PortId) (channelId : ChannelId) (seq : ℕ)
  | queryPacketAcknowledgement (height : Height) (portId : PortId) (channelId : ChannelId) (seq : ℕ)
  | queryNextSequenceRecv (height : Height) (portId : PortId) (channelId : ChannelId)
  | queryPacketReceipt (height : Height) (portId : PortId) (channelId : ChannelId) (seq : ℕ)
  | latestHeightAndTimestamp
  | queryPacketCommitments (height : Height) (channelId : ChannelId) (portId : PortId)
  | queryPacketAcknowledgements (height : Height) (channelId : ChannelId) (portId : PortId)
  | queryUnreceivedPackets (height : Height) (channelId : ChannelId) (portId : PortId) (seqs : List ℕ)
  | queryUnreceivedAcknowledgements (height : Height) (channelId : ChannelId) (portId : PortId)
      (seqs : List ℕ)
  | querySendPackets (channelId : ChannelId) (portId : PortId) (seqs : List ℕ)
  | queryRecvPackets (channelId : ChannelId) (portId : PortId) (seqs : List ℕ)
  | queryClientUpdateTimeAndHeight (clientId : ClientId) (clientHeight : Height)
  | queryTimestampAt (blockNumber : ℕ)
  | estimateWeight (msgs : List Any)
  | submit (msgs : List Any)
  | queryLatestIbcEvents (finalityEvent : FinalityEvent)

/-- The answers to them. -/
def TraitOp.Res : TraitOp → Type
  | queryClientConsensus .. => QueryConsensusStateResponse
  | queryClientState .. => QueryClientStateResponse
  | queryConnectionEnd .. => QueryConnectionResponse
  | queryChannelEnd .. => QueryChannelResponse
  | queryProof .. => Bytes
  | queryPacketCommitment .. => QueryPacketCommitmentResponse
  | queryPacketAcknowledgement .. => QueryPacketAcknowledgementResponse
  | queryNextSequenceRecv .. => QueryNextSequenceReceiveResponse
  | queryPacketReceipt .. => QueryPacketReceiptResponse
  | latestHeightAndTimestamp => Height × Timestamp
  | queryPacketCommitments .. => List ℕ
  | queryPacketAcknowledgements .. => List ℕ
  | queryUnreceivedPackets .. => List ℕ
  | queryUnreceivedAcknowledgements .. => List ℕ
  | querySendPackets .. => List PacketInfo
  | queryRecvPackets .. => List PacketInfo
  | queryClientUpdateTimeAndHeight .. => Height × Time
  | queryTimestampAt .. => ℕ
  | estimateWeight .. => ℕ
  | submit .. => TransactionId
  | queryLatestIbcEvents .. => Any × List IbcEventWithHeight × UpdateType

/-- Both chains of a generic function, known by their interfaces. -/
def TraitSig : Sig := ⟨Role × TraitOp, fun o => o.2.Res⟩

instance : Logger TraitSig := ⟨fun _ => pure ()⟩

/-- The chain in a role, known by its interface: each method is one question. -/
def Chain.trait (info : ChainInfo) (role : Role) : Chain TraitSig where
  queryClientConsensus h id ch := .ask (S := TraitSig) (role, .queryClientConsensus h id ch)
  queryClientState h id := .ask (S := TraitSig) (role, .queryClientState h id)
  queryConnectionEnd h id := .ask (S := TraitSig) (role, .queryConnectionEnd h id)
  queryChannelEnd h c p := .ask (S := TraitSig) (role, .queryChannelEnd h c p)
  queryProof h keys := .ask (S := TraitSig) (role, .queryProof h keys)
  queryPacketCommitment h p c n :=
    .ask (S := TraitSig) (role, .queryPacketCommitment h p c n)
  queryPacketAcknowledgement h p c n :=
    .ask (S := TraitSig) (role, .queryPacketAcknowledgement h p c n)
  queryNextSequenceRecv h p c := .ask (S := TraitSig) (role, .queryNextSequenceRecv h p c)
  queryPacketReceipt h p c n := .ask (S := TraitSig) (role, .queryPacketReceipt h p c n)
  latestHeightAndTimestamp := .ask (S := TraitSig) (role, .latestHeightAndTimestamp)
  queryPacketCommitments h c p := .ask (S := TraitSig) (role, .queryPacketCommitments h c p)
  queryPacketAcknowledgements h c p :=
    .ask (S := TraitSig) (role, .queryPacketAcknowledgements h c p)
  queryUnreceivedPackets h c p ns :=
    .ask (S := TraitSig) (role, .queryUnreceivedPackets h c p ns)
  queryUnreceivedAcknowledgements h c p ns :=
    .ask (S := TraitSig) (role, .queryUnreceivedAcknowledgements h c p ns)
  channelWhitelist := info.channelWhitelist
  querySendPackets c p ns := .ask (S := TraitSig) (role, .querySendPackets c p ns)
  queryRecvPackets c p ns := .ask (S := TraitSig) (role, .queryRecvPackets c p ns)
  expectedBlockTime := info.expectedBlockTime
  queryClientUpdateTimeAndHeight id h :=
    .ask (S := TraitSig) (role, .queryClientUpdateTimeAndHeight id h)
  connectionPrefix := info.connectionPrefix
  clientId := info.clientId
  queryTimestampAt n := .ask (S := TraitSig) (role, .queryTimestampAt n)
  accountId := info.accountId
  name := info.name
  blockMaxWeight := info.blockMaxWeight
  estimateWeight ms := .ask (S := TraitSig) (role, .estimateWeight ms)
  submit ms := .ask (S := TraitSig) (role, .submit ms)
  queryLatestIbcEvents ev _ := .ask (S := TraitSig) (role, .queryLatestIbcEvents ev)

end HyperspaceLight
