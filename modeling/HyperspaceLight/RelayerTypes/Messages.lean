/-
# Connections, channels, packets, messages and events

The second half of what the relayer takes from `ibc-relayer-types`, `ibc-proto`
and `tendermint`: the ends of connections and channels, packets, the messages
it builds and the events it reads.

A protobuf value that the relayer only looks at through `try_from` is known
here by the result of that conversion (`Raw`).  An encoded message is an `Any`;
it keeps the message it encodes, so that statements about what is submitted can
speak of it.  What the crates compute and the repository does not show is in
the class `Crates`.
-/

import HyperspaceLight.RelayerTypes.Host

namespace HyperspaceLight

open Interaction

/-- A protobuf value, known by what `try_from` makes of it. -/
abbrev Raw (α : Type) := Except String α

/-- `T::try_from(raw)?`. -/
def Raw.tryFrom {S : Sig} {α : Type} : Raw α → Prog S Error α
  | .ok a => pure a
  | .error t => .fail (.external t)

/-- What decodes, decodes to its value. -/
@[simp] theorem Raw.leaf_tryFrom_ok {S : Sig} {α : Type}
    {A : (o : S.Op) → Except Error (S.Res o) → Prop} {x : Raw α} {a : α} :
    (x.tryFrom : Prog S Error α).Leaf A (.ok a) ↔ x = .ok a := by
  cases x <;> simp [Raw.tryFrom]

/-- Decoding asks for nothing. -/
theorem Raw.tryFrom_asks {S : Sig} {α : Type} {A : (o : S.Op) → Except Error (S.Res o) → Prop}
    {C : S.Op → Prop} {raw : Raw α} : (raw.tryFrom : Prog S Error α).Asks A C := by
  cases raw <;> trivial

/-- `ics23_commitment::CommitmentProofBytes`: never empty. -/
structure CommitmentProofBytes where
  bytes : Bytes
  nonempty : bytes ≠ []

/-- `CommitmentProofBytes::try_from`. -/
def CommitmentProofBytes.tryFrom {S : Sig} (b : Bytes) : Prog S Error CommitmentProofBytes :=
  if h : b ≠ [] then pure ⟨b, h⟩ else .fail (.external "empty proof")

/-- An accepted proof has the bytes it was made of. -/
theorem CommitmentProofBytes.tryFrom_returns {S : Sig}
    {A : (o : S.Op) → Except Error (S.Res o) → Prop} {b : Bytes} {c : CommitmentProofBytes}
    (h : (tryFrom b : Prog S Error CommitmentProofBytes).Leaf A (.ok c)) : c.bytes = b := by
  unfold tryFrom at h
  split_ifs at h
  · simp only [Prog.leaf_pure, Outcome.ok.injEq] at h
    exact h ▸ rfl
  · cases h

/-- Checking a proof asks for nothing. -/
theorem CommitmentProofBytes.tryFrom_asks {S : Sig}
    {A : (o : S.Op) → Except Error (S.Res o) → Prop} {C : S.Op → Prop} {b : Bytes} :
    (tryFrom b : Prog S Error CommitmentProofBytes).Asks A C := by
  unfold tryFrom
  split_ifs <;> trivial

/-- `CommitmentPrefix`, as bytes; `try_from` rejects only the empty one. -/
structure StorePrefix where
  bytes : Bytes
  nonempty : bytes ≠ []

/-- `signer::Signer`. -/
abbrev Signer := String

/-! ### Connections and channels -/

/-- `ics03_connection::connection::State`. -/
inductive ConnState where
  | uninitialized
  | init
  | tryOpen
  | open

/-- `ics03_connection::version::Version`. -/
structure ConnVersion where
  identifier : String
  features : List String

/-- `ics03_connection::connection::Counterparty`. -/
structure ConnCounterparty where
  clientId : ClientId
  connectionId : Option ConnectionId
  storePrefix : StorePrefix

/-- `ics03_connection::connection::ConnectionEnd`. -/
structure ConnectionEnd where
  state : ConnState
  clientId : ClientId
  counterparty : ConnCounterparty
  versions : List ConnVersion
  delayPeriod : Duration

/-- `ics04_channel::channel::State`. -/
inductive ChanState where
  | uninitialized
  | init
  | tryOpen
  | open
  | closed
  deriving DecidableEq

/-- `ics04_channel::channel::Order`. -/
inductive Order where
  | none
  | unordered
  | ordered
  deriving DecidableEq

/-- `ics04_channel::channel::Counterparty`. -/
structure ChanCounterparty where
  portId : PortId
  channelId : Option ChannelId
  deriving DecidableEq

/-- `ics04_channel::channel::ChannelEnd`. -/
structure ChannelEnd where
  state : ChanState
  ordering : Order
  counterparty : ChanCounterparty
  connectionHops : List ConnectionId
  version : String
  deriving DecidableEq

/-- The fields of `ics07_tendermint::ClientState` that the relayer reads. -/
structure ClientState where
  latestHeight : Height

/-- The field of `ics07_tendermint::ConsensusState` that the relayer reads. -/
structure ConsensusState where
  timestamp : Time

/-! ### Packets -/

/-- `ics04_channel::timeout::TimeoutHeight`. -/
inductive TimeoutHeight where
  | never
  | atHeight (h : Height)
  deriving DecidableEq

/-- `ics04_channel::packet::Packet`. -/
structure Packet where
  sequence : ℕ
  sourcePort : PortId
  sourceChannel : ChannelId
  destinationPort : PortId
  destinationChannel : ChannelId
  data : Bytes
  timeoutHeight : TimeoutHeight
  timeoutTimestamp : Timestamp
  deriving DecidableEq

/-- `core::packets::types::PacketInfo`. -/
structure PacketInfo where
  height : ℕ
  sequence : ℕ
  sourcePort : String
  sourceChannel : String
  destinationPort : String
  destinationChannel : String
  channelOrder : String
  data : Bytes
  timeoutHeight : RawHeight
  timeoutTimestamp : ℕ
  ack : Option Bytes
  deriving DecidableEq

/-! ### Light blocks and headers -/

/-- `tendermint::validator::Set`: addresses with their voting power. -/
abbrev ValidatorSet := List (String × ℕ)

/-- The fields of a signed header that the relayer reads. -/
structure SignedHeader where
  height : ℕ
  time : Time

/-- `tendermint_light_client_verifier::types::LightBlock`. -/
structure LightBlock where
  signedHeader : SignedHeader
  validators : ValidatorSet
  nextValidators : ValidatorSet

/-- `ics07_tendermint::header::Header`. -/
structure Header where
  signedHeader : SignedHeader
  validatorSet : ValidatorSet
  trustedHeight : Height
  trustedValidatorSet : ValidatorSet

/-! ### Messages -/

/-- `proofs::ConsensusProof`. -/
structure ConsensusProof where
  proof : CommitmentProofBytes
  height : Height

/-- `proofs::Proofs`; `Proofs::new` only collects its arguments. -/
structure Proofs where
  objectProof : CommitmentProofBytes
  clientProof : Option CommitmentProofBytes
  consensusProof : Option ConsensusProof
  otherProof : Option CommitmentProofBytes
  height : Height

structure MsgUpdateClient where
  clientId : ClientId
  header : Header
  signer : Signer

structure MsgConnectionOpenTry where
  previousConnectionId : Option ConnectionId
  clientId : ClientId
  clientState : Option ClientState
  counterparty : ConnCounterparty
  counterpartyVersions : List ConnVersion
  proofs : Proofs
  delayPeriod : Duration
  signer : Signer

structure MsgConnectionOpenAck where
  connectionId : ConnectionId
  counterpartyConnectionId : ConnectionId
  clientState : Option ClientState
  proofs : Proofs
  version : ConnVersion
  signer : Signer

structure MsgConnectionOpenConfirm where
  connectionId : ConnectionId
  proofs : Proofs
  signer : Signer

structure MsgChannelOpenTry where
  portId : PortId
  previousChannelId : Option ChannelId
  channel : ChannelEnd
  counterpartyVersion : String
  proofs : Proofs
  signer : Signer

structure MsgChannelOpenAck where
  portId : PortId
  channelId : ChannelId
  counterpartyChannelId : ChannelId
  counterpartyVersion : String
  proofs : Proofs
  signer : Signer

/-- `MsgChannelOpenConfirm` and `MsgChannelCloseConfirm` have the same fields. -/
structure MsgChannelConfirm where
  portId : PortId
  channelId : ChannelId
  proofs : Proofs
  signer : Signer

structure MsgRecvPacket where
  packet : Packet
  proofs : Proofs
  signer : Signer

structure MsgAcknowledgement where
  packet : Packet
  acknowledgement : Bytes
  proofs : Proofs
  signer : Signer

/-- `MsgTimeout` and `MsgTimeoutOnClose` have the same fields. -/
structure MsgTimeout where
  packet : Packet
  nextSequenceRecv : ℕ
  proofs : Proofs
  signer : Signer

/-- The messages the relayer submits. -/
inductive Msg where
  | updateClient (m : MsgUpdateClient)
  | connectionOpenTry (m : MsgConnectionOpenTry)
  | connectionOpenAck (m : MsgConnectionOpenAck)
  | connectionOpenConfirm (m : MsgConnectionOpenConfirm)
  | channelOpenTry (m : MsgChannelOpenTry)
  | channelOpenAck (m : MsgChannelOpenAck)
  | channelOpenConfirm (m : MsgChannelConfirm)
  | channelCloseConfirm (m : MsgChannelConfirm)
  | recvPacket (m : MsgRecvPacket)
  | acknowledgement (m : MsgAcknowledgement)
  | timeout (m : MsgTimeout)
  | timeoutOnClose (m : MsgTimeout)

namespace Msg

/-- `Msg::type_url`. -/
def typeUrl : Msg → String
  | updateClient _ => "/ibc.core.client.v1.MsgUpdateClient"
  | connectionOpenTry _ => "/ibc.core.connection.v1.MsgConnectionOpenTry"
  | connectionOpenAck _ => "/ibc.core.connection.v1.MsgConnectionOpenAck"
  | connectionOpenConfirm _ => "/ibc.core.connection.v1.MsgConnectionOpenConfirm"
  | channelOpenTry _ => "/ibc.core.channel.v1.MsgChannelOpenTry"
  | channelOpenAck _ => "/ibc.core.channel.v1.MsgChannelOpenAck"
  | channelOpenConfirm _ => "/ibc.core.channel.v1.MsgChannelOpenConfirm"
  | channelCloseConfirm _ => "/ibc.core.channel.v1.MsgChannelCloseConfirm"
  | recvPacket _ => "/ibc.core.channel.v1.MsgRecvPacket"
  | acknowledgement _ => "/ibc.core.channel.v1.MsgAcknowledgement"
  | timeout _ => "/ibc.core.channel.v1.MsgTimeout"
  | timeoutOnClose _ => "/ibc.core.channel.v1.MsgTimeoutOnClose"

/-- The proofs of a message; a client update carries a header instead. -/
def proofs : Msg → Option Proofs
  | updateClient _ => none
  | connectionOpenTry m => some m.proofs
  | connectionOpenAck m => some m.proofs
  | connectionOpenConfirm m => some m.proofs
  | channelOpenTry m => some m.proofs
  | channelOpenAck m => some m.proofs
  | channelOpenConfirm m => some m.proofs
  | channelCloseConfirm m => some m.proofs
  | recvPacket m => some m.proofs
  | acknowledgement m => some m.proofs
  | timeout m => some m.proofs
  | timeoutOnClose m => some m.proofs

/-- The height at which the proofs of a message verify. -/
def proofHeight (m : Msg) : Option Height := m.proofs.map Proofs.height

end Msg

/-! ### Events -/

/-- `ics02_client::events::Attributes`. -/
structure ClientAttributes where
  clientId : ClientId
  clientType : String
  consensusHeight : Height
  deriving DecidableEq

/-- `ics03_connection::events::Attributes`. -/
structure ConnectionAttributes where
  connectionId : Option ConnectionId
  clientId : ClientId
  counterpartyConnectionId : Option ConnectionId
  counterpartyClientId : ClientId
  deriving DecidableEq

/-- `ics04_channel::events::Attributes`, the fields of the channel events. -/
structure ChannelAttributes where
  portId : PortId
  channelId : Option ChannelId
  connectionId : ConnectionId
  counterpartyPortId : PortId
  counterpartyChannelId : Option ChannelId
  deriving DecidableEq

/-- `ics04_channel::events::CloseInit`, whose channel id is not optional. -/
structure CloseInitAttributes where
  portId : PortId
  channelId : ChannelId
  connectionId : ConnectionId
  counterpartyPortId : PortId
  counterpartyChannelId : Option ChannelId
  deriving DecidableEq

/-- `events::IbcEvent`, without the variants of other modules that nothing here
builds. -/
inductive IbcEvent where
  | newBlock (height : Height)
  | createClient (attributes : ClientAttributes)
  | updateClient (attributes : ClientAttributes) (header : Option Bytes)
  | upgradeClient (attributes : ClientAttributes)
  | clientMisbehaviour (attributes : ClientAttributes)
  | openInitConnection (attributes : ConnectionAttributes)
  | openTryConnection (attributes : ConnectionAttributes)
  | openAckConnection (attributes : ConnectionAttributes)
  | openConfirmConnection (attributes : ConnectionAttributes)
  | openInitChannel (attributes : ChannelAttributes)
  | openTryChannel (attributes : ChannelAttributes)
  | openAckChannel (attributes : ChannelAttributes)
  | openConfirmChannel (attributes : ChannelAttributes)
  | closeInitChannel (attributes : CloseInitAttributes)
  | closeConfirmChannel (attributes : ChannelAttributes)
  | sendPacket (packet : Packet)
  | receivePacket (packet : Packet)
  | writeAcknowledgement (packet : Packet) (ack : Bytes)
  | acknowledgePacket (packet : Packet)
  | timeoutPacket (packet : Packet)
  | timeoutOnClosePacket (packet : Packet)
  deriving DecidableEq

/-- `events::IbcEventType`. -/
inductive IbcEventType where
  | newBlock
  | createClient
  | updateClient
  | upgradeClient
  | clientMisbehaviour
  | openInitConnection
  | openTryConnection
  | openAckConnection
  | openConfirmConnection
  | openInitChannel
  | openTryChannel
  | openAckChannel
  | openConfirmChannel
  | closeInitChannel
  | closeConfirmChannel
  | sendPacket
  | receivePacket
  | writeAck
  | ackPacket
  | timeout
  | timeoutOnClose

/-- `IbcEvent::event_type`. -/
def IbcEvent.eventType : IbcEvent → IbcEventType
  | newBlock _ => .newBlock
  | createClient _ => .createClient
  | updateClient _ _ => .updateClient
  | upgradeClient _ => .upgradeClient
  | clientMisbehaviour _ => .clientMisbehaviour
  | openInitConnection _ => .openInitConnection
  | openTryConnection _ => .openTryConnection
  | openAckConnection _ => .openAckConnection
  | openConfirmConnection _ => .openConfirmConnection
  | openInitChannel _ => .openInitChannel
  | openTryChannel _ => .openTryChannel
  | openAckChannel _ => .openAckChannel
  | openConfirmChannel _ => .openConfirmChannel
  | closeInitChannel _ => .closeInitChannel
  | closeConfirmChannel _ => .closeConfirmChannel
  | sendPacket _ => .sendPacket
  | receivePacket _ => .receivePacket
  | writeAcknowledgement _ _ => .writeAck
  | acknowledgePacket _ => .ackPacket
  | timeoutPacket _ => .timeout
  | timeoutOnClosePacket _ => .timeoutOnClose

/-- Where in its block an event stands: the transaction and the event within
it.  Not a field of the source's struct: the scan knows it, nothing reads it,
and it is what tells two equal events of one block apart. -/
structure EventPos where
  tx : ℕ
  index : ℕ
  deriving DecidableEq

/-- `cosmos::events::IbcEventWithHeight`, with the position of the event. -/
structure IbcEventWithHeight where
  event : IbcEvent
  height : Height
  pos : EventPos
  deriving DecidableEq

/-- What identifies an event of a chain: its block, its transaction and its index. -/
def IbcEventWithHeight.place (ev : IbcEventWithHeight) : ℕ × EventPos :=
  (ev.height.revisionHeight, ev.pos)

/-- `google::protobuf::Any`, with the message that `value` encodes and the event
the message was built from; nothing reads the last two. -/
structure Any where
  typeUrl : String
  value : Bytes
  msg : Msg
  origin : Option IbcEventWithHeight

/-! ### What the crates compute -/

/-- `ics02_client::height::HeightErrorDetail`, as far as it is looked at. -/
inductive HeightErrorDetail where
  | zeroHeight
  | other
  deriving DecidableEq

/-- Functions of `ibc-relayer-types`, `prost`, `tendermint` and `k256` that the
relayer calls and the repository does not contain. -/
class Crates where
  /-- `validate_port_identifier` and its siblings, on a text without a separator. -/
  validIdentifier : IdKind → String → Bool
  /-- `Protobuf::encode_vec`. -/
  encodeVec : Msg → Except String Bytes
  /-- `Packet::timed_out`. -/
  timedOut : Packet → Timestamp → Height → Bool
  /-- `ChainId::chain_version`. -/
  chainVersion : String → ℕ
  /-- `FromStr for Height`; `none` is a panic. -/
  heightFromStr : String → Option (Except HeightErrorDetail Height)
  /-- `FromStr for ClientType` succeeds. -/
  isClientType : String → Bool
  /-- `ics07_tendermint::header::decode_header`; the header is kept as bytes. -/
  decodeHeader : Bytes → Except String Bytes
  /-- `convert_tm_to_ics_merkle_proof`; both proofs are kept as bytes. -/
  convertProof : Bytes → Except String Bytes
  /-- `SigningKey::from_bytes` and `sign`: the signature of a document. -/
  sign : (privateKey document : Bytes) → Except String Bytes

/-- `Packet::timed_out` as the crate documents it: the destination has passed the
timeout height or the timeout timestamp. -/
def Packet.timedOut (packet : Packet) (timestamp : Timestamp) (height : Height) : Bool :=
  (match packet.timeoutHeight with
    | .never => false
    | .atHeight h => decide (h < height)) ||
  timestamp.after packet.timeoutTimestamp

/-- `FromStr for Height` as the crate has it: split at `-`, parse the first part, index the
second one, which panics where there is none, and parse that. -/
def heightOfText (s : String) : Option (Except HeightErrorDetail Height) :=
  match s.toList.splitOn '-' with
  | [] => none
  | first :: rest =>
      match parseU64 (String.ofList first), rest with
      | none, _ => some (.error .other)
      | some _, [] => none
      | some revisionNumber, second :: _ =>
          match parseU64 (String.ofList second) with
          | none => some (.error .other)
          | some revisionHeight =>
              match Height.new revisionNumber revisionHeight with
              | some h => some (.ok h)
              | none => some (.error .zeroHeight)

/-- Crate functions to run examples with: identifiers are those of ICS-24, the bytes of an
encoding stand for it, a chain id has no revision number, and a signature is 64 zero bytes. -/
@[reducible] def Crates.reference : Crates where
  validIdentifier := ics24Identifier
  encodeVec m := .ok (utf8 m.typeUrl)
  timedOut := Packet.timedOut
  chainVersion _ := 0
  heightFromStr := heightOfText
  isClientType s := s == "07-tendermint"
  decodeHeader b := .ok b
  convertProof b := .ok b
  sign _ _ := .ok (List.replicate 64 0)

namespace Ident

variable [Crates] {k : IdKind}

/-- `FromStr` of the four identifier types.  It is irreducible so that no unification runs a
whole example on texts. -/
@[irreducible] def parse (k : IdKind) (s : String) : Option (Ident k) :=
  if h : '/' ∉ s.toList then
    if Crates.validIdentifier k s then some ⟨s, h⟩ else none
  else none

/-- The crate accepts the identifier, as it does every one that it makes. -/
def Valid (a : Ident k) : Prop := Crates.validIdentifier k a.text = true

instance (a : Ident k) : Decidable a.Valid :=
  inferInstanceAs (Decidable (Crates.validIdentifier k a.text = true))

/-- An identifier is the text that was parsed. -/
theorem parse_text {s : String} {a : Ident k} (h : parse k s = some a) : a.text = s := by
  unfold parse at h
  split_ifs at h
  exact (Option.some.inj h) ▸ rfl

/-- A valid identifier is what its text is parsed to. -/
theorem Valid.parse_text {a : Ident k} (h : a.Valid) : parse k a.text = some a := by
  rw [parse, dif_pos a.slash_notMem]
  exact if_pos h

end Ident

/-- `msg.encode_vec()` and `Any { value, type_url }`, with the text put before
an encoding error. -/
def Msg.toAny {S : Sig} [Crates] (m : Msg) (context : String)
    (origin : Option IbcEventWithHeight) : Prog S Error Any :=
  match Crates.encodeVec m with
  | .ok value => pure { typeUrl := m.typeUrl, value, msg := m, origin }
  | .error e => .fail (.custom (context ++ e))

/-- The encoded message remembers the message, and the event it is for. -/
theorem Msg.toAny_returns {S : Sig} [Crates] {A : (o : S.Op) → Except Error (S.Res o) → Prop}
    {m : Msg} {context : String} {origin : Option IbcEventWithHeight} {a : Any}
    (h : (m.toAny context origin : Prog S Error Any).Leaf A (.ok a)) :
    a.msg = m ∧ a.origin = origin := by
  unfold toAny at h
  split at h
  · simp only [Prog.leaf_pure, Outcome.ok.injEq] at h
    exact h ▸ ⟨rfl, rfl⟩
  · cases h

/-- Encoding asks for nothing. -/
theorem Msg.toAny_asks {S : Sig} [Crates] {A : (o : S.Op) → Except Error (S.Res o) → Prop}
    {C : S.Op → Prop} {m : Msg} {context : String} {origin : Option IbcEventWithHeight} :
    (m.toAny context origin : Prog S Error Any).Asks A C := by
  unfold toAny
  split <;> trivial

end HyperspaceLight
