/-
# Decoding ABCI events

`src/cosmos/events.rs`: `ibc_event_try_from_abci_event`, which turns an event of a
transaction into an IBC event.  An ABCI event is a kind and a list of attributes;
each extractor starts from default values and lets every attribute it knows
overwrite one field, so that the last attribute of a key wins and a missing one
leaves the default.

The decoder asks nobody, and it can panic: where a timeout timestamp is no
number, where the crate's parser for heights does, and where a packet event that
should have no acknowledgement has one (a `debug_assert_eq!`).
-/

import HyperspaceLight.RelayerTypes.Messages

namespace HyperspaceLight

open Interaction

/-- `tendermint::abci::Event`; an attribute is its key and its value. -/
structure AbciEvent where
  kind : String
  attributes : List (String × String)
  deriving DecidableEq

/-- A computation of the decoder. -/
abbrev Decode (α : Type) := Prog Sig.none Error α

/-! ### Values of attributes -/

/-- The value of a hexadecimal digit. -/
def hexValue (c : Char) : Option ℕ :=
  if c.isDigit then some (c.toNat - '0'.toNat)
  else if 'a' ≤ c ∧ c ≤ 'f' then some (c.toNat - 'a'.toNat + 10)
  else if 'A' ≤ c ∧ c ≤ 'F' then some (c.toNat - 'A'.toNat + 10)
  else none

/-- `hex::decode`, on the characters. -/
def hexDecode : List Char → Option Bytes
  | [] => some []
  | [_] => none
  | c :: d :: cs => do
      let high ← hexValue c
      let low ← hexValue d
      let rest ← hexDecode cs
      return UInt8.ofNat (high * 16 + low) :: rest

variable [Crates]

/-- `value.parse().map_err(..)?` of an identifier. -/
def parseIdent (k : IdKind) (value : String) : Decode (Ident k) :=
  .okOr (.external "invalid identifier") (Ident.parse k value)

/-! ### Default values -/

def defaultPort : PortId := ⟨"defaultPort", by decide⟩

def defaultChannel : ChannelId := ⟨"channel-0", by decide⟩

def defaultConnection : ConnectionId := ⟨"connection-0", by decide⟩

def defaultClient : ClientId := ⟨"07-tendermint-0", by decide⟩

/-- `ClientAttributes::default`. -/
def ClientAttributes.default : ClientAttributes where
  clientId := defaultClient
  clientType := "07-tendermint"
  consensusHeight := ⟨0, 1, Nat.one_pos⟩

/-- `ConnectionAttributes::default`. -/
def ConnectionAttributes.default : ConnectionAttributes where
  connectionId := none
  clientId := defaultClient
  counterpartyConnectionId := none
  counterpartyClientId := defaultClient

/-- `ChannelAttributes::default`. -/
def ChannelAttributes.default : ChannelAttributes where
  portId := defaultPort
  channelId := none
  connectionId := defaultConnection
  counterpartyPortId := defaultPort
  counterpartyChannelId := none

/-- `Packet::default`. -/
def Packet.default : Packet where
  sequence := 0
  sourcePort := defaultPort
  sourceChannel := defaultChannel
  destinationPort := defaultPort
  destinationChannel := defaultChannel
  data := []
  timeoutHeight := .never
  timeoutTimestamp := ⟨none⟩

/-! ### Extractors -/

/-- `value.parse::<Height>()`; a panic of the crate's parser is one of the decoder. -/
def parseHeight (value : String) : Decode (Except HeightErrorDetail Height) :=
  .expect "index out of bounds: the len is 1 but the index is 1" (Crates.heightFromStr value)

/-- `client_extract_attributes_from_tx`. -/
def clientExtractAttributesFromTx (event : AbciEvent) : Decode ClientAttributes :=
  event.attributes.foldlM (fun attr (key, value) => match key with
    | "client_id" => return { attr with clientId := ← parseIdent .client value }
    | "client_type" =>
        if Crates.isClientType value then return { attr with clientType := value }
        else .fail (.external "unknown client type")
    | "consensus_height" => do
        match ← parseHeight value with
        | .ok h => return { attr with consensusHeight := h }
        | .error _ => .fail (.external "invalid height")
    | _ => return attr) ClientAttributes.default

/-- `decode_header`. -/
def decodeHeader (headerBytes : Bytes) : Decode Bytes :=
  match Crates.decodeHeader headerBytes with
  | .ok header => return header
  | .error e => .fail (.external e)

/-- `extract_header_from_tx`: the first attribute with the key decides. -/
def extractHeaderFromTx (event : AbciEvent) : Decode Bytes :=
  match event.attributes.find? fun tag => tag.1 == "header" with
  | none => .fail (.external "missing raw header")
  | some (_, value) => do
      let headerBytes ← .okOr (.external "malformed header") (hexDecode value.toList)
      decodeHeader headerBytes

/-- `connection_extract_attributes_from_tx`. -/
def connectionExtractAttributesFromTx (event : AbciEvent) : Decode ConnectionAttributes :=
  event.attributes.foldlM (fun attr (key, value) => match key with
    | "connection_id" => return { attr with connectionId := Ident.parse .connection value }
    | "client_id" => return { attr with clientId := ← parseIdent .client value }
    | "counterparty_connection_id" =>
        return { attr with counterpartyConnectionId := Ident.parse .connection value }
    | "counterparty_client_id" =>
        return { attr with counterpartyClientId := ← parseIdent .client value }
    | _ => return attr) ConnectionAttributes.default

/-- `channel_extract_attributes_from_tx`. -/
def channelExtractAttributesFromTx (event : AbciEvent) : Decode ChannelAttributes :=
  event.attributes.foldlM (fun attr (key, value) => match key with
    | "port_id" => return { attr with portId := ← parseIdent .port value }
    | "channel_id" => return { attr with channelId := Ident.parse .channel value }
    | "connection_id" => return { attr with connectionId := ← parseIdent .connection value }
    | "counterparty_port_id" => return { attr with counterpartyPortId := ← parseIdent .port value }
    | "counterparty_channel_id" =>
        return { attr with counterpartyChannelId := Ident.parse .channel value }
    | _ => return attr) ChannelAttributes.default

/-- `parse_timeout_height`: a zero revision height is no timeout. -/
def parseTimeoutHeight (s : String) : Decode TimeoutHeight := do
  match ← parseHeight s with
  | .ok height => return .atHeight height
  | .error .zeroHeight => return .never
  | .error .other => .fail (.external "invalid timeout height")

/-- `extract_packet_and_write_ack_from_tx`. -/
def extractPacketAndWriteAckFromTx (event : AbciEvent) : Decode (Packet × Bytes) :=
  event.attributes.foldlM (fun (packet, writeAck) (key, value) => match key with
    | "packet_src_port" =>
        return ({ packet with sourcePort := ← parseIdent .port value }, writeAck)
    | "packet_src_channel" =>
        return ({ packet with sourceChannel := ← parseIdent .channel value }, writeAck)
    | "packet_dst_port" =>
        return ({ packet with destinationPort := ← parseIdent .port value }, writeAck)
    | "packet_dst_channel" =>
        return ({ packet with destinationChannel := ← parseIdent .channel value }, writeAck)
    | "packet_sequence" => do
        let sequence ← .okOr (.external "invalid sequence") (parseU64 value)
        return ({ packet with sequence }, writeAck)
    | "packet_timeout_height" =>
        return ({ packet with timeoutHeight := ← parseTimeoutHeight value }, writeAck)
    | "packet_timeout_timestamp" => do
        let nanoseconds ← .expect "called `Result::unwrap()` on an `Err` value" (parseU64 value)
        return ({ packet with timeoutTimestamp := .fromNanoseconds nanoseconds }, writeAck)
    | "packet_data" => return ({ packet with data := utf8 value }, writeAck)
    | "packet_ack" => return (packet, utf8 value)
    | _ => return (packet, writeAck)) (Packet.default, [])

/-! ### Events -/

/-- `create_client_try_from_abci_event` and its two siblings. -/
def createClientTryFromAbciEvent (event : AbciEvent) : Decode IbcEvent :=
  .createClient <$> clientExtractAttributesFromTx event

def upgradeClientTryFromAbciEvent (event : AbciEvent) : Decode IbcEvent :=
  .upgradeClient <$> clientExtractAttributesFromTx event

def clientMisbehaviourTryFromAbciEvent (event : AbciEvent) : Decode IbcEvent :=
  .clientMisbehaviour <$> clientExtractAttributesFromTx event

/-- `update_client_try_from_abci_event`: a header that does not decode is left out. -/
def updateClientTryFromAbciEvent (event : AbciEvent) : Decode IbcEvent := do
  let attributes ← clientExtractAttributesFromTx event
  let header ← (extractHeaderFromTx event).attempt
  return .updateClient attributes header.toOption

/-- `connection_open_init_try_from_abci_event` and its three siblings. -/
def connectionOpenInitTryFromAbciEvent (event : AbciEvent) : Decode IbcEvent :=
  .openInitConnection <$> connectionExtractAttributesFromTx event

def connectionOpenTryTryFromAbciEvent (event : AbciEvent) : Decode IbcEvent :=
  .openTryConnection <$> connectionExtractAttributesFromTx event

def connectionOpenAckTryFromAbciEvent (event : AbciEvent) : Decode IbcEvent :=
  .openAckConnection <$> connectionExtractAttributesFromTx event

def connectionOpenConfirmTryFromAbciEvent (event : AbciEvent) : Decode IbcEvent :=
  .openConfirmConnection <$> connectionExtractAttributesFromTx event

/-- `channel_open_init_try_from_abci_event` and its siblings: the conversion from
the attributes always succeeds. -/
def channelOpenInitTryFromAbciEvent (event : AbciEvent) : Decode IbcEvent :=
  .openInitChannel <$> channelExtractAttributesFromTx event

def channelOpenTryTryFromAbciEvent (event : AbciEvent) : Decode IbcEvent :=
  .openTryChannel <$> channelExtractAttributesFromTx event

def channelOpenAckTryFromAbciEvent (event : AbciEvent) : Decode IbcEvent :=
  .openAckChannel <$> channelExtractAttributesFromTx event

def channelOpenConfirmTryFromAbciEvent (event : AbciEvent) : Decode IbcEvent :=
  .openConfirmChannel <$> channelExtractAttributesFromTx event

def channelCloseConfirmTryFromAbciEvent (event : AbciEvent) : Decode IbcEvent :=
  .closeConfirmChannel <$> channelExtractAttributesFromTx event

/-- `channel_close_init_try_from_abci_event`: a close needs its channel id. -/
def channelCloseInitTryFromAbciEvent (event : AbciEvent) : Decode IbcEvent := do
  let attr ← channelExtractAttributesFromTx event
  let channelId ← .okOr (.external "implementation specific") attr.channelId
  return .closeInitChannel {
    portId := attr.portId
    channelId
    connectionId := attr.connectionId
    counterpartyPortId := attr.counterpartyPortId
    counterpartyChannelId := attr.counterpartyChannelId }

/-- A packet event that should not have a write ack. -/
def packetTryFromAbciEvent (event : AbciEvent) : Decode Packet := do
  let (packet, writeAck) ← extractPacketAndWriteAckFromTx event
  if writeAck.length = 0 then return packet
  else .panic "assertion `left == right` failed"

/-- `send_packet_try_from_abci_event`. -/
def sendPacketTryFromAbciEvent (event : AbciEvent) : Decode IbcEvent :=
  .sendPacket <$> packetTryFromAbciEvent event

/-- `write_acknowledgement_try_from_abci_event`. -/
def writeAcknowledgementTryFromAbciEvent (event : AbciEvent) : Decode IbcEvent := do
  let (packet, writeAck) ← extractPacketAndWriteAckFromTx event
  return .writeAcknowledgement packet writeAck

/-- `acknowledge_packet_try_from_abci_event`. -/
def acknowledgePacketTryFromAbciEvent (event : AbciEvent) : Decode IbcEvent :=
  .acknowledgePacket <$> packetTryFromAbciEvent event

/-- `timeout_packet_try_from_abci_event`. -/
def timeoutPacketTryFromAbciEvent (event : AbciEvent) : Decode IbcEvent :=
  .timeoutPacket <$> packetTryFromAbciEvent event

/-- `ibc_event_try_from_abci_event`. -/
def ibcEventTryFromAbciEvent (event : AbciEvent) : Decode IbcEvent :=
  match event.kind with
  | "create_client" => createClientTryFromAbciEvent event
  | "update_client" => updateClientTryFromAbciEvent event
  | "upgrade_client" => upgradeClientTryFromAbciEvent event
  | "client_misbehaviour" => clientMisbehaviourTryFromAbciEvent event
  | "connection_open_init" => connectionOpenInitTryFromAbciEvent event
  | "connection_open_try" => connectionOpenTryTryFromAbciEvent event
  | "connection_open_ack" => connectionOpenAckTryFromAbciEvent event
  | "connection_open_confirm" => connectionOpenConfirmTryFromAbciEvent event
  | "channel_open_init" => channelOpenInitTryFromAbciEvent event
  | "channel_open_try" => channelOpenTryTryFromAbciEvent event
  | "channel_open_ack" => channelOpenAckTryFromAbciEvent event
  | "channel_open_confirm" => channelOpenConfirmTryFromAbciEvent event
  | "channel_close_init" => channelCloseInitTryFromAbciEvent event
  | "channel_close_confirm" => channelCloseConfirmTryFromAbciEvent event
  | "send_packet" => sendPacketTryFromAbciEvent event
  | "write_acknowledgement" => writeAcknowledgementTryFromAbciEvent event
  | "acknowledge_packet" => acknowledgePacketTryFromAbciEvent event
  | "timeout_packet" => timeoutPacketTryFromAbciEvent event
  | _ => .fail (.external "unsupported abci event")

end HyperspaceLight
