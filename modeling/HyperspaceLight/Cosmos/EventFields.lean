/-
# What the decoder reads of an event

`src/cosmos/events.rs`, as a function of the values under each key.  The four
extractors are readers in which the last value of a key counts
(`HyperspaceLight.Wire.Attributes`), so an event decodes exactly if every value
under a key that is checked passes its check, and then each field is what the
last value under its key says, or the default (`ibcEventTryFromAbciEvent_iff`).
The header of a client update alone is taken from the first value, and is left
out where it does not decode.

An acknowledgement belongs to a `write_acknowledgement` only.  On the other packet
events a build with debug assertions accepts none but the empty one, and a release
build reads past it (`ibcEventTryFromAbciEventRelease`).
-/

import HyperspaceLight.Cosmos.PacketFields
import HyperspaceLight.Wire.Attributes

namespace HyperspaceLight

open Interaction

variable [Crates]

/-! ### The extractors -/

/-- The attributes of a connection under the last values.  An end that is not open yet has no
connection id: a value that is no identifier is none. -/
def ConnectionAttributes.ofLast (last : String → Option String) : ConnectionAttributes where
  connectionId := (last "connection_id").bind (Ident.parse .connection)
  clientId := ((last "client_id").bind (Ident.parse .client)).getD defaultClient
  counterpartyConnectionId :=
    (last "counterparty_connection_id").bind (Ident.parse .connection)
  counterpartyClientId :=
    ((last "counterparty_client_id").bind (Ident.parse .client)).getD defaultClient

/-- The checks of the connection extractor. -/
def ConnectionAttributes.Accepts (key value : String) : Prop :=
  (key = "client_id" → (Ident.parse .client value).isSome) ∧
    (key = "counterparty_client_id" → (Ident.parse .client value).isSome)

/-- The values under each key pass their checks, and the last ones are the fields. -/
def ConnectionAttributes.Says (values : String → List String) (attr : ConnectionAttributes) :
    Prop :=
  (∀ k, ∀ v ∈ values k, ConnectionAttributes.Accepts k v) ∧
    ConnectionAttributes.ofLast (fun k => (values k).getLast?) = attr

/-- **What is read of a connection event.** -/
theorem connectionExtractAttributesFromTx_iff {event : AbciEvent} {attr : ConnectionAttributes} :
    (connectionExtractAttributesFromTx event).Returns attr ↔
      attr.Says (Wire.valuesAt event.attributes) := by
  refine Wire.Overwrites.returns_iff ConnectionAttributes.ofLast ?_ event.attributes attr
  rintro last ⟨key, value⟩ s
  unfold Prog.Returns
  simp only [ConnectionAttributes.Accepts]
  split
  · simp [ConnectionAttributes.ofLast]
  · cases h : Ident.parse .client value <;> simp [parseIdent, ConnectionAttributes.ofLast, h]
  · simp [ConnectionAttributes.ofLast]
  · cases h : Ident.parse .client value <;> simp [parseIdent, ConnectionAttributes.ofLast, h]
  · rename_i hconn hclient hcounterConn hcounterClient
    rw [imp_false] at hconn hclient hcounterConn hcounterClient
    simp [ConnectionAttributes.ofLast, hclient, hcounterClient, Ne.symm hconn, Ne.symm hclient,
      Ne.symm hcounterConn, Ne.symm hcounterClient]

/-- The attributes of a channel under the last values. -/
def ChannelAttributes.ofLast (last : String → Option String) : ChannelAttributes where
  portId := ((last "port_id").bind (Ident.parse .port)).getD defaultPort
  channelId := (last "channel_id").bind (Ident.parse .channel)
  connectionId := ((last "connection_id").bind (Ident.parse .connection)).getD defaultConnection
  counterpartyPortId :=
    ((last "counterparty_port_id").bind (Ident.parse .port)).getD defaultPort
  counterpartyChannelId := (last "counterparty_channel_id").bind (Ident.parse .channel)

/-- The checks of the channel extractor. -/
def ChannelAttributes.Accepts (key value : String) : Prop :=
  (key = "port_id" → (Ident.parse .port value).isSome) ∧
    (key = "connection_id" → (Ident.parse .connection value).isSome) ∧
    (key = "counterparty_port_id" → (Ident.parse .port value).isSome)

/-- The values under each key pass their checks, and the last ones are the fields. -/
def ChannelAttributes.Says (values : String → List String) (attr : ChannelAttributes) : Prop :=
  (∀ k, ∀ v ∈ values k, ChannelAttributes.Accepts k v) ∧
    ChannelAttributes.ofLast (fun k => (values k).getLast?) = attr

/-- **What is read of a channel event.** -/
theorem channelExtractAttributesFromTx_iff {event : AbciEvent} {attr : ChannelAttributes} :
    (channelExtractAttributesFromTx event).Returns attr ↔
      attr.Says (Wire.valuesAt event.attributes) := by
  refine Wire.Overwrites.returns_iff ChannelAttributes.ofLast ?_ event.attributes attr
  rintro last ⟨key, value⟩ s
  unfold Prog.Returns
  simp only [ChannelAttributes.Accepts]
  split
  · cases h : Ident.parse .port value <;> simp [parseIdent, ChannelAttributes.ofLast, h]
  · simp [ChannelAttributes.ofLast]
  · cases h : Ident.parse .connection value <;> simp [parseIdent, ChannelAttributes.ofLast, h]
  · cases h : Ident.parse .port value <;> simp [parseIdent, ChannelAttributes.ofLast, h]
  · simp [ChannelAttributes.ofLast]
  · rename_i hport hchannel hconn hcounterPort hcounterChannel
    rw [imp_false] at hport hchannel hconn hcounterPort hcounterChannel
    simp [ChannelAttributes.ofLast, hport, hconn, hcounterPort, Ne.symm hport, Ne.symm hchannel,
      Ne.symm hconn, Ne.symm hcounterPort, Ne.symm hcounterChannel]

/-- A close is read as a channel event that has a channel id. -/
theorem channelCloseInitTryFromAbciEvent_iff {event : AbciEvent} {a : CloseInitAttributes} :
    (channelCloseInitTryFromAbciEvent event).Returns (.closeInitChannel a) ↔
      ChannelAttributes.Says (Wire.valuesAt event.attributes) ⟨a.portId, some a.channelId,
        a.connectionId, a.counterpartyPortId, a.counterpartyChannelId⟩ := by
  rw [← channelExtractAttributesFromTx_iff]
  unfold channelCloseInitTryFromAbciEvent Prog.Returns
  simp only [Prog.leaf_bind_ok, Prog.leaf_okOr_ok, Prog.leaf_pure, Outcome.ok.injEq,
    IbcEvent.closeInitChannel.injEq]
  constructor
  · rintro ⟨attr, hattr, channelId, hchannel, rfl⟩
    rw [← hchannel]
    exact hattr
  · intro h
    exact ⟨_, h, _, rfl, rfl⟩

/-- It decodes to a close only. -/
theorem channelCloseInitTryFromAbciEvent_closes {event : AbciEvent} {e : IbcEvent}
    (h : (channelCloseInitTryFromAbciEvent event).Returns e) : ∃ a, e = .closeInitChannel a := by
  unfold channelCloseInitTryFromAbciEvent Prog.Returns at h
  simp only [Prog.leaf_bind_ok, Prog.leaf_pure, Outcome.ok.injEq] at h
  obtain ⟨_, _, _, _, rfl⟩ := h
  exact ⟨_, rfl⟩

/-- The height of a text, by the crate's parser. -/
def heightOf (s : String) : Option Height :=
  match Crates.heightFromStr s with
  | some (.ok height) => some height
  | some (.error _) | none => none

/-- The attributes of a client under the last values. -/
def ClientAttributes.ofLast (last : String → Option String) : ClientAttributes where
  clientId := ((last "client_id").bind (Ident.parse .client)).getD defaultClient
  clientType := (last "client_type").getD ClientAttributes.default.clientType
  consensusHeight :=
    ((last "consensus_height").bind heightOf).getD ClientAttributes.default.consensusHeight

/-- The checks of the client extractor. -/
def ClientAttributes.Accepts (key value : String) : Prop :=
  (key = "client_id" → (Ident.parse .client value).isSome) ∧
    (key = "client_type" → Crates.isClientType value) ∧
    (key = "consensus_height" → (heightOf value).isSome)

/-- The values under each key pass their checks, and the last ones are the fields. -/
def ClientAttributes.Says (values : String → List String) (attr : ClientAttributes) : Prop :=
  (∀ k, ∀ v ∈ values k, ClientAttributes.Accepts k v) ∧
    ClientAttributes.ofLast (fun k => (values k).getLast?) = attr

/-- **What is read of a client event.** -/
theorem clientExtractAttributesFromTx_iff {event : AbciEvent} {attr : ClientAttributes} :
    (clientExtractAttributesFromTx event).Returns attr ↔
      attr.Says (Wire.valuesAt event.attributes) := by
  refine Wire.Overwrites.returns_iff ClientAttributes.ofLast ?_ event.attributes attr
  rintro last ⟨key, value⟩ s
  unfold Prog.Returns
  simp only [ClientAttributes.Accepts]
  split
  · cases h : Ident.parse .client value <;> simp [parseIdent, ClientAttributes.ofLast, h]
  · split_ifs with h <;> simp [ClientAttributes.ofLast, h]
  · rcases h : Crates.heightFromStr value with _ | (_ | height) <;>
      simp [parseHeight, heightOf, ClientAttributes.ofLast, h]
  · rename_i hid htype hheight
    rw [imp_false] at hid htype hheight
    simp [ClientAttributes.ofLast, hid, htype, hheight, Ne.symm hid, Ne.symm htype,
      Ne.symm hheight]

/-- A packet and its acknowledgement under the last values. -/
def packetOfLast (last : String → Option String) : Packet × Bytes :=
  ({ sequence := ((last "packet_sequence").bind parseU64).getD 0
     sourcePort := ((last "packet_src_port").bind (Ident.parse .port)).getD defaultPort
     sourceChannel := ((last "packet_src_channel").bind (Ident.parse .channel)).getD defaultChannel
     destinationPort := ((last "packet_dst_port").bind (Ident.parse .port)).getD defaultPort
     destinationChannel :=
       ((last "packet_dst_channel").bind (Ident.parse .channel)).getD defaultChannel
     data := ((last "packet_data").map utf8).getD []
     timeoutHeight := ((last "packet_timeout_height").bind timeoutHeightOf).getD .never
     timeoutTimestamp :=
       (((last "packet_timeout_timestamp").bind parseU64).map .fromNanoseconds).getD ⟨none⟩ },
    ((last "packet_ack").map utf8).getD [])

/-- The checks of the packet extractor. -/
def Packet.Accepts (key value : String) : Prop :=
  (key = "packet_src_port" ∨ key = "packet_dst_port" → (Ident.parse .port value).isSome) ∧
    (key = "packet_src_channel" ∨ key = "packet_dst_channel" →
      (Ident.parse .channel value).isSome) ∧
    (key = "packet_sequence" ∨ key = "packet_timeout_timestamp" → (parseU64 value).isSome) ∧
    (key = "packet_timeout_height" → (timeoutHeightOf value).isSome)

/-- The timeout height that is read. -/
theorem parseTimeoutHeight_returns {value : String} {height : TimeoutHeight} :
    (parseTimeoutHeight value).Returns height ↔ timeoutHeightOf value = some height := by
  unfold parseTimeoutHeight parseHeight timeoutHeightOf Prog.Returns
  rcases Crates.heightFromStr value with _ | (_ | _) | height <;> simp

/-- The values under each key pass their checks, and the last ones are the fields. -/
def PacketSays (values : String → List String) (packet : Packet × Bytes) : Prop :=
  (∀ k, ∀ v ∈ values k, Packet.Accepts k v) ∧
    packetOfLast (fun k => (values k).getLast?) = packet

/-- **What is read of a packet event.** -/
theorem extractPacketAndWriteAckFromTx_iff {event : AbciEvent} {packet : Packet × Bytes} :
    (extractPacketAndWriteAckFromTx event).Returns packet ↔
      PacketSays (Wire.valuesAt event.attributes) packet := by
  refine Wire.Overwrites.returns_iff packetOfLast ?_ event.attributes packet
  rintro last ⟨key, value⟩ s
  unfold Prog.Returns
  simp only [Packet.Accepts]
  split
  · cases h : Ident.parse .port value <;> simp [parseIdent, packetOfLast, h]
  · cases h : Ident.parse .channel value <;> simp [parseIdent, packetOfLast, h]
  · cases h : Ident.parse .port value <;> simp [parseIdent, packetOfLast, h]
  · cases h : Ident.parse .channel value <;> simp [parseIdent, packetOfLast, h]
  · cases h : parseU64 value <;> simp [packetOfLast, h]
  · have hread := @parseTimeoutHeight_returns _ value
    unfold Prog.Returns at hread
    cases h : timeoutHeightOf value <;> simp [packetOfLast, hread, h]
  · cases h : parseU64 value <;> simp [packetOfLast, h]
  · simp [packetOfLast]
  · simp [packetOfLast]
  · rename_i hsrcPort hsrcChannel hdstPort hdstChannel hseq hheight htime hdata hack
    rw [imp_false] at hsrcPort hsrcChannel hdstPort hdstChannel hseq hheight htime hdata hack
    simp [packetOfLast, hsrcPort, hsrcChannel, hdstPort, hdstChannel, hseq, hheight, htime,
      Ne.symm hsrcPort, Ne.symm hsrcChannel, Ne.symm hdstPort, Ne.symm hdstChannel, Ne.symm hseq,
      Ne.symm hheight, Ne.symm htime, Ne.symm hdata, Ne.symm hack]

/-! ### The header -/

/-- The header of a client update: the first value, if it decodes. -/
def headerOfFirst (first : Option String) : Option Bytes :=
  first.bind fun value => (hexDecode value.toList).bind fun bytes =>
    (Crates.decodeHeader bytes).toOption

/-- The header is read off the first value, or refused with an error. -/
theorem extractHeaderFromTx_eq (event : AbciEvent) :
    ∃ result, extractHeaderFromTx event = .ofExcept result ∧
      result.toOption = headerOfFirst (Wire.valuesAt event.attributes "header").head? := by
  have hfind : (event.attributes.find? fun tag => tag.1 == "header").map Prod.snd
      = (Wire.valuesAt event.attributes "header").head? :=
    Wire.find?_eq_head? event.attributes "header"
  rw [← hfind]
  unfold extractHeaderFromTx headerOfFirst
  generalize event.attributes.find? (fun tag => tag.1 == "header") = tag
  rcases tag with _ | ⟨key, value⟩
  · exact ⟨.error _, rfl, rfl⟩
  · dsimp only [Option.map_some, Option.bind_some]
    rcases hexDecode value.toList with _ | bytes
    · exact ⟨.error _, rfl, rfl⟩
    · simp only [Prog.okOr, Prog.done_ok_bind, Option.bind_some, decodeHeader]
      rcases Crates.decodeHeader bytes with e | header
      · exact ⟨.error _, rfl, rfl⟩
      · exact ⟨.ok header, rfl, rfl⟩

/-- A header that does not decode is left out. -/
theorem extractHeaderFromTx_attempt {event : AbciEvent} {header : Option Bytes} :
    (∃ result, (extractHeaderFromTx event).attempt.Returns result ∧ result.toOption = header) ↔
      headerOfFirst (Wire.valuesAt event.attributes "header").head? = header := by
  obtain ⟨result, heq, hresult⟩ := extractHeaderFromTx_eq event
  rw [heq, ← hresult]
  cases result <;> simp [Prog.Returns, Prog.ofExcept, Prog.attempt]

/-! ### Events -/

/-- The kind of the events that decode to `e`.  Blocks have no ABCI event, and the decoder knows
no kind for a received packet or a timeout on close. -/
def IbcEvent.decodedKind : IbcEvent → Option String
  | .createClient _ => some "create_client"
  | .updateClient _ _ => some "update_client"
  | .upgradeClient _ => some "upgrade_client"
  | .clientMisbehaviour _ => some "client_misbehaviour"
  | .openInitConnection _ => some "connection_open_init"
  | .openTryConnection _ => some "connection_open_try"
  | .openAckConnection _ => some "connection_open_ack"
  | .openConfirmConnection _ => some "connection_open_confirm"
  | .openInitChannel _ => some "channel_open_init"
  | .openTryChannel _ => some "channel_open_try"
  | .openAckChannel _ => some "channel_open_ack"
  | .openConfirmChannel _ => some "channel_open_confirm"
  | .closeInitChannel _ => some "channel_close_init"
  | .closeConfirmChannel _ => some "channel_close_confirm"
  | .sendPacket _ => some "send_packet"
  | .writeAcknowledgement _ _ => some "write_acknowledgement"
  | .acknowledgePacket _ => some "acknowledge_packet"
  | .timeoutPacket _ => some "timeout_packet"
  | .newBlock _ | .receivePacket _ | .timeoutOnClosePacket _ => none

/-- `e` says what the values under each key say. -/
def IbcEvent.Says (values : String → List String) : IbcEvent → Prop
  | .createClient a | .upgradeClient a | .clientMisbehaviour a => a.Says values
  | .updateClient a header => a.Says values ∧ headerOfFirst (values "header").head? = header
  | .openInitConnection a | .openTryConnection a | .openAckConnection a
  | .openConfirmConnection a => a.Says values
  | .openInitChannel a | .openTryChannel a | .openAckChannel a | .openConfirmChannel a
  | .closeConfirmChannel a => a.Says values
  | .closeInitChannel a =>
      ChannelAttributes.Says values ⟨a.portId, some a.channelId, a.connectionId,
        a.counterpartyPortId, a.counterpartyChannelId⟩
  | .sendPacket p | .acknowledgePacket p | .timeoutPacket p => PacketSays values (p, [])
  | .writeAcknowledgement p ack => PacketSays values (p, ack)
  | .newBlock _ | .receivePacket _ | .timeoutOnClosePacket _ => False

/-- A packet event that should have no acknowledgement has none, or an empty one. -/
theorem packetTryFromAbciEvent_iff {event : AbciEvent} {packet : Packet} :
    (packetTryFromAbciEvent event).Returns packet ↔
      PacketSays (Wire.valuesAt event.attributes) (packet, []) := by
  rw [← extractPacketAndWriteAckFromTx_iff]
  unfold packetTryFromAbciEvent Prog.Returns
  rw [Prog.leaf_bind_ok]
  constructor
  · rintro ⟨⟨packet', writeAck⟩, hextract, h⟩
    dsimp only at h
    split_ifs at h with hack
    · obtain rfl := List.length_eq_zero_iff.mp hack
      obtain rfl : packet' = packet := by simpa using h
      exact hextract
    · cases h
  · exact fun h => ⟨_, h, rfl⟩

/-- What the decoder reads of an event, in a build with debug assertions. -/
theorem ibcEventTryFromAbciEvent_returns_iff {event : AbciEvent} {e : IbcEvent} :
    (ibcEventTryFromAbciEvent event).Returns e ↔
      e.decodedKind = some event.kind ∧ e.Says (Wire.valuesAt event.attributes) := by
  constructor
  · intro h
    unfold ibcEventTryFromAbciEvent Prog.Returns at h
    split at h <;> rename_i hkind
    case h_1 | h_3 | h_4 =>
      obtain ⟨a, ha, rfl⟩ := Prog.leaf_map_ok.mp h
      exact ⟨hkind ▸ rfl, clientExtractAttributesFromTx_iff.mp ha⟩
    case h_2 =>
      obtain ⟨a, ha, h⟩ := Prog.leaf_bind_ok.mp h
      obtain ⟨result, hresult, h⟩ := Prog.leaf_bind_ok.mp h
      simp only [Prog.leaf_pure, Outcome.ok.injEq] at h
      obtain rfl := h
      exact ⟨hkind ▸ rfl, clientExtractAttributesFromTx_iff.mp ha,
        extractHeaderFromTx_attempt.mp ⟨result, hresult, rfl⟩⟩
    case h_5 | h_6 | h_7 | h_8 =>
      obtain ⟨a, ha, rfl⟩ := Prog.leaf_map_ok.mp h
      exact ⟨hkind ▸ rfl, connectionExtractAttributesFromTx_iff.mp ha⟩
    case h_9 | h_10 | h_11 | h_12 | h_14 =>
      obtain ⟨a, ha, rfl⟩ := Prog.leaf_map_ok.mp h
      exact ⟨hkind ▸ rfl, channelExtractAttributesFromTx_iff.mp ha⟩
    case h_13 =>
      obtain ⟨a, rfl⟩ := channelCloseInitTryFromAbciEvent_closes h
      exact ⟨hkind ▸ rfl, channelCloseInitTryFromAbciEvent_iff.mp h⟩
    case h_15 | h_17 | h_18 =>
      obtain ⟨p, hp, rfl⟩ := Prog.leaf_map_ok.mp h
      exact ⟨hkind ▸ rfl, packetTryFromAbciEvent_iff.mp hp⟩
    case h_16 =>
      obtain ⟨⟨p, ack⟩, hp, h⟩ := Prog.leaf_bind_ok.mp h
      simp only [Prog.leaf_pure, Outcome.ok.injEq] at h
      obtain rfl := h
      exact ⟨hkind ▸ rfl, extractPacketAndWriteAckFromTx_iff.mp hp⟩
    case h_19 => cases h
  · rintro ⟨hkind, h⟩
    unfold Prog.Returns
    cases e with
    | newBlock _ | receivePacket _ | timeoutOnClosePacket _ => cases hkind
    | createClient a | upgradeClient a | clientMisbehaviour a =>
        simp only [ibcEventTryFromAbciEvent, ← Option.some.inj hkind]
        exact Prog.leaf_map_ok.mpr ⟨a, clientExtractAttributesFromTx_iff.mpr h, rfl⟩
    | updateClient a header =>
        simp only [ibcEventTryFromAbciEvent, ← Option.some.inj hkind]
        obtain ⟨result, hresult, rfl⟩ := extractHeaderFromTx_attempt.mpr h.2
        exact Prog.leaf_bind_ok.mpr ⟨a, clientExtractAttributesFromTx_iff.mpr h.1,
          Prog.leaf_bind_ok.mpr ⟨result, hresult, rfl⟩⟩
    | openInitConnection a | openTryConnection a | openAckConnection a
    | openConfirmConnection a =>
        simp only [ibcEventTryFromAbciEvent, ← Option.some.inj hkind]
        exact Prog.leaf_map_ok.mpr ⟨a, connectionExtractAttributesFromTx_iff.mpr h, rfl⟩
    | openInitChannel a | openTryChannel a | openAckChannel a | openConfirmChannel a
    | closeConfirmChannel a =>
        simp only [ibcEventTryFromAbciEvent, ← Option.some.inj hkind]
        exact Prog.leaf_map_ok.mpr ⟨a, channelExtractAttributesFromTx_iff.mpr h, rfl⟩
    | closeInitChannel a =>
        simp only [ibcEventTryFromAbciEvent, ← Option.some.inj hkind]
        exact channelCloseInitTryFromAbciEvent_iff.mpr h
    | sendPacket p | acknowledgePacket p | timeoutPacket p =>
        simp only [ibcEventTryFromAbciEvent, ← Option.some.inj hkind]
        exact Prog.leaf_map_ok.mpr ⟨p, packetTryFromAbciEvent_iff.mpr h, rfl⟩
    | writeAcknowledgement p ack =>
        simp only [ibcEventTryFromAbciEvent, ← Option.some.inj hkind]
        exact Prog.leaf_bind_ok.mpr ⟨(p, ack), extractPacketAndWriteAckFromTx_iff.mpr h, rfl⟩

/-! ### A release build -/

/-- `ibc_event_try_from_abci_event` in a release build, where `debug_assert_eq!` is left out. -/
def ibcEventTryFromAbciEventRelease (event : AbciEvent) : Decode IbcEvent :=
  match event.kind with
  | "send_packet" => (fun s => .sendPacket s.1) <$> extractPacketAndWriteAckFromTx event
  | "acknowledge_packet" =>
      (fun s => .acknowledgePacket s.1) <$> extractPacketAndWriteAckFromTx event
  | "timeout_packet" => (fun s => .timeoutPacket s.1) <$> extractPacketAndWriteAckFromTx event
  | _ => ibcEventTryFromAbciEvent event

/-- `e` says what the values under each key say, but for an acknowledgement where there should
be none. -/
def IbcEvent.SaysRelease (values : String → List String) : IbcEvent → Prop
  | .sendPacket p | .acknowledgePacket p | .timeoutPacket p => ∃ ack, PacketSays values (p, ack)
  | e => e.Says values

/-- A packet is read past its acknowledgement. -/
theorem packetRelease_iff {event : AbciEvent} {e : IbcEvent} {make : Packet → IbcEvent} :
    ((fun s : Packet × Bytes => make s.1) <$> extractPacketAndWriteAckFromTx event).Returns e ↔
      ∃ p, (∃ ack, PacketSays (Wire.valuesAt event.attributes) (p, ack)) ∧ make p = e := by
  refine Prog.leaf_map_ok.trans ⟨?_, ?_⟩
  · rintro ⟨⟨p, ack⟩, hp, rfl⟩
    exact ⟨p, ⟨ack, extractPacketAndWriteAckFromTx_iff.mp hp⟩, rfl⟩
  · rintro ⟨p, ⟨ack, hp⟩, rfl⟩
    exact ⟨(p, ack), extractPacketAndWriteAckFromTx_iff.mpr hp, rfl⟩

/-- What the decoder reads of an event, in a release build. -/
theorem ibcEventTryFromAbciEventRelease_returns_iff {event : AbciEvent} {e : IbcEvent} :
    (ibcEventTryFromAbciEventRelease event).Returns e ↔
      e.decodedKind = some event.kind ∧ e.SaysRelease (Wire.valuesAt event.attributes) := by
  unfold ibcEventTryFromAbciEventRelease
  split
  case h_4 hsend hack htimeout =>
    -- the other kinds have no assertion
    rw [ibcEventTryFromAbciEvent_returns_iff]
    refine and_congr_right fun hdecoded => ?_
    cases e with
    | sendPacket p => exact absurd (Option.some.inj hdecoded).symm hsend
    | acknowledgePacket p => exact absurd (Option.some.inj hdecoded).symm hack
    | timeoutPacket p => exact absurd (Option.some.inj hdecoded).symm htimeout
    | _ => exact Iff.rfl
  all_goals
    rename_i hkind
    rw [packetRelease_iff, hkind]
    constructor
    · rintro ⟨p, hp, rfl⟩
      exact ⟨rfl, hp⟩
    · rintro ⟨hdecoded, hsays⟩
      cases e with
      | sendPacket p | acknowledgePacket p | timeoutPacket p =>
          first
            | exact ⟨p, hsays, rfl⟩
            | exact absurd hdecoded (by simp [IbcEvent.decodedKind])
      | _ => exact absurd hdecoded (by simp [IbcEvent.decodedKind])

/-- **What the decoder reads of an event**, in a build with debug assertions and in one
without. -/
theorem ibcEventTryFromAbciEvent_iff (event : AbciEvent) (e : IbcEvent) :
    ((ibcEventTryFromAbciEvent event).Returns e ↔
        e.decodedKind = some event.kind ∧ e.Says (Wire.valuesAt event.attributes)) ∧
      ((ibcEventTryFromAbciEventRelease event).Returns e ↔
        e.decodedKind = some event.kind ∧ e.SaysRelease (Wire.valuesAt event.attributes)) :=
  ⟨ibcEventTryFromAbciEvent_returns_iff, ibcEventTryFromAbciEventRelease_returns_iff⟩

end HyperspaceLight
