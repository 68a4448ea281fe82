/-
# The two decoders of a packet

A packet that is relayed at once is read from the attributes of its event, by
`extract_packet_and_write_ack_from_tx` of `src/cosmos/events.rs`.  One that is relayed after a
delay comes as a `PacketInfo`, which holds the same strings and numbers, and is converted by
`packet_info_to_packet` of `src/primitives/funcs.rs`.  Both have to make the same packet of it,
since its commitment is looked up by either.

They differ in a timeout height of a zero revision height.  `parse_timeout_height` takes it for
no timeout whatever its revision number is, because of a quirk of ibc-go; `packet_info_to_packet`
expects it to be `0-0` and panics where it is not.  In all else they agree
(`packetDecoders_agree_iff`).
-/

import HyperspaceLight.Cosmos.PacketFields
import HyperspaceLight.Primitives.Funcs

namespace HyperspaceLight

open Interaction

/-! ### Timeout heights as they are written -/

/-- The two numbers of a height as it is written, with a `-` between them. -/
def rawHeightOfText (s : String) : Option RawHeight :=
  match s.toList.splitOn '-' with
  | first :: second :: _ => do
      return ⟨← parseU64 (String.ofList first), ← parseU64 (String.ofList second)⟩
  | _ => none

/-- `Height::new` of two numbers, as a parser answers. -/
def RawHeight.height (raw : RawHeight) : Except HeightErrorDetail Height :=
  match Height.new raw.revisionNumber raw.revisionHeight with
  | some h => .ok h
  | none => .error .zeroHeight

/-- `FromStr for Height` makes a height of the two numbers that are written, and refuses a zero
revision height with `HeightErrorDetail::ZeroHeight`. -/
def HeightNumbers [Crates] : Prop :=
  ∀ s raw, rawHeightOfText s = some raw → Crates.heightFromStr s = some raw.height

/-- The crate's parser for heights reads the two numbers. -/
theorem heightNumbers_reference : @HeightNumbers Crates.reference := by
  intro s raw h
  unfold rawHeightOfText at h
  split at h
  case h_1 first second rest hparts =>
    obtain ⟨rn, hrn, h⟩ := Option.bind_eq_some_iff.mp h
    obtain ⟨rh, hrh, h⟩ := Option.bind_eq_some_iff.mp h
    obtain rfl := Option.some.inj h
    show heightOfText s = _
    simp only [heightOfText, hparts, hrn, hrh, RawHeight.height]
    cases Height.new rn rh <;> rfl
  case h_2 => cases h

/-- The timeout height of two numbers, by `parse_timeout_height`: a zero revision height is no
timeout. -/
def RawHeight.timeoutHeight (raw : RawHeight) : TimeoutHeight :=
  (Height.new raw.revisionNumber raw.revisionHeight).elim .never .atHeight

/-- A zero revision height of a later revision is no raw timeout height. -/
theorem TimeoutHeight.tryFrom_eq_none {raw : RawHeight} (hheight : raw.revisionHeight = 0)
    (hnumber : raw.revisionNumber ≠ 0) : TimeoutHeight.tryFrom raw = none := by
  rw [tryFrom, if_neg fun h => hnumber h.1, hheight]
  rfl

/-- **Where the conversion of a raw height has the same timeout height.** -/
theorem TimeoutHeight.tryFrom_eq_iff {raw : RawHeight} :
    TimeoutHeight.tryFrom raw = some raw.timeoutHeight ↔
      raw.revisionHeight ≠ 0 ∨ raw.revisionNumber = 0 := by
  obtain ⟨rn, rh⟩ := raw
  by_cases hheight : rh = 0
  · subst hheight
    by_cases hnumber : rn = 0
    · subst hnumber
      decide
    · rw [tryFrom_eq_none rfl hnumber]
      exact iff_of_false (Option.some_ne_none _).symm (not_or.mpr ⟨not_not.mpr rfl, hnumber⟩)
  · have hnew : Height.new rn rh = some ⟨rn, rh, Nat.pos_of_ne_zero hheight⟩ :=
      Height.new_eq_some.mpr ⟨rfl, rfl⟩
    rw [tryFrom, RawHeight.timeoutHeight, if_neg fun h => hheight h.2, hnew]
    exact iff_of_true rfl (.inl hheight)

/-- The timeout height of a text with two numbers is that of the numbers. -/
theorem timeoutHeightOf_text [Crates] (hheight : HeightNumbers) {s : String} {raw : RawHeight}
    (h : rawHeightOfText s = some raw) : timeoutHeightOf s = some raw.timeoutHeight := by
  rw [timeoutHeightOf, hheight s raw h, RawHeight.height, RawHeight.timeoutHeight]
  cases Height.new raw.revisionNumber raw.revisionHeight with
  | none => rfl
  | some height => rfl

/-! ### What a packet info is converted to -/

/-- The packet info describes the packet, up to its timeout height. -/
structure PacketInfo.Describes [Crates] (info : PacketInfo) (packet : Packet) : Prop where
  sequence : info.sequence = packet.sequence
  sourcePort : Ident.parse .port info.sourcePort = some packet.sourcePort
  sourceChannel : Ident.parse .channel info.sourceChannel = some packet.sourceChannel
  destinationPort : Ident.parse .port info.destinationPort = some packet.destinationPort
  destinationChannel :
    Ident.parse .channel info.destinationChannel = some packet.destinationChannel
  data : info.data = packet.data
  timeoutTimestamp : .fromNanoseconds info.timeoutTimestamp = packet.timeoutTimestamp

/-- **The specification of `packet_info_to_packet`.** -/
theorem packetInfoToPacket_outcome_iff [Crates] {info : PacketInfo} {packet : Packet} :
    (packetInfoToPacket info : Prog Sig.none Error Packet).outcome = .ok packet ↔
      info.Describes packet ∧
        TimeoutHeight.tryFrom info.timeoutHeight = some packet.timeoutHeight := by
  rw [← Prog.returns_iff_outcome, Prog.Returns]
  simp only [packetInfoToPacket, Prog.leaf_bind_ok, Prog.leaf_expect_ok, Prog.leaf_pure,
    Outcome.ok.injEq]
  constructor
  · rintro ⟨sp, hsp, sc, hsc, dp, hdp, dc, hdc, th, hth, rfl⟩
    exact ⟨⟨rfl, hsp, hsc, hdp, hdc, rfl, rfl⟩, hth⟩
  · rintro ⟨hdescribes, hth⟩
    refine ⟨_, hdescribes.sourcePort, _, hdescribes.sourceChannel, _, hdescribes.destinationPort,
      _, hdescribes.destinationChannel, _, hth, ?_⟩
    rw [hdescribes.sequence, hdescribes.data, hdescribes.timeoutTimestamp]

/-- It panics where the raw timeout height is none. -/
theorem PacketInfo.Describes.panics [Crates] {info : PacketInfo} {packet : Packet}
    (h : info.Describes packet) (hnone : TimeoutHeight.tryFrom info.timeoutHeight = none) :
    (packetInfoToPacket info : Prog Sig.none Error Packet).outcome =
      .panic "Height should be valid" := by
  simp only [packetInfoToPacket, h.sourcePort, h.sourceChannel, h.destinationPort,
    h.destinationChannel, hnone]
  rfl

/-! ### A packet info of an event -/

/-- The value of the last attribute with the key. -/
def lastValue (attributes : List (String × String)) (key : String) : Option String :=
  attributes.reverse.lookup key

/-- **A packet info with the strings, numbers, data and raw timeout height of an event**, all of
which the event has.  Its height, channel order and acknowledgement are of no packet. -/
structure PacketInfoOf (attributes : List (String × String)) (info : PacketInfo) : Prop where
  sequence : (lastValue attributes "packet_sequence").bind parseU64 = some info.sequence
  sourcePort : lastValue attributes "packet_src_port" = some info.sourcePort
  sourceChannel : lastValue attributes "packet_src_channel" = some info.sourceChannel
  destinationPort : lastValue attributes "packet_dst_port" = some info.destinationPort
  destinationChannel : lastValue attributes "packet_dst_channel" = some info.destinationChannel
  data : (lastValue attributes "packet_data").map utf8 = some info.data
  timeoutHeight :
    (lastValue attributes "packet_timeout_height").bind rawHeightOfText = some info.timeoutHeight
  timeoutTimestamp :
    (lastValue attributes "packet_timeout_timestamp").bind parseU64 = some info.timeoutTimestamp

section

variable [Crates] {attributes : List (String × String)} {info : PacketInfo} {packet : Packet}

/-- A field that is present is the parse of its last value. -/
theorem PacketField.parse_last {β : Type} {f : PacketField β} {v : String} {b : β}
    (hvalue : f.value attributes = some b) (hlast : lastValue attributes f.key = some v) :
    f.parse v = some b := by
  have hlookup : attributes.reverse.lookup f.key = some v := hlast
  rw [PacketField.value, hlookup] at hvalue
  exact hvalue

omit [Crates] in
/-- A key that occurs has a last value. -/
theorem exists_lastValue {key : String} (h : ∃ v, (key, v) ∈ attributes) :
    ∃ v, lastValue attributes key = some v := by
  obtain ⟨v, hmem⟩ := h
  have hsome : (lastValue attributes key).isSome :=
    List.lookup_isSome_iff.mpr ⟨(key, v), List.mem_reverse.mpr hmem, beq_self_eq_true key⟩
  exact Option.isSome_iff_exists.mp hsome

namespace PacketInfoOf

/-- **The packet info of an event describes the packet that is decoded.** -/
theorem describes (hinfo : PacketInfoOf attributes info) (hpacket : PacketOf attributes packet) :
    info.Describes packet where
  sequence := by
    obtain ⟨v, hlast, hn⟩ := Option.bind_eq_some_iff.mp hinfo.sequence
    have hparse := PacketField.parse_last hpacket.sequence hlast
    exact Option.some.inj (hn.symm.trans (Option.map_id_apply.symm.trans hparse))
  sourcePort :=
    Option.map_id_apply.symm.trans (PacketField.parse_last hpacket.sourcePort hinfo.sourcePort)
  sourceChannel := Option.map_id_apply.symm.trans
    (PacketField.parse_last hpacket.sourceChannel hinfo.sourceChannel)
  destinationPort := Option.map_id_apply.symm.trans
    (PacketField.parse_last hpacket.destinationPort hinfo.destinationPort)
  destinationChannel := Option.map_id_apply.symm.trans
    (PacketField.parse_last hpacket.destinationChannel hinfo.destinationChannel)
  data := by
    obtain ⟨v, hlast, hdata⟩ := Option.map_eq_some_iff.mp hinfo.data
    exact hdata.symm.trans (Option.some.inj (PacketField.parse_last hpacket.data hlast))
  timeoutTimestamp := by
    obtain ⟨v, hlast, hn⟩ := Option.bind_eq_some_iff.mp hinfo.timeoutTimestamp
    have hparse := PacketField.parse_last hpacket.timeoutTimestamp hlast
    have hconverted : (parseU64 v).map .fromNanoseconds = some packet.timeoutTimestamp := hparse
    rw [hn] at hconverted
    exact Option.some.inj hconverted

/-- The timeout height that is decoded is that of the two numbers. -/
theorem timeoutHeight_eq (hheight : HeightNumbers) (hinfo : PacketInfoOf attributes info)
    (hpacket : PacketOf attributes packet) :
    packet.timeoutHeight = info.timeoutHeight.timeoutHeight := by
  obtain ⟨v, hlast, hraw⟩ := Option.bind_eq_some_iff.mp hinfo.timeoutHeight
  have hparse := PacketField.parse_last hpacket.timeoutHeight hlast
  have hconverted := Option.map_id_apply.symm.trans hparse
  rw [timeoutHeightOf_text hheight hraw] at hconverted
  exact (Option.some.inj hconverted).symm

end PacketInfoOf

/-- **Every accepted event with all fields has a packet info**, if the parser for heights
accepts only two numbers. -/
theorem exists_packetInfoOf
    (hwritten : ∀ s, rawHeightOfText s = none → ∀ answer, Crates.heightFromStr s = some answer →
      answer = .error .other)
    (hpacket : PacketOf attributes packet)
    (hpresent : ∀ key ∈ packetKeys, key ≠ "packet_ack" → ∃ v, (key, v) ∈ attributes) :
    ∃ info, PacketInfoOf attributes info := by
  have hlast : ∀ key ∈ packetKeys, key ≠ "packet_ack" → ∃ v, lastValue attributes key = some v :=
    fun key hkey hack => exists_lastValue (hpresent key hkey hack)
  obtain ⟨sourcePort, hsourcePort⟩ := hlast "packet_src_port" (by decide) (by decide)
  obtain ⟨sourceChannel, hsourceChannel⟩ := hlast "packet_src_channel" (by decide) (by decide)
  obtain ⟨destinationPort, hdestinationPort⟩ := hlast "packet_dst_port" (by decide) (by decide)
  obtain ⟨destinationChannel, hdestinationChannel⟩ :=
    hlast "packet_dst_channel" (by decide) (by decide)
  obtain ⟨data, hdata⟩ := hlast "packet_data" (by decide) (by decide)
  -- the numbers parse, since the event is accepted
  obtain ⟨sequence, hsequence⟩ := hlast "packet_sequence" (by decide) (by decide)
  have hn := PacketField.parse_last hpacket.sequence hsequence
  obtain ⟨timestamp, htimestamp⟩ := hlast "packet_timeout_timestamp" (by decide) (by decide)
  have hns := PacketField.parse_last hpacket.timeoutTimestamp htimestamp
  obtain ⟨nanoseconds, hnanoseconds, -⟩ := Option.map_eq_some_iff.mp hns
  obtain ⟨height, hheight⟩ := hlast "packet_timeout_height" (by decide) (by decide)
  have ht := PacketField.parse_last hpacket.timeoutHeight hheight
  obtain ⟨raw, hraw⟩ : ∃ raw, rawHeightOfText height = some raw := by
    refine Option.ne_none_iff_exists'.mp fun hnone => ?_
    have hrefused : timeoutHeightOf height = none := by
      rw [timeoutHeightOf]
      cases hanswer : Crates.heightFromStr height with
      | none => rfl
      | some answer => rw [hwritten height hnone answer hanswer]
    have hparsed : timeoutHeightOf height = some packet.timeoutHeight :=
      Option.map_id_apply.symm.trans ht
    cases hrefused.symm.trans hparsed
  refine ⟨⟨0, packet.sequence, sourcePort, sourceChannel, destinationPort, destinationChannel, "",
    utf8 data, raw, nanoseconds, none⟩, ?_⟩
  exact {
    sequence := Option.bind_eq_some_iff.mpr ⟨_, hsequence, Option.map_id_apply.symm.trans hn⟩
    sourcePort := hsourcePort
    sourceChannel := hsourceChannel
    destinationPort := hdestinationPort
    destinationChannel := hdestinationChannel
    data := Option.map_eq_some_iff.mpr ⟨_, hdata, rfl⟩
    timeoutHeight := Option.bind_eq_some_iff.mpr ⟨_, hheight, hraw⟩
    timeoutTimestamp := Option.bind_eq_some_iff.mpr ⟨_, htimestamp, hnanoseconds⟩ }

/-- **A timeout height `r-0` of a later revision** is no timeout to one decoder, and the other
panics. -/
theorem zeroHeight_panics (hheight : HeightNumbers) (hinfo : PacketInfoOf attributes info)
    (hpacket : PacketOf attributes packet) (hzero : info.timeoutHeight.revisionHeight = 0)
    (hnumber : info.timeoutHeight.revisionNumber ≠ 0) :
    packet.timeoutHeight = .never ∧
      (packetInfoToPacket info : Prog Sig.none Error Packet).outcome =
        .panic "Height should be valid" := by
  refine ⟨?_, (hinfo.describes hpacket).panics (TimeoutHeight.tryFrom_eq_none hzero hnumber)⟩
  rw [hinfo.timeoutHeight_eq hheight hpacket, RawHeight.timeoutHeight, hzero]
  rfl

/-- **Where the two decoders of a packet agree.**  For every event that
`extract_packet_and_write_ack_from_tx` accepts and every packet info of it:
`packet_info_to_packet` returns the packet that the event is decoded to, rather than panicking,
if and only if the timeout height that is written has a revision height that is not zero, or is
`0-0`. -/
theorem packetDecoders_agree_iff (hheight : HeightNumbers) (event : AbciEvent) (packet : Packet)
    (writeAck : Bytes)
    (haccepted : (extractPacketAndWriteAckFromTx event).outcome = .ok (packet, writeAck))
    (info : PacketInfo) (hinfo : PacketInfoOf event.attributes info) :
    (packetInfoToPacket info : Prog Sig.none Error Packet).outcome = .ok packet ↔
      info.timeoutHeight.revisionHeight ≠ 0 ∨ info.timeoutHeight.revisionNumber = 0 := by
  have hleaf : (extractPacketAndWriteAckFromTx event).Leaf (fun _ _ => True)
      (.ok (packet, writeAck)) := Prog.leaf_none_iff.mpr haccepted
  have hpacket := packetOf_extracted hleaf
  rw [packetInfoToPacket_outcome_iff, and_iff_right (hinfo.describes hpacket),
    hinfo.timeoutHeight_eq hheight hpacket, TimeoutHeight.tryFrom_eq_iff]

end

/-! ### A timeout height of revision 5 -/

/-- A packet event with the timeout height `height`. -/
def writtenEvent (height : String) : AbciEvent where
  kind := "send_packet"
  attributes := [("packet_data", "data"), ("packet_timeout_height", height),
    ("packet_timeout_timestamp", "1000"), ("packet_sequence", "12"),
    ("packet_src_port", "transfer"), ("packet_src_channel", "channel-0"),
    ("packet_dst_port", "transfer"), ("packet_dst_channel", "channel-0"),
    ("packet_channel_ordering", "ORDER_UNORDERED")]

/-- Its packet info, for the two numbers of the timeout height. -/
def writtenInfo (raw : RawHeight) : PacketInfo where
  height := 40
  sequence := 12
  sourcePort := "transfer"
  sourceChannel := "channel-0"
  destinationPort := "transfer"
  destinationChannel := "channel-0"
  channelOrder := "ORDER_UNORDERED"
  data := utf8 "data"
  timeoutHeight := raw
  timeoutTimestamp := 1000
  ack := none

/-- Its packet. -/
def writtenPacket (timeoutHeight : TimeoutHeight) : Packet where
  sequence := 12
  sourcePort := transferPort
  sourceChannel := channel0
  destinationPort := transferPort
  destinationChannel := channel0
  data := utf8 "data"
  timeoutHeight
  timeoutTimestamp := .fromNanoseconds 1000

/-- The packet info is one of the event. -/
theorem writtenInfo_of {height : String} {raw : RawHeight}
    (hraw : rawHeightOfText height = some raw) :
    PacketInfoOf (writtenEvent height).attributes (writtenInfo raw) where
  sequence := by
    show parseU64 "12" = some 12
    decide +kernel
  sourcePort := rfl
  sourceChannel := rfl
  destinationPort := rfl
  destinationChannel := rfl
  data := rfl
  timeoutHeight := hraw
  timeoutTimestamp := by
    show parseU64 "1000" = some 1000
    decide +kernel

/-- The theorem at work: a timeout at height 45. -/
theorem timeoutAtHeight_agrees :
    (@packetInfoToPacket Sig.none Crates.reference (writtenInfo ⟨0, 45⟩)).outcome =
      .ok (writtenPacket (.atHeight (height0 45))) := by
  let _ := Crates.reference
  have haccepted : (extractPacketAndWriteAckFromTx (writtenEvent "0-45")).outcome =
      .ok (writtenPacket (.atHeight (height0 45)), []) := by decide +kernel
  have hinfo := writtenInfo_of (show rawHeightOfText "0-45" = some ⟨0, 45⟩ by decide +kernel)
  exact (packetDecoders_agree_iff heightNumbers_reference _ _ [] haccepted _ hinfo).mpr
    (.inl (by decide))

/-- **The decoders of a packet do not agree** where the timeout height is written as `5-0`. -/
theorem laterRevision_disagrees :
    ¬∀ (_ : Crates), HeightNumbers → ∀ (event : AbciEvent) (packet : Packet) (writeAck : Bytes),
      (extractPacketAndWriteAckFromTx event).outcome = .ok (packet, writeAck) →
        ∀ info, PacketInfoOf event.attributes info →
          (packetInfoToPacket info : Prog Sig.none Error Packet).outcome = .ok packet := by
  intro h
  let _ := Crates.reference
  have haccepted : (extractPacketAndWriteAckFromTx (writtenEvent "5-0")).outcome =
      .ok (writtenPacket .never, []) := by decide +kernel
  have hinfo := writtenInfo_of (show rawHeightOfText "5-0" = some ⟨5, 0⟩ by decide +kernel)
  have hconverted := h Crates.reference heightNumbers_reference _ _ [] haccepted _ hinfo
  have hpanics : (packetInfoToPacket (writtenInfo ⟨5, 0⟩) : Prog Sig.none Error Packet).outcome =
      .panic "Height should be valid" := by decide +kernel
  exact nomatch hconverted.symm.trans hpanics

end HyperspaceLight
