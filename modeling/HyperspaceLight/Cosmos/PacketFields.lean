/-
# Where the fields of a decoded packet come from

`src/cosmos/events.rs`: `extract_packet_and_write_ack_from_tx` goes over the attributes of an
event and reads each by its key (`readTag`): it is skipped, overwrites one field, is refused
with an error, or stops the extractor with a panic.

So each field is the parse of the last attribute with its key, and where no attribute has the
key it is that of `Packet::default()` (`PacketField.value`).  Nothing asks that every key
occurs: a packet event without attributes is accepted (`emptyPacketEvent_accepted`).
-/

import HyperspaceLight.Cosmos.PacketEvents

namespace HyperspaceLight

open Interaction

/-! ### The reading of an attribute -/

/-- What the extractor makes of one attribute. -/
inductive TagReading where
  | skipped
  | read (a : PacketAttribute)
  | refused (text : String)
  | fatal (text : String)

namespace TagReading

/-- A parsed value, or what happens where it does not parse. -/
def ofOption {α : Type} (failed : TagReading) (make : α → PacketAttribute) : Option α → TagReading
  | none => failed
  | some a => read (make a)

/-- What the extractor does next. -/
def apply (s : Packet × Bytes) : TagReading → Decode (Packet × Bytes)
  | skipped => return s
  | read a => return a.put s
  | refused text => .fail (.external text)
  | fatal text => .panic text

end TagReading

section Readings

variable [Crates]

/-- The timeout height of a text, by `parse_timeout_height`. -/
def timeoutHeightOf (s : String) : Option TimeoutHeight :=
  match Crates.heightFromStr s with
  | some (.ok height) => some (.atHeight height)
  | some (.error .zeroHeight) => some .never
  | some (.error .other) | none => none

/-- What happens to a text that is no timeout height: the crate's parser may panic on it. -/
def timeoutHeightFailed (s : String) : TagReading :=
  if (Crates.heightFromStr s).isNone then
    .fatal "index out of bounds: the len is 1 but the index is 1"
  else .refused "invalid timeout height"

/-- Such a text is never passed over or read. -/
theorem timeoutHeightFailed_ne (s : String) :
    timeoutHeightFailed s ≠ .skipped ∧ ∀ a, timeoutHeightFailed s ≠ .read a := by
  unfold timeoutHeightFailed
  split_ifs
  · exact ⟨nofun, nofun⟩
  · exact ⟨nofun, nofun⟩

/-- **The reading of an attribute**, by its key. -/
def readTag (tag : String × String) : TagReading :=
  match tag.1 with
  | "packet_src_port" =>
      .ofOption (.refused "invalid identifier") .sourcePort (Ident.parse .port tag.2)
  | "packet_src_channel" =>
      .ofOption (.refused "invalid identifier") .sourceChannel (Ident.parse .channel tag.2)
  | "packet_dst_port" =>
      .ofOption (.refused "invalid identifier") .destinationPort (Ident.parse .port tag.2)
  | "packet_dst_channel" =>
      .ofOption (.refused "invalid identifier") .destinationChannel (Ident.parse .channel tag.2)
  | "packet_sequence" => .ofOption (.refused "invalid sequence") .sequence (parseU64 tag.2)
  | "packet_timeout_height" =>
      .ofOption (timeoutHeightFailed tag.2) (.timeoutHeight 0) (timeoutHeightOf tag.2)
  | "packet_timeout_timestamp" =>
      .ofOption (.fatal "called `Result::unwrap()` on an `Err` value") .timeoutTimestamp
        (parseU64 tag.2)
  | "packet_data" => .read (.data tag.2)
  | "packet_ack" => .read (.ack tag.2)
  | _ => .skipped

/-- **The extractor reads one attribute after the other.** -/
theorem extractPacketAndWriteAckFromTx_eq (event : AbciEvent) :
    extractPacketAndWriteAckFromTx event =
      event.attributes.foldlM (fun s tag => (readTag tag).apply s) (Packet.default, []) := by
  unfold extractPacketAndWriteAckFromTx
  congr 1
  funext ⟨packet, ack⟩ ⟨key, value⟩
  dsimp only
  split
  · rw [parseIdent, readTag]
    cases Ident.parse .port value <;> rfl
  · rw [parseIdent, readTag]
    cases Ident.parse .channel value <;> rfl
  · rw [parseIdent, readTag]
    cases Ident.parse .port value <;> rfl
  · rw [parseIdent, readTag]
    cases Ident.parse .channel value <;> rfl
  · rw [readTag]
    cases parseU64 value <;> rfl
  · rw [parseTimeoutHeight, parseHeight, readTag, timeoutHeightOf, timeoutHeightFailed]
    rcases Crates.heightFromStr value with _ | (_ | _) | height <;> rfl
  · rw [readTag]
    cases parseU64 value <;> rfl
  · rfl
  · rfl
  · have hskipped : readTag (key, value) = .skipped := by
      unfold readTag
      split <;> first | rfl | contradiction
    rw [hskipped]
    rfl

/-- An attribute is read into a field of its own key. -/
theorem readTag_key {tag : String × String} {a : PacketAttribute} (h : readTag tag = .read a) :
    a.text.1 = tag.1 := by
  obtain ⟨key, value⟩ := tag
  unfold readTag at h
  dsimp only at h
  have hparsed : ∀ {α : Type} {failed : TagReading} {make : α → PacketAttribute} {x : Option α},
      TagReading.ofOption failed make x = .read a → failed = .read a ∨ ∃ b, make b = a := by
    intro α failed make x hx
    cases x with
    | none => exact .inl hx
    | some b => exact .inr ⟨b, TagReading.read.inj hx⟩
  split at h
  case h_10 => cases h
  case h_8 | h_9 =>
    obtain rfl := TagReading.read.inj h
    rfl
  case h_6 =>
    obtain hfailed | ⟨b, rfl⟩ := hparsed h
    · exact absurd hfailed ((timeoutHeightFailed_ne value).2 a)
    · rfl
  all_goals
    obtain hfailed | ⟨b, rfl⟩ := hparsed h
    · cases hfailed
    · rfl

/-! ### Fields -/

/-- **A field that one key of the attributes fills.** -/
structure PacketField (β : Type) where
  key : String
  parse : String → Option β
  get : Packet × Bytes → β
  /-- An attribute with the key is put into the field. -/
  own : ∀ value a s, readTag (key, value) = .read a → parse value = some (get (a.put s))
  /-- It is never passed over. -/
  known : ∀ value, readTag (key, value) ≠ .skipped
  /-- The other attributes leave the field alone. -/
  other : ∀ (a : PacketAttribute) s, a.text.1 ≠ key → get (a.put s) = get s

namespace PacketField

variable {β : Type} (f : PacketField β) {A : (o : Sig.none.Op) → Except Error (Sig.none.Res o) → Prop}

/-- The value of the field in an event: the parse of the last attribute with the key, or what
`Packet::default()` has where there is none. -/
def value (attributes : List (String × String)) : Option β :=
  (attributes.reverse.lookup f.key).elim (some (f.get (Packet.default, []))) f.parse

/-- No attribute fills the field. -/
theorem value_nil : f.value [] = some (f.get (Packet.default, [])) := rfl

/-- One more attribute. -/
theorem value_concat (attributes : List (String × String)) (tag : String × String) :
    f.value (attributes ++ [tag]) = if tag.1 = f.key then f.parse tag.2 else f.value attributes := by
  obtain ⟨key, v⟩ := tag
  simp only [value, List.reverse_append, List.reverse_singleton, List.singleton_append,
    List.lookup_cons]
  by_cases hkey : key = f.key
  · simp [hkey]
  · have hne : (f.key == key) = false := beq_eq_false_iff_ne.mpr (Ne.symm hkey)
    simp [hkey, hne]

/-- A step of the extractor keeps the field the value of the attributes read so far. -/
theorem step {attributes : List (String × String)} {tag : String × String} {s s' : Packet × Bytes}
    (hs : f.value attributes = some (f.get s)) (h : ((readTag tag).apply s).Leaf A (.ok s')) :
    f.value (attributes ++ [tag]) = some (f.get s') := by
  rw [value_concat]
  cases hread : readTag tag with
  | skipped =>
      obtain rfl := Outcome.ok.inj (hread ▸ h)
      have hkey : tag.1 ≠ f.key := fun hkey => f.known tag.2 (hkey ▸ hread)
      rw [if_neg hkey, hs]
  | read a =>
      obtain rfl := Outcome.ok.inj (hread ▸ h)
      by_cases hkey : tag.1 = f.key
      · rw [if_pos hkey]
        exact f.own tag.2 a s (hkey ▸ hread)
      · rw [if_neg hkey, hs, f.other a s (readTag_key hread ▸ hkey)]
  | refused text => cases hread ▸ h
  | fatal text => cases hread ▸ h

/-- **The field of what the extractor returns** is the value in the attributes. -/
theorem extracted {event : AbciEvent} {s : Packet × Bytes}
    (h : (extractPacketAndWriteAckFromTx event).Leaf A (.ok s)) :
    f.value event.attributes = some (f.get s) := by
  rw [extractPacketAndWriteAckFromTx_eq] at h
  exact Prog.leaf_foldlM (fun seen s => f.value seen = some (f.get s)) f.value_nil
    (fun seen tag s s' hs _ hstep => f.step hs hstep) h

/-- A field that an attribute with a parser fills. -/
def parsed {α : Type} (key : String) (parser : String → Option α) (failed : String → TagReading)
    (make : α → PacketAttribute) (conv : α → β) (get : Packet × Bytes → β)
    (hread : ∀ v, readTag (key, v) = .ofOption (failed v) make (parser v))
    (hfailed : ∀ v, failed v ≠ .skipped ∧ ∀ a, failed v ≠ .read a)
    (hput : ∀ b s, get ((make b).put s) = conv b)
    (hother : ∀ (a : PacketAttribute) s, a.text.1 ≠ key → get (a.put s) = get s) :
    PacketField β where
  key
  parse v := (parser v).map conv
  get
  own v a s h := by
    rw [hread] at h
    cases hv : parser v with
    | none =>
        rw [hv] at h
        exact absurd h ((hfailed v).2 a)
    | some b =>
        obtain rfl := TagReading.read.inj (hv ▸ h)
        exact congrArg some (hput b s).symm
  known v h := by
    rw [hread] at h
    cases hv : parser v with
    | none =>
        rw [hv] at h
        exact (hfailed v).1 h
    | some b =>
        rw [hv] at h
        cases h
  other := hother

end PacketField

def sourcePortField : PacketField PortId :=
  .parsed "packet_src_port" (Ident.parse .port) (fun _ => .refused "invalid identifier")
    .sourcePort id (fun s => s.1.sourcePort) (fun _ => rfl) (fun _ => ⟨nofun, nofun⟩) (fun _ _ => rfl)
    fun a s h => by cases a <;> first | rfl | exact absurd rfl h

def sourceChannelField : PacketField ChannelId :=
  .parsed "packet_src_channel" (Ident.parse .channel) (fun _ => .refused "invalid identifier")
    .sourceChannel id (fun s => s.1.sourceChannel) (fun _ => rfl) (fun _ => ⟨nofun, nofun⟩)
    (fun _ _ => rfl) fun a s h => by cases a <;> first | rfl | exact absurd rfl h

def destinationPortField : PacketField PortId :=
  .parsed "packet_dst_port" (Ident.parse .port) (fun _ => .refused "invalid identifier")
    .destinationPort id (fun s => s.1.destinationPort) (fun _ => rfl) (fun _ => ⟨nofun, nofun⟩)
    (fun _ _ => rfl) fun a s h => by cases a <;> first | rfl | exact absurd rfl h

def destinationChannelField : PacketField ChannelId :=
  .parsed "packet_dst_channel" (Ident.parse .channel) (fun _ => .refused "invalid identifier")
    .destinationChannel id (fun s => s.1.destinationChannel) (fun _ => rfl)
    (fun _ => ⟨nofun, nofun⟩) (fun _ _ => rfl)
    fun a s h => by cases a <;> first | rfl | exact absurd rfl h

def sequenceField : PacketField ℕ :=
  .parsed "packet_sequence" parseU64 (fun _ => .refused "invalid sequence") .sequence id
    (fun s => s.1.sequence) (fun _ => rfl) (fun _ => ⟨nofun, nofun⟩) (fun _ _ => rfl)
    fun a s h => by cases a <;> first | rfl | exact absurd rfl h

def timeoutHeightField : PacketField TimeoutHeight :=
  .parsed "packet_timeout_height" timeoutHeightOf timeoutHeightFailed (.timeoutHeight 0) id
    (fun s => s.1.timeoutHeight) (fun _ => rfl) timeoutHeightFailed_ne
    (fun _ _ => rfl) fun a s h => by cases a <;> first | rfl | exact absurd rfl h

def timeoutTimestampField : PacketField Timestamp :=
  .parsed "packet_timeout_timestamp" parseU64
    (fun _ => .fatal "called `Result::unwrap()` on an `Err` value") .timeoutTimestamp
    .fromNanoseconds (fun s => s.1.timeoutTimestamp) (fun _ => rfl) (fun _ => ⟨nofun, nofun⟩)
    (fun _ _ => rfl) fun a s h => by cases a <;> first | rfl | exact absurd rfl h

def dataField : PacketField Bytes where
  key := "packet_data"
  parse v := some (utf8 v)
  get s := s.1.data
  own v a s h := by
    obtain rfl := TagReading.read.inj h
    rfl
  known v := nofun
  other a s h := by cases a <;> first | rfl | exact absurd rfl h

def ackField : PacketField Bytes where
  key := "packet_ack"
  parse v := some (utf8 v)
  get s := s.2
  own v a s h := by
    obtain rfl := TagReading.read.inj h
    rfl
  known v := nofun
  other a s h := by cases a <;> first | rfl | exact absurd rfl h

/-! ### The decoded packet -/

/-- **The packet of a list of attributes**: each field has its value there. -/
structure PacketOf (attributes : List (String × String)) (packet : Packet) : Prop where
  sequence : sequenceField.value attributes = some packet.sequence
  sourcePort : sourcePortField.value attributes = some packet.sourcePort
  sourceChannel : sourceChannelField.value attributes = some packet.sourceChannel
  destinationPort : destinationPortField.value attributes = some packet.destinationPort
  destinationChannel : destinationChannelField.value attributes = some packet.destinationChannel
  data : dataField.value attributes = some packet.data
  timeoutHeight : timeoutHeightField.value attributes = some packet.timeoutHeight
  timeoutTimestamp : timeoutTimestampField.value attributes = some packet.timeoutTimestamp

/-- **What the extractor returns is the packet of the attributes.** -/
theorem packetOf_extracted {A : (o : Sig.none.Op) → Except Error (Sig.none.Res o) → Prop}
    {event : AbciEvent} {packet : Packet} {ack : Bytes}
    (h : (extractPacketAndWriteAckFromTx event).Leaf A (.ok (packet, ack))) :
    PacketOf event.attributes packet where
  sequence := sequenceField.extracted h
  sourcePort := sourcePortField.extracted h
  sourceChannel := sourceChannelField.extracted h
  destinationPort := destinationPortField.extracted h
  destinationChannel := destinationChannelField.extracted h
  data := dataField.extracted h
  timeoutHeight := timeoutHeightField.extracted h
  timeoutTimestamp := timeoutTimestampField.extracted h

/-- So is what an event without acknowledgement decodes to. -/
theorem packetTryFromAbciEvent_extracted
    {A : (o : Sig.none.Op) → Except Error (Sig.none.Res o) → Prop} {event : AbciEvent}
    {packet : Packet} (h : (packetTryFromAbciEvent event).Leaf A (.ok packet)) :
    PacketOf event.attributes packet := by
  obtain ⟨⟨packet', ack⟩, hextract, h⟩ := Prog.leaf_bind_ok.mp h
  dsimp only at h
  split_ifs at h
  · obtain rfl := Outcome.ok.inj h
    exact packetOf_extracted hextract
  · cases h

/-- The packet in an event. -/
def IbcEvent.packet : IbcEvent → Option Packet
  | sendPacket p | receivePacket p | writeAcknowledgement p _ | acknowledgePacket p
  | timeoutPacket p | timeoutOnClosePacket p => some p
  | _ => none

/-- The kinds of events that the extractor is called for. -/
def packetKinds : List String :=
  ["send_packet", "write_acknowledgement", "acknowledge_packet", "timeout_packet"]

/-- **What an accepted packet event decodes to.**  For every event of the four kinds and every
list of attributes: each field of the packet is the parse of the last attribute with its key,
and what the default packet has where no attribute has it. -/
theorem packetEvent_fields (event : AbciEvent) (hkind : event.kind ∈ packetKinds) (ev : IbcEvent)
    (h : (ibcEventTryFromAbciEvent event).outcome = .ok ev) :
    ∃ packet, ev.packet = some packet ∧ PacketOf event.attributes packet := by
  have h : (ibcEventTryFromAbciEvent event).Leaf (fun _ _ => True) (.ok ev) :=
    Prog.returns_iff_outcome.mpr h
  obtain ⟨kind, attributes⟩ := event
  simp only [packetKinds, List.mem_cons, List.not_mem_nil, or_false] at hkind
  rcases hkind with rfl | rfl | rfl | rfl
  · obtain ⟨packet, hpacket, rfl⟩ := Prog.leaf_map_ok.mp h
    exact ⟨packet, rfl, packetTryFromAbciEvent_extracted hpacket⟩
  · obtain ⟨⟨packet, ack⟩, hextract, h⟩ := Prog.leaf_bind_ok.mp h
    obtain rfl := Outcome.ok.inj h
    exact ⟨packet, rfl, packetOf_extracted hextract⟩
  · obtain ⟨packet, hpacket, rfl⟩ := Prog.leaf_map_ok.mp h
    exact ⟨packet, rfl, packetTryFromAbciEvent_extracted hpacket⟩
  · obtain ⟨packet, hpacket, rfl⟩ := Prog.leaf_map_ok.mp h
    exact ⟨packet, rfl, packetTryFromAbciEvent_extracted hpacket⟩

end Readings

/-- A packet event in which only the sequence is set, and set twice. -/
def sequencesOnly : AbciEvent where
  kind := "timeout_packet"
  attributes := [("packet_sequence", "3"), ("packet_sequence", "12")]

/-- The theorem at work: the last sequence, and the default source port. -/
theorem sequencesOnly_fields : ∃ packet,
    (@ibcEventTryFromAbciEvent Crates.reference sequencesOnly).outcome =
      .ok (.timeoutPacket packet) ∧ packet.sequence = 12 ∧ packet.sourcePort = defaultPort := by
  let _ := Crates.reference
  have hdecoded : (ibcEventTryFromAbciEvent sequencesOnly).outcome =
      .ok (.timeoutPacket { Packet.default with sequence := 12 }) := by decide +kernel
  obtain ⟨packet, hpacket, hfields⟩ := packetEvent_fields sequencesOnly (by decide) _ hdecoded
  obtain rfl := Option.some.inj hpacket
  exact ⟨_, hdecoded, Option.some.inj (hfields.sequence.symm.trans (by decide +kernel)),
    Option.some.inj (hfields.sourcePort.symm.trans (by decide +kernel))⟩

/-- **A packet event without attributes is accepted.** -/
theorem emptyPacketEvent_accepted : let _ := Crates.reference
    ¬∀ (event : AbciEvent) (ev : IbcEvent), event.kind ∈ packetKinds →
      (ibcEventTryFromAbciEvent event).outcome = .ok ev →
        ∀ key ∈ ["packet_src_port", "packet_src_channel", "packet_dst_port", "packet_dst_channel",
          "packet_sequence", "packet_timeout_height", "packet_timeout_timestamp"],
          ∃ value, (key, value) ∈ event.attributes := by
  intro _ h
  obtain ⟨value, hvalue⟩ := h ⟨"send_packet", []⟩ (.sendPacket Packet.default) (by decide) rfl
    "packet_src_port" (by decide)
  exact absurd hvalue List.not_mem_nil

end HyperspaceLight
