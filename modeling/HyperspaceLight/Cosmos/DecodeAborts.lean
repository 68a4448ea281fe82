/-
# Which events stop the decoder

`ibc_event_try_from_abci_event` of `src/cosmos/events.rs` returns an error for nearly every
malformed event, and callers skip such an event with `.ok()`.  Three values panic instead: a
timeout timestamp that is no number is unwrapped, a height without a `-` makes the crate's
parser index out of bounds (`FatalTag`, `FatalHeight`), and an acknowledgement on a packet
event that should have none fails a `debug_assert_eq!` (`StrayAck`; a release build leaves
that assertion out).  No other event does (`ibcEventTryFromAbciEvent_settles_iff`).
-/

import HyperspaceLight.Cosmos.PacketFields
import HyperspaceLight.Primitives.Answering

namespace HyperspaceLight

open Interaction

section

variable {A : (o : Sig.none.Op) → Except Error (Sig.none.Res o) → Prop}

/-- A reading aborts the extractor where it is fatal. -/
theorem apply_aborts_iff {s : Packet × Bytes} {r : TagReading} :
    (r.apply s).Aborts A ↔ ∃ text, r = .fatal text := by
  cases r with
  | skipped => exact iff_of_false (Prog.aborts_pure _) nofun
  | read a => exact iff_of_false (Prog.aborts_pure _) nofun
  | refused text => exact iff_of_false (Prog.aborts_fail _) nofun
  | fatal text => exact iff_of_true (Prog.aborts_panic _) ⟨text, rfl⟩

/-- The extractor goes on after an attribute that is skipped or read. -/
theorem apply_ok_iff {s : Packet × Bytes} {r : TagReading} :
    (∃ s', (r.apply s).Leaf A (.ok s')) ↔ r = .skipped ∨ ∃ a, r = .read a := by
  cases r with
  | skipped => exact iff_of_true ⟨s, rfl⟩ (.inl rfl)
  | read a => exact iff_of_true ⟨a.put s, rfl⟩ (.inr ⟨a, rfl⟩)
  | refused text => exact iff_of_false (fun ⟨_, h⟩ => nomatch h) (by simp)
  | fatal text => exact iff_of_false (fun ⟨_, h⟩ => nomatch h) (by simp)

variable [Crates] {event : AbciEvent}

/-- A malformed identifier is an error, never a panic. -/
theorem parseIdent_aborts {k : IdKind} {value : String} : ¬(parseIdent k value).Aborts A :=
  Prog.aborts_okOr _ _

/-- **The first attribute that an extractor does not pass is fatal.** -/
def StopsAt (Passed Fatal : String × String → Prop) (attributes : List (String × String)) : Prop :=
  ∃ seen tag rest, attributes = seen ++ tag :: rest ∧ (∀ t ∈ seen, Passed t) ∧ Fatal tag

/-! ### The packet extractor -/

/-- An attribute that the packet extractor goes on after. -/
def TagPassed (tag : String × String) : Prop :=
  readTag tag = .skipped ∨ ∃ a, readTag tag = .read a

/-- **An attribute that stops the packet extractor**: a timeout timestamp that is no number, or
a timeout height on which the crate's parser panics. -/
def FatalTag (tag : String × String) : Prop :=
  tag.1 = "packet_timeout_timestamp" ∧ parseU64 tag.2 = none ∨
    tag.1 = "packet_timeout_height" ∧ Crates.heightFromStr tag.2 = none

/-- **An acknowledgement on an event that should have none**: the last one, after all
attributes were read. -/
def StrayAck (attributes : List (String × String)) : Prop :=
  (∀ tag ∈ attributes, TagPassed tag) ∧
    ∃ ack, attributes.reverse.lookup "packet_ack" = some ack ∧ ack ≠ ""

/-- The timeout height is fatal exactly where the crate's parser panics. -/
theorem timeoutHeight_fatal_iff {value : String} :
    (∃ text, TagReading.ofOption (timeoutHeightFailed value) (.timeoutHeight 0)
      (timeoutHeightOf value) = .fatal text) ↔ Crates.heightFromStr value = none := by
  unfold timeoutHeightFailed timeoutHeightOf
  rcases Crates.heightFromStr value with _ | (_ | _) | height <;>
    simp [TagReading.ofOption]

/-- Only a timestamp and a height are fatal. -/
theorem readTag_fatal_iff {tag : String × String} :
    (∃ text, readTag tag = .fatal text) ↔ FatalTag tag := by
  obtain ⟨key, value⟩ := tag
  -- a key whose values are only refused
  have hrefused : ∀ {α : Type} {t text : String} {make : α → PacketAttribute} {x : Option α},
      TagReading.ofOption (.refused t) make x ≠ .fatal text := by
    intro α t text make x h
    cases x <;> cases h
  constructor
  · rintro ⟨text, h⟩
    unfold readTag at h
    dsimp only at h
    split at h
    case h_6 => exact .inr ⟨rfl, timeoutHeight_fatal_iff.mp ⟨text, h⟩⟩
    case h_7 =>
      refine .inl ⟨rfl, ?_⟩
      cases hv : parseU64 value with
      | none => rfl
      | some n =>
          rw [hv] at h
          cases h
    case h_8 | h_9 | h_10 => cases h
    all_goals exact absurd h hrefused
  · rintro (⟨rfl, hvalue⟩ | ⟨rfl, hvalue⟩)
    · refine ⟨"called `Result::unwrap()` on an `Err` value", ?_⟩
      show TagReading.ofOption _ .timeoutTimestamp (parseU64 value) = _
      rw [hvalue]
      rfl
    · exact timeoutHeight_fatal_iff.mpr hvalue

/-- **The extractor** aborts at the first attribute that it does not pass, if that is fatal. -/
theorem extractPacketAndWriteAckFromTx_aborts_iff :
    (extractPacketAndWriteAckFromTx event).Aborts A ↔
      StopsAt TagPassed FatalTag event.attributes := by
  rw [extractPacketAndWriteAckFromTx_eq]
  exact Prog.aborts_foldlM_iff (P := TagPassed) (Q := FatalTag) (fun _ _ => apply_ok_iff)
    (fun _ _ => apply_aborts_iff.trans readTag_fatal_iff) _

/-- The packet extractor returns where it passes every attribute. -/
theorem extractPacketAndWriteAckFromTx_ok_iff :
    (∃ s, (extractPacketAndWriteAckFromTx event).Leaf A (.ok s)) ↔
      ∀ tag ∈ event.attributes, TagPassed tag := by
  rw [extractPacketAndWriteAckFromTx_eq]
  exact Prog.leaf_foldlM_ok_iff (P := TagPassed) (fun _ _ => apply_ok_iff) _

/-- The acknowledgement that the extractor returns is the last one. -/
theorem extracted_ack_iff {packet : Packet} {ack : Bytes}
    (h : (extractPacketAndWriteAckFromTx event).Leaf A (.ok (packet, ack))) :
    ack.length ≠ 0 ↔ ∃ text, event.attributes.reverse.lookup "packet_ack" = some text ∧ text ≠ "" := by
  have hack : ackField.value event.attributes = some ack := ackField.extracted h
  have hempty : ∀ text, (utf8 text).length ≠ 0 ↔ text ≠ "" := fun text =>
    not_congr (List.length_eq_zero_iff.trans ⟨fun h => utf8_inj h, fun h => h ▸ rfl⟩)
  unfold PacketField.value at hack
  cases hlookup : event.attributes.reverse.lookup "packet_ack" with
  | none =>
      rw [show ackField.key = "packet_ack" from rfl, hlookup] at hack
      obtain rfl : [] = ack := Option.some.inj hack
      simp
  | some text =>
      rw [show ackField.key = "packet_ack" from rfl, hlookup] at hack
      obtain rfl : utf8 text = ack := Option.some.inj hack
      simp [hempty]

/-- **A packet event that should have no acknowledgement** aborts in the extractor or by its
acknowledgement. -/
theorem packetTryFromAbciEvent_aborts_iff : (packetTryFromAbciEvent event).Aborts A ↔
    StopsAt TagPassed FatalTag event.attributes ∨ StrayAck event.attributes := by
  rw [packetTryFromAbciEvent, Prog.aborts_bind, extractPacketAndWriteAckFromTx_aborts_iff, StrayAck,
    ← extractPacketAndWriteAckFromTx_ok_iff (A := A)]
  refine or_congr_right ?_
  constructor
  · rintro ⟨⟨packet, ack⟩, hextract, habort⟩
    dsimp only at habort
    split_ifs at habort with hlen
    · exact absurd habort (Prog.aborts_pure _)
    · exact ⟨⟨_, hextract⟩, (extracted_ack_iff hextract).mp hlen⟩
  · rintro ⟨⟨⟨packet, ack⟩, hextract⟩, hack⟩
    refine ⟨_, hextract, ?_⟩
    dsimp only
    rw [if_neg ((extracted_ack_iff hextract).mpr hack)]
    exact Prog.aborts_panic _

/-! ### The client extractor -/

/-- An attribute that the client extractor goes on after. -/
def ClientTagPassed : String × String → Prop
  | ("client_id", value) => (Ident.parse .client value).isSome
  | ("client_type", value) => Crates.isClientType value
  | ("consensus_height", value) => ∃ height, Crates.heightFromStr value = some (.ok height)
  | _ => True

/-- **A consensus height on which the crate's parser panics.** -/
def FatalHeight (tag : String × String) : Prop :=
  tag.1 = "consensus_height" ∧ Crates.heightFromStr tag.2 = none

/-- **The client extractor** aborts at the first attribute that it does not pass, if that is a
consensus height on which the parser panics. -/
theorem clientExtractAttributesFromTx_aborts_iff :
    (clientExtractAttributesFromTx event).Aborts A ↔
      StopsAt ClientTagPassed FatalHeight event.attributes := by
  refine Prog.aborts_foldlM_iff (P := ClientTagPassed) (Q := FatalHeight)
    (fun attr (key, value) => ?_) (fun attr (key, value) => ?_) _
  · dsimp only
    split
    · unfold ClientTagPassed parseIdent
      cases hid : Ident.parse .client value <;> simp [hid]
    · unfold ClientTagPassed
      split_ifs with htype <;> simp [htype]
    · unfold ClientTagPassed parseHeight
      rcases hheight : Crates.heightFromStr value with _ | (_ | height) <;> simp [hheight]
    · rename_i hid htype hheight
      have hpassed : ClientTagPassed (key, value) := by
        unfold ClientTagPassed
        split <;> simp_all
      simp [hpassed]
  · dsimp only
    split
    · simp [parseIdent_aborts, FatalHeight]
    · split_ifs <;> simp [FatalHeight]
    · unfold parseHeight FatalHeight
      rcases Crates.heightFromStr value with _ | (_ | height) <;> simp
    · rename_i hheight
      simpa [FatalHeight] using fun hkey => (hheight hkey).elim

/-! ### The other extractors -/

/-- A connection event never stops the decoder. -/
theorem connectionExtractAttributesFromTx_aborts :
    ¬(connectionExtractAttributesFromTx event).Aborts A := by
  refine Prog.not_aborts_foldlM fun attr (key, value) => ?_
  dsimp only
  split <;> simp [parseIdent_aborts]

/-- The attributes of a channel are extracted without a panic. -/
theorem channelExtractAttributesFromTx_aborts :
    ¬(channelExtractAttributesFromTx event).Aborts A := by
  refine Prog.not_aborts_foldlM fun attr (key, value) => ?_
  dsimp only
  split <;> simp [parseIdent_aborts]

/-- A header is extracted without a panic. -/
theorem extractHeaderFromTx_aborts : ¬(extractHeaderFromTx event).Aborts A := by
  unfold extractHeaderFromTx decodeHeader
  split
  · exact Prog.aborts_fail _
  · rw [Prog.aborts_bind, or_iff_right (Prog.aborts_okOr _ _)]
    rintro ⟨bytes, -, habort⟩
    split at habort
    · exact Prog.aborts_pure _ habort
    · exact Prog.aborts_fail _ habort

/-! ### The decoder -/

/-- The kinds of events that the client extractor is called for. -/
def clientKinds : List String :=
  ["create_client", "update_client", "upgrade_client", "client_misbehaviour"]

/-- **An event that stops the decoder.** -/
def FatalEvent (event : AbciEvent) : Prop :=
  event.kind ∈ clientKinds ∧ StopsAt ClientTagPassed FatalHeight event.attributes ∨
    event.kind ∈ packetKinds ∧ (StopsAt TagPassed FatalTag event.attributes ∨
      event.kind ≠ "write_acknowledgement" ∧ StrayAck event.attributes)

/-- **The decoder aborts at these events and at no other.** -/
theorem ibcEventTryFromAbciEvent_aborts_iff :
    (ibcEventTryFromAbciEvent event).Aborts A ↔ FatalEvent event := by
  obtain ⟨kind, attributes⟩ := event
  -- a kind that neither extractor with a panic is called for
  have hother : ∀ {p : Decode IbcEvent}, ¬p.Aborts A → kind ∉ clientKinds → kind ∉ packetKinds →
      (p.Aborts A ↔ FatalEvent ⟨kind, attributes⟩) := fun hp hclient hpacket =>
    iff_of_false hp fun h => h.elim (fun h => hclient h.1) fun h => hpacket h.1
  have hclient : ∀ {p : Decode IbcEvent}, kind ∈ clientKinds → kind ∉ packetKinds →
      (p.Aborts A ↔ (clientExtractAttributesFromTx ⟨kind, attributes⟩).Aborts A) →
      (p.Aborts A ↔ FatalEvent ⟨kind, attributes⟩) := by
    intro p hkind hne hp
    rw [hp, clientExtractAttributesFromTx_aborts_iff, FatalEvent, or_iff_left fun h => hne h.1,
      and_iff_right hkind]
  have hpacket : ∀ make : Packet → IbcEvent, kind ∉ clientKinds → kind ∈ packetKinds →
      kind ≠ "write_acknowledgement" →
      ((make <$> packetTryFromAbciEvent ⟨kind, attributes⟩).Aborts A ↔
        FatalEvent ⟨kind, attributes⟩) := by
    intro make hnot hkind hne
    have hnone : ¬(kind ∈ clientKinds ∧ StopsAt ClientTagPassed FatalHeight attributes) :=
      fun h => hnot h.1
    rw [Prog.aborts_map, packetTryFromAbciEvent_aborts_iff, FatalEvent, or_iff_right hnone,
      and_iff_right hkind, and_iff_right hne]
  unfold ibcEventTryFromAbciEvent
  dsimp only
  split
  case h_2 =>
    refine hclient (by decide) (by decide) ?_
    simp [updateClientTryFromAbciEvent, extractHeaderFromTx_aborts]
  case h_1 | h_3 | h_4 => exact hclient (by decide) (by decide) Prog.aborts_map
  case h_5 | h_6 | h_7 | h_8 =>
    exact hother (Prog.aborts_map.not.mpr connectionExtractAttributesFromTx_aborts) (by decide)
      (by decide)
  case h_9 | h_10 | h_11 | h_12 | h_14 =>
    exact hother (Prog.aborts_map.not.mpr channelExtractAttributesFromTx_aborts) (by decide)
      (by decide)
  case h_13 =>
    refine hother ?_ (by decide) (by decide)
    simp [channelCloseInitTryFromAbciEvent, channelExtractAttributesFromTx_aborts]
  case h_15 | h_17 | h_18 => exact hpacket _ (by decide) (by decide) (by decide)
  case h_16 =>
    rw [writeAcknowledgementTryFromAbciEvent, Prog.aborts_bind_left fun _ => Prog.aborts_pure _,
      extractPacketAndWriteAckFromTx_aborts_iff]
    simp [FatalEvent, clientKinds, packetKinds]
  case h_19 hcreate hupdate hupgrade hmisbehaviour _ _ _ _ _ _ _ _ _ _ hsend hwrite hack htimeout =>
    refine hother (Prog.aborts_fail _) ?_ ?_
    · simpa [clientKinds] using ⟨hcreate, hupdate, hupgrade, hmisbehaviour⟩
    · simpa [packetKinds] using ⟨hsend, hwrite, hack, htimeout⟩

end

/-- **Where the crate's parser panics**: on a number without a `-`. -/
theorem heightOfText_eq_none_iff {s : String} :
    heightOfText s = none ↔ '-' ∉ s.toList ∧ (parseU64 s).isSome := by
  unfold heightOfText
  by_cases hdash : '-' ∈ s.toList
  · obtain ⟨first, rest, hsplit, hfirst⟩ := List.eq_append_cons_of_mem hdash
    obtain ⟨second, others, hrest⟩ := List.exists_cons_of_ne_nil (List.splitOn_ne_nil '-' rest)
    rw [hsplit, List.splitOn_append_cons_self_of_not_mem hfirst, hrest]
    simp only [List.mem_append, List.mem_cons, true_or, or_true, not_true, false_and, iff_false]
    cases parseU64 (String.ofList first) with
    | none => simp
    | some revisionNumber =>
        cases hsecond : parseU64 (String.ofList second) with
        | none => simp [hsecond]
        | some revisionHeight =>
            cases hheight : Height.new revisionNumber revisionHeight <;> simp [hsecond, hheight]
  · rw [List.splitOn_eq_singleton hdash, and_iff_right hdash]
    simp only [String.ofList_toList]
    cases parseU64 s <;> simp

/-- A bare number as the height of a new client is such a text. -/
example : @FatalEvent Crates.reference ⟨"create_client", [("consensus_height", "5")]⟩ :=
  .inl ⟨by decide, [], _, [], rfl, nofun, rfl, by decide +kernel⟩

end HyperspaceLight
