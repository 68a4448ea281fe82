/-
# What a packet event carries

`src/cosmos/events.rs`: `extract_packet_and_write_ack_from_tx` read backwards.  A
chain writes a packet into an event as nine attributes of text
(`EventPacket.attributes`, and one more for an acknowledgement).  The extractor
folds over the attributes in the order they come in, among attributes of other
keys that it skips.

Each of the nine attributes overwrites one field and no two share a field
(`PacketAttribute.put`), so their order does not matter and nothing of the default
packet is left: the extractor returns what was written (`packetEvent_decodes`).
That a printed number parses back is proved here, as is that of an identifier the
crate accepts; of the crate's parser for heights it is assumed (`HeightTexts`).
-/

import HyperspaceLight.Cosmos.Events
import HyperspaceLight.Primitives.Traits
import Mathlib.Data.List.Nodup

namespace HyperspaceLight

open Interaction

/-! ### Folds whose steps commute -/

section Folds

variable {m : Type → Type} [Monad m] [LawfulMonad m] {σ α β : Type}

/-- **Commuting steps may come in any order.** -/
theorem foldlM_perm {f : σ → α → m σ} {xs ys : List α} (hperm : xs.Perm ys)
    (hcomm : ∀ x ∈ xs, ∀ y ∈ xs, ∀ s, (f s x >>= (f · y)) = (f s y >>= (f · x))) (s : σ) :
    xs.foldlM f s = ys.foldlM f s := by
  induction hperm generalizing s with
  | nil => rfl
  | cons x _ ih =>
      rw [List.foldlM_cons, List.foldlM_cons]
      refine bind_congr fun s' => ih (fun a ha b hb => ?_) s'
      exact hcomm a (List.mem_cons_of_mem _ ha) b (List.mem_cons_of_mem _ hb)
  | swap x y l =>
      have hxy := hcomm y (by simp) x (by simp) s
      simp only [List.foldlM_cons, ← bind_assoc, hxy]
  | trans hxy _ ih₁ ih₂ =>
      rw [ih₁ hcomm s]
      exact ih₂ (fun a ha b hb => hcomm a (hxy.mem_iff.mpr ha) b (hxy.mem_iff.mpr hb)) s

/-- **A fold over texts, in any order and among others.**  The texts `f` knows
are those of `bs`, each step over one of them is pure, and the steps commute. -/
theorem foldlM_texts {f : σ → α → m σ} {known : α → Bool} {text : β → α} (put : β → σ → σ)
    {xs : List α} {bs : List β} (hperm : (xs.filter known).Perm (bs.map text))
    (hskip : ∀ x, known x = false → ∀ s, f s x = pure s)
    (hput : ∀ b ∈ bs, ∀ s, f s (text b) = pure (put b s))
    (hcomm : ∀ b ∈ bs, ∀ c ∈ bs, ∀ s, put b (put c s) = put c (put b s)) (s : σ) :
    xs.foldlM f s = pure (bs.foldl (fun s b => put b s) s) := by
  -- the other texts are skipped
  have hskipped : (fun s x => if known x then f s x else pure s) = f := by
    funext s x
    cases hx : known x
    · exact (hskip x hx s).symm
    · rfl
  have hfilter : xs.foldlM f s = (xs.filter known).foldlM f s := by
    rw [List.foldlM_filter, hskipped]
  rw [hfilter, foldlM_perm hperm ?_ s, List.foldlM_map]
  · -- in the order of `bs`
    clear hperm hcomm hfilter
    induction bs generalizing s with
    | nil => rfl
    | cons b bs ih =>
        rw [List.foldlM_cons, hput b (List.mem_cons_self ..), pure_bind,
          ih (fun c hc => hput c (List.mem_cons_of_mem _ hc))]
        rfl
  · intro x hx y hy s
    obtain ⟨b, hb, rfl⟩ := List.mem_map.mp (hperm.mem_iff.mp hx)
    obtain ⟨c, hc, rfl⟩ := List.mem_map.mp (hperm.mem_iff.mp hy)
    rw [hput b hb, hput c hc, pure_bind, pure_bind, hput c hc, hput b hb, hcomm c hc b hb]

end Folds

/-! ### Printed numbers parse back -/

/-- The value of digits is the one that the library reads. -/
theorem digitsValue_eq {cs : List Char} (h : ∀ c ∈ cs, c.isDigit = true) (n : ℕ) :
    digitsValue cs n = some (Nat.ofDigitChars 10 cs n) := by
  induction cs generalizing n with
  | nil => rfl
  | cons c cs ih =>
      have hc := h c (List.mem_cons_self ..)
      have hcs := fun d hd => h d (List.mem_cons_of_mem _ hd)
      rw [digitsValue, if_pos hc, ih hcs, Nat.ofDigitChars_cons, Nat.mul_comm]

/-- A printed number has only digits. -/
theorem toString_isDigit {n : ℕ} {c : Char} (hc : c ∈ (toString n).toList) : c.isDigit = true := by
  have hlist : (toString n).toList = Nat.toDigits 10 n := Nat.toList_repr
  rw [hlist] at hc
  exact Nat.isDigit_of_mem_toDigits (by omega) (by omega) hc

/-- **A printed `u64` parses back.** -/
theorem parseU64_toString {n : ℕ} (hn : n < u64Bound) : parseU64 (toString n) = some n := by
  have hlist : (toString n).toList = Nat.toDigits 10 n := Nat.toList_repr
  have hdigits : ∀ c ∈ Nat.toDigits 10 n, c.isDigit = true :=
    fun c hc => toString_isDigit (hlist ▸ hc)
  obtain ⟨c, cs, hcs⟩ := List.exists_cons_of_ne_nil (Nat.toDigits_ne_nil (n := n) (b := 10))
  -- a digit is no sign
  have hsign : c ≠ '+' := by
    rintro rfl
    exact absurd (hdigits '+' (hcs ▸ List.mem_cons_self ..)) (by decide)
  have hvalue : digitsValue (c :: cs) 0 = some n := by
    rw [← hcs, digitsValue_eq hdigits, Nat.ofDigitChars_ten_toDigits]
  unfold parseU64
  rw [hlist, hcs]
  split
  · rename_i heq
    exact absurd (List.cons.inj heq).1 hsign
  · simp [hvalue, hn]

/-- A valid identifier parses back. -/
theorem parseIdent_text [Crates] {k : IdKind} {a : Ident k} (h : a.Valid) :
    parseIdent k a.text = pure a := by
  rw [parseIdent, h.parse_text]
  rfl

/-! ### The attributes of a packet -/

/-- `Display for Height`. -/
def heightText (revisionNumber revisionHeight : ℕ) : String :=
  toString revisionNumber ++ "-" ++ toString revisionHeight

/-- `FromStr for Height` undoes `Display`, and refuses a zero revision height with
`HeightErrorDetail::ZeroHeight`. -/
structure HeightTexts [Crates] : Prop where
  parse : ∀ h : Height, h.revisionNumber < u64Bound → h.revisionHeight < u64Bound →
    Crates.heightFromStr (heightText h.revisionNumber h.revisionHeight) = some (.ok h)
  zero : ∀ revisionNumber < u64Bound,
    Crates.heightFromStr (heightText revisionNumber 0) = some (.error .zeroHeight)

/-- The four identifiers of a packet are valid. -/
structure Packet.ValidIdents [Crates] (packet : Packet) : Prop where
  sourcePort : packet.sourcePort.Valid
  sourceChannel : packet.sourceChannel.Valid
  destinationPort : packet.destinationPort.Valid
  destinationChannel : packet.destinationChannel.Valid

/-- A packet that an event can carry: its numbers are `u64` and its data is text.
An absent timeout height is written as a zero height of some revision. -/
structure EventPacket where
  packet : Packet
  data : String
  nanoseconds : ℕ
  noTimeoutRevision : ℕ
  data_eq : packet.data = utf8 data
  timestamp_eq : packet.timeoutTimestamp = .fromNanoseconds nanoseconds
  sequence_lt : packet.sequence < u64Bound
  nanoseconds_lt : nanoseconds < u64Bound
  noTimeoutRevision_lt : noTimeoutRevision < u64Bound
  timeoutHeight_lt : ∀ h, packet.timeoutHeight = .atHeight h →
    h.revisionNumber < u64Bound ∧ h.revisionHeight < u64Bound

/-- How a timeout height is written. -/
def TimeoutHeight.text (noTimeoutRevision : ℕ) : TimeoutHeight → String
  | never => heightText noTimeoutRevision 0
  | atHeight h => heightText h.revisionNumber h.revisionHeight

/-- One attribute of a packet event, with the value it stands for. -/
inductive PacketAttribute where
  | sourcePort (a : PortId)
  | sourceChannel (a : ChannelId)
  | destinationPort (a : PortId)
  | destinationChannel (a : ChannelId)
  | sequence (n : ℕ)
  | timeoutHeight (noTimeoutRevision : ℕ) (t : TimeoutHeight)
  | timeoutTimestamp (nanoseconds : ℕ)
  | data (s : String)
  | ack (s : String)

namespace PacketAttribute

/-- The key and the value in an event. -/
def text : PacketAttribute → String × String
  | sourcePort a => ("packet_src_port", a.text)
  | sourceChannel a => ("packet_src_channel", a.text)
  | destinationPort a => ("packet_dst_port", a.text)
  | destinationChannel a => ("packet_dst_channel", a.text)
  | sequence n => ("packet_sequence", toString n)
  | timeoutHeight r t => ("packet_timeout_height", t.text r)
  | timeoutTimestamp n => ("packet_timeout_timestamp", toString n)
  | data s => ("packet_data", s)
  | ack s => ("packet_ack", s)

/-- What the attribute does to the packet and the acknowledgement read so far. -/
def put : PacketAttribute → Packet × Bytes → Packet × Bytes
  | sourcePort a, (p, w) => ({ p with sourcePort := a }, w)
  | sourceChannel a, (p, w) => ({ p with sourceChannel := a }, w)
  | destinationPort a, (p, w) => ({ p with destinationPort := a }, w)
  | destinationChannel a, (p, w) => ({ p with destinationChannel := a }, w)
  | sequence n, (p, w) => ({ p with sequence := n }, w)
  | timeoutHeight _ t, (p, w) => ({ p with timeoutHeight := t }, w)
  | timeoutTimestamp n, (p, w) => ({ p with timeoutTimestamp := .fromNanoseconds n }, w)
  | data s, (p, w) => ({ p with data := utf8 s }, w)
  | ack s, (p, _) => (p, utf8 s)

/-- The values a field of the packet can have. -/
def Fits [Crates] : PacketAttribute → Prop
  | sourcePort a | destinationPort a => a.Valid
  | sourceChannel a | destinationChannel a => a.Valid
  | sequence n => n < u64Bound
  | timeoutHeight r t => r < u64Bound ∧ ∀ h, t = .atHeight h →
      h.revisionNumber < u64Bound ∧ h.revisionHeight < u64Bound
  | timeoutTimestamp n => n < u64Bound
  | _ => True

/-- **Two attributes of different keys commute**: each writes one field. -/
theorem put_comm {a b : PacketAttribute} (h : a.text.1 ≠ b.text.1) (s : Packet × Bytes) :
    a.put (b.put s) = b.put (a.put s) := by
  cases a <;> cases b <;> first | rfl | exact absurd rfl h

end PacketAttribute

/-- The keys the extractor knows. -/
def packetKeys : List String :=
  ["packet_src_port", "packet_src_channel", "packet_dst_port", "packet_dst_channel",
    "packet_sequence", "packet_timeout_height", "packet_timeout_timestamp", "packet_data",
    "packet_ack"]

/-- The attributes of a packet and, where there is one, of its acknowledgement. -/
def EventPacket.attributes (e : EventPacket) (ack : Option String) : List PacketAttribute :=
  [.sourcePort e.packet.sourcePort, .sourceChannel e.packet.sourceChannel,
    .destinationPort e.packet.destinationPort, .destinationChannel e.packet.destinationChannel,
    .sequence e.packet.sequence, .timeoutHeight e.noTimeoutRevision e.packet.timeoutHeight,
    .timeoutTimestamp e.nanoseconds, .data e.data] ++ ack.toList.map .ack

/-! ### What the extractor reads -/

section Extractor

variable {e : EventPacket} {ack : Option String}

/-- No two attributes of a packet have one key. -/
theorem EventPacket.attributes_keys {a b : PacketAttribute} (ha : a ∈ e.attributes ack)
    (hb : b ∈ e.attributes ack) (hkey : a.text.1 = b.text.1) : a = b := by
  have hnodup : ((e.attributes ack).map fun a => a.text.1).Nodup := by
    cases ack
    · show ["packet_src_port", "packet_src_channel", "packet_dst_port", "packet_dst_channel",
        "packet_sequence", "packet_timeout_height", "packet_timeout_timestamp",
        "packet_data"].Nodup
      decide
    · show packetKeys.Nodup
      decide
  exact List.inj_on_of_nodup_map hnodup ha hb hkey

/-- Every attribute of a packet fits its field. -/
theorem EventPacket.attributes_fits [Crates] (hvalid : e.packet.ValidIdents) {a : PacketAttribute}
    (ha : a ∈ e.attributes ack) : a.Fits := by
  simp only [attributes, List.mem_append, List.mem_cons, List.not_mem_nil, or_false,
    List.mem_map] at ha
  obtain (rfl | rfl | rfl | rfl | rfl | rfl | rfl | rfl) | ⟨s, -, rfl⟩ := ha
  case inl.inl => exact hvalid.sourcePort
  case inl.inr.inl => exact hvalid.sourceChannel
  case inl.inr.inr.inl => exact hvalid.destinationPort
  case inl.inr.inr.inr.inl => exact hvalid.destinationChannel
  case inl.inr.inr.inr.inr.inl => exact e.sequence_lt
  case inl.inr.inr.inr.inr.inr.inl => exact ⟨e.noTimeoutRevision_lt, e.timeoutHeight_lt⟩
  case inl.inr.inr.inr.inr.inr.inr.inl => exact e.nanoseconds_lt
  all_goals trivial

/-- The attributes of a packet leave nothing of what was there before. -/
theorem EventPacket.attributes_put (s : Packet × Bytes) :
    (e.attributes ack).foldl (fun s a => a.put s) s =
      (e.packet, (ack.map utf8).getD s.2) := by
  have hfields : (e.attributes ack).foldl (fun s a => a.put s) s =
      ({ e.packet with data := utf8 e.data, timeoutTimestamp := .fromNanoseconds e.nanoseconds },
        (ack.map utf8).getD s.2) := by
    cases ack <;> rfl
  rw [hfields, ← e.data_eq, ← e.timestamp_eq]

variable [Crates]

/-- A printed timeout height parses back. -/
theorem parseTimeoutHeight_text (hheight : HeightTexts) {r : ℕ} {t : TimeoutHeight}
    (hfits : (PacketAttribute.timeoutHeight r t).Fits) : parseTimeoutHeight (t.text r) = pure t := by
  obtain ⟨hr, ht⟩ := hfits
  cases t with
  | never =>
      rw [parseTimeoutHeight, TimeoutHeight.text, parseHeight, hheight.zero r hr]
      rfl
  | atHeight h =>
      have hparse := hheight.parse h (ht h rfl).1 (ht h rfl).2
      rw [parseTimeoutHeight, TimeoutHeight.text, parseHeight, hparse]
      rfl

/-- **The extractor returns what was written**, whatever the order of the
attributes and whatever other attributes stand between them. -/
theorem extractPacketAndWriteAckFromTx_attributes (hheight : HeightTexts)
    (hvalid : e.packet.ValidIdents) {event : AbciEvent}
    (hperm : (event.attributes.filter fun tag => decide (tag.1 ∈ packetKeys)).Perm
      ((e.attributes ack).map PacketAttribute.text)) :
    extractPacketAndWriteAckFromTx event = pure (e.packet, utf8 (ack.getD "")) := by
  have hresult : (e.attributes ack).foldl (fun s a => a.put s) (Packet.default, []) =
      (e.packet, utf8 (ack.getD "")) := by
    rw [e.attributes_put]
    cases ack <;> rfl
  unfold extractPacketAndWriteAckFromTx
  rw [foldlM_texts PacketAttribute.put hperm, hresult]
  · -- a key the extractor does not know
    rintro ⟨key, value⟩ hkey ⟨packet, w⟩
    have hkey := of_decide_eq_false hkey
    simp only [packetKeys, List.mem_cons, List.not_mem_nil, or_false, not_or] at hkey
    obtain ⟨h₁, h₂, h₃, h₄, h₅, h₆, h₇, h₈, h₉⟩ := hkey
    simp only
  · -- one it knows
    rintro a ha ⟨packet, w⟩
    have hfits := e.attributes_fits hvalid ha
    cases a with
    | sourcePort a | sourceChannel a | destinationPort a | destinationChannel a =>
        simp [PacketAttribute.text, PacketAttribute.put, parseIdent_text hfits]
    | sequence n =>
        have hparse : parseU64 (toString n) = some n := parseU64_toString hfits
        simp only [PacketAttribute.text, hparse]
        rfl
    | timeoutHeight r t =>
        simp [PacketAttribute.text, PacketAttribute.put, parseTimeoutHeight_text hheight hfits]
    | timeoutTimestamp n =>
        have hparse : parseU64 (toString n) = some n := parseU64_toString hfits
        simp only [PacketAttribute.text, hparse]
        rfl
    | data s => rfl
    | ack s => rfl
  · -- the steps commute
    intro a ha b hb s
    by_cases hab : a = b
    · rw [hab]
    · exact PacketAttribute.put_comm (fun hkey => hab (e.attributes_keys ha hb hkey)) s

/-- A packet event whose attributes have no acknowledgement, or an empty one. -/
theorem packetTryFromAbciEvent_attributes (hheight : HeightTexts)
    (hvalid : e.packet.ValidIdents) {event : AbciEvent}
    (hperm : (event.attributes.filter fun tag => decide (tag.1 ∈ packetKeys)).Perm
      ((e.attributes ack).map PacketAttribute.text)) (hack : ack.getD "" = "") :
    packetTryFromAbciEvent event = pure e.packet := by
  rw [packetTryFromAbciEvent, extractPacketAndWriteAckFromTx_attributes hheight hvalid hperm, hack]
  rfl

end Extractor

/-- **Decoding a packet event undoes its encoding.**  The attributes that the
extractor knows are those of a packet with valid identifiers and its acknowledgement, in
any order, with any others between them.  The extractor then returns the packet and the
acknowledgement, and each of the four kinds of packet events decodes to the event
that holds them; all but a written acknowledgement come without one. -/
theorem packetEvent_decodes [Crates] (hheight : HeightTexts) (e : EventPacket)
    (hvalid : e.packet.ValidIdents) (ack : Option String) (attributes : List (String × String))
    (hperm : (attributes.filter fun tag => decide (tag.1 ∈ packetKeys)).Perm
      ((e.attributes ack).map PacketAttribute.text)) :
    (∀ kind, extractPacketAndWriteAckFromTx ⟨kind, attributes⟩ =
        pure (e.packet, utf8 (ack.getD ""))) ∧
      ibcEventTryFromAbciEvent ⟨"write_acknowledgement", attributes⟩ =
        pure (.writeAcknowledgement e.packet (utf8 (ack.getD ""))) ∧
      (ack.getD "" = "" →
        ibcEventTryFromAbciEvent ⟨"send_packet", attributes⟩ = pure (.sendPacket e.packet) ∧
        ibcEventTryFromAbciEvent ⟨"acknowledge_packet", attributes⟩ =
          pure (.acknowledgePacket e.packet) ∧
        ibcEventTryFromAbciEvent ⟨"timeout_packet", attributes⟩ =
          pure (.timeoutPacket e.packet)) := by
  have hextract : ∀ kind, extractPacketAndWriteAckFromTx ⟨kind, attributes⟩ =
      pure (e.packet, utf8 (ack.getD "")) :=
    fun kind => extractPacketAndWriteAckFromTx_attributes hheight hvalid hperm
  refine ⟨hextract, ?_, fun hack => ?_⟩
  · show writeAcknowledgementTryFromAbciEvent _ = _
    rw [writeAcknowledgementTryFromAbciEvent, hextract]
    rfl
  have hpacket : ∀ kind, packetTryFromAbciEvent ⟨kind, attributes⟩ = pure e.packet :=
    fun kind => packetTryFromAbciEvent_attributes hheight hvalid hperm hack
  refine ⟨?_, ?_, ?_⟩
  · show sendPacketTryFromAbciEvent _ = _
    rw [sendPacketTryFromAbciEvent, hpacket]
    rfl
  · show acknowledgePacketTryFromAbciEvent _ = _
    rw [acknowledgePacketTryFromAbciEvent, hpacket]
    rfl
  · show timeoutPacketTryFromAbciEvent _ = _
    rw [timeoutPacketTryFromAbciEvent, hpacket]
    rfl

/-! ### The parser for heights -/

/-- The parts of a printed height. -/
theorem heightText_splitOn (revisionNumber revisionHeight : ℕ) :
    (heightText revisionNumber revisionHeight).toList.splitOn '-' =
      [(toString revisionNumber).toList, (toString revisionHeight).toList] := by
  have hdigits : ∀ n : ℕ, '-' ∉ Nat.toDigits 10 n :=
    fun n h => absurd (Nat.isDigit_of_mem_toDigits (by omega) (by omega) h) (by decide)
  have hlist : (heightText revisionNumber revisionHeight).toList =
      ['-'].intercalate [(toString revisionNumber).toList, (toString revisionHeight).toList] := by
    simp [heightText, List.intercalate_cons_cons]
  rw [hlist, List.splitOn_intercalate '-' ?_ (List.cons_ne_nil _ _)]
  simp [hdigits]

/-- **A printed height parses back.** -/
theorem heightOfText_heightText {revisionNumber revisionHeight : ℕ}
    (hrn : revisionNumber < u64Bound) (hrh : revisionHeight < u64Bound) :
    heightOfText (heightText revisionNumber revisionHeight) =
      match Height.new revisionNumber revisionHeight with
      | some h => some (.ok h)
      | none => some (.error .zeroHeight) := by
  cases hnew : Height.new revisionNumber revisionHeight <;>
    simp only [heightOfText, heightText_splitOn, String.ofList_toList, parseU64_toString hrn,
      parseU64_toString hrh, hnew]

/-- The crate's parser undoes the printer. -/
theorem heightTexts_reference : @HeightTexts Crates.reference := by
  let _ := Crates.reference
  refine ⟨fun h hrn hrh => ?_, fun r hr => ?_⟩
  · show heightOfText _ = _
    rw [heightOfText_heightText hrn hrh, Height.new_eq_some.mpr ⟨rfl, rfl⟩]
  · show heightOfText _ = _
    rw [heightOfText_heightText hr (by decide)]
    rfl

/-- A packet that times out by its height only. -/
def shippedPacket : EventPacket where
  packet := {
    sequence := 12
    sourcePort := transferPort
    sourceChannel := channel0
    destinationPort := transferPort
    destinationChannel := channel0
    data := utf8 "data"
    timeoutHeight := .atHeight (height0 45)
    timeoutTimestamp := ⟨none⟩ }
  data := "data"
  nanoseconds := 0
  noTimeoutRevision := 0
  data_eq := rfl
  timestamp_eq := rfl
  sequence_lt := by decide
  nanoseconds_lt := by decide
  noTimeoutRevision_lt := by decide
  timeoutHeight_lt h hh := by
    obtain rfl := TimeoutHeight.atHeight.inj hh
    decide

/-- The theorem at work: the attributes come backwards, after one that is not read. -/
theorem shippedPacket_decodes :
    @ibcEventTryFromAbciEvent Crates.reference ⟨"write_acknowledgement",
        ("module", "ibc_channel") ::
          (((shippedPacket.attributes (some "ok")).map PacketAttribute.text).reverse)⟩ =
      pure (.writeAcknowledgement shippedPacket.packet (utf8 "ok")) := by
  let _ := Crates.reference
  have hvalid : shippedPacket.packet.ValidIdents := ⟨by decide, by decide, by decide, by decide⟩
  refine (packetEvent_decodes heightTexts_reference shippedPacket hvalid (some "ok") _ ?_).2.1
  rw [List.filter_cons_of_neg (by decide), List.filter_eq_self.mpr]
  · exact List.reverse_perm _
  · intro tag htag
    rw [List.mem_reverse] at htag
    revert tag
    decide

end HyperspaceLight
