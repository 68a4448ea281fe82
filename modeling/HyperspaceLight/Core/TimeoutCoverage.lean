/-
# Which packets the timeout bound covers

`query_maximum_height_for_timeout_proofs` of `src/primitives/funcs.rs` takes the maximum, over
all undelivered packets, of the height after which a timeout can be proved.  For a packet
whose timestamp is still to come that height is the smaller of the timeout height and the
estimated number of blocks until then, plus one.  The number of blocks counts from the height
of the sink's client on the source, and this height is not added to it, as
`get_timeout_proof_height` of `src/core/packets/utils.rs` does: an absolute height is compared
with a relative one.  So a packet is covered only if it, or another undelivered packet, reaches
the absolute height by chance (`timeoutBound_covers_iff`).
-/

import HyperspaceLight.Core.TimeoutSearch
import HyperspaceLight.Interaction.Trace
import Mathlib.Order.MinMax

namespace HyperspaceLight

open Interaction

/-! ### What is read for a packet -/

/-- An undelivered packet, what is asked for it, and what is answered: the height of the sink's
client on the source and the time of the sink there. -/
structure PendingPacket (S : Sig) where
  packet : PacketInfo
  asked : List (Exchange S Error)
  clientHeight : ℕ
  time : ℕ

namespace PendingPacket

variable {S : Sig} (r : PendingPacket S) (expectedBlockTime : Duration)

/-- The timeout height of the packet. -/
def height : ℕ := r.packet.timeoutHeight.revisionHeight

/-- The estimated number of blocks until the timestamp of the packet. -/
def blocks : ℕ := calculateBlockDelay (r.packet.timeoutTimestamp - r.time) expectedBlockTime

/-- The packet has a timeout height, and its timestamp is still to come. -/
def Awaited : Prop := r.packet.timeoutHeight ≠ ⟨0, 0⟩ ∧ r.time < r.packet.timeoutTimestamp

/-- **The packet is covered by the bound `h`.** -/
def CoveredBy (h : ℕ) : Prop :=
  min r.height (r.clientHeight + r.blocks expectedBlockTime) ≤ h ∧
    (r.clientHeight < r.height → r.clientHeight < h)

/-- The bound that covers the packet. -/
def required : ℕ := min r.height (r.clientHeight + max (r.blocks expectedBlockTime) 1)

/-- The packet has a timeout height of at least `b`, and its timestamp has passed or is as many
blocks away, less one. -/
def Reaches (b : ℕ) : Prop :=
  b ≤ r.height ∧
    (r.packet.timeoutTimestamp ≤ r.time ∨ b ≤ r.blocks expectedBlockTime + 1 ∧ b < u64Bound)

/-- A bound covers a packet from the required height on. -/
theorem coveredBy_iff {h : ℕ} :
    r.CoveredBy expectedBlockTime h ↔ r.required expectedBlockTime ≤ h := by
  unfold CoveredBy required
  omega

/-- **The estimate for a packet**, as a lower bound on the result. -/
theorem le_estimate_iff {b : ℕ} :
    b ≤ timeoutHeightEstimate r.packet r.time expectedBlockTime ↔ r.Reaches expectedBlockTime b := by
  by_cases hpassed : r.packet.timeoutTimestamp ≤ r.time
  · rw [timeoutHeightEstimate_of_le hpassed, Reaches, and_iff_left (.inl hpassed)]
    rfl
  · have hperiod : r.packet.timeoutTimestamp - r.time ≠ 0 := by omega
    have hmin : timeoutHeightEstimate r.packet r.time expectedBlockTime =
        min r.height (min (r.blocks expectedBlockTime + 1) (u64Bound - 1)) := by
      unfold timeoutHeightEstimate
      dsimp only
      rw [if_neg hperiod]
      split_ifs with hless
      · exact (min_eq_left hless.le).symm
      · exact (min_eq_right (not_lt.mp hless)).symm
    have hbound : b ≤ u64Bound - 1 ↔ b < u64Bound := Nat.le_sub_one_iff_lt (by decide)
    rw [hmin, le_min_iff, le_min_iff, hbound, Reaches, or_iff_right hpassed]

/-- What is asked for the packet: the state of the sink's client, and the time there. -/
def Sound (source sink : IbcProvider S) (sourceHeight : Height) : Prop :=
  ∃ t₁ t₂ response cs, r.asked = t₁ ++ t₂ ∧
    (source.queryClientState sourceHeight sink.clientId).Path t₁ (.ok response) ∧
    response.value = some (.ok cs) ∧ cs.latestHeight.revisionHeight = r.clientHeight ∧
    (sink.queryTimestampAt r.clientHeight).Path t₂ (.ok r.time)

end PendingPacket

/-- A channel of the whitelist: what is asked for it, and its undelivered packets. -/
structure ChannelPackets (S : Sig) where
  channel : ChannelId × PortId
  asked : List (Exchange S Error)
  undelivered : List (PendingPacket S)

/-- What is asked for a channel: the undelivered sequences, their packets, and what is asked for
each of these. -/
def ChannelPackets.Sound {S : Sig} (c : ChannelPackets S) (source sink : IbcProvider S)
    (sourceHeight sinkHeight : Height) : Prop :=
  ∃ t₁ t₂ seqs, c.asked = t₁ ++ (t₂ ++ c.undelivered.flatMap PendingPacket.asked) ∧
    (queryUndeliveredSequences sourceHeight sinkHeight c.channel.1 c.channel.2 source sink).Path t₁
      (.ok seqs) ∧
    (source.querySendPackets c.channel.1 c.channel.2 seqs).Path t₂
      (.ok (c.undelivered.map PendingPacket.packet)) ∧
    ∀ r ∈ c.undelivered, r.Sound source sink sourceHeight

/-- `m` is the maximum of the estimates for `rs`, if there are any. -/
def IsMaximum {S : Sig} (expectedBlockTime : Duration) (rs : List (PendingPacket S))
    (m : Option ℕ) : Prop :=
  ∀ b, (∃ h, m = some h ∧ b ≤ h) ↔ ∃ r ∈ rs, r.Reaches expectedBlockTime b

section

variable {S : Sig} {expectedBlockTime : Duration} {rs : List (PendingPacket S)} {m : Option ℕ}

/-- The maximum of nothing is absent. -/
theorem isMaximum_nil : IsMaximum (S := S) expectedBlockTime [] none := fun _ =>
  iff_of_false (fun ⟨_, h, _⟩ => nomatch h) fun ⟨_, h, _⟩ => absurd h List.not_mem_nil

/-- **One more packet.** -/
theorem IsMaximum.push (h : IsMaximum expectedBlockTime rs m) (r : PendingPacket S) :
    IsMaximum expectedBlockTime (rs ++ [r])
      (optionMax m (timeoutHeightEstimate r.packet r.time expectedBlockTime)) := by
  intro b
  have hmax : (∃ k, optionMax m (timeoutHeightEstimate r.packet r.time expectedBlockTime) =
      some k ∧ b ≤ k) ↔ (∃ k, m = some k ∧ b ≤ k) ∨
        b ≤ timeoutHeightEstimate r.packet r.time expectedBlockTime := by
    cases m <;> simp [optionMax]
  rw [hmax, h b, r.le_estimate_iff]
  simp only [List.mem_append, List.mem_singleton, or_and_right, exists_or, exists_eq_left]

variable {source sink : IbcProvider S} {sourceHeight sinkHeight : Height}
  {t : List (Exchange S Error)}

/-- The body of the loop over the packets of a channel. -/
def estimateStep (source sink : IbcProvider S) (sourceHeight : Height)
    (minTimeoutHeight : Option ℕ) (sendPacket : PacketInfo) : Prog S Error (Option ℕ) := do
  let sinkClientState ← source.queryClientState sourceHeight sink.clientId
  let raw ← .okOr (.custom "None") sinkClientState.value
  let sinkClientState ← raw.tryFrom
  let height := sinkClientState.latestHeight
  let timestampAtCreation ← sink.queryTimestampAt height.revisionHeight
  return optionMax minTimeoutHeight
    (timeoutHeightEstimate sendPacket timestampAtCreation sink.expectedBlockTime)

/-- One undelivered packet. -/
theorem estimateStep_path {info : PacketInfo} {m m' : Option ℕ}
    (h : (estimateStep source sink sourceHeight m info).Path t (.ok m')) :
    ∃ r : PendingPacket S, r.packet = info ∧ r.asked = t ∧ r.Sound source sink sourceHeight ∧
      m' = optionMax m (timeoutHeightEstimate r.packet r.time sink.expectedBlockTime) := by
  obtain ⟨t₁, t₂, response, rfl, hresponse, h⟩ := Prog.path_bind_ok.mp h
  obtain ⟨t₂, t₃, raw, rfl, hraw, h⟩ := Prog.path_bind_ok.mp h
  obtain ⟨t₃, t₄, cs, rfl, hcs, h⟩ := Prog.path_bind_ok.mp h
  obtain ⟨t₄, t₅, time, rfl, htime, h⟩ := Prog.path_bind_ok.mp h
  obtain ⟨rfl, hreturn⟩ := Prog.path_pure.mp h
  have hrawNil : t₂ = [] := hraw.eq_nil (Prog.asks_okOr _ _)
  have hcsNil : t₃ = [] := hcs.eq_nil Raw.tryFrom_asks
  subst hrawNil hcsNil
  have hvalue : response.value = some (.ok cs) := by
    rw [Prog.leaf_okOr_ok.mp hraw.leaf, Raw.leaf_tryFrom_ok.mp hcs.leaf]
  refine ⟨⟨info, _, cs.latestHeight.revisionHeight, time⟩, rfl, rfl,
    ⟨t₁, t₄, response, cs, by simp, hresponse, hvalue, rfl, htime⟩, ?_⟩
  exact (Outcome.ok.inj hreturn).symm

/-- **The packets of a channel**, after those in `before`. -/
theorem packetsLoop_path {infos : List PacketInfo} {m m' : Option ℕ}
    {before : List (PendingPacket S)} (hm : IsMaximum sink.expectedBlockTime before m)
    (h : (infos.foldlM (estimateStep source sink sourceHeight) m).Path t (.ok m')) :
    ∃ rs : List (PendingPacket S), rs.map PendingPacket.packet = infos ∧
      rs.flatMap PendingPacket.asked = t ∧ (∀ r ∈ rs, r.Sound source sink sourceHeight) ∧
      IsMaximum sink.expectedBlockTime (before ++ rs) m' := by
  refine Prog.path_foldlM (fun seen m t => ∃ rs : List (PendingPacket S),
    rs.map PendingPacket.packet = seen ∧ rs.flatMap PendingPacket.asked = t ∧
      (∀ r ∈ rs, r.Sound source sink sourceHeight) ∧
      IsMaximum sink.expectedBlockTime (before ++ rs) m)
    ⟨[], rfl, rfl, List.forall_mem_nil _, by rwa [List.append_nil]⟩ ?_ h
  rintro seen info m m' t t' ⟨rs, rfl, rfl, hsound, hmax⟩ - hstep
  obtain ⟨r, rfl, rfl, hr, rfl⟩ := estimateStep_path hstep
  have hall := List.forall_mem_append.mpr ⟨hsound, List.forall_mem_singleton.mpr hr⟩
  refine ⟨rs ++ [r], List.map_append, by simp, hall, ?_⟩
  rw [← List.append_assoc]
  exact hmax.push r

/-- What is asked in a run: the two heights, and then for each channel of the whitelist. -/
structure BoundRun (source sink : IbcProvider S) (channels : List (ChannelPackets S))
    (t : List (Exchange S Error)) : Prop where
  channels_eq : channels.map ChannelPackets.channel = source.channelWhitelist
  asked : ∃ t₁ t₂ sourceHeight sinkHeight sourceTime sinkTime,
    t = t₁ ++ (t₂ ++ channels.flatMap ChannelPackets.asked) ∧
    source.latestHeightAndTimestamp.Path t₁ (.ok (sourceHeight, sourceTime)) ∧
    sink.latestHeightAndTimestamp.Path t₂ (.ok (sinkHeight, sinkTime)) ∧
    ∀ c ∈ channels, c.Sound source sink sourceHeight sinkHeight

/-- The undelivered packets of a run. -/
def undeliveredPackets (channels : List (ChannelPackets S)) : List (PendingPacket S) :=
  channels.flatMap ChannelPackets.undelivered

/-- **The result is the maximum of the estimates** for the undelivered packets of all channels. -/
theorem maximumHeightForTimeoutProofs_path
    (h : (maximumHeightForTimeoutProofs source sink).Path t (.ok m)) :
    ∃ channels, BoundRun source sink channels t ∧
      IsMaximum sink.expectedBlockTime (undeliveredPackets channels) m := by
  obtain ⟨t₁, t₂, ⟨sourceHeight, sourceTime⟩, rfl, hsource, h⟩ := Prog.path_bind_ok.mp h
  obtain ⟨t₂, t₃, ⟨sinkHeight, sinkTime⟩, rfl, hsink, h⟩ := Prog.path_bind_ok.mp h
  suffices hloop : ∃ channels : List (ChannelPackets S),
      channels.map ChannelPackets.channel = source.channelWhitelist ∧
      channels.flatMap ChannelPackets.asked = t₃ ∧
      (∀ c ∈ channels, c.Sound source sink sourceHeight sinkHeight) ∧
      IsMaximum sink.expectedBlockTime (undeliveredPackets channels) m by
    obtain ⟨channels, hchannels, rfl, hsound, hmax⟩ := hloop
    exact ⟨channels, ⟨hchannels, t₁, t₂, sourceHeight, sinkHeight, sourceTime, sinkTime, rfl,
      hsource, hsink, hsound⟩, hmax⟩
  refine Prog.path_foldlM (fun seen m t => ∃ channels : List (ChannelPackets S),
    channels.map ChannelPackets.channel = seen ∧ channels.flatMap ChannelPackets.asked = t ∧
      (∀ c ∈ channels, c.Sound source sink sourceHeight sinkHeight) ∧
      IsMaximum sink.expectedBlockTime (undeliveredPackets channels) m)
    ⟨[], rfl, rfl, List.forall_mem_nil _, isMaximum_nil⟩ ?_ h
  rintro seen ⟨c, p⟩ m m' t t' ⟨channels, rfl, rfl, hsound, hmax⟩ - hstep
  obtain ⟨s₁, s₂, seqs, rfl, hseqs, hstep⟩ := Prog.path_bind_ok.mp hstep
  obtain ⟨s₂, s₃, infos, rfl, hinfos, hstep⟩ := Prog.path_bind_ok.mp hstep
  obtain ⟨rs, rfl, rfl, hrs, hmax'⟩ := packetsLoop_path hmax hstep
  let last : ChannelPackets S := ⟨(c, p), s₁ ++ (s₂ ++ rs.flatMap PendingPacket.asked), rs⟩
  have hlast : last.Sound source sink sourceHeight sinkHeight :=
    ⟨s₁, s₂, seqs, rfl, hseqs, hinfos, hrs⟩
  have hall := List.forall_mem_append.mpr ⟨hsound, List.forall_mem_singleton.mpr hlast⟩
  refine ⟨channels ++ [last], List.map_append, by simp [last], hall, ?_⟩
  rw [undeliveredPackets, List.flatMap_append, List.flatMap_singleton]
  exact hmax'

end

/-! ### A run determines what is read -/

/-- Items whose keys and records are known one by one are known as a list. -/
theorem records_unique {α κ E : Type} {key : α → κ} {asked : α → List E} {Sound : α → Prop}
    (hone : ∀ {a a' : α} {u u' : List E}, Sound a → Sound a' → key a = key a' →
      asked a ++ u = asked a' ++ u' → a = a' ∧ u = u') {l l' : List α} {u u' : List E}
    (hl : ∀ a ∈ l, Sound a) (hl' : ∀ a ∈ l', Sound a) (hkeys : l.map key = l'.map key)
    (ht : l.flatMap asked ++ u = l'.flatMap asked ++ u') : l = l' ∧ u = u' := by
  induction l generalizing l' with
  | nil =>
      obtain rfl : l' = [] := List.map_eq_nil_iff.mp hkeys.symm
      exact ⟨rfl, ht⟩
  | cons a l ih =>
      cases l' with
      | nil => cases hkeys
      | cons a' l' =>
          obtain ⟨hkey, hrest⟩ := List.cons.inj hkeys
          rw [List.flatMap_cons, List.flatMap_cons, List.append_assoc, List.append_assoc] at ht
          obtain ⟨rfl, htail⟩ := hone (hl a List.mem_cons_self) (hl' a' List.mem_cons_self) hkey ht
          obtain ⟨rfl, hu⟩ := ih (fun x hx => hl x (List.mem_cons_of_mem a hx))
            (fun x hx => hl' x (List.mem_cons_of_mem a hx)) hrest htail
          exact ⟨rfl, hu⟩

section

variable {S : Sig} {source sink : IbcProvider S} {sourceHeight sinkHeight : Height}
  {t u u' : List (Exchange S Error)}

/-- What was asked about a packet determines its record. -/
theorem PendingPacket.Sound.unique {r r' : PendingPacket S} (h : r.Sound source sink sourceHeight)
    (h' : r'.Sound source sink sourceHeight) (hpacket : r.packet = r'.packet)
    (ht : r.asked ++ u = r'.asked ++ u') : r = r' ∧ u = u' := by
  obtain ⟨packet, asked, clientHeight, time⟩ := r
  obtain ⟨packet', asked', clientHeight', time'⟩ := r'
  obtain ⟨t₁, t₂, response, cs, hasked, hstate, hvalue, hheight, htime⟩ := h
  obtain ⟨t₁', t₂', response', cs', hasked', hstate', hvalue', hheight', htime'⟩ := h'
  dsimp only at hpacket ht hasked hasked' hheight hheight' htime htime'
  subst hpacket hasked hasked'
  rw [List.append_assoc, List.append_assoc] at ht
  obtain ⟨rfl, hresponse⟩ := hstate.prefix_unique hstate' ht
  obtain rfl := Outcome.ok.inj hresponse
  rw [hvalue, Option.some.injEq, Except.ok.injEq] at hvalue'
  subst hvalue' hheight hheight'
  rw [List.append_cancel_left_eq] at ht
  obtain ⟨rfl, htimes⟩ := htime.prefix_unique htime' ht
  obtain rfl := Outcome.ok.inj htimes
  exact ⟨rfl, List.append_cancel_left ht⟩

/-- What was asked about a channel determines its record. -/
theorem ChannelPackets.Sound.unique {c c' : ChannelPackets S}
    (h : c.Sound source sink sourceHeight sinkHeight)
    (h' : c'.Sound source sink sourceHeight sinkHeight) (hchannel : c.channel = c'.channel)
    (ht : c.asked ++ u = c'.asked ++ u') : c = c' ∧ u = u' := by
  obtain ⟨channel, asked, undelivered⟩ := c
  obtain ⟨channel', asked', undelivered'⟩ := c'
  obtain ⟨t₁, t₂, seqs, hasked, hseqs, hpackets, hsound⟩ := h
  obtain ⟨t₁', t₂', seqs', hasked', hseqs', hpackets', hsound'⟩ := h'
  dsimp only at hchannel ht hasked hasked' hseqs hseqs' hpackets hpackets' hsound hsound'
  subst hchannel hasked hasked'
  simp only [List.append_assoc] at ht
  obtain ⟨rfl, heq⟩ := hseqs.prefix_unique hseqs' ht
  obtain rfl := Outcome.ok.inj heq
  rw [List.append_cancel_left_eq] at ht
  obtain ⟨rfl, heq⟩ := hpackets.prefix_unique hpackets' ht
  rw [List.append_cancel_left_eq] at ht
  obtain ⟨rfl, hu⟩ := records_unique (fun hr hr' => hr.unique hr') hsound hsound'
    (Outcome.ok.inj heq) ht
  exact ⟨rfl, hu⟩

/-- **The packets of a run are determined by it.** -/
theorem BoundRun.unique {channels channels' : List (ChannelPackets S)}
    (h : BoundRun source sink channels t) (h' : BoundRun source sink channels' t) :
    channels = channels' := by
  obtain ⟨hchannels, t₁, t₂, sourceHeight, sinkHeight, _, _, rfl, hsource, hsink, hsound⟩ := h
  obtain ⟨hchannels', t₁', t₂', sourceHeight', sinkHeight', _, _, ht, hsource', hsink', hsound'⟩ :=
    h'
  obtain ⟨rfl, heq⟩ := hsource.prefix_unique hsource' ht
  obtain ⟨rfl, -⟩ := Prod.mk.inj (Outcome.ok.inj heq)
  rw [List.append_cancel_left_eq] at ht
  obtain ⟨rfl, heq⟩ := hsink.prefix_unique hsink' ht
  obtain ⟨rfl, -⟩ := Prod.mk.inj (Outcome.ok.inj heq)
  have hasked : channels.flatMap ChannelPackets.asked ++ [] =
      channels'.flatMap ChannelPackets.asked ++ [] := by
    rw [List.append_nil, List.append_nil]
    exact List.append_cancel_left ht
  exact (records_unique (fun hc hc' => hc.unique hc') hsound hsound'
    (hchannels.trans hchannels'.symm) hasked).1

end

/-- **When the bound covers every pending packet.**  For every source and sink, every whitelist,
every run of `query_maximum_height_for_timeout_proofs` that returns a bound, and all undelivered
packets that it reads: the bound covers each packet with a timeout height whose timestamp is still
to come if and only if for each of these some undelivered packet, itself or another, reaches the
height that is required. -/
theorem timeoutBound_covers_iff {S : Sig} (source sink : IbcProvider S)
    (t : List (Exchange S Error)) (bound : ℕ) (channels : List (ChannelPackets S))
    (h : (queryMaximumHeightForTimeoutProofs source sink).Path t (.ok (some bound)))
    (hread : BoundRun source sink channels t) :
    (∀ r ∈ undeliveredPackets channels, r.Awaited →
        r.CoveredBy sink.expectedBlockTime bound) ↔
      ∀ r ∈ undeliveredPackets channels, r.Awaited → ∃ q ∈ undeliveredPackets channels,
        q.Reaches sink.expectedBlockTime (r.required sink.expectedBlockTime) := by
  obtain ⟨t₁, t₂, r, rfl, hrun, h⟩ := Prog.path_bind_ok.mp h
  cases r with
  | error e => exact nomatch h.2
  | ok m =>
      obtain ⟨rfl, hm⟩ := Prog.path_pure.mp h
      obtain rfl := Outcome.ok.inj hm
      obtain ⟨channels', hread', hmax⟩ :=
        maximumHeightForTimeoutProofs_path (Prog.path_attempt_ok.mp hrun)
      rw [List.append_nil] at hread
      obtain rfl := hread.unique hread'
      refine forall₃_congr fun r hr hawaited => ?_
      rw [r.coveredBy_iff, ← hmax]
      simp

/-! ### A packet that is due at height 40 -/

/-- A packet with a timeout at height 100 and at time 40. -/
def dueAtForty : PacketInfo where
  height := 20
  sequence := 1
  sourcePort := "transfer"
  sourceChannel := "channel-0"
  destinationPort := "transfer"
  destinationChannel := "channel-0"
  channelOrder := "ORDER_UNORDERED"
  data := []
  timeoutHeight := ⟨0, 100⟩
  timeoutTimestamp := 40
  ack := none

/-- A source with one undelivered packet; its client of the sink is at height 30. -/
def dueSource : IbcProvider Static :=
  { (Chain.unavailable (chainInfo "source") : Chain Static).toIbcProvider with
    latestHeightAndTimestamp := pure (height0 100, .fromNanoseconds 100)
    channelWhitelist := [(channel0, transferPort)]
    queryChannelEnd := fun _ _ _ => pure (proven (some (.ok (openEnd .unordered))))
    queryPacketCommitments := fun _ _ _ => pure [1]
    querySendPackets := fun _ _ _ => pure [dueAtForty]
    queryClientState := fun _ _ => pure (proven (some (.ok ⟨height0 30⟩))) }

/-- A sink with a block a nanosecond that has received nothing. -/
def dueSink : IbcProvider Static :=
  { estimateSink with
    latestHeightAndTimestamp := pure (height0 35, .fromNanoseconds 35)
    queryUnreceivedPackets := fun _ _ _ seqs => pure seqs }

/-- The bound of the example chains. -/
theorem dueAtForty_bound :
    (queryMaximumHeightForTimeoutProofs dueSource dueSink).Path [] (.ok (some 11)) :=
  ⟨rfl, rfl⟩

/-- What is read for it. -/
def dueChannels : List (ChannelPackets Static) :=
  [⟨(channel0, transferPort), [], [⟨dueAtForty, [], 30, 30⟩]⟩]

/-- The run that computes it. -/
theorem dueChannels_run : BoundRun dueSource dueSink dueChannels [] where
  channels_eq := rfl
  asked := by
    refine ⟨[], [], height0 100, height0 35, .fromNanoseconds 100, .fromNanoseconds 35, rfl,
      ⟨rfl, rfl⟩, ⟨rfl, rfl⟩, fun c hc => ?_⟩
    rw [List.mem_singleton.mp hc]
    refine ⟨[], [], [1], rfl, ⟨rfl, rfl⟩, ⟨rfl, rfl⟩, fun r hr => ?_⟩
    rw [List.mem_singleton.mp hr]
    exact ⟨[], [], proven (some (.ok ⟨height0 30⟩)), ⟨height0 30⟩, rfl, ⟨rfl, rfl⟩, rfl, rfl,
      ⟨rfl, rfl⟩⟩

/-- The condition for this run. -/
theorem dueAtForty_covers_iff :
    (∀ r ∈ undeliveredPackets dueChannels, r.Awaited → r.CoveredBy 1 11) ↔
      ∀ r ∈ undeliveredPackets dueChannels, r.Awaited → ∃ q ∈ undeliveredPackets dueChannels,
        q.Reaches 1 (r.required 1) :=
  timeoutBound_covers_iff dueSource dueSink [] 11 dueChannels dueAtForty_bound dueChannels_run

/-- **The bound is not above the client's height**: ten blocks after height 30 the packet has
timed out, and the bound is 11. -/
theorem dueAtForty_not_covered :
    ¬∀ (S : Sig) (source sink : IbcProvider S) (t : List (Exchange S Error)) (bound : ℕ)
      (channels : List (ChannelPackets S)),
      (queryMaximumHeightForTimeoutProofs source sink).Path t (.ok (some bound)) →
        BoundRun source sink channels t → ∀ r ∈ undeliveredPackets channels, r.Awaited →
          r.CoveredBy sink.expectedBlockTime bound := by
  intro h
  have hcovered := h Static dueSource dueSink [] 11 dueChannels dueAtForty_bound dueChannels_run
    ⟨dueAtForty, [], 30, 30⟩ (List.mem_singleton_self _) ⟨by decide, by decide⟩
  have habove : 30 < 11 := hcovered.2 (by decide)
  omega

end HyperspaceLight
