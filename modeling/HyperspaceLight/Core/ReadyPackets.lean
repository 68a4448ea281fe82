/-
# What a reported packet has passed

What `query_ready_and_timed_out_packets` promises about the messages it returns,
over two chains whose states do not move.  Over such chains `p.Returns a` reads
"the answer to `p` is `a`".  The promise is stated in terms of these answers
(`RecvReady`, `AckReady`, `TimeoutReady`), not of the function's own control flow.

It is kept but for one condition: nothing looks whether the sink's end of the
channel is closed before an acknowledgement is reported (`AckFound`).

Two queries of the interface only report what the node stored, and the function
relies on their documentation (`HonestQueries`): the packet queries return
packets of the channel and the sequences they were asked for, and a consensus
state that is missing is a failed query.

The proof follows the program: what one channel view says (`queryChannelView_some`),
what a proof height says (`queryReadyHeight_some`), one lemma for each round of the
three loops, and the invariant rule of a fold for the loops.
-/

import HyperspaceLight.Core.Packets

namespace HyperspaceLight

open Interaction

/-- What the documentation of the queries promises. -/
structure HonestQueries (source sink : Chain Static) : Prop where
  sent : ∀ c p ns infos, (source.querySendPackets c p ns).Returns infos → ∀ i ∈ infos,
    i.sequence ∈ ns ∧ i.sourcePort = p.text ∧ i.sourceChannel = c.text
  received : ∀ c p ns infos, (source.queryRecvPackets c p ns).Returns infos → ∀ i ∈ infos,
    i.sequence ∈ ns ∧ i.destinationPort = p.text ∧ i.destinationChannel = c.text
  unreceivedPackets : ∀ h c p ns ms, (sink.queryUnreceivedPackets h c p ns).Returns ms →
    ∀ n ∈ ms, n ∈ ns
  unreceivedAcks : ∀ h c p ns ms, (sink.queryUnreceivedAcknowledgements h c p ns).Returns ms →
    ∀ n ∈ ms, n ∈ ns
  consensus : ∀ h id t r, (sink.queryClientConsensus h id t).Returns r → r.value.isSome

section Ready

variable (source sink : Chain Static) (tips : Tips)

/-- Both ends of a channel, its delay and the height of the source's client on
the sink, as the chains answer them at the tips. -/
structure ChannelAt (c : ChannelId) (p : PortId) (view : ChannelView) : Prop where
  sourceEnd : Decoded (source.queryChannelEnd tips.sourceHeight c p) view.sourceChannelEnd
  openOrClosed : view.sourceChannelEnd.state = .open ∨ view.sourceChannelEnd.state = .closed
  connection : ∃ id connectionEnd, view.sourceChannelEnd.connectionHops.head? = some id ∧
    Decoded (source.queryConnectionEnd tips.sourceHeight id) connectionEnd ∧
      connectionEnd.delayPeriod = view.delayPeriod
  sinkEnd : ∃ c', view.sourceChannelEnd.counterparty.channelId = some c' ∧
    Decoded (sink.queryChannelEnd tips.sinkHeight c' view.sourceChannelEnd.counterparty.portId)
      view.sinkChannelEnd
  sourceClient : ∃ clientState, Decoded (sink.queryClientState tips.sinkHeight source.clientId)
    clientState ∧ clientState.latestHeight = view.latestSourceHeightOnSink

/-- A sequence the source has committed to and the sink has not received. -/
def Undelivered (c : ChannelId) (p : PortId) (n : ℕ) : Prop :=
  ∃ channelEnd c' ns, Decoded (source.queryChannelEnd tips.sourceHeight c p) channelEnd ∧
    channelEnd.counterparty.channelId = some c' ∧
    (source.queryPacketCommitments tips.sourceHeight c p).Returns ns ∧ n ∈ ns ∧
    if channelEnd.ordering = .unordered then
      ∃ ms, (sink.queryUnreceivedPackets tips.sinkHeight c' channelEnd.counterparty.portId
        ns).Returns ms ∧ n ∈ ms
    else
      ∃ r, (sink.queryNextSequenceRecv tips.sinkHeight channelEnd.counterparty.portId
        c').Returns r ∧ r.value ≤ n

/-- A sequence the source has acknowledged and the sink has not seen the
acknowledgement of. -/
def UndeliveredAck (c : ChannelId) (p : PortId) (n : ℕ) : Prop :=
  ∃ channelEnd c' ns ms, Decoded (source.queryChannelEnd tips.sourceHeight c p) channelEnd ∧
    channelEnd.counterparty.channelId = some c' ∧
    (source.queryPacketAcknowledgements tips.sourceHeight c p).Returns ns ∧ n ∈ ns ∧
    (sink.queryUnreceivedAcknowledgements tips.sinkHeight c' channelEnd.counterparty.portId
      ns).Returns ms ∧ n ∈ ms

/-- `t` can carry the proof of something the source stored at height `created`:
the source's client on the sink has a consensus state at `t`, not above its
latest height, and the delay since the update to `t` is over on the sink. -/
structure ReadyProofHeight (view : ChannelView) (created : ℕ) (t : Height) : Prop where
  created_le : created ≤ t.revisionHeight
  le_latest : t ≤ view.latestSourceHeightOnSink
  consensus : ∃ r raw, (sink.queryClientConsensus tips.sinkHeight source.clientId t).Returns r ∧
    r.value = some raw
  delay : ∃ updateHeight updateTime,
    (sink.queryClientUpdateTimeAndHeight source.clientId t).Returns (updateHeight, updateTime) ∧
      DelayOver tips.sinkTimestamp tips.sinkHeight updateTime updateHeight view.delayPeriod
        (calculateBlockDelay view.delayPeriod sink.expectedBlockTime)

/-- `t` can carry the proof that the sink had not received `packet` in time: it is
at or above the timeout height, the sink's client on the source has a consensus
state at `t` that has reached the timeout timestamp, and the delay since the
update to `t` is over on the source. -/
structure TimeoutProofHeight (view : ChannelView) (packet : Packet) (t : Height) : Prop where
  timeoutHeight_le : ∃ timeoutHeight, packet.timeoutHeight = .atHeight timeoutHeight ∧
    timeoutHeight ≤ t
  consensus : ∃ r time, (source.queryClientConsensus tips.sourceHeight sink.clientId t).Returns r ∧
    consensusTime r = some time ∧ packet.timeoutTimestamp.nanoseconds ≤ time.nanoseconds
  delay : ∃ updateHeight updateTime,
    (source.queryClientUpdateTimeAndHeight sink.clientId t).Returns (updateHeight, updateTime) ∧
      DelayOver tips.sourceTimestamp tips.sourceHeight updateTime updateHeight view.delayPeriod
        (calculateBlockDelay view.delayPeriod source.expectedBlockTime)

variable [Crates]

/-- A sent packet, as the source reports it. -/
structure SentPacket (c : ChannelId) (p : PortId) (info : PacketInfo) (packet : Packet) : Prop where
  whitelisted : (c, p) ∈ source.channelWhitelist
  reported : ∃ ns infos, (source.querySendPackets c p ns).Returns infos ∧ info ∈ infos
  converted : (packetInfoToPacket info : Prog Static Error Packet).Returns packet
  port : packet.sourcePort = p
  channel : packet.sourceChannel = c
  undelivered : Undelivered source sink tips c p packet.sequence

/-- A `MsgRecvPacket` that is ready. -/
structure RecvReady (c : ChannelId) (p : PortId) (view : ChannelView) (info : PacketInfo)
    (m : MsgRecvPacket) : Prop where
  channel : ChannelAt source sink tips c p view
  packet : SentPacket source sink tips c p info m.packet
  notTimedOut : Crates.timedOut m.packet tips.sinkTimestamp tips.sinkHeight = false
  sinkNotClosed : view.sinkChannelEnd.state ≠ .closed
  proofHeight : ReadyProofHeight source sink tips view info.height m.proofs.height

/-- A `MsgAcknowledgement` that was found: an undelivered acknowledgement of a
whitelisted channel that the source has not closed, at a height that can prove it. -/
structure AckFound (c : ChannelId) (p : PortId) (view : ChannelView) (info : PacketInfo)
    (m : MsgAcknowledgement) : Prop where
  channel : ChannelAt source sink tips c p view
  whitelisted : (c, p) ∈ source.channelWhitelist
  reported : ∃ ns infos, (source.queryRecvPackets c p ns).Returns infos ∧ info ∈ infos
  converted : (packetInfoToPacket info : Prog Static Error Packet).Returns m.packet
  destinationPort : m.packet.destinationPort = p
  destinationChannel : m.packet.destinationChannel = c
  undelivered : UndeliveredAck source sink tips c p m.packet.sequence
  ack : info.ack = some m.acknowledgement
  sourceNotClosed : view.sourceChannelEnd.state ≠ .closed
  proofHeight : ReadyProofHeight source sink tips view info.height m.proofs.height

/-- A `MsgAcknowledgement` that is ready: the sink's end is not closed either. -/
structure AckReady (c : ChannelId) (p : PortId) (view : ChannelView) (info : PacketInfo)
    (m : MsgAcknowledgement) : Prop extends AckFound source sink tips c p view info m where
  sinkNotClosed : view.sinkChannelEnd.state ≠ .closed

/-- A timeout message that is ready. -/
structure TimeoutReady (c : ChannelId) (p : PortId) (view : ChannelView) (info : PacketInfo)
    (m : MsgTimeout) : Prop where
  channel : ChannelAt source sink tips c p view
  packet : SentPacket source sink tips c p info m.packet
  timedOut : Crates.timedOut m.packet tips.sinkTimestamp tips.sinkHeight = true
  proofHeight : TimeoutProofHeight source sink tips view m.packet m.proofs.height

/-- A message for the sink is ready. -/
def MessageReady : Msg → Prop
  | .recvPacket m => ∃ c p view info, RecvReady source sink tips c p view info m
  | .acknowledgement m => ∃ c p view info, AckReady source sink tips c p view info m
  | _ => False

/-- A message for the sink is ready, or an acknowledgement that was found. -/
def MessageFound : Msg → Prop
  | .recvPacket m => ∃ c p view info, RecvReady source sink tips c p view info m
  | .acknowledgement m => ∃ c p view info, AckFound source sink tips c p view info m
  | _ => False

/-- A message for the source is ready; it is a `MsgTimeoutOnClose` exactly if the
sink's end of the channel is closed. -/
def TimeoutMessageReady : Msg → Prop
  | .timeout m => ∃ c p view info, TimeoutReady source sink tips c p view info m ∧
      view.sinkChannelEnd.state ≠ .closed
  | .timeoutOnClose m => ∃ c p view info, TimeoutReady source sink tips c p view info m ∧
      view.sinkChannelEnd.state = .closed
  | _ => False

/-- Both lists hold such messages only. -/
structure AllFound (acc : ReadyPackets) : Prop where
  messages : ∀ a ∈ acc.messages, MessageFound source sink tips a.msg
  timeouts : ∀ a ∈ acc.timeouts, TimeoutMessageReady source sink tips a.msg

end Ready

section Proofs

variable {source sink : Chain Static} {tips : Tips} {c : ChannelId} {p : PortId}
  {view : ChannelView}

/-! ### The queries about one channel -/

/-- The client state on the sink is what the sink answers. -/
theorem queryClientStateOnSink_returns {h : Height} {clientState : ClientState}
    (hr : (queryClientStateOnSink source sink h).Returns clientState) :
    Decoded (sink.queryClientState h source.clientId) clientState := by
  simp only [queryClientStateOnSink, Prog.Returns, Prog.leaf_bind_ok, Prog.leaf_okOr_ok,
    Prog.leaf_mapErr_ok, Raw.leaf_tryFrom_ok] at hr
  obtain ⟨r, hr, raw, hraw, rfl⟩ := hr
  exact ⟨r, hr, hraw⟩

/-- **What a channel view says.** -/
theorem queryChannelView_some
    (hr : (queryChannelView source sink tips c p).Returns (some view)) :
    ChannelAt source sink tips c p view := by
  unfold queryChannelView Prog.Returns at hr
  obtain ⟨response, hresponse, hr⟩ := Prog.leaf_bind_ok.mp hr
  simp only [Prog.leaf_bind_ok, Prog.leaf_okOr_ok, Raw.leaf_tryFrom_ok] at hr
  obtain ⟨raw, hraw, sourceEnd, rfl, hr⟩ := hr
  split_ifs at hr with hstate
  · simp only [Prog.leaf_bind_ok, Prog.leaf_okOr_ok, Raw.leaf_tryFrom_ok, Prog.leaf_pure,
      Outcome.ok.injEq, Option.some.injEq] at hr
    obtain ⟨id, hid, conn, hconn, rawConn, hrawConn, connEnd, rfl, c', hc', sinkResponse, hsink,
      rawSink, hrawSink, sinkEnd, rfl, next, hnext, cs, hcs, cs', hcs', rfl⟩ := hr
    exact {
      sourceEnd := ⟨response, hresponse, hraw⟩
      openOrClosed := hstate
      connection := ⟨id, connEnd, hid, ⟨conn, hconn, hrawConn⟩, rfl⟩
      sinkEnd := ⟨c', hc', sinkResponse, hsink, hrawSink⟩
      sourceClient := ⟨cs, queryClientStateOnSink_returns hcs, rfl⟩ }
  · simp at hr

/-- The undelivered sequences are undelivered. -/
theorem queryUndeliveredSequences_undelivered (hq : HonestQueries source sink) {ns : List ℕ}
    (hr : (queryUndeliveredSequences tips.sourceHeight tips.sinkHeight c p source.toIbcProvider
      sink.toIbcProvider).Returns ns) {n : ℕ} (hn : n ∈ ns) :
    Undelivered source sink tips c p n := by
  simp only [queryUndeliveredSequences, Prog.Returns, Prog.leaf_bind_ok, Prog.leaf_okOr_ok,
    Prog.leaf_mapErr_ok, Raw.leaf_tryFrom_ok] at hr
  obtain ⟨response, hresponse, raw, hraw, channelEnd, rfl, committed, hcommitted, c', hc', hr⟩ := hr
  refine ⟨channelEnd, c', committed, ⟨response, hresponse, hraw⟩, hc', hcommitted, ?_⟩
  split_ifs at hr ⊢ with hord
  · exact ⟨hq.unreceivedPackets _ _ _ _ _ hr n hn, ns, hr, hn⟩
  · simp only [Prog.leaf_bind_ok, Prog.leaf_pure, Outcome.ok.injEq] at hr
    obtain ⟨next, hnext, rfl⟩ := hr
    obtain ⟨hmem, hlt⟩ := List.mem_filter.mp hn
    exact ⟨hmem, next, hnext, (of_decide_eq_true hlt).le⟩

/-- The undelivered acknowledgements are undelivered. -/
theorem queryUndeliveredAcks_undelivered (hq : HonestQueries source sink) {ns : List ℕ}
    (hr : (queryUndeliveredAcks tips.sourceHeight tips.sinkHeight c p source.toIbcProvider
      sink.toIbcProvider).Returns ns) {n : ℕ} (hn : n ∈ ns) :
    UndeliveredAck source sink tips c p n := by
  simp only [queryUndeliveredAcks, Prog.Returns, Prog.leaf_bind_ok, Prog.leaf_okOr_ok,
    Prog.leaf_mapErr_ok, Raw.leaf_tryFrom_ok] at hr
  obtain ⟨response, hresponse, raw, hraw, channelEnd, rfl, acked, hacked, c', hc', hr⟩ := hr
  exact ⟨channelEnd, c', acked, ns, ⟨response, hresponse, hraw⟩, hc', hacked,
    hq.unreceivedAcks _ _ _ _ _ hr n hn, hr, hn⟩

/-! ### Proof heights -/

/-- **What a proof height for the sink says.** -/
theorem queryReadyHeight_some (hq : HonestQueries source sink) {created sequence : ℕ} {t : Height}
    (hr : (queryReadyHeight source sink tips view created sequence).Returns (some t)) :
    ReadyProofHeight source sink tips view created t := by
  unfold queryReadyHeight Prog.Returns at hr
  dsimp only at hr
  split_ifs at hr with hlt
  · simp at hr
  simp only [Prog.leaf_bind_ok, Prog.leaf_expect_ok, Height.new_eq_some] at hr
  obtain ⟨start, ⟨hrn, hrh⟩, found, hfound, hr⟩ := hr
  cases found with
  | none => simp at hr
  | some found =>
      obtain ⟨hw, answer, hanswer⟩ := findSuitableProofHeight_none hfound
      obtain ⟨passed, hpassed, hr⟩ := Prog.leaf_bind_ok.mp hr
      have hlower := hw.lower
      split_ifs at hr with htrue
      · simp only [Prog.leaf_pure, Outcome.ok.injEq, Option.some.injEq] at hr
        subst hr htrue
        obtain ⟨raw, hraw⟩ := Option.isSome_iff_exists.mp (hq.consensus _ _ _ _ hanswer)
        exact {
          created_le := by omega
          le_latest := Height.le_iff.mpr (.inr ⟨hw.revision.trans hrn, hw.upper⟩)
          consensus := ⟨answer, raw, hanswer, hraw⟩
          delay := verifyDelayOn_true hpassed }
      · simp at hr

/-- **What a proof height for a timeout says.** -/
theorem queryTimeoutHeight_some {packet : Packet} {created : ℕ} {t : Height}
    (hr : (queryTimeoutHeight source sink tips view packet created).Returns (some t)) :
    TimeoutProofHeight source sink tips view packet t := by
  obtain ⟨found, hfound, hr⟩ := Prog.leaf_bind_ok.mp hr
  cases found with
  | none => simp at hr
  | some found =>
      obtain ⟨passed, hpassed, hr⟩ := Prog.leaf_bind_ok.mp hr
      split_ifs at hr with htrue
      · simp only [Prog.leaf_pure, Outcome.ok.injEq, Option.some.injEq] at hr
        subst hr htrue
        obtain ⟨timeoutHeight, hth, hle, hsuit⟩ := getTimeoutProofHeight_some hfound
        exact ⟨⟨timeoutHeight, hth, hle⟩, hsuit, verifyDelayOn_true hpassed⟩
      · simp at hr

/-! ### One round of each loop -/

variable [Crates] {info : PacketInfo} {acc acc' : ReadyPackets}

/-- A packet info that the source reported, once its sequence is undelivered. -/
theorem sentPacket_of_reported (hq : HonestQueries source sink) {ns : List ℕ}
    {infos : List PacketInfo} {packet : Packet}
    (hwl : (c, p) ∈ source.channelWhitelist)
    (hns : ∀ n ∈ ns, Undelivered source sink tips c p n)
    (hinfos : (source.querySendPackets c p ns).Returns infos) (hinfo : info ∈ infos)
    (hpacket : (packetInfoToPacket info : Prog Static Error Packet).Returns packet) :
    SentPacket source sink tips c p info packet := by
  obtain ⟨hseq, ⟨hport, hchannel⟩, -⟩ := packetInfoToPacket_returns hpacket
  obtain ⟨hmem, hp, hc⟩ := hq.sent c p ns infos hinfos info hinfo
  refine ⟨hwl, ⟨ns, infos, hinfos, hinfo⟩, hpacket, ?_, ?_, ?_⟩
  · exact Ident.ext (hport.trans hp)
  · exact Ident.ext (hchannel.trans hc)
  · rw [hseq]
    exact hns _ hmem

/-- Found messages may be added. -/
theorem AllFound.addMessages {added : List Any} (hacc : AllFound source sink tips acc)
    (hadded : ∀ a ∈ added, MessageFound source sink tips a.msg) :
    AllFound source sink tips { acc with messages := acc.messages ++ added } := by
  refine ⟨fun b hb => ?_, hacc.timeouts⟩
  rcases List.mem_append.mp hb with hb | hb
  · exact hacc.messages b hb
  · exact hadded b hb

/-- So may a ready timeout. -/
theorem AllFound.addTimeout {a : Any} (hacc : AllFound source sink tips acc)
    (ha : TimeoutMessageReady source sink tips a.msg) :
    AllFound source sink tips { acc with timeouts := acc.timeouts ++ [a] } := by
  refine ⟨hacc.messages, fun b hb => ?_⟩
  rcases List.mem_append.mp hb with hb | hb
  · exact hacc.timeouts b hb
  · rw [List.mem_singleton.mp hb]
    exact ha

/-- **A round over the sent packets adds ready messages only.** -/
theorem sendPacketStep_allFound (hq : HonestQueries source sink)
    (hview : ChannelAt source sink tips c p view) (hacc : AllFound source sink tips acc)
    (hpacket : ∀ packet, (packetInfoToPacket info : Prog Static Error Packet).Returns packet →
      SentPacket source sink tips c p info packet)
    (hr : (sendPacketStep source sink tips view acc info).Returns acc') :
    AllFound source sink tips acc' := by
  obtain ⟨packet, hconv, hround⟩ := sendPacketStep_returns hr
  have hsent := hpacket packet hconv
  cases hround with
  | noTimeoutHeight | sinkClosed | notReady => exact hacc
  | timeout hto hheight hmsg =>
      obtain ⟨m, ⟨hmp, hmh⟩, hmsg⟩ := constructTimeoutMessage_returns hmsg
      have hready : TimeoutReady source sink tips c p view info m := {
        channel := hview
        packet := hmp ▸ hsent
        timedOut := hmp ▸ hto
        proofHeight := by rw [hmp, hmh]; exact queryTimeoutHeight_some hheight }
      refine hacc.addTimeout ?_
      rw [hmsg]
      split_ifs with hclosed
      · exact ⟨c, p, view, info, hready, hclosed⟩
      · exact ⟨c, p, view, info, hready, hclosed⟩
  | recv hto hclosed hheight hmsg =>
      obtain ⟨m, ⟨hmp, hmh⟩, hmsg⟩ := constructRecvMessage_returns hmsg
      have hready : RecvReady source sink tips c p view info m := {
        channel := hview
        packet := hmp ▸ hsent
        notTimedOut := hmp ▸ hto
        sinkNotClosed := hclosed
        proofHeight := by rw [hmh]; exact queryReadyHeight_some hq hheight }
      refine hacc.addMessages fun a ha => ?_
      rw [List.mem_singleton.mp ha, hmsg]
      exact ⟨c, p, view, info, hready⟩

/-- **The message of an acknowledgement that the source reported was found.** -/
theorem ackMessage_found (hq : HonestQueries source sink) {ns : List ℕ} {infos : List PacketInfo}
    {a : Any} (hview : ChannelAt source sink tips c p view)
    (hstate : view.sourceChannelEnd.state ≠ .closed) (hwl : (c, p) ∈ source.channelWhitelist)
    (hns : ∀ n ∈ ns, UndeliveredAck source sink tips c p n)
    (hinfos : (source.queryRecvPackets c p ns).Returns infos) (hinfo : info ∈ infos)
    (ha : AckMessage (fun _ _ => True) source sink tips view info a) :
    MessageFound source sink tips a.msg := by
  obtain ⟨packet, ack, t, hconv, hack, hheight, hmsg⟩ := ha
  obtain ⟨hseq, -, hport, hchannel⟩ := packetInfoToPacket_returns hconv
  obtain ⟨hmem, hp, hc⟩ := hq.received c p ns infos hinfos info hinfo
  obtain ⟨m, ⟨hmp, hma, hmh⟩, hmsg⟩ := constructAckMessage_returns hmsg
  have hfound : AckFound source sink tips c p view info m := {
    channel := hview
    whitelisted := hwl
    reported := ⟨ns, infos, hinfos, hinfo⟩
    converted := hmp ▸ hconv
    destinationPort := by rw [hmp]; exact Ident.ext (hport.trans hp)
    destinationChannel := by rw [hmp]; exact Ident.ext (hchannel.trans hc)
    undelivered := by rw [hmp, hseq]; exact hns _ hmem
    ack := by rw [hma, hack]
    sourceNotClosed := hstate
    proofHeight := by rw [hmh]; exact queryReadyHeight_some hq hheight }
  rw [hmsg]
  exact ⟨c, p, view, info, hfound⟩

/-- **A round over the whitelist adds found messages and ready timeouts only.** -/
theorem channelStep_allFound (hq : HonestQueries source sink)
    (hwl : (c, p) ∈ source.channelWhitelist) (hacc : AllFound source sink tips acc)
    (hr : (channelStep source sink tips acc (c, p)).Returns acc') :
    AllFound source sink tips acc' := by
  obtain ⟨-, rfl⟩ | ⟨view, seqs, infos, acc₁, acks, hview, hseqs, hinfos, hfold, hacks, hrest⟩ :=
    channelStep_returns hr
  · exact hacc
  have hview := queryChannelView_some hview
  have h₁ : AllFound source sink tips acc₁ :=
    Prog.leaf_foldlM (fun _ acc => AllFound source sink tips acc) hacc
      (fun _ i s s' hs hi hstep => sendPacketStep_allFound hq hview hs
        (fun _ => sentPacket_of_reported hq hwl
          (fun n hn => queryUndeliveredSequences_undelivered hq hseqs hn) hinfos hi) hstep)
      hfold
  obtain rfl | ⟨hclosed, received, hreceived, hfold⟩ := hrest
  · exact h₁
  · obtain ⟨added, rfl, hadded⟩ := acknowledgements_returns hfold
    refine h₁.addMessages fun a ha => ?_
    obtain ⟨info, hinfo, hmessage⟩ := hadded a ha
    exact ackMessage_found hq hview hclosed hwl
      (fun n hn => queryUndeliveredAcks_undelivered hq hacks hn) hreceived hinfo hmessage

/-- **What a reported message has passed.**  Whatever the states of the two chains and the
whitelist, the packets and the timeouts that `query_ready_and_timed_out_packets` returns are
ready with respect to the heights and timestamps it read at its start, and the
acknowledgements were found. -/
theorem queryReadyAndTimedOutPackets_found (hq : HonestQueries source sink)
    (htips : (queryTips source sink).Returns tips) {ready : ReadyPackets}
    (hr : (queryReadyAndTimedOutPackets source sink).Returns ready) :
    AllFound source sink tips ready := by
  obtain ⟨tips', htips', hr⟩ := Prog.leaf_bind_ok.mp hr
  obtain rfl := Prog.Returns.unique htips htips'
  exact Prog.leaf_foldlM (fun _ acc => AllFound source sink tips acc) ⟨by simp, by simp⟩
    (fun _ channel s s' hs hmem hstep => channelStep_allFound hq hmem hs hstep) hr

end Proofs

/-! ### Two chains with something ready -/

/-- A packet of `channel-0` as the packet queries report it. -/
def packetInfo (height sequence timeoutHeight : ℕ) (ack : Option Bytes) : PacketInfo where
  height
  sequence
  sourcePort := "transfer"
  sourceChannel := "channel-0"
  destinationPort := "transfer"
  destinationChannel := "channel-0"
  channelOrder := "UNORDERED"
  data := utf8 "data"
  timeoutHeight := ⟨0, timeoutHeight⟩
  timeoutTimestamp := seconds 800
  ack

/-- The consensus states of a client from height `lo` to `hi`, all of one time. -/
def consensusBetween (lo hi : ℕ) (time : Time) (t : Height) :
    Prog Static Error QueryConsensusStateResponse :=
  if lo ≤ t.revisionHeight ∧ t.revisionHeight ≤ hi then
    pure (proven (some (.ok ⟨time⟩)))
  else
    .fail (.rpcError "not found")

/-- A source with a packet the sink has yet to receive, a packet that timed out
there, and an acknowledgement.  Its client of the sink is at height 48, was at 30
when the packets were sent, and has consensus states from height 45 to 48. -/
def readySource : Chain Static :=
  { (Chain.unavailable (chainInfo "source") : Chain Static) with
    latestHeightAndTimestamp := pure (height0 100, .ofTime (seconds 1000))
    queryChannelEnd := fun _ _ _ => pure (proven (some (.ok (openEnd .unordered))))
    queryConnectionEnd := fun _ _ => pure (proven (some (.ok (openConnection (seconds 60)))))
    queryPacketCommitments := fun _ _ _ => pure [1, 2]
    queryPacketAcknowledgements := fun _ _ _ => pure [7]
    querySendPackets := fun c p ns => pure ([packetInfo 40 1 1000 none, packetInfo 40 2 45 none].filter
      fun i => i.sequence ∈ ns ∧ i.sourcePort = p.text ∧ i.sourceChannel = c.text)
    queryRecvPackets := fun c p ns => pure ([packetInfo 41 7 1000 (some (utf8 "ok"))].filter
      fun i => i.sequence ∈ ns ∧ i.destinationPort = p.text ∧ i.destinationChannel = c.text)
    queryClientState := fun h _ =>
      pure (proven (some (.ok ⟨if h = height0 100 then height0 48 else height0 30⟩)))
    queryClientConsensus := fun _ _ t => consensusBetween 45 48 (seconds 850) t
    queryClientUpdateTimeAndHeight := fun _ _ => pure (height0 90, seconds 900)
    queryProof := fun _ _ => pure (utf8 "proof") }

/-- A sink whose client of the source is at height `latest` and has consensus
states from height 44 on. -/
def readySink (latest : Height) : Chain Static :=
  { (Chain.unavailable (chainInfo "sink") : Chain Static) with
    latestHeightAndTimestamp := pure (height0 50, .ofTime (seconds 700))
    queryChannelEnd := fun _ _ _ => pure (proven (some (.ok (openEnd .unordered))))
    queryNextSequenceRecv := fun _ _ _ => pure (proven 1)
    queryUnreceivedPackets := fun _ _ _ ns => pure ns
    queryUnreceivedAcknowledgements := fun _ _ _ ns => pure ns
    queryClientState := fun _ _ => pure (proven (some (.ok ⟨latest⟩)))
    queryClientConsensus := fun _ _ t => consensusBetween 44 latest.revisionHeight (seconds 500) t
    queryClientUpdateTimeAndHeight := fun _ _ => pure (height0 45, seconds 600)
    queryTimestampAt := fun _ => pure (seconds 500)
    queryProof := fun _ _ => pure (utf8 "proof") }

/-- Both chains answer as the queries are documented. -/
theorem readySource_honest (latest : Height) : HonestQueries readySource (readySink latest) where
  sent c p ns infos hr i hi := by
    simp only [readySource, Prog.Returns, Prog.leaf_pure, Outcome.ok.injEq] at hr
    rw [← hr, List.mem_filter] at hi
    exact of_decide_eq_true hi.2
  received c p ns infos hr i hi := by
    simp only [readySource, Prog.Returns, Prog.leaf_pure, Outcome.ok.injEq] at hr
    rw [← hr, List.mem_filter] at hi
    exact of_decide_eq_true hi.2
  unreceivedPackets h c p ns ms hr n hn := by
    simp only [readySink, Prog.Returns, Prog.leaf_pure, Outcome.ok.injEq] at hr
    exact hr ▸ hn
  unreceivedAcks h c p ns ms hr n hn := by
    simp only [readySink, Prog.Returns, Prog.leaf_pure, Outcome.ok.injEq] at hr
    exact hr ▸ hn
  consensus h id t r hr := by
    simp only [readySink, consensusBetween, Prog.Returns] at hr
    split_ifs at hr
    · simp only [Prog.leaf_pure, Outcome.ok.injEq] at hr
      exact hr ▸ rfl
    · simp at hr

end HyperspaceLight
