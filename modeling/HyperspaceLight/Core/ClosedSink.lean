/-
# Acknowledgements for a closed end

`query_ready_and_timed_out_packets` passes over a packet for a channel that the sink has
closed: the loop over the sent packets looks at the sink's end, since nothing is received on
a closed one.  The loop over the acknowledgements looks at the source's end only, and a
closed sink does not take an acknowledgement either.

So everything that is reported is ready exactly if no undelivered acknowledgement with a proof
height is for an end that the sink has closed (`queryReadyAndTimedOutPackets_ready_iff`).
-/

import HyperspaceLight.Core.ReadyExact

namespace HyperspaceLight

open Interaction

section

variable {source sink : Chain Static} {tips : Tips} {c c' : ChannelId} {p p' : PortId}
  {view view' : ChannelView} {info : PacketInfo} {packet : Packet}

/-! ### One end of a channel -/

/-- A channel has one end on the sink. -/
theorem ChannelAt.sinkChannelEnd_eq (h : ChannelAt source sink tips c p view)
    (h' : ChannelAt source sink tips c p view') : view.sinkChannelEnd = view'.sinkChannelEnd := by
  obtain ⟨id, hid, hend⟩ := h.sinkEnd
  obtain ⟨id', hid', hend'⟩ := h'.sinkEnd
  rw [Decoded.unique h.sourceEnd h'.sourceEnd] at hid hend
  obtain rfl := Option.some.inj (hid.symm.trans hid')
  exact Decoded.unique hend hend'

variable [Crates]

/-- An acknowledgement names the channel it is reported for. -/
theorem ReceivedUndelivered.destination (hq : HonestQueries source sink)
    (h : ReceivedUndelivered source sink tips c p info)
    (hpacket : (packetInfoToPacket info : Prog Static Error Packet).Returns packet) :
    packet.destinationPort = p ∧ packet.destinationChannel = c := by
  obtain ⟨ns, infos, -, hinfos, hinfo⟩ := h
  obtain ⟨-, hport, hchannel⟩ := hq.received c p ns infos hinfos info hinfo
  obtain ⟨-, -, hport', hchannel'⟩ := packetInfoToPacket_returns hpacket
  exact ⟨Ident.ext (hport'.trans hport), Ident.ext (hchannel'.trans hchannel)⟩

/-! ### What is reported -/

/-- **An acknowledgement with a proof height is reported**, whatever the sink's end. -/
theorem acknowledgement_reported {ready : ReadyPackets} {ack : Bytes} {t : Height}
    (htips : (queryTips source sink).Returns tips)
    (hr : (queryReadyAndTimedOutPackets source sink).Returns ready)
    (hwl : (c, p) ∈ source.channelWhitelist) (hread : ChannelRead source sink tips c p view)
    (hsource : view.sourceChannelEnd.state ≠ .closed)
    (hinfo : ReceivedUndelivered source sink tips c p info) (hack : info.ack = some ack)
    (ht : FirstReadyHeight source sink tips view info.height t) :
    ∃ a ∈ ready.messages, AcknowledgementMessage source sink tips view info a := by
  obtain ⟨tips', htips', hfold⟩ := Prog.leaf_bind_ok.mp hr
  obtain rfl := Prog.Returns.unique htips htips'
  -- the round over the channel, and there the round over the acknowledgement
  obtain ⟨acc, acc', hround⟩ := Prog.leaf_foldlM_round hfold hwl
  obtain ⟨hskip, -⟩ | ⟨view', -, -, -, -, hview, -⟩ := channelStep_returns hround
  · exact absurd hread (not_channelRead_of_none hskip)
  obtain rfl := hread.eq hview
  obtain ⟨-, -, acc₁, acks, -, -, -, hacks, hrest⟩ := channelStep_ran hview hround
  rw [if_neg hsource] at hrest
  obtain ⟨received, hreceived, hloop⟩ := hrest
  have hmem : info ∈ received :=
    (reportedFor_iff (queryUndeliveredAcks_iff.mp hacks) (fun ns hns =>
      Prog.Returns.unique (queryUndeliveredAcks_iff.mpr hns) hacks) hreceived).mp hinfo
  obtain ⟨acc₂, acc₃, hstep⟩ := Prog.leaf_foldlM_round hloop hmem
  obtain ⟨packet, hpacket, hstep⟩ := Prog.leaf_bind_ok.mp hstep
  rw [hack] at hstep
  obtain ⟨found, hfound, hstep⟩ := Prog.leaf_bind_ok.mp hstep
  obtain rfl := (queryReadyHeight_eq_some_iff hfound t).mpr (firstReadyHeight_withLatest.mpr ht)
  obtain ⟨a, hmsg, -⟩ := Prog.leaf_bind_ok.mp hstep
  have hmessage : AcknowledgementMessage source sink tips view info a :=
    ⟨packet, ack, t, hpacket, hack, ht, hmsg⟩
  refine ⟨a, ?_, hmessage⟩
  exact (queryReadyAndTimedOutPackets_lookedUp htips hr a).1.mpr
    ⟨(c, p), hwl, view, hread, .inr ⟨hsource, info, hinfo, hmessage⟩⟩

/-- A reported acknowledgement is ready, unless it is for a closed end. -/
theorem messageReady_of_found {a : Any} (hq : HonestQueries source sink)
    (hfound : MessageFound source sink tips a.msg)
    (hdue : MessageLookedUp source sink tips (c, p) a)
    (hopen : ¬ClosedSinkAck source sink tips c p) : MessageReady source sink tips a.msg := by
  obtain ⟨view, hread, ⟨info, -, packet, t, -, -, -, -, hmsg⟩ | ⟨hsource, info, hinfo, hmessage⟩⟩ :=
    hdue
  · -- a packet has passed the condition itself
    obtain ⟨m, -, hmsg⟩ := constructRecvMessage_returns hmsg
    rw [hmsg] at hfound ⊢
    exact hfound
  · obtain ⟨packet, ack, t, hpacket, hack, ht, hmsg⟩ := hmessage
    obtain ⟨m, ⟨hm, -⟩, hmsg⟩ := constructAckMessage_returns hmsg
    rw [hmsg] at hfound ⊢
    obtain ⟨c₂, p₂, view₂, info₂, hack₂⟩ := hfound
    obtain ⟨rfl, rfl⟩ := hinfo.destination hq hpacket
    rw [← hm, hack₂.destinationPort, hack₂.destinationChannel] at hread hopen hinfo
    refine ⟨c₂, p₂, view₂, info₂, hack₂, fun hclosed => ?_⟩
    rw [hack₂.channel.sinkChannelEnd_eq hread.toChannelAt] at hclosed
    exact hopen ⟨view, info, ack, t, hread, hsource, hclosed, hinfo, hack, ht⟩

/-- An acknowledgement for a closed end is not ready. -/
theorem not_messageReady_of_closed {a : Any} (hq : HonestQueries source sink)
    (hread : ChannelRead source sink tips c p view) (hclosed : view.sinkChannelEnd.state = .closed)
    (hinfo : ReceivedUndelivered source sink tips c p info)
    (hmessage : AcknowledgementMessage source sink tips view info a) :
    ¬MessageReady source sink tips a.msg := by
  obtain ⟨packet, ack, t, hpacket, -, -, hmsg⟩ := hmessage
  obtain ⟨m, ⟨hm, -⟩, hmsg⟩ := constructAckMessage_returns hmsg
  obtain ⟨rfl, rfl⟩ := hinfo.destination hq hpacket
  rw [hmsg]
  rintro ⟨c₂, p₂, view₂, info₂, hready⟩
  rw [← hm, hready.destinationPort, hready.destinationChannel] at hread
  refine hready.sinkNotClosed ?_
  rw [hready.channel.sinkChannelEnd_eq hread.toChannelAt]
  exact hclosed

end

/-- **When everything reported is ready.**  Whatever the states of the two chains and the
whitelist, the messages and the timeouts that `query_ready_and_timed_out_packets` returns are
ready with respect to the heights and timestamps it read at its start, if and only if no
undelivered acknowledgement with a proof height is for a closed end. -/
theorem queryReadyAndTimedOutPackets_ready_iff [Crates] (source sink : Chain Static)
    (ready : ReadyPackets) (hq : HonestQueries source sink)
    (hr : (queryReadyAndTimedOutPackets source sink).Returns ready) :
    ∃ tips, (queryTips source sink).Returns tips ∧
      (((∀ a ∈ ready.messages, MessageReady source sink tips a.msg) ∧
          ∀ a ∈ ready.timeouts, TimeoutMessageReady source sink tips a.msg) ↔
        ∀ c p, (c, p) ∈ source.channelWhitelist → ¬ClosedSinkAck source sink tips c p) := by
  obtain ⟨tips, htips, -⟩ := Prog.leaf_bind_ok.mp hr
  have hfound := queryReadyAndTimedOutPackets_found hq htips hr
  refine ⟨tips, htips, ?_, fun hopen => ⟨fun a ha => ?_, hfound.timeouts⟩⟩
  · rintro ⟨hready, -⟩ c p hwl ⟨view, info, ack, t, hread, hsource, hclosed, hinfo, hack, ht⟩
    obtain ⟨a, ha, hmessage⟩ :=
      acknowledgement_reported htips hr hwl hread hsource hinfo hack ht
    exact not_messageReady_of_closed hq hread hclosed hinfo hmessage (hready a ha)
  · obtain ⟨⟨c, p⟩, hwl, hdue⟩ := (queryReadyAndTimedOutPackets_lookedUp htips hr a).1.mp ha
    exact messageReady_of_found hq (hfound.messages a ha) hdue (hopen c p hwl)

/-- The theorem at work: two messages and a timeout, and all are ready. -/
theorem readySource_ready : let _ := Crates.reference
    ∃ ready tips, (queryReadyAndTimedOutPackets readySource (readySink (height0 48))).Returns ready ∧
      (ready.messages.length = 2 ∧ ready.timeouts.length = 1) ∧
      (queryTips readySource (readySink (height0 48))).Returns tips ∧
      (∀ a ∈ ready.messages, MessageReady readySource (readySink (height0 48)) tips a.msg) ∧
      ∀ a ∈ ready.timeouts, TimeoutMessageReady readySource (readySink (height0 48)) tips a.msg := by
  intro _
  obtain ⟨ready, hr, hlengths⟩ := Prog.returns_of_outcome
    (p := queryReadyAndTimedOutPackets readySource (readySink (height0 48)))
    (f := fun ready => (ready.messages.length, ready.timeouts.length))
    (b := (2, 1)) (by decide +kernel)
  obtain ⟨tips, htips, hiff⟩ := queryReadyAndTimedOutPackets_ready_iff readySource
    (readySink (height0 48)) ready (readySource_honest (height0 48)) hr
  exact ⟨ready, tips, hr, Prod.mk.inj hlengths, htips,
    hiff.mpr fun c p _ => (readySource_untouched htips c p).2.1⟩

/-- The same sink, with its end of every channel closed. -/
def closedEndSink : Chain Static :=
  { readySink (height0 48) with
    queryChannelEnd := fun _ _ _ =>
      pure (proven (some (.ok { openEnd .unordered with state := .closed }))) }

/-- The acknowledgement of a message, if it is one. -/
def Msg.acknowledgementOf : Msg → Option MsgAcknowledgement
  | .acknowledgement m => some m
  | _ => none

/-- Only an acknowledgement has one. -/
theorem Msg.acknowledgementOf_eq_some {msg : Msg} {m : MsgAcknowledgement}
    (h : msg.acknowledgementOf = some m) : msg = .acknowledgement m := by
  cases msg with
  | acknowledgement m' => exact congrArg Msg.acknowledgement (Option.some.inj h)
  | _ => cases h

/-- **An acknowledgement is reported for a closed end.** -/
theorem closedEndSink_notReady : let _ := Crates.reference
    HonestQueries readySource closedEndSink ∧
      ∃ ready tips, (queryReadyAndTimedOutPackets readySource closedEndSink).Returns ready ∧
        (queryTips readySource closedEndSink).Returns tips ∧
        ¬∀ a ∈ ready.messages, MessageReady readySource closedEndSink tips a.msg := by
  intro _
  obtain ⟨ready, hr, hacks⟩ := Prog.returns_of_outcome
    (p := queryReadyAndTimedOutPackets readySource closedEndSink)
    (f := fun ready => ready.messages.map fun a => a.msg.acknowledgementOf.isSome)
    (b := [true]) (by decide +kernel)
  obtain ⟨tips, htips, -⟩ := Prog.leaf_bind_ok.mp hr
  have hhonest := readySource_honest (height0 48)
  refine ⟨⟨hhonest.sent, hhonest.received, hhonest.unreceivedPackets, hhonest.unreceivedAcks,
    hhonest.consensus⟩, ready, tips, hr, htips, fun hready => ?_⟩
  obtain ⟨a, ha, hack⟩ := List.mem_map.mp (hacks ▸ List.mem_singleton_self true)
  obtain ⟨m, hm⟩ := Option.isSome_iff_exists.mp hack
  have hmessage := hready a ha
  rw [Msg.acknowledgementOf_eq_some hm] at hmessage
  obtain ⟨c, p, view, info, hready⟩ := hmessage
  obtain ⟨c', -, hend⟩ := hready.channel.sinkEnd
  refine hready.sinkNotClosed ?_
  rw [Decoded.unique hend ⟨_, rfl, rfl⟩]

end HyperspaceLight
