/-
# Exactly what is ready is reported

`query_ready_and_timed_out_packets` over two chains whose states do not move, against what
it is for.  A message is due for a packet that the source has committed to and the sink
has not received, or that the source has acknowledged to an end that is not closed; a
timeout is due for a packet that has timed out, at a height below the latest one of the
sink's client on the source (`MessageDue`, `TimeoutDue`).

The function reports what is due on channels that three of its slips do not touch
(`queryReadyAndTimedOutPackets_exact`): an ordered channel whose next packet is committed
(`NextNotCommitted`), an acknowledgement for a closed end (`ClosedSinkAck`), and a timeout
whose search depends on which client bounds it (`SameSearch`).

For a membership proof the proof height is the first height at which the sink
answers a consensus state, and no other one counts: if the delay of the
connection has not passed since the update to that height, the packet is not
reported, even if it has passed since the update to a later height
(`FirstReadyHeight`).
-/

import HyperspaceLight.Core.TimeoutBound

namespace HyperspaceLight

open Interaction

/-! ### The first height with a consensus state -/

/-- The first height of the revision `rn`, from `lo` on and below `hi`, at which the chain
answers a consensus state. -/
structure FirstAnswered (chain : IbcProvider Static) (h : Height) (clientId : ClientId)
    (rn lo hi : ℕ) (t : Height) : Prop where
  revision : t.revisionNumber = rn
  lower : lo ≤ t.revisionHeight
  upper : t.revisionHeight < hi
  answered : ConsensusAnswered (fun _ _ => True) chain h clientId t
  first : ∀ t' : Height, t'.revisionNumber = rn → lo ≤ t'.revisionHeight →
    t'.revisionHeight < t.revisionHeight →
      ¬ConsensusAnswered (fun _ _ => True) chain h clientId t'

/-- A consensus state is answered if the attempt is no error. -/
theorem consensusAnswered_iff_of_attempt {chain : IbcProvider Static} {h t : Height}
    {clientId : ClientId} {answer : Except Error QueryConsensusStateResponse}
    (hr : (chain.queryClientConsensus h clientId t).attempt.Returns answer) :
    ConsensusAnswered (fun _ _ => True) chain h clientId t ↔ ∃ r, answer = .ok r := by
  constructor
  · rintro ⟨r, hanswer⟩
    exact ⟨r, Prog.Returns.unique hr (Prog.leaf_attempt_ok.mpr hanswer)⟩
  · rintro ⟨r, rfl⟩
    exact ⟨r, Prog.leaf_attempt_ok.mp hr⟩

/-- **The linear search returns the first height with a consensus state.** -/
theorem linearSearch_eq_some_iff {chain : IbcProvider Static} {h : Height} {clientId : ClientId}
    {rn n lo : ℕ} {found : Option Height}
    (hr : (linearSearch chain h clientId rn n lo).Returns found) (t : Height) :
    found = some t ↔ FirstAnswered chain h clientId rn lo (lo + n) t := by
  induction n generalizing lo with
  | zero =>
      obtain rfl := Outcome.ok.inj hr
      constructor
      · intro h
        cases h
      · intro ht
        have hlower := ht.lower
        have hupper := ht.upper
        omega
  | succ n ih =>
      simp only [linearSearch, Prog.Returns, Prog.leaf_bind_ok, Prog.leaf_expect_ok,
        Height.new_eq_some] at hr
      obtain ⟨temp, ⟨hrn, hrh⟩, answer, hanswer, hr⟩ := hr
      have hiff := consensusAnswered_iff_of_attempt hanswer
      cases answer with
      | error e =>
          have hmissing : ¬ConsensusAnswered (fun _ _ => True) chain h clientId temp := by
            rw [hiff]
            simp
          rw [ih hr]
          constructor
          · intro ht
            have hlower := ht.lower
            have hupper := ht.upper
            refine ⟨ht.revision, by omega, by omega, ht.answered, fun t' hrn' hlo' hlt => ?_⟩
            rcases eq_or_lt_of_le hlo' with heq | hlo'
            · -- the height that was just tried
              have htemp : t' = temp := Height.ext (hrn'.trans hrn.symm) (heq.symm.trans hrh.symm)
              rw [htemp]
              exact hmissing
            · exact ht.first t' hrn' hlo' hlt
          · intro ht
            have hlower := ht.lower
            have hupper := ht.upper
            have hne : t.revisionHeight ≠ lo := by
              intro heq
              have htemp : t = temp := Height.ext (ht.revision.trans hrn.symm)
                (heq.trans hrh.symm)
              exact hmissing (htemp ▸ ht.answered)
            exact ⟨ht.revision, by omega, by omega, ht.answered,
              fun t' hrn' hlo' => ht.first t' hrn' (by omega)⟩
      | ok r =>
          simp only [Prog.leaf_pure, Outcome.ok.injEq] at hr
          rw [← hr, Option.some.injEq]
          have hanswered := hiff.mpr ⟨r, rfl⟩
          constructor
          · rintro rfl
            exact ⟨hrn, by omega, by omega, hanswered, fun t' _ hlo' hlt => by omega⟩
          · intro ht
            have hlower := ht.lower
            have hle : t.revisionHeight ≤ temp.revisionHeight := by
              by_contra hlt
              exact ht.first temp hrn (by omega) (by omega) hanswered
            exact Height.ext (hrn.trans ht.revision.symm) (by omega)

/-! ### What is due -/

section Due

variable (source sink : Chain Static) (tips : Tips)

/-- A visited channel at the tips: both ends, the delay, the height of the source's client on
the sink, and the next sequence that the sink receives. -/
structure ChannelRead (c : ChannelId) (p : PortId) (view : ChannelView) : Prop
    extends ChannelAt source sink tips c p view where
  nextSequence : ∃ c' r, view.sourceChannelEnd.counterparty.channelId = some c' ∧
    (sink.queryNextSequenceRecv tips.sinkHeight view.sourceChannelEnd.counterparty.portId
      c').Returns r ∧ r.value = view.nextSequenceRecv

/-- The latest height of the sink's client on the source. -/
def SinkClientAt (latest : Height) : Prop :=
  ∃ clientState, Decoded (source.queryClientState tips.sourceHeight sink.clientId) clientState ∧
    clientState.latestHeight = latest

/-- The height for a membership proof of something stored at `created`: the first one with a
consensus state, once the delay since the update to it is over. -/
structure FirstReadyHeight (view : ChannelView) (created : ℕ) (t : Height) : Prop where
  first : FirstAnswered sink.toIbcProvider tips.sinkHeight source.clientId
    view.latestSourceHeightOnSink.revisionNumber created
    (view.latestSourceHeightOnSink.revisionHeight + 1) t
  delay : ∃ updateHeight updateTime,
    (sink.queryClientUpdateTimeAndHeight source.clientId t).Returns (updateHeight, updateTime) ∧
      DelayOver tips.sinkTimestamp tips.sinkHeight updateTime updateHeight view.delayPeriod
        (calculateBlockDelay view.delayPeriod sink.expectedBlockTime)

/-- The sequences that the source has committed to and the sink has not received, as one list
(`undelivered_iff`). -/
def UndeliveredSequences (c : ChannelId) (p : PortId) (ns : List ℕ) : Prop :=
  ∃ channelEnd c' committed, Decoded (source.queryChannelEnd tips.sourceHeight c p) channelEnd ∧
    channelEnd.counterparty.channelId = some c' ∧
    (source.queryPacketCommitments tips.sourceHeight c p).Returns committed ∧
    if channelEnd.ordering = .unordered then
      (sink.queryUnreceivedPackets tips.sinkHeight c' channelEnd.counterparty.portId
        committed).Returns ns
    else
      ∃ r, (sink.queryNextSequenceRecv tips.sinkHeight channelEnd.counterparty.portId
        c').Returns r ∧ ns = committed.filter fun n => r.value ≤ n

/-- The sequences that the source has acknowledged and the sink has not seen the
acknowledgement of, as one list (`undeliveredAck_iff`). -/
def UndeliveredAcks (c : ChannelId) (p : PortId) (ns : List ℕ) : Prop :=
  ∃ channelEnd c' acked, Decoded (source.queryChannelEnd tips.sourceHeight c p) channelEnd ∧
    channelEnd.counterparty.channelId = some c' ∧
    (source.queryPacketAcknowledgements tips.sourceHeight c p).Returns acked ∧
    (sink.queryUnreceivedAcknowledgements tips.sinkHeight c' channelEnd.counterparty.portId
      acked).Returns ns

/-- A packet that a query reports for sequences of this kind. -/
def ReportedFor (kind : List ℕ → Prop) (query : List ℕ → Prog Static Error (List PacketInfo))
    (info : PacketInfo) : Prop :=
  ∃ ns infos, kind ns ∧ (query ns).Returns infos ∧ info ∈ infos

/-- A sent packet that is undelivered. -/
def SentUndelivered (c : ChannelId) (p : PortId) : PacketInfo → Prop :=
  ReportedFor (UndeliveredSequences source sink tips c p) (source.querySendPackets c p)

/-- A received packet whose acknowledgement is undelivered. -/
def ReceivedUndelivered (c : ChannelId) (p : PortId) : PacketInfo → Prop :=
  ReportedFor (UndeliveredAcks source sink tips c p) (source.queryRecvPackets c p)

variable [Crates]

/-- `a` is the message of a packet for the sink: it has not timed out, the sink's end is not
closed, and the packet has a proof height. -/
def RecvMessage (view : ChannelView) (info : PacketInfo) (a : Any) : Prop :=
  ∃ packet t, (packetInfoToPacket info : Prog Static Error Packet).Returns packet ∧
    Crates.timedOut packet tips.sinkTimestamp tips.sinkHeight = false ∧
    view.sinkChannelEnd.state ≠ .closed ∧
    FirstReadyHeight source sink tips view info.height t ∧
    (constructRecvMessage source.toIbcProvider sink.toIbcProvider packet t).Returns a

/-- `a` is the timeout of a packet for the source: it has timed out, and a height that proves
it was found below `latest`. -/
def TimeoutMessage (view : ChannelView) (latest : Height) (info : PacketInfo) (a : Any) : Prop :=
  ∃ packet t, (packetInfoToPacket info : Prog Static Error Packet).Returns packet ∧
    Crates.timedOut packet tips.sinkTimestamp tips.sinkHeight = true ∧
    TimeoutHeightFound source sink tips view.delayPeriod latest packet info.height t ∧
    (constructTimeoutMessage source.toIbcProvider sink.toIbcProvider view.sinkChannelEnd packet
      view.nextSequenceRecv t).Returns a

/-- `a` is the message of an acknowledgement for the sink: there are acknowledgement bytes,
and the packet has a proof height. -/
def AcknowledgementMessage (view : ChannelView) (info : PacketInfo) (a : Any) : Prop :=
  ∃ packet ack t, (packetInfoToPacket info : Prog Static Error Packet).Returns packet ∧
    info.ack = some ack ∧ FirstReadyHeight source sink tips view info.height t ∧
    (constructAckMessage source.toIbcProvider sink.toIbcProvider packet ack t).Returns a

omit [Crates] in
/-- The packet that an ordered channel receives next is not committed. -/
def NextNotCommitted (c : ChannelId) (p : PortId) : Prop :=
  ∀ channelEnd c' committed r, Decoded (source.queryChannelEnd tips.sourceHeight c p) channelEnd →
    channelEnd.counterparty.channelId = some c' → channelEnd.ordering ≠ .unordered →
    (source.queryPacketCommitments tips.sourceHeight c p).Returns committed →
    (sink.queryNextSequenceRecv tips.sinkHeight channelEnd.counterparty.portId c').Returns r →
      r.value ∉ committed

omit [Crates] in
/-- An undelivered acknowledgement has a proof height, and the sink's end is closed. -/
def ClosedSinkAck (c : ChannelId) (p : PortId) : Prop :=
  ∃ view info ack t, ChannelRead source sink tips c p view ∧
    view.sourceChannelEnd.state ≠ .closed ∧ view.sinkChannelEnd.state = .closed ∧
    ReceivedUndelivered source sink tips c p info ∧ info.ack = some ack ∧
    FirstReadyHeight source sink tips view info.height t

/-- For each undelivered packet that has timed out, the search below the height of the source's
client on the sink finds what the search below that of the sink's client on the source finds. -/
def SameSearch (c : ChannelId) (p : PortId) : Prop :=
  ∀ view info packet t, ChannelRead source sink tips c p view →
    SentUndelivered source sink tips c p info →
    (packetInfoToPacket info : Prog Static Error Packet).Returns packet →
    Crates.timedOut packet tips.sinkTimestamp tips.sinkHeight = true →
      (TimeoutHeightFound source sink tips view.delayPeriod view.latestSourceHeightOnSink packet
          info.height t ↔
        ∃ latest, SinkClientAt source sink tips latest ∧
          TimeoutHeightFound source sink tips view.delayPeriod latest packet info.height t)

/-! ### What the function looks up -/

/-- A sent packet that the function takes to be undelivered. -/
def SentReported (c : ChannelId) (p : PortId) : PacketInfo → Prop :=
  ReportedFor (fun ns => (queryUndeliveredSequences tips.sourceHeight tips.sinkHeight c p
    source.toIbcProvider sink.toIbcProvider).Returns ns) (source.querySendPackets c p)

/-- A message for the sink that a round over the channel adds. -/
def MessageLookedUp (channel : ChannelId × PortId) (a : Any) : Prop :=
  ∃ view, ChannelRead source sink tips channel.1 channel.2 view ∧
    ((∃ info, SentReported source sink tips channel.1 channel.2 info ∧
        RecvMessage source sink tips view info a) ∨
      view.sourceChannelEnd.state ≠ .closed ∧
        ∃ info, ReceivedUndelivered source sink tips channel.1 channel.2 info ∧
          AcknowledgementMessage source sink tips view info a)

/-- A timeout for the source that a round over the channel adds. -/
def TimeoutLookedUp (channel : ChannelId × PortId) (a : Any) : Prop :=
  ∃ view, ChannelRead source sink tips channel.1 channel.2 view ∧
    ∃ info, SentReported source sink tips channel.1 channel.2 info ∧
      TimeoutMessage source sink tips view view.latestSourceHeightOnSink info a

end Due

section Exact

variable {source sink : Chain Static} {tips : Tips} {c : ChannelId} {p : PortId}
  {view : ChannelView} {info : PacketInfo}

/-! ### One channel -/

/-- The client state on the sink is what the sink answers. -/
theorem queryClientStateOnSink_iff {h : Height} {clientState : ClientState} :
    (queryClientStateOnSink source sink h).Returns clientState ↔
      Decoded (sink.queryClientState h source.clientId) clientState := by
  refine ⟨queryClientStateOnSink_returns, ?_⟩
  rintro ⟨r, hr, hraw⟩
  simp only [queryClientStateOnSink, Prog.Returns, Prog.leaf_bind_ok, Prog.leaf_okOr_ok,
    Prog.leaf_mapErr_ok, Raw.leaf_tryFrom_ok]
  exact ⟨r, hr, _, hraw, rfl⟩

/-- **What a visited channel is read as.**  The height of the sink's client on the source is
that of the other client. -/
theorem queryChannelView_some_iff :
    (queryChannelView source sink tips c p).Returns (some view) ↔
      ChannelRead source sink tips c p view ∧
        view.latestSinkHeightOnSource = view.latestSourceHeightOnSink := by
  constructor
  · intro hr
    have hat := queryChannelView_some hr
    unfold queryChannelView Prog.Returns at hr
    simp only [Prog.leaf_bind_ok, Prog.leaf_okOr_ok, Raw.leaf_tryFrom_ok] at hr
    obtain ⟨response, hresponse, raw, hraw, sourceEnd, rfl, hr⟩ := hr
    split_ifs at hr with hstate
    · simp only [Prog.leaf_bind_ok, Prog.leaf_okOr_ok, Raw.leaf_tryFrom_ok, Prog.leaf_pure,
        Outcome.ok.injEq, Option.some.injEq] at hr
      obtain ⟨id, hid, conn, hconn, rawConn, hrawConn, connEnd, rfl, c', hc', sinkResponse, hsink,
        rawSink, hrawSink, sinkEnd, rfl, next, hnext, cs, hcs, cs', hcs', rfl⟩ := hr
      have hsame : cs' = cs := Prog.Returns.unique hcs' hcs
      exact ⟨⟨hat, c', next, hc', hnext, rfl⟩, congrArg ClientState.latestHeight hsame⟩
    · simp at hr
  · rintro ⟨hread, hsame⟩
    obtain ⟨response, hresponse, hraw⟩ := hread.sourceEnd
    obtain ⟨id, connEnd, hid, ⟨conn, hconn, hrawConn⟩, hdelay⟩ := hread.connection
    obtain ⟨c', hc', sinkResponse, hsink, hrawSink⟩ := hread.sinkEnd
    obtain ⟨cs, hcs, hlatest⟩ := hread.sourceClient
    obtain ⟨c₂, next, hc₂, hnext, hnextValue⟩ := hread.nextSequence
    have hcs := queryClientStateOnSink_iff.mpr hcs
    obtain rfl : c₂ = c' := Option.some.inj (hc₂.symm.trans hc')
    unfold queryChannelView Prog.Returns
    simp only [Prog.leaf_bind_ok, Prog.leaf_okOr_ok, Raw.leaf_tryFrom_ok]
    refine ⟨response, hresponse, _, hraw, _, rfl, ?_⟩
    rw [if_neg (not_not.mpr hread.openOrClosed)]
    simp only [Prog.leaf_bind_ok, Prog.leaf_okOr_ok, Raw.leaf_tryFrom_ok, Prog.leaf_pure,
      Outcome.ok.injEq, Option.some.injEq]
    refine ⟨id, hid, conn, hconn, _, hrawConn, connEnd, rfl, c₂, hc', sinkResponse, hsink, _,
      hrawSink, _, rfl, next, hnext, cs, hcs, cs, hcs, ?_⟩
    obtain ⟨sourceEnd, delay, sinkEnd, nextRecv, latest, latest'⟩ := view
    simp only at hdelay hlatest hnextValue hsame ⊢
    rw [hdelay, hlatest, hnextValue, hsame]

/-- A channel has one view, but for the height that is not read. -/
theorem ChannelRead.eq (hview : (queryChannelView source sink tips c p).Returns (some view))
    {v : ChannelView} (hread : ChannelRead source sink tips c p v) :
    { v with latestSinkHeightOnSource := v.latestSourceHeightOnSink } = view := by
  have hread' : ChannelRead source sink tips c p
      { v with latestSinkHeightOnSource := v.latestSourceHeightOnSink } :=
    ⟨⟨hread.sourceEnd, hread.openOrClosed, hread.connection, hread.sinkEnd, hread.sourceClient⟩,
      hread.nextSequence⟩
  exact Option.some.inj
    (Prog.Returns.unique (queryChannelView_some_iff.mpr ⟨hread', rfl⟩) hview)

/-- A channel that is skipped is not read. -/
theorem not_channelRead_of_none (hr : (queryChannelView source sink tips c p).Returns none) :
    ¬ChannelRead source sink tips c p view := fun hread => by
  obtain ⟨channelEnd, hend, hnot⟩ := queryChannelView_none hr
  obtain rfl := Decoded.unique hend hread.sourceEnd
  exact hnot hread.openOrClosed

/-- Only the view that was read counts. -/
theorem exists_channelRead_iff {P : ChannelView → Prop}
    (hview : (queryChannelView source sink tips c p).Returns (some view))
    (hP : ∀ v latest, P { v with latestSinkHeightOnSource := latest } ↔ P v) :
    (∃ v, ChannelRead source sink tips c p v ∧ P v) ↔ P view := by
  constructor
  · rintro ⟨v, hread, h⟩
    rw [← hread.eq hview, hP]
    exact h
  · exact fun h => ⟨view, (queryChannelView_some_iff.mp hview).1, h⟩

/-- A proof height does not depend on the height of the sink's client. -/
theorem firstReadyHeight_withLatest {latest : Height} {created : ℕ} {t : Height} :
    FirstReadyHeight source sink tips { view with latestSinkHeightOnSource := latest } created t ↔
      FirstReadyHeight source sink tips view created t :=
  ⟨fun h => ⟨h.first, h.delay⟩, fun h => ⟨h.first, h.delay⟩⟩

/-! ### Which packets are looked at -/

/-- The packets reported for one list of sequences. -/
theorem reportedFor_iff {kind : List ℕ → Prop} {query : List ℕ → Prog Static Error (List PacketInfo)}
    {ns : List ℕ} {infos : List PacketInfo} (hns : kind ns) (hunique : ∀ ns', kind ns' → ns' = ns)
    (hinfos : (query ns).Returns infos) : ReportedFor kind query info ↔ info ∈ infos := by
  constructor
  · rintro ⟨ns', infos', hns', hinfos', hinfo⟩
    obtain rfl := hunique ns' hns'
    obtain rfl := Prog.Returns.unique hinfos hinfos'
    exact hinfo
  · exact fun hinfo => ⟨ns, infos, hns, hinfos, hinfo⟩

/-- **The undelivered acknowledgements are looked up as they are stored.** -/
theorem queryUndeliveredAcks_iff {ns : List ℕ} :
    (queryUndeliveredAcks tips.sourceHeight tips.sinkHeight c p source.toIbcProvider
      sink.toIbcProvider).Returns ns ↔ UndeliveredAcks source sink tips c p ns := by
  simp only [queryUndeliveredAcks, Prog.Returns, Prog.leaf_bind_ok, Prog.leaf_okOr_ok,
    Prog.leaf_mapErr_ok, Raw.leaf_tryFrom_ok]
  constructor
  · rintro ⟨response, hresponse, raw, hraw, channelEnd, rfl, acked, hacked, c', hc', hns⟩
    exact ⟨channelEnd, c', acked, ⟨response, hresponse, hraw⟩, hc', hacked, hns⟩
  · rintro ⟨channelEnd, c', acked, ⟨response, hresponse, hraw⟩, hc', hacked, hns⟩
    exact ⟨response, hresponse, _, hraw, channelEnd, rfl, acked, hacked, c', hc', hns⟩

/-- **The listed sequences are the undelivered ones** (`Undelivered`), on chains whose answers are
among the sequences asked for. -/
theorem undelivered_iff (hq : HonestQueries source sink) {n : ℕ} :
    Undelivered source sink tips c p n ↔
      ∃ ns, UndeliveredSequences source sink tips c p ns ∧ n ∈ ns := by
  constructor
  · rintro ⟨channelEnd, c', committed, hend, hc', hcommitted, hn, h⟩
    split_ifs at h with hord
    · obtain ⟨ms, hms, hmem⟩ := h
      exact ⟨ms, ⟨channelEnd, c', committed, hend, hc', hcommitted, by rwa [if_pos hord]⟩, hmem⟩
    · obtain ⟨r, hr, hle⟩ := h
      refine ⟨_, ⟨channelEnd, c', committed, hend, hc', hcommitted, ?_⟩,
        List.mem_filter (p := fun m => decide (r.value ≤ m)).mpr ⟨hn, decide_eq_true hle⟩⟩
      rw [if_neg hord]
      exact ⟨r, hr, rfl⟩
  · rintro ⟨ns, ⟨channelEnd, c', committed, hend, hc', hcommitted, h⟩, hn⟩
    split_ifs at h with hord
    · refine ⟨channelEnd, c', committed, hend, hc', hcommitted,
        hq.unreceivedPackets _ _ _ _ _ h n hn, ?_⟩
      rw [if_pos hord]
      exact ⟨ns, h, hn⟩
    · obtain ⟨r, hr, rfl⟩ := h
      obtain ⟨hmem, hle⟩ := List.mem_filter.mp hn
      refine ⟨channelEnd, c', committed, hend, hc', hcommitted, hmem, ?_⟩
      rw [if_neg hord]
      exact ⟨r, hr, of_decide_eq_true hle⟩

/-- **The listed acknowledgements are the undelivered ones** (`UndeliveredAck`), on chains whose
answers are among the sequences asked for. -/
theorem undeliveredAck_iff (hq : HonestQueries source sink) {n : ℕ} :
    UndeliveredAck source sink tips c p n ↔
      ∃ ns, UndeliveredAcks source sink tips c p ns ∧ n ∈ ns := by
  constructor
  · rintro ⟨channelEnd, c', acked, ms, hend, hc', hacked, -, hms, hn⟩
    exact ⟨ms, ⟨channelEnd, c', acked, hend, hc', hacked, hms⟩, hn⟩
  · rintro ⟨ms, ⟨channelEnd, c', acked, hend, hc', hacked, hms⟩, hn⟩
    exact ⟨channelEnd, c', acked, ms, hend, hc', hacked, hq.unreceivedAcks _ _ _ _ _ hms n hn,
      hms, hn⟩

/-! ### The delay and the proof height -/

/-- The delay has passed exactly if it is over. -/
theorem verifyDelayOn_eq_true_iff {chain : IbcProvider Static} {clientId : ClientId}
    {timestamp : Timestamp} {height t : Height} {delay : Duration} {passed : Bool}
    (hr : (verifyDelayOn chain clientId timestamp height delay t).Returns passed) :
    passed = true ↔ ∃ updateHeight updateTime,
      (chain.queryClientUpdateTimeAndHeight clientId t).Returns (updateHeight, updateTime) ∧
        DelayOver timestamp height updateTime updateHeight delay
          (calculateBlockDelay delay chain.expectedBlockTime) := by
  constructor
  · rintro rfl
    exact verifyDelayOn_true hr
  · rintro ⟨updateHeight, updateTime, hupdate, hover⟩
    unfold verifyDelayOn Prog.Returns at hr
    obtain ⟨answer, hanswer, hr⟩ := Prog.leaf_bind_ok.mp hr
    obtain rfl := Prog.Returns.unique hanswer (Prog.leaf_attempt_ok.mpr hupdate)
    obtain ⟨elapsed, helapsed, hr⟩ := Prog.leaf_bind_ok.mp hr
    rw [hasDelayElapsed_of_delayOver hover helapsed, if_pos rfl] at hr
    exact (Outcome.ok.inj hr).symm

/-- **The height for a membership proof is the first one with a consensus state.** -/
theorem queryReadyHeight_eq_some_iff {created sequence : ℕ} {found : Option Height}
    (hr : (queryReadyHeight source sink tips view created sequence).Returns found) (t : Height) :
    found = some t ↔ FirstReadyHeight source sink tips view created t := by
  unfold queryReadyHeight Prog.Returns at hr
  dsimp only at hr
  split_ifs at hr with hlt
  · -- the client has not reached the height yet
    obtain rfl := Outcome.ok.inj hr
    constructor
    · intro h
      cases h
    · intro ht
      have hlower := ht.first.lower
      have hupper := ht.first.upper
      omega
  simp only [Prog.leaf_bind_ok, Prog.leaf_expect_ok, Height.new_eq_some] at hr
  obtain ⟨start, ⟨hrn, hrh⟩, searched, hsearched, hr⟩ := hr
  have hfirst : ∀ t, searched = some t ↔ FirstAnswered sink.toIbcProvider tips.sinkHeight
      source.clientId view.latestSourceHeightOnSink.revisionNumber created
      (view.latestSourceHeightOnSink.revisionHeight + 1) t := by
    intro t
    have hstop : start.revisionHeight + (view.latestSourceHeightOnSink.revisionHeight + 1 -
        start.revisionHeight) = view.latestSourceHeightOnSink.revisionHeight + 1 := by omega
    rw [linearSearch_eq_some_iff hsearched, hstop, hrn, hrh]
  cases searched with
  | none =>
      obtain rfl := Outcome.ok.inj hr
      constructor
      · intro h
        cases h
      · exact fun ht => (hfirst t).mpr ht.first
  | some t₁ =>
      obtain ⟨passed, hpassed, hr⟩ := Prog.leaf_bind_ok.mp hr
      have hdelay := verifyDelayOn_eq_true_iff hpassed
      split_ifs at hr with htrue
      · obtain rfl := Outcome.ok.inj hr
        constructor
        · intro h
          obtain rfl := Option.some.inj h
          exact ⟨(hfirst _).mp rfl, hdelay.mp htrue⟩
        · exact fun ht => (hfirst t).mpr ht.first
      · obtain rfl := Outcome.ok.inj hr
        constructor
        · intro h
          cases h
        · intro ht
          obtain rfl := Option.some.inj ((hfirst t).mpr ht.first)
          exact absurd (hdelay.mpr ht.delay) htrue

/-! ### One round of each loop -/

variable [Crates] {acc acc' : ReadyPackets}

/-- The message of a packet, once the packet is known. -/
theorem recvMessage_iff {packet : Packet} {a : Any}
    (hpacket : (packetInfoToPacket info : Prog Static Error Packet).Returns packet) :
    RecvMessage source sink tips view info a ↔
      Crates.timedOut packet tips.sinkTimestamp tips.sinkHeight = false ∧
        view.sinkChannelEnd.state ≠ .closed ∧
        ∃ t, FirstReadyHeight source sink tips view info.height t ∧
          (constructRecvMessage source.toIbcProvider sink.toIbcProvider packet t).Returns a := by
  constructor
  · rintro ⟨packet', t, hpacket', hto, hclosed, ht, hmsg⟩
    obtain rfl := Prog.Returns.unique hpacket hpacket'
    exact ⟨hto, hclosed, t, ht, hmsg⟩
  · rintro ⟨hto, hclosed, t, ht, hmsg⟩
    exact ⟨packet, t, hpacket, hto, hclosed, ht, hmsg⟩

/-- The timeout of a packet, once the packet is known. -/
theorem timeoutMessage_iff {packet : Packet} {a : Any}
    (hpacket : (packetInfoToPacket info : Prog Static Error Packet).Returns packet) :
    TimeoutMessage source sink tips view view.latestSinkHeightOnSource info a ↔
      Crates.timedOut packet tips.sinkTimestamp tips.sinkHeight = true ∧
        ∃ t, (queryTimeoutHeight source sink tips view packet info.height).Returns (some t) ∧
          (constructTimeoutMessage source.toIbcProvider sink.toIbcProvider view.sinkChannelEnd
            packet view.nextSequenceRecv t).Returns a := by
  constructor
  · rintro ⟨packet', t, hpacket', hto, ht, hmsg⟩
    obtain rfl := Prog.Returns.unique hpacket hpacket'
    exact ⟨hto, t, queryTimeoutHeight_some_iff.mpr ht, hmsg⟩
  · rintro ⟨hto, t, ht, hmsg⟩
    exact ⟨packet, t, hpacket, hto, queryTimeoutHeight_some_iff.mp ht, hmsg⟩

/-- **A round over the sent packets adds exactly the message for the sink that is due.** -/
theorem sendPacketStep_messages
    (hr : (sendPacketStep source sink tips view acc info).Returns acc') (a : Any) :
    a ∈ acc'.messages ↔ a ∈ acc.messages ∨ RecvMessage source sink tips view info a := by
  obtain ⟨packet, hpacket, hround⟩ := sendPacketStep_returns hr
  rw [recvMessage_iff hpacket]
  cases hround with
  | noTimeoutHeight hto hheight => simp [hto]
  | timeout hto hheight hmsg => simp [hto]
  | sinkClosed hto hclosed => simp [hclosed]
  | notReady hto hclosed hheight =>
      have hnone : ∀ t, ¬FirstReadyHeight source sink tips view info.height t := by
        intro t ht
        cases (queryReadyHeight_eq_some_iff hheight t).mpr ht
      simp [hnone]
  | recv hto hclosed hheight hmsg =>
      rename_i t b
      have ht := queryReadyHeight_eq_some_iff hheight
      rw [List.mem_append, List.mem_singleton]
      refine or_congr_right ⟨?_, ?_⟩
      · rintro rfl
        exact ⟨hto, hclosed, t, (ht t).mp rfl, hmsg⟩
      · rintro ⟨-, -, t', ht', hmsg'⟩
        obtain rfl := Option.some.inj ((ht t').mpr ht')
        exact Prog.Returns.unique hmsg' hmsg

/-- **A round over the sent packets adds exactly the timeout that is due.** -/
theorem sendPacketStep_timeouts
    (hr : (sendPacketStep source sink tips view acc info).Returns acc') (a : Any) :
    a ∈ acc'.timeouts ↔ a ∈ acc.timeouts ∨
      TimeoutMessage source sink tips view view.latestSinkHeightOnSource info a := by
  obtain ⟨packet, hpacket, hround⟩ := sendPacketStep_returns hr
  rw [timeoutMessage_iff hpacket]
  obtain ⟨heq, hnone⟩ | ⟨t, b, hto, hheight, hmsg, heq⟩ := hround.timeouts
  · have hnot : ¬(Crates.timedOut packet tips.sinkTimestamp tips.sinkHeight = true ∧
        ∃ t, (queryTimeoutHeight source sink tips view packet info.height).Returns (some t) ∧
          (constructTimeoutMessage source.toIbcProvider sink.toIbcProvider view.sinkChannelEnd
            packet view.nextSequenceRecv t).Returns a) := by
      rintro ⟨hto, t, ht, -⟩
      cases Prog.Returns.unique (hnone hto) ht
    rw [heq, or_iff_left hnot]
  · rw [heq, List.mem_append, List.mem_singleton]
    refine or_congr_right ⟨?_, ?_⟩
    · rintro rfl
      exact ⟨hto, t, hheight, hmsg⟩
    · rintro ⟨-, t', ht', hmsg'⟩
      obtain rfl := Option.some.inj (Prog.Returns.unique ht' hheight)
      exact Prog.Returns.unique hmsg' hmsg

/-- **A round over the acknowledgements adds exactly the one that is due.** -/
theorem acknowledgementStep_messages
    (hr : (acknowledgementStep source sink tips view acc info).Returns acc') (a : Any) :
    a ∈ acc'.messages ↔
      a ∈ acc.messages ∨ AcknowledgementMessage source sink tips view info a := by
  unfold acknowledgementStep Prog.Returns at hr
  obtain ⟨packet, hpacket, hr⟩ := Prog.leaf_bind_ok.mp hr
  split at hr
  · rename_i hack
    obtain rfl := Outcome.ok.inj hr
    simp [AcknowledgementMessage, hack]
  · rename_i ack hack
    obtain ⟨found, hfound, hr⟩ := Prog.leaf_bind_ok.mp hr
    have ht := queryReadyHeight_eq_some_iff hfound
    cases found with
    | none =>
        obtain rfl := Outcome.ok.inj hr
        have hnone : ¬AcknowledgementMessage source sink tips view info a := by
          rintro ⟨-, -, t, -, -, hheight, -⟩
          cases (ht t).mpr hheight
        rw [or_iff_left hnone]
    | some t =>
        obtain ⟨b, hmsg, hr⟩ := Prog.leaf_bind_ok.mp hr
        obtain rfl := Outcome.ok.inj hr
        rw [List.mem_append, List.mem_singleton]
        refine or_congr_right ⟨?_, ?_⟩
        · rintro rfl
          exact ⟨packet, ack, t, hpacket, hack, (ht t).mp rfl, hmsg⟩
        · rintro ⟨packet', ack', t', hpacket', hack', hheight, hmsg'⟩
          obtain rfl := Prog.Returns.unique hpacket hpacket'
          obtain rfl := Option.some.inj (hack.symm.trans hack')
          obtain rfl := Option.some.inj ((ht t').mpr hheight)
          exact Prog.Returns.unique hmsg' hmsg

/-! ### The whitelist -/

/-- **What a round over the whitelist does with a channel that it visits.** -/
theorem channelStep_ran (hview : (queryChannelView source sink tips c p).Returns (some view))
    (hr : (channelStep source sink tips acc (c, p)).Returns acc') :
    ∃ seqs infos acc₁ acks,
      (queryUndeliveredSequences tips.sourceHeight tips.sinkHeight c p source.toIbcProvider
        sink.toIbcProvider).Returns seqs ∧
      (source.querySendPackets c p seqs).Returns infos ∧
      (infos.foldlM (sendPacketStep source sink tips view) acc).Returns acc₁ ∧
      (queryUndeliveredAcks tips.sourceHeight tips.sinkHeight c p source.toIbcProvider
        sink.toIbcProvider).Returns acks ∧
      if view.sourceChannelEnd.state = .closed then acc' = acc₁
      else ∃ received, (source.queryRecvPackets c p acks).Returns received ∧
        (received.foldlM (acknowledgementStep source sink tips view) acc₁).Returns acc' := by
  obtain ⟨view', hview', h⟩ := Prog.leaf_bind_ok.mp hr
  obtain rfl := Prog.Returns.unique hview hview'
  obtain ⟨seqs, hseqs, h⟩ := Prog.leaf_bind_ok.mp h
  obtain ⟨infos, hinfos, h⟩ := Prog.leaf_bind_ok.mp h
  obtain ⟨acc₁, hfold, h⟩ := Prog.leaf_bind_ok.mp h
  obtain ⟨acks, hacks, h⟩ := Prog.leaf_bind_ok.mp h
  refine ⟨seqs, infos, acc₁, acks, hseqs, hinfos, hfold, hacks, ?_⟩
  split_ifs at h ⊢ with hclosed
  · exact (Outcome.ok.inj h).symm
  · exact Prog.leaf_bind_ok.mp h

/-- **A round over the whitelist adds exactly the messages that are looked up.** -/
theorem channelStep_messages
    (hr : (channelStep source sink tips acc (c, p)).Returns acc') (a : Any) :
    a ∈ acc'.messages ↔ a ∈ acc.messages ∨ MessageLookedUp source sink tips (c, p) a := by
  obtain ⟨hskip, rfl⟩ | ⟨view, -, -, -, -, hview, -⟩ := channelStep_returns hr
  · have hnone : ¬MessageLookedUp source sink tips (c, p) a := by
      rintro ⟨view, hread, -⟩
      exact not_channelRead_of_none hskip hread
    rw [or_iff_left hnone]
  obtain ⟨seqs, infos, acc₁, acks, hseqs, hinfos, hfold, hacks, hrest⟩ :=
    channelStep_ran hview hr
  have hsent := Prog.mem_foldlM_iff ReadyPackets.messages
    (fun info _ _ _ hstep => sendPacketStep_messages hstep) hfold a
  have hacks' := queryUndeliveredAcks_iff.mp hacks
  have hackUnique : ∀ ns, UndeliveredAcks source sink tips c p ns → ns = acks := fun ns hns =>
    Prog.Returns.unique (queryUndeliveredAcks_iff.mpr hns) hacks
  have hreceived : a ∈ acc'.messages ↔ a ∈ acc₁.messages ∨
      view.sourceChannelEnd.state ≠ .closed ∧ ∃ info,
        ReceivedUndelivered source sink tips c p info ∧
          AcknowledgementMessage source sink tips view info a := by
    split_ifs at hrest with hclosed
    · simp [hrest, hclosed]
    · obtain ⟨received, hreceived, hfold⟩ := hrest
      rw [Prog.mem_foldlM_iff ReadyPackets.messages
        (fun info _ _ _ hstep => acknowledgementStep_messages hstep) hfold a, and_iff_right hclosed]
      simp only [ReceivedUndelivered, reportedFor_iff hacks' hackUnique hreceived]
  rw [hreceived, hsent, or_assoc]
  refine or_congr_right (Iff.trans ?_ (exists_channelRead_iff hview fun _ _ => ?_).symm)
  · simp only [SentReported,
      reportedFor_iff hseqs (fun _ h => Prog.Returns.unique h hseqs) hinfos]
  · simp only [RecvMessage, AcknowledgementMessage, firstReadyHeight_withLatest]

/-- **A round over the whitelist adds exactly the timeouts that are looked up.** -/
theorem channelStep_timeouts_iff
    (hr : (channelStep source sink tips acc (c, p)).Returns acc') (a : Any) :
    a ∈ acc'.timeouts ↔ a ∈ acc.timeouts ∨ TimeoutLookedUp source sink tips (c, p) a := by
  obtain ⟨hskip, rfl⟩ | ⟨view, seqs, infos, acc₁, hview, hseqs, hinfos, hfold, heq⟩ :=
    channelStep_timeouts hr
  · have hnone : ¬TimeoutLookedUp source sink tips (c, p) a := by
      rintro ⟨view, hread, -⟩
      exact not_channelRead_of_none hskip hread
    rw [or_iff_left hnone]
  rw [heq, Prog.mem_foldlM_iff ReadyPackets.timeouts
    (fun info _ _ _ hstep => sendPacketStep_timeouts hstep) hfold a]
  refine or_congr_right (Iff.trans ?_ (exists_channelRead_iff hview fun _ _ => Iff.rfl).symm)
  simp only [SentReported, reportedFor_iff hseqs (fun _ h => Prog.Returns.unique h hseqs) hinfos,
    (queryChannelView_some_iff.mp hview).2]

/-- **What the function reports** is what it looks up on the whitelisted channels. -/
theorem queryReadyAndTimedOutPackets_lookedUp {ready : ReadyPackets}
    (htips : (queryTips source sink).Returns tips)
    (hr : (queryReadyAndTimedOutPackets source sink).Returns ready) (a : Any) :
    (a ∈ ready.messages ↔
        ∃ channel ∈ source.channelWhitelist, MessageLookedUp source sink tips channel a) ∧
      (a ∈ ready.timeouts ↔
        ∃ channel ∈ source.channelWhitelist, TimeoutLookedUp source sink tips channel a) := by
  obtain ⟨tips', htips', hr⟩ := Prog.leaf_bind_ok.mp hr
  obtain rfl := Prog.Returns.unique htips htips'
  constructor
  · rw [Prog.mem_foldlM_iff ReadyPackets.messages
      (fun _ _ _ _ hstep => channelStep_messages hstep) hr a]
    simp
  · rw [Prog.mem_foldlM_iff ReadyPackets.timeouts
      (fun _ _ _ _ hstep => channelStep_timeouts_iff hstep) hr a]
    simp

/-! ### What is looked up, and what is due -/

end Exact

/-! ### The three kinds at work -/

/-- Both chains keep the state of both clients at one height. -/
theorem readySource_clients {tips : Tips} {latest : Height}
    (htips : (queryTips readySource (readySink (height0 48))).Returns tips) :
    SinkClientAt readySource (readySink (height0 48)) tips latest ↔ latest = height0 48 := by
  obtain rfl := Outcome.ok.inj htips
  constructor
  · rintro ⟨clientState, hdecoded, rfl⟩
    exact congrArg ClientState.latestHeight (Decoded.unique hdecoded ⟨_, rfl, rfl⟩)
  · rintro rfl
    exact ⟨_, ⟨_, rfl, rfl⟩, rfl⟩

/-- None of the three slips touches the channel. -/
theorem readySource_untouched {tips : Tips}
    (htips : (queryTips readySource (readySink (height0 48))).Returns tips) (c : ChannelId)
    (p : PortId) : let _ := Crates.reference
    NextNotCommitted readySource (readySink (height0 48)) tips c p ∧
      ¬ClosedSinkAck readySource (readySink (height0 48)) tips c p ∧
      SameSearch readySource (readySink (height0 48)) tips c p := by
  refine ⟨?_, ?_, ?_⟩
  · rintro channelEnd c' committed r hend - hord
    obtain rfl := Decoded.unique hend ⟨_, rfl, rfl⟩
    exact absurd rfl hord
  · rintro ⟨view, info, ack, t, hread, -, hclosed, -⟩
    obtain ⟨c', -, hend⟩ := hread.sinkEnd
    rw [Decoded.unique hend ⟨_, rfl, rfl⟩] at hclosed
    cases hclosed
  · rintro view info packet t hread - - -
    obtain ⟨clientState, hdecoded, hlatest⟩ := hread.sourceClient
    obtain rfl := Decoded.unique hdecoded ⟨_, rfl, rfl⟩
    simp only [readySource_clients htips, exists_eq_left, ← hlatest]

end HyperspaceLight
