/-
# Which client bounds the timeout search

A timeout is proved to the source, by a consensus state of the sink's client on
the source; `get_timeout_proof_height` says so in the name of its bound,
`latest_client_height_on_source`.  `query_ready_and_timed_out_packets` fills the
bound from its second client-state query, and that query repeats the first: it
asks the sink for the source's client.

Two worlds that differ only in the height recorded there
(`Chain.withClientHeight`) therefore search below different bounds.  They report
the same timeouts if the two searches agree on every pending packet that timed
out, and, since a packet is reported once, only then.  Over a store without gaps
they agree on a packet if both find the first late height whose delay has passed,
or neither does (`sameSearches_iff_stored`).
-/

import HyperspaceLight.Core.ReadyPackets
import HyperspaceLight.Core.TimeoutSearch

namespace HyperspaceLight

open Interaction

/-- The sink with `latest` as the latest height recorded in the state of the
client `id`, and everything else unchanged. -/
def Chain.withClientHeight (sink : Chain Static) (id : ClientId) (latest : Height) :
    Chain Static :=
  { sink with
    queryClientState := fun h id' =>
      if id' = id then do
        let r ← sink.queryClientState h id'
        return { r with
          value := r.value.map fun raw => raw.map fun cs => { cs with latestHeight := latest } }
      else sink.queryClientState h id' }

/-- A view with `latest` in both places a client height is kept. -/
def ChannelView.withHeight (view : ChannelView) (latest : Height) : ChannelView :=
  { view with latestSourceHeightOnSink := latest, latestSinkHeightOnSource := latest }

/-- The search for a timeout proof of `packet` bounded by `latest` finds `t`, and
the delay since the update to `t` has passed. -/
def TimeoutHeightFound (source sink : Chain Static) (tips : Tips) (delay : Duration)
    (latest : Height) (packet : Packet) (created : ℕ) (t : Height) : Prop :=
  (getTimeoutProofHeight source.toIbcProvider sink.toIbcProvider tips.sourceHeight tips.sinkHeight
      tips.sinkTimestamp latest packet created).Returns (some t) ∧
    (verifyDelayPassed source.toIbcProvider sink.toIbcProvider tips.sourceTimestamp
      tips.sourceHeight tips.sinkTimestamp tips.sinkHeight delay t .source).Returns true

section Proofs

variable {source sink : Chain Static} {tips : Tips} {c : ChannelId} {p : PortId}
  {view : ChannelView} {k l l₁ l₂ : Height} {packet : Packet} {created : ℕ} {t : Height}

/-! ### What does not depend on the recorded height -/

/-- The client state on the sink has the recorded height, whatever it is. -/
theorem queryClientStateOnSink_withClientHeight {h : Height} {cs : ClientState}
    (hr : (queryClientStateOnSink source (sink.withClientHeight source.clientId l) h).Returns cs) :
    cs = ⟨l⟩ ∧
      (queryClientStateOnSink source (sink.withClientHeight source.clientId k) h).Returns ⟨k⟩ := by
  simp only [queryClientStateOnSink, Chain.withClientHeight, if_true, Prog.Returns,
    Prog.leaf_bind_ok, Prog.leaf_okOr_ok, Prog.leaf_mapErr_ok, Raw.leaf_tryFrom_ok,
    Prog.leaf_pure, Outcome.ok.injEq] at hr ⊢
  obtain ⟨_, ⟨r, hr, rfl⟩, raw, hraw, rfl⟩ := hr
  obtain ⟨raw', hraw', hmap⟩ := Option.map_eq_some_iff.mp hraw
  cases raw' with
  | error e => cases hmap
  | ok cs' =>
      cases hmap
      exact ⟨rfl, _, ⟨r, hr, rfl⟩, .ok ⟨k⟩, by rw [hraw']; rfl, rfl⟩

/-- **A channel view depends on the recorded height in two places only.** -/
theorem queryChannelView_withClientHeight {o : Option ChannelView}
    (hr : (queryChannelView source (sink.withClientHeight source.clientId l) tips c p).Returns o) :
    o.map (·.withHeight l) = o ∧
      (queryChannelView source (sink.withClientHeight source.clientId k) tips c p).Returns
        (o.map (·.withHeight k)) := by
  unfold queryChannelView Prog.Returns at hr ⊢
  simp only [Prog.leaf_bind_ok, Prog.leaf_okOr_ok, Raw.leaf_tryFrom_ok] at hr ⊢
  obtain ⟨response, hresponse, raw, hraw, sourceEnd, rfl, hr⟩ := hr
  split_ifs at hr with hstate
  · simp only [Prog.leaf_bind_ok, Prog.leaf_okOr_ok, Raw.leaf_tryFrom_ok, Prog.leaf_pure,
      Outcome.ok.injEq] at hr
    obtain ⟨id, hid, conn, hconn, rawConn, hrawConn, connEnd, rfl, c', hc', hr⟩ := hr
    obtain ⟨sinkResponse, hsink, rawSink, hrawSink, sinkEnd, rfl, next, hnext, hr⟩ := hr
    obtain ⟨cs, hcs, cs', hcs', rfl⟩ := hr
    obtain ⟨rfl, hnew⟩ := queryClientStateOnSink_withClientHeight (k := k) hcs
    obtain ⟨rfl, -⟩ := queryClientStateOnSink_withClientHeight (k := k) hcs'
    refine ⟨rfl, response, hresponse, _, hraw, sourceEnd, rfl, ?_⟩
    rw [if_neg (not_not_intro hstate)]
    simp only [Prog.leaf_bind_ok, Prog.leaf_okOr_ok, Raw.leaf_tryFrom_ok, Prog.leaf_pure,
      Outcome.ok.injEq]
    exact ⟨id, hid, conn, hconn, _, hrawConn, connEnd, rfl, c', hc', sinkResponse, hsink, _,
      hrawSink, sinkEnd, rfl, next, hnext, _, hnew, _, hnew, rfl⟩
  · simp only [Prog.leaf_pure, Outcome.ok.injEq] at hr
    subst hr
    refine ⟨rfl, response, hresponse, _, hraw, sourceEnd, rfl, ?_⟩
    rw [if_pos hstate]
    rfl

/-- A channel that is skipped is neither open nor closed. -/
theorem queryChannelView_none (hr : (queryChannelView source sink tips c p).Returns none) :
    ∃ channelEnd, Decoded (source.queryChannelEnd tips.sourceHeight c p) channelEnd ∧
      ¬(channelEnd.state = .open ∨ channelEnd.state = .closed) := by
  unfold queryChannelView Prog.Returns at hr
  simp only [Prog.leaf_bind_ok, Prog.leaf_okOr_ok, Raw.leaf_tryFrom_ok] at hr
  obtain ⟨response, hresponse, raw, hraw, sourceEnd, rfl, hr⟩ := hr
  split_ifs at hr with hstate
  · simp at hr
  · exact ⟨sourceEnd, ⟨response, hresponse, hraw⟩, hstate⟩

/-- **The timeout height of a round, in terms of the source's functions.** -/
theorem queryTimeoutHeight_some_iff :
    (queryTimeoutHeight source sink tips view packet created).Returns (some t) ↔
      TimeoutHeightFound source sink tips view.delayPeriod view.latestSinkHeightOnSource packet
        created t := by
  unfold queryTimeoutHeight TimeoutHeightFound
  constructor
  · intro hr
    obtain ⟨_ | found, hfound, hr⟩ := Prog.leaf_bind_ok.mp hr
    · simp at hr
    obtain ⟨passed, hpassed, hr⟩ := Prog.leaf_bind_ok.mp hr
    split_ifs at hr with htrue
    · simp only [Prog.leaf_pure, Outcome.ok.injEq, Option.some.injEq] at hr
      exact ⟨hr ▸ hfound, hr ▸ htrue ▸ hpassed⟩
    · simp at hr
  · rintro ⟨hfound, hpassed⟩
    refine Prog.leaf_bind_ok.mpr ⟨some t, hfound, Prog.leaf_bind_ok.mpr ⟨true, hpassed, rfl⟩⟩

/-- The search for a timeout height does not ask the sink for clients. -/
theorem timeoutHeightFound_withClientHeight {id : ClientId} {delay : Duration} :
    TimeoutHeightFound source (sink.withClientHeight id k) tips delay l packet created t ↔
      TimeoutHeightFound source sink tips delay l packet created t := by
  have hsearch : getTimeoutProofHeight source.toIbcProvider
      (sink.withClientHeight id k).toIbcProvider =
        getTimeoutProofHeight source.toIbcProvider sink.toIbcProvider := by
    funext
    unfold getTimeoutProofHeight
    rfl
  unfold TimeoutHeightFound
  rw [hsearch]
  rfl

/-- **The timeout height of a round in a world.** -/
theorem queryTimeoutHeight_withClientHeight :
    (queryTimeoutHeight source (sink.withClientHeight source.clientId l) tips (view.withHeight l)
        packet created).Returns (some t) ↔
      TimeoutHeightFound source sink tips view.delayPeriod l packet created t :=
  queryTimeoutHeight_some_iff.trans timeoutHeightFound_withClientHeight

/-- The construction of the message does not ask the sink for clients either. -/
theorem constructTimeoutMessage_withClientHeight [Crates] {id : ClientId} {channelEnd : ChannelEnd}
    {next : ℕ} :
    constructTimeoutMessage source.toIbcProvider (sink.withClientHeight id k).toIbcProvider
        channelEnd packet next t =
      constructTimeoutMessage source.toIbcProvider sink.toIbcProvider channelEnd packet next t := by
  unfold constructTimeoutMessage
  rfl

/-! ### On the stored heights and times -/

/-- What the search for a timeout proof of `packet` reads, up to `highest`: where the sink's
client was when the packet was created, and a consensus state with a time at each height from
there on. -/
structure StoredSearch (source sink : Chain Static) (tips : Tips) (packet : Packet) (created : ℕ)
    (timeoutHeight clientHeight : Height) (createdTime highest : ℕ) (times : ℕ → ℕ) : Prop where
  creation : CreationQueries source.toIbcProvider sink.toIbcProvider tips.sourceHeight created
    clientHeight createdTime
  stored : ∃ ans, ConsensusAnswers source.toIbcProvider tips.sourceHeight sink.clientId ans ∧
    ConsensusStore ans timeoutHeight.revisionNumber clientHeight.revisionHeight highest times

/-- The first late height of the search for a timeout proof, once the delay since the update
to it has passed. -/
structure DueHeight (source sink : Chain Static) (tips : Tips) (delay : Duration) (packet : Packet)
    (timeoutHeight clientHeight : Height) (createdTime : ℕ) (times : ℕ → ℕ) (t : Height) :
    Prop where
  revision : t.revisionNumber = timeoutHeight.revisionNumber
  first : FirstLate times packet.timeoutTimestamp.nanoseconds (max timeoutHeight.revisionHeight
    (expectedHeight clientHeight createdTime sink.expectedBlockTime packet)) t.revisionHeight
  passed : (verifyDelayPassed source.toIbcProvider sink.toIbcProvider tips.sourceTimestamp
    tips.sourceHeight tips.sinkTimestamp tips.sinkHeight delay t .source).Returns true

/-- **The height a bounded search finds, on the stored heights and times.** -/
theorem timeoutHeightFound_iff_stored {timeoutHeight clientHeight : Height}
    {createdTime highest : ℕ} {times : ℕ → ℕ} {delay : Duration}
    (hset : packet.timeoutHeight = .atHeight timeoutHeight)
    (h : StoredSearch source sink tips packet created timeoutHeight clientHeight createdTime highest
      times) (hle : l.revisionHeight ≤ highest) :
    TimeoutHeightFound source sink tips delay l packet created t ↔
      ProofHeightFound packet clientHeight l createdTime sink.expectedBlockTime times
          timeoutHeight ∧
        DueHeight source sink tips delay packet timeoutHeight clientHeight createdTime times t := by
  obtain ⟨ans, hans, hstore⟩ := h.stored
  have hbelow : ConsensusStore ans timeoutHeight.revisionNumber clientHeight.revisionHeight
      l.revisionHeight times :=
    ⟨fun t hrn hlo hhi => hstore.time t hrn hlo (hhi.trans hle),
      fun i j hi hij hj => hstore.mono i j hi hij (hj.trans hle)⟩
  unfold TimeoutHeightFound
  rw [Prog.returns_iff_eq_pure, getTimeoutProofHeight_eq_some_iff h.creation hans hbelow hset]
  exact ⟨fun ⟨⟨hf, hrn, hfirst⟩, hpassed⟩ => ⟨hf, hrn, hfirst, hpassed⟩,
    fun ⟨hf, hdue⟩ => ⟨⟨hf, hdue.revision, hdue.first⟩, hdue.passed⟩⟩

/-- **When the two searches for a packet agree, on the stored heights and times**: if the first
late height is there and the delay since the update to it has passed, both find it or neither
does. -/
theorem sameSearch_iff_stored {timeoutHeight clientHeight : Height} {createdTime : ℕ}
    {times : ℕ → ℕ} {delay : Duration} (hset : packet.timeoutHeight = .atHeight timeoutHeight)
    (h : StoredSearch source sink tips packet created timeoutHeight clientHeight createdTime
      (max l₁.revisionHeight l₂.revisionHeight) times) :
    (∀ t, TimeoutHeightFound source sink tips delay l₁ packet created t ↔
        TimeoutHeightFound source sink tips delay l₂ packet created t) ↔
      ((∃ t, DueHeight source sink tips delay packet timeoutHeight clientHeight createdTime times t) →
        (ProofHeightFound packet clientHeight l₁ createdTime sink.expectedBlockTime times
            timeoutHeight ↔
          ProofHeightFound packet clientHeight l₂ createdTime sink.expectedBlockTime times
            timeoutHeight)) := by
  simp only [timeoutHeightFound_iff_stored hset h (le_max_left _ _),
    timeoutHeightFound_iff_stored hset h (le_max_right _ _), and_congr_left_iff]
  exact exists_imp.symm

/-! ### Pending packets that timed out -/

variable [Crates]

/-- A packet that the function treats as timed out: sent on a whitelisted channel
that is open or closed, reported as undelivered, past its timeout at the sink. -/
structure TimedOutPacket (source sink : Chain Static) (tips : Tips) (c : ChannelId) (p : PortId)
    (delay : Duration) (info : PacketInfo) (packet : Packet) : Prop where
  whitelisted : (c, p) ∈ source.channelWhitelist
  channel : ∃ channelEnd id connectionEnd,
    Decoded (source.queryChannelEnd tips.sourceHeight c p) channelEnd ∧
      (channelEnd.state = .open ∨ channelEnd.state = .closed) ∧
      channelEnd.connectionHops.head? = some id ∧
      Decoded (source.queryConnectionEnd tips.sourceHeight id) connectionEnd ∧
      connectionEnd.delayPeriod = delay
  reported : ∃ seqs infos, (queryUndeliveredSequences tips.sourceHeight tips.sinkHeight c p
      source.toIbcProvider sink.toIbcProvider).Returns seqs ∧
    (source.querySendPackets c p seqs).Returns infos ∧ info ∈ infos
  converted : (packetInfoToPacket info : Prog Static Error Packet).Returns packet
  timedOut : Crates.timedOut packet tips.sinkTimestamp tips.sinkHeight = true

/-- **The two searches agree**: for every pending packet that timed out, the
search bounded by `l₁` and the one bounded by `l₂` find the same height. -/
def SameSearches (source sink : Chain Static) (l₁ l₂ : Height) : Prop :=
  ∀ tips c p delay info packet, (queryTips source sink).Returns tips →
    TimedOutPacket source sink tips c p delay info packet → ∀ t,
      TimeoutHeightFound source sink tips delay l₁ packet info.height t ↔
        TimeoutHeightFound source sink tips delay l₂ packet info.height t

/-- **When all searches agree, on the stored heights and times.** -/
theorem sameSearches_iff_stored
    (hstored : ∀ tips c p delay info packet timeoutHeight, (queryTips source sink).Returns tips →
      TimedOutPacket source sink tips c p delay info packet →
        packet.timeoutHeight = .atHeight timeoutHeight → ∃ clientHeight createdTime times,
          StoredSearch source sink tips packet info.height timeoutHeight clientHeight createdTime
            (max l₁.revisionHeight l₂.revisionHeight) times) :
    SameSearches source sink l₁ l₂ ↔
      ∀ tips c p delay info packet timeoutHeight clientHeight createdTime times,
        (queryTips source sink).Returns tips →
          TimedOutPacket source sink tips c p delay info packet →
            packet.timeoutHeight = .atHeight timeoutHeight →
              StoredSearch source sink tips packet info.height timeoutHeight clientHeight
                createdTime (max l₁.revisionHeight l₂.revisionHeight) times →
                (∃ t, DueHeight source sink tips delay packet timeoutHeight clientHeight createdTime
                  times t) →
                  (ProofHeightFound packet clientHeight l₁ createdTime sink.expectedBlockTime times
                      timeoutHeight ↔
                    ProofHeightFound packet clientHeight l₂ createdTime sink.expectedBlockTime
                      times timeoutHeight) := by
  constructor
  · intro hsame tips c p delay info packet timeoutHeight clientHeight createdTime times htips hp
      hset hs
    exact (sameSearch_iff_stored hset hs).mp (hsame tips c p delay info packet htips hp)
  · intro hsame tips c p delay info packet htips hp
    cases hset : packet.timeoutHeight with
    | never =>
        -- without a timeout height neither search finds one
        intro t
        refine iff_of_false ?_ ?_ <;>
        · rintro ⟨hfound, -⟩
          rw [getTimeoutProofHeight_never hset] at hfound
          cases Prog.returns_iff_outcome.mp hfound
    | atHeight timeoutHeight =>
        obtain ⟨clientHeight, createdTime, times, hs⟩ :=
          hstored tips c p delay info packet timeoutHeight htips hp hset
        exact (sameSearch_iff_stored hset hs).mpr
          (hsame tips c p delay info packet timeoutHeight clientHeight createdTime times htips hp
            hset hs)

/-- One round over the sent packets, as far as the timeouts go. -/
theorem SendPacketRound.timeouts {acc acc' : ReadyPackets} {info : PacketInfo}
    (h : SendPacketRound (fun _ _ => True) source sink tips view acc info packet acc') :
    (acc'.timeouts = acc.timeouts ∧
        (Crates.timedOut packet tips.sinkTimestamp tips.sinkHeight = true →
          (queryTimeoutHeight source sink tips view packet info.height).Returns none)) ∨
      ∃ t a, Crates.timedOut packet tips.sinkTimestamp tips.sinkHeight = true ∧
        (queryTimeoutHeight source sink tips view packet info.height).Returns (some t) ∧
        (constructTimeoutMessage source.toIbcProvider sink.toIbcProvider view.sinkChannelEnd packet
          view.nextSequenceRecv t).Returns a ∧
        acc'.timeouts = acc.timeouts ++ [a] := by
  cases h with
  | noTimeoutHeight hto hheight => exact .inl ⟨rfl, fun _ => hheight⟩
  | timeout hto hheight hmsg => exact .inr ⟨_, _, hto, hheight, hmsg, rfl⟩
  | sinkClosed hto | notReady hto | recv hto =>
      exact .inl ⟨rfl, fun h => absurd h (by rw [hto]; decide)⟩

/-- The acknowledgements add no timeouts. -/
theorem acknowledgements_timeouts {acc acc' : ReadyPackets} {infos : List PacketInfo}
    (h : (infos.foldlM (acknowledgementStep source sink tips view) acc).Returns acc') :
    acc'.timeouts = acc.timeouts := by
  obtain ⟨added, rfl, -⟩ := acknowledgements_returns h
  rfl

/-- One channel, as far as the timeouts go: it is skipped, or they come from the
loop over its sent packets. -/
theorem channelStep_timeouts {acc acc' : ReadyPackets}
    (h : (channelStep source sink tips acc (c, p)).Returns acc') :
    (queryChannelView source sink tips c p).Returns none ∧ acc' = acc ∨
      ∃ view seqs infos acc₁, (queryChannelView source sink tips c p).Returns (some view) ∧
        (queryUndeliveredSequences tips.sourceHeight tips.sinkHeight c p source.toIbcProvider
          sink.toIbcProvider).Returns seqs ∧
        (source.querySendPackets c p seqs).Returns infos ∧
        (infos.foldlM (sendPacketStep source sink tips view) acc).Returns acc₁ ∧
        acc'.timeouts = acc₁.timeouts := by
  obtain h | ⟨view, seqs, infos, acc₁, acks, hview, hseqs, hinfos, hfold, -, hrest⟩ :=
    channelStep_returns h
  · exact .inl h
  · refine .inr ⟨view, seqs, infos, acc₁, hview, hseqs, hinfos, hfold, ?_⟩
    obtain rfl | ⟨-, received, -, hacks⟩ := hrest
    · rfl
    · exact acknowledgements_timeouts hacks

/-! ### Agreeing searches give the same timeouts -/

/-- A packet a visited channel reports and that timed out. -/
theorem timedOutPacket_of_view {info : PacketInfo} {seqs : List ℕ} {infos : List PacketInfo}
    (hwl : (c, p) ∈ source.channelWhitelist)
    (hview : (queryChannelView source sink tips c p).Returns (some view))
    (hseqs : (queryUndeliveredSequences tips.sourceHeight tips.sinkHeight c p source.toIbcProvider
      sink.toIbcProvider).Returns seqs)
    (hinfos : (source.querySendPackets c p seqs).Returns infos) (hinfo : info ∈ infos)
    (hpacket : (packetInfoToPacket info : Prog Static Error Packet).Returns packet)
    (hto : Crates.timedOut packet tips.sinkTimestamp tips.sinkHeight = true) :
    TimedOutPacket source sink tips c p view.delayPeriod info packet := by
  have hat := queryChannelView_some hview
  obtain ⟨id, connectionEnd, hid, hconn, hdelay⟩ := hat.connection
  exact ⟨hwl, ⟨view.sourceChannelEnd, id, connectionEnd, hat.sourceEnd, hat.openOrClosed, hid, hconn,
    hdelay⟩, ⟨seqs, infos, hseqs, hinfos, hinfo⟩, hpacket, hto⟩

/-- The recorded height plays no part in which packets are pending. -/
theorem timedOutPacket_withClientHeight {info : PacketInfo} {delay : Duration} :
    TimedOutPacket source (sink.withClientHeight source.clientId l) tips c p delay info packet ↔
      TimedOutPacket source sink tips c p delay info packet :=
  ⟨fun h => ⟨h.whitelisted, h.channel, h.reported, h.converted, h.timedOut⟩,
    fun h => ⟨h.whitelisted, h.channel, h.reported, h.converted, h.timedOut⟩⟩

/-- **One round in both worlds.** -/
theorem sendPacketStep_timeouts_eq {acc₁ acc₂ acc₁' acc₂' : ReadyPackets} {info : PacketInfo}
    (hacc : acc₁.timeouts = acc₂.timeouts)
    (hsame : ∀ packet, (packetInfoToPacket info : Prog Static Error Packet).Returns packet →
      Crates.timedOut packet tips.sinkTimestamp tips.sinkHeight = true → ∀ t,
        TimeoutHeightFound source sink tips view.delayPeriod l₁ packet info.height t ↔
          TimeoutHeightFound source sink tips view.delayPeriod l₂ packet info.height t)
    (h₁ : (sendPacketStep source (sink.withClientHeight source.clientId l₁) tips
      (view.withHeight l₁) acc₁ info).Returns acc₁')
    (h₂ : (sendPacketStep source (sink.withClientHeight source.clientId l₂) tips
      (view.withHeight l₂) acc₂ info).Returns acc₂') :
    acc₁'.timeouts = acc₂'.timeouts := by
  obtain ⟨packet, hp₁, h₁⟩ := sendPacketStep_returns h₁
  obtain ⟨packet₂, hp₂, h₂⟩ := sendPacketStep_returns h₂
  obtain rfl := Prog.Returns.unique hp₁ hp₂
  have hsame := hsame packet hp₁
  obtain ⟨e₁, n₁⟩ | ⟨t₁, a₁, hto, f₁, m₁, e₁⟩ := h₁.timeouts
  · obtain ⟨e₂, -⟩ | ⟨t₂, a₂, hto, f₂, m₂, e₂⟩ := h₂.timeouts
    · rw [e₁, e₂, hacc]
    · -- the second world finds a height, so the first one does
      have hfound := (hsame hto t₂).mpr (queryTimeoutHeight_withClientHeight.mp f₂)
      cases Prog.Returns.unique (n₁ hto) (queryTimeoutHeight_withClientHeight.mpr hfound)
  · have hfound := (hsame hto t₁).mp (queryTimeoutHeight_withClientHeight.mp f₁)
    have hfound := queryTimeoutHeight_withClientHeight.mpr hfound
    obtain ⟨e₂, n₂⟩ | ⟨t₂, a₂, -, f₂, m₂, e₂⟩ := h₂.timeouts
    · cases Prog.Returns.unique (n₂ hto) hfound
    · -- both find one: it is the same height, and the message does not ask for the bound
      obtain rfl := Option.some.inj (Prog.Returns.unique f₂ hfound)
      rw [constructTimeoutMessage_withClientHeight] at m₁ m₂
      obtain rfl := Prog.Returns.unique m₁ m₂
      rw [e₁, e₂, hacc]

/-- **One channel in both worlds.** -/
theorem channelStep_timeouts_eq {acc₁ acc₂ acc₁' acc₂' : ReadyPackets}
    (hsame : SameSearches source sink l₁ l₂) (htips : (queryTips source sink).Returns tips)
    (hwl : (c, p) ∈ source.channelWhitelist) (hacc : acc₁.timeouts = acc₂.timeouts)
    (h₁ : (channelStep source (sink.withClientHeight source.clientId l₁) tips acc₁ (c, p)).Returns
      acc₁')
    (h₂ : (channelStep source (sink.withClientHeight source.clientId l₂) tips acc₂ (c, p)).Returns
      acc₂') :
    acc₁'.timeouts = acc₂'.timeouts := by
  obtain ⟨v₁, rfl⟩ | ⟨view, seqs, infos, r₁, v₁, hseqs, hinfos, hfold₁, e₁⟩ :=
    channelStep_timeouts h₁
  · -- the channel is skipped in both worlds
    have hnone := (queryChannelView_withClientHeight (k := l₂) v₁).2
    obtain ⟨v₂, rfl⟩ | ⟨view, seqs, infos, r₂, v₂, -⟩ := channelStep_timeouts h₂
    · exact hacc
    · cases Prog.Returns.unique hnone v₂
  · obtain ⟨hview, hsome⟩ := queryChannelView_withClientHeight (k := l₂) v₁
    obtain ⟨v₂, rfl⟩ | ⟨view₂, seqs₂, infos₂, r₂, v₂, hseqs₂, hinfos₂, hfold₂, e₂⟩ :=
      channelStep_timeouts h₂
    · cases Prog.Returns.unique hsome v₂
    · obtain rfl := Option.some.inj (Prog.Returns.unique hsome v₂)
      obtain rfl := Prog.Returns.unique hseqs hseqs₂
      obtain rfl := Prog.Returns.unique hinfos hinfos₂
      rw [e₁, e₂]
      refine Prog.leaf_foldlM₂ (fun s t => s.timeouts = t.timeouts) hacc ?_ hfold₁ hfold₂
      intro info s s' t t' hinfo hst hs ht
      rw [← Option.some.inj hview] at hs
      refine sendPacketStep_timeouts_eq hst ?_ hs ht
      intro packet hpacket hto
      exact hsame tips c p view.delayPeriod info packet htips
        (timedOutPacket_withClientHeight.mp
          (timedOutPacket_of_view hwl v₁ hseqs hinfos hinfo hpacket hto))

/-- **Agreeing searches give the same timeouts.** -/
theorem timeouts_eq_of_sameSearches {r₁ r₂ : ReadyPackets} (hsame : SameSearches source sink l₁ l₂)
    (h₁ : (queryReadyAndTimedOutPackets source
      (sink.withClientHeight source.clientId l₁)).Returns r₁)
    (h₂ : (queryReadyAndTimedOutPackets source
      (sink.withClientHeight source.clientId l₂)).Returns r₂) :
    r₁.timeouts = r₂.timeouts := by
  obtain ⟨tips, htips, h₁⟩ := Prog.leaf_bind_ok.mp h₁
  obtain ⟨tips₂, htips₂, h₂⟩ := Prog.leaf_bind_ok.mp h₂
  obtain rfl := Prog.Returns.unique htips htips₂
  refine Prog.leaf_foldlM₂ (fun s t => s.timeouts = t.timeouts) rfl ?_ h₁ h₂
  rintro ⟨c, p⟩ s s' t t' hwl hst hs ht
  exact channelStep_timeouts_eq hsame htips hwl hst hs ht

/-! ### The same timeouts only from agreeing searches -/

/-- The packet and the proof height of a timeout message. -/
def Msg.timeoutOf : Msg → Option (Packet × Height)
  | .timeout m => some (m.packet, m.proofs.height)
  | .timeoutOnClose m => some (m.packet, m.proofs.height)
  | _ => none

/-- A timeout has the packet and the height it was made for. -/
theorem constructTimeoutMessage_timeoutOf {channelEnd : ChannelEnd} {next : ℕ} {a : Any}
    (h : (constructTimeoutMessage source.toIbcProvider sink.toIbcProvider channelEnd packet next
      t).Returns a) : a.msg.timeoutOf = some (packet, t) := by
  obtain ⟨m, ⟨rfl, rfl⟩, hmsg⟩ := constructTimeoutMessage_returns h
  rw [hmsg]
  split_ifs
  · rfl
  · rfl

/-- The timeouts of a channel only grow. -/
theorem channelStep_timeouts_subset {acc acc' : ReadyPackets}
    (h : (channelStep source sink tips acc (c, p)).Returns acc') {a : Any}
    (ha : a ∈ acc.timeouts) : a ∈ acc'.timeouts := by
  obtain ⟨-, rfl⟩ | ⟨view, seqs, infos, r, -, -, -, hfold, e⟩ := channelStep_timeouts h
  · exact ha
  · rw [e]
    refine Prog.leaf_foldlM (fun _ s => a ∈ s.timeouts) ha ?_ hfold
    intro _ info s s' hs _ hstep
    obtain ⟨packet, -, hround⟩ := sendPacketStep_returns hstep
    obtain ⟨e, -⟩ | ⟨t, b, -, -, -, e⟩ := hround.timeouts
    · rw [e]; exact hs
    · rw [e]; exact List.mem_append_left _ hs

/-- `a` is the timeout of a pending packet, at a height its search found. -/
def TimeoutOf (source sink : Chain Static) (tips : Tips) (l : Height) (a : Any) : Prop :=
  ∃ c p delay info packet t, TimedOutPacket source sink tips c p delay info packet ∧
    TimeoutHeightFound source sink tips delay l packet info.height t ∧
    a.msg.timeoutOf = some (packet, t)

/-- **Every timeout comes from a pending packet and its search.** -/
theorem channelStep_timeoutOf {acc acc' : ReadyPackets} (hwl : (c, p) ∈ source.channelWhitelist)
    (hacc : ∀ a ∈ acc.timeouts, TimeoutOf source sink tips l a)
    (h : (channelStep source (sink.withClientHeight source.clientId l) tips acc (c, p)).Returns
      acc') : ∀ a ∈ acc'.timeouts, TimeoutOf source sink tips l a := by
  obtain ⟨-, rfl⟩ | ⟨view, seqs, infos, r, hview, hseqs, hinfos, hfold, e⟩ := channelStep_timeouts h
  · exact hacc
  have hheight : view.withHeight l = view :=
    Option.some.inj (queryChannelView_withClientHeight (k := l) hview).1
  rw [e]
  refine Prog.leaf_foldlM (fun _ s => ∀ a ∈ s.timeouts, TimeoutOf source sink tips l a) hacc ?_
    hfold
  intro _ info s s' hs hinfo hstep
  obtain ⟨packet, hpacket, hround⟩ := sendPacketStep_returns hstep
  obtain ⟨e, -⟩ | ⟨t, b, hto, hfound, hmsg, e⟩ := hround.timeouts
  · rw [e]; exact hs
  · intro a ha
    rw [e] at ha
    rcases List.mem_append.mp ha with ha | ha
    · exact hs a ha
    · rw [List.mem_singleton.mp ha]
      rw [← hheight] at hfound
      exact ⟨c, p, view.delayPeriod, info, packet, t, timedOutPacket_withClientHeight.mp
        (timedOutPacket_of_view hwl hview hseqs hinfos hinfo hpacket hto),
        queryTimeoutHeight_withClientHeight.mp hfound, constructTimeoutMessage_timeoutOf hmsg⟩

/-- **Every pending packet whose search finds a height gets its timeout.** -/
theorem channelStep_reports {acc acc' : ReadyPackets} {delay : Duration} {info : PacketInfo}
    (h : (channelStep source (sink.withClientHeight source.clientId l) tips acc (c, p)).Returns
      acc') (hp : TimedOutPacket source sink tips c p delay info packet)
    (hfound : TimeoutHeightFound source sink tips delay l packet info.height t) :
    ∃ a ∈ acc'.timeouts, a.msg.timeoutOf = some (packet, t) := by
  obtain ⟨channelEnd, id, connectionEnd, hend, hstate, hid, hconn, hdelay⟩ := hp.channel
  obtain ⟨hview, rfl⟩ | ⟨view, seqs, infos, r, hview, hseqs, hinfos, hfold, e⟩ :=
    channelStep_timeouts h
  · obtain ⟨channelEnd', hend', hnot⟩ := queryChannelView_none hview
    obtain rfl := Decoded.unique hend hend'
    exact absurd hstate hnot
  have hheight : view.withHeight l = view :=
    Option.some.inj (queryChannelView_withClientHeight (k := l) hview).1
  obtain ⟨seqs', infos', hseqs', hinfos', hinfo⟩ := hp.reported
  obtain rfl := Prog.Returns.unique hseqs hseqs'
  obtain rfl := Prog.Returns.unique hinfos hinfos'
  -- the view has the delay of the packet's connection
  have hat := queryChannelView_some hview
  obtain rfl := Decoded.unique hend hat.sourceEnd
  obtain ⟨id', connectionEnd', hid', hconn', hdelay'⟩ := hat.connection
  obtain rfl := Option.some.inj (hid.symm.trans hid')
  obtain rfl := Decoded.unique hconn hconn'
  rw [e]
  refine Prog.leaf_foldlM (fun seen s => info ∈ seen →
    ∃ a ∈ s.timeouts, a.msg.timeoutOf = some (packet, t)) (fun h => absurd h List.not_mem_nil) ?_
    hfold hinfo
  intro seen info' s s' hs _ hstep hmem
  obtain ⟨packet', hpacket', hround⟩ := sendPacketStep_returns hstep
  rcases List.mem_append.mp hmem with hmem | hmem
  · obtain ⟨a, ha, htimeout⟩ := hs hmem
    obtain ⟨e, -⟩ | ⟨t, b, -, -, -, e⟩ := hround.timeouts
    · exact ⟨a, e ▸ ha, htimeout⟩
    · exact ⟨a, e ▸ List.mem_append_left _ ha, htimeout⟩
  · obtain rfl := List.mem_singleton.mp hmem
    obtain rfl := Prog.Returns.unique hp.converted hpacket'
    rw [← hdelay, hdelay'] at hfound
    have hfound := queryTimeoutHeight_withClientHeight.mpr hfound
    rw [hheight] at hfound
    obtain ⟨-, hnone⟩ | ⟨t', b, -, hfound', hmsg, e⟩ := hround.timeouts
    · cases Prog.Returns.unique (hnone hp.timedOut) hfound
    · obtain rfl := Option.some.inj (Prog.Returns.unique hfound hfound')
      exact ⟨b, e ▸ List.mem_append_right _ (List.mem_singleton.mpr rfl),
        constructTimeoutMessage_timeoutOf hmsg⟩

/-- What `query_send_packets` documents of its answers: packets of the channel
that was asked for, and one for each sequence. -/
structure ReportedOnce (source : Chain Static) : Prop where
  named : ∀ c p ns infos, (source.querySendPackets c p ns).Returns infos → ∀ i ∈ infos,
    i.sourcePort = p.text ∧ i.sourceChannel = c.text
  once : ∀ c p ns infos, (source.querySendPackets c p ns).Returns infos → ∀ i ∈ infos,
    ∀ j ∈ infos, i.sequence = j.sequence → i = j

/-- A pending packet is reported on one channel, with one delay, by one info. -/
theorem TimedOutPacket.unique {c' : ChannelId} {p' : PortId} {delay delay' : Duration}
    {info info' : PacketInfo} (hsource : ReportedOnce source)
    (h : TimedOutPacket source sink tips c p delay info packet)
    (h' : TimedOutPacket source sink tips c' p' delay' info' packet) :
    delay = delay' ∧ info = info' := by
  obtain ⟨seqs, infos, hseqs, hinfos, hinfo⟩ := h.reported
  obtain ⟨seqs', infos', hseqs', hinfos', hinfo'⟩ := h'.reported
  obtain ⟨hseq, ⟨hport, hchannel⟩, -⟩ := packetInfoToPacket_returns h.converted
  obtain ⟨hseq', ⟨hport', hchannel'⟩, -⟩ := packetInfoToPacket_returns h'.converted
  have hnamed := hsource.named c p seqs infos hinfos info hinfo
  have hnamed' := hsource.named c' p' seqs' infos' hinfos' info' hinfo'
  -- the packet names its channel
  obtain rfl : p = p' := Ident.ext (by rw [← hnamed.1, ← hport, hport', hnamed'.1])
  obtain rfl : c = c' := Ident.ext (by rw [← hnamed.2, ← hchannel, hchannel', hnamed'.2])
  obtain rfl := Prog.Returns.unique hseqs hseqs'
  obtain rfl := Prog.Returns.unique hinfos hinfos'
  refine ⟨?_, hsource.once c p seqs infos hinfos info hinfo info' hinfo' (hseq.symm.trans hseq')⟩
  obtain ⟨channelEnd, id, conn, hend, -, hid, hconn, rfl⟩ := h.channel
  obtain ⟨channelEnd', id', conn', hend', -, hid', hconn', rfl⟩ := h'.channel
  obtain rfl := Decoded.unique hend hend'
  obtain rfl := Option.some.inj (hid.symm.trans hid')
  obtain rfl := Decoded.unique hconn hconn'
  rfl

/-- **The whole run, from the timeouts to the searches and back.** -/
theorem timeouts_run {r : ReadyPackets} (h : (queryReadyAndTimedOutPackets source
      (sink.withClientHeight source.clientId l)).Returns r) :
    ∃ tips, (queryTips source sink).Returns tips ∧
      (∀ a ∈ r.timeouts, TimeoutOf source sink tips l a) ∧
      ∀ c p delay info packet t, TimedOutPacket source sink tips c p delay info packet →
        TimeoutHeightFound source sink tips delay l packet info.height t →
          ∃ a ∈ r.timeouts, a.msg.timeoutOf = some (packet, t) := by
  obtain ⟨tips, htips, h⟩ := Prog.leaf_bind_ok.mp h
  refine ⟨tips, htips, ?_, ?_⟩
  · refine Prog.leaf_foldlM (fun _ s => ∀ a ∈ s.timeouts, TimeoutOf source sink tips l a)
      (fun a ha => absurd ha List.not_mem_nil) ?_ h
    rintro _ ⟨c, p⟩ s s' hs hwl hstep
    exact channelStep_timeoutOf hwl hs hstep
  · intro c p delay info packet t hp hfound
    refine Prog.leaf_foldlM (fun seen s => (c, p) ∈ seen →
      ∃ a ∈ s.timeouts, a.msg.timeoutOf = some (packet, t)) (fun h => absurd h List.not_mem_nil) ?_
      h hp.whitelisted
    rintro seen ⟨c', p'⟩ s s' hs - hstep hmem
    rcases List.mem_append.mp hmem with hmem | hmem
    · obtain ⟨a, ha, htimeout⟩ := hs hmem
      exact ⟨a, channelStep_timeouts_subset hstep ha, htimeout⟩
    · cases List.mem_singleton.mp hmem
      exact channelStep_reports hstep hp hfound

/-- One direction of `sameSearches_of_timeouts_eq`. -/
theorem timeoutHeightFound_of_timeouts_eq {r₁ r₂ : ReadyPackets} {delay : Duration}
    {info : PacketInfo} (hsource : ReportedOnce source)
    (htips : (queryTips source sink).Returns tips)
    (h₁ : (queryReadyAndTimedOutPackets source
      (sink.withClientHeight source.clientId l₁)).Returns r₁)
    (h₂ : (queryReadyAndTimedOutPackets source
      (sink.withClientHeight source.clientId l₂)).Returns r₂)
    (heq : r₁.timeouts = r₂.timeouts) (hp : TimedOutPacket source sink tips c p delay info packet)
    (hfound : TimeoutHeightFound source sink tips delay l₁ packet info.height t) :
    TimeoutHeightFound source sink tips delay l₂ packet info.height t := by
  obtain ⟨tips₁, htips₁, -, hreports⟩ := timeouts_run h₁
  obtain ⟨tips₂, htips₂, hfrom, -⟩ := timeouts_run h₂
  obtain rfl := Prog.Returns.unique htips htips₁
  obtain rfl := Prog.Returns.unique htips htips₂
  -- the timeout of the first world is one of the second, and there it has a search
  obtain ⟨a, ha, htimeout⟩ := hreports c p delay info packet t hp hfound
  obtain ⟨c', p', delay', info', packet', t', hp', hfound', htimeout'⟩ := hfrom a (heq ▸ ha)
  rw [htimeout] at htimeout'
  cases htimeout'
  obtain ⟨rfl, rfl⟩ := hp.unique hsource hp'
  exact hfound'

/-- **Equal timeouts come from agreeing searches.** -/
theorem sameSearches_of_timeouts_eq {r₁ r₂ : ReadyPackets} (hsource : ReportedOnce source)
    (h₁ : (queryReadyAndTimedOutPackets source
      (sink.withClientHeight source.clientId l₁)).Returns r₁)
    (h₂ : (queryReadyAndTimedOutPackets source
      (sink.withClientHeight source.clientId l₂)).Returns r₂)
    (heq : r₁.timeouts = r₂.timeouts) : SameSearches source sink l₁ l₂ := by
  intro tips c p delay info packet htips hp t
  constructor
  · exact timeoutHeightFound_of_timeouts_eq hsource htips h₁ h₂ heq hp
  · exact timeoutHeightFound_of_timeouts_eq hsource htips h₂ h₁ heq.symm hp

/-- **When two worlds report the same timeouts.**  Two worlds that differ in the
height recorded for the source's client on the sink do so if their searches
agree on every pending packet that timed out; and, as packets are reported once,
only if. -/
theorem timeouts_eq_iff_sameSearches (source sink : Chain Static) (l₁ l₂ : Height)
    (r₁ r₂ : ReadyPackets)
    (h₁ : (queryReadyAndTimedOutPackets source
      (sink.withClientHeight source.clientId l₁)).Returns r₁)
    (h₂ : (queryReadyAndTimedOutPackets source
      (sink.withClientHeight source.clientId l₂)).Returns r₂) :
    (SameSearches source sink l₁ l₂ → r₁.timeouts = r₂.timeouts) ∧
      (ReportedOnce source → r₁.timeouts = r₂.timeouts → SameSearches source sink l₁ l₂) :=
  ⟨fun hsame => timeouts_eq_of_sameSearches hsame h₁ h₂,
    fun hsource heq => sameSearches_of_timeouts_eq hsource h₁ h₂ heq⟩

end Proofs

/-- The source of the example chains reports a packet once. -/
theorem readySource_reportedOnce : ReportedOnce readySource where
  named c p ns infos hr i hi := ((readySource_honest (height0 48)).sent c p ns infos hr i hi).2
  once c p ns infos hr i hi j hj hij := by
    simp only [readySource, Prog.Returns, Prog.leaf_pure, Outcome.ok.injEq] at hr
    rw [← hr, List.mem_filter] at hi hj
    obtain rfl | rfl : i = packetInfo 40 1 1000 none ∨ i = packetInfo 40 2 45 none := by
      simpa using hi.1
    all_goals
      obtain rfl | rfl : j = packetInfo 40 1 1000 none ∨ j = packetInfo 40 2 45 none := by
        simpa using hj.1
    · rfl
    · cases hij
    · cases hij
    · rfl

/-- The condition at work, between the recorded heights 48 and 55. -/
theorem readySource_timeouts_iff :
    ∃ r₁ r₂, (@queryReadyAndTimedOutPackets Static Crates.reference readySource
        ((readySink (height0 48)).withClientHeight readySource.clientId (height0 48))).Returns r₁ ∧
      (@queryReadyAndTimedOutPackets Static Crates.reference readySource
        ((readySink (height0 48)).withClientHeight readySource.clientId (height0 55))).Returns r₂ ∧
      (r₁.timeouts = r₂.timeouts ↔ @SameSearches Crates.reference readySource
        (readySink (height0 48)) (height0 48) (height0 55)) := by
  let _ := Crates.reference
  obtain ⟨r₁, h₁, -⟩ := Prog.returns_of_outcome
    (p := queryReadyAndTimedOutPackets readySource
      ((readySink (height0 48)).withClientHeight readySource.clientId (height0 48)))
    (f := fun _ => ()) (b := ()) (by decide +kernel)
  obtain ⟨r₂, h₂, -⟩ := Prog.returns_of_outcome
    (p := queryReadyAndTimedOutPackets readySource
      ((readySink (height0 48)).withClientHeight readySource.clientId (height0 55)))
    (f := fun _ => ()) (b := ()) (by decide +kernel)
  -- the `@` keeps the runs from being evaluated once more
  obtain ⟨hif, honly⟩ := timeouts_eq_iff_sameSearches readySource (readySink (height0 48))
    (height0 48) (height0 55) r₁ r₂ @h₁ @h₂
  exact ⟨r₁, r₂, h₁, h₂, honly readySource_reportedOnce, hif⟩

/-- **The wrong client decides.**  The sink's client on the source is at height
48 in both worlds.  If the sink records height 48 for the source's client, the
packet that timed out gets its message; if it records height 55, it gets none. -/
theorem timeouts_depend_on_source_client :
    ∃ r₁ r₂, (@queryReadyAndTimedOutPackets Static Crates.reference readySource
        ((readySink (height0 48)).withClientHeight readySource.clientId (height0 48))).Returns r₁ ∧
      (@queryReadyAndTimedOutPackets Static Crates.reference readySource
        ((readySink (height0 48)).withClientHeight readySource.clientId (height0 55))).Returns r₂ ∧
      r₁.timeouts.map Any.typeUrl = ["/ibc.core.channel.v1.MsgTimeout"] ∧ r₂.timeouts = [] := by
  let _ := Crates.reference
  obtain ⟨r₁, h₁, ht₁⟩ := Prog.returns_of_outcome
    (p := queryReadyAndTimedOutPackets readySource
      ((readySink (height0 48)).withClientHeight readySource.clientId (height0 48)))
    (f := fun r => r.timeouts.map Any.typeUrl) (b := ["/ibc.core.channel.v1.MsgTimeout"])
    (by decide +kernel)
  obtain ⟨r₂, h₂, ht₂⟩ := Prog.returns_of_outcome
    (p := queryReadyAndTimedOutPackets readySource
      ((readySink (height0 48)).withClientHeight readySource.clientId (height0 55)))
    (f := fun r => r.timeouts.map Any.typeUrl) (b := []) (by decide +kernel)
  exact ⟨r₁, r₂, h₁, h₂, ht₁, List.map_eq_nil_iff.mp ht₂⟩

end HyperspaceLight
