/-
# Readiness does not regress

Two snapshots of the chains, the later one with higher chains and with more consensus
states of the source's client on the sink, none of them at or below the height at which
the client was.  A packet that `query_ready_and_timed_out_packets` reports for the sink
at the earlier snapshot is reported at the later one, with the same proof height: the
search for the height goes up from the packet's height and meets the same consensus
states (`linearSearch_stable`), and a delay that is over stays over
(`DelayOver.mono`).

Unless the packet has been received, has timed out, or the channel has changed its
state, one thing can go wrong, on an ordered channel.  Once the packet is the one that
the sink accepts next, it is no longer counted as undelivered, and is not reported
(`queryReadyAndTimedOutPackets_stays_iff`).

What is said about the messages of a run is said about the rounds in which they are
added (`RecvRound`): every message for the sink comes from a round, and every round of a
run that returns has its effect on the result (`run_receives`, `run_visits`).
-/

import HyperspaceLight.Core.TimeoutBound
import HyperspaceLight.Primitives.Undelivered

namespace HyperspaceLight

open Interaction

/-- A message for the sink has the packet, with a proof as of `t`. -/
def ReadyPackets.Receives (ready : ReadyPackets) (packet : Packet) (t : Height) : Prop :=
  ∃ a ∈ ready.messages, ∃ m, a.msg = .recvPacket m ∧ m.packet = packet ∧ m.proofs.height = t

section Rounds

variable [Crates] {source sink : Chain Static} {tips : Tips} {c : ChannelId} {p : PortId}
  {view : ChannelView} {acc acc' : ReadyPackets} {info : PacketInfo} {packet : Packet} {t : Height}

/-! ### The round of a message -/

/-- A round that adds the message of a packet, with what it has read: the channel, the
undelivered sequences, the packets sent with these and the proof height. -/
structure RecvRound (source sink : Chain Static) (tips : Tips) (c : ChannelId) (p : PortId)
    (view : ChannelView) (seqs : List ℕ) (infos : List PacketInfo) (info : PacketInfo)
    (packet : Packet) (t : Height) : Prop where
  whitelisted : (c, p) ∈ source.channelWhitelist
  viewed : (queryChannelView source sink tips c p).Returns (some view)
  undelivered : (queryUndeliveredSequences tips.sourceHeight tips.sinkHeight c p
    source.toIbcProvider sink.toIbcProvider).Returns seqs
  reported : (source.querySendPackets c p seqs).Returns infos
  mem : info ∈ infos
  converted : (packetInfoToPacket info : Prog Static Error Packet).Returns packet
  notTimedOut : Crates.timedOut packet tips.sinkTimestamp tips.sinkHeight = false
  sinkNotClosed : view.sinkChannelEnd.state ≠ .closed
  height : (queryReadyHeight source sink tips view info.height info.sequence).Returns (some t)

/-- Some round adds the message of the packet. -/
def HasRound (source sink : Chain Static) (tips : Tips) (packet : Packet) (t : Height) : Prop :=
  ∃ c p view seqs infos info, RecvRound source sink tips c p view seqs infos info packet t

/-- Every message that receives a packet has its round. -/
def AllRounds (source sink : Chain Static) (tips : Tips) (acc : ReadyPackets) : Prop :=
  ∀ packet t, acc.Receives packet t → HasRound source sink tips packet t

/-- Messages that have their round may be added. -/
theorem AllRounds.add {added : List Any} (hacc : AllRounds source sink tips acc)
    (hadded : ∀ a ∈ added, ∀ m, a.msg = .recvPacket m →
      HasRound source sink tips m.packet m.proofs.height) :
    AllRounds source sink tips { acc with messages := acc.messages ++ added } := by
  rintro packet t ⟨a, ha, m, hm, rfl, rfl⟩
  rcases List.mem_append.mp ha with ha | ha
  · exact hacc _ _ ⟨a, ha, m, hm, rfl, rfl⟩
  · exact hadded a ha m hm

/-- **One channel**: what it adds has a round. -/
theorem channelStep_allRounds (hwl : (c, p) ∈ source.channelWhitelist)
    (hacc : AllRounds source sink tips acc)
    (h : (channelStep source sink tips acc (c, p)).Returns acc') :
    AllRounds source sink tips acc' := by
  obtain ⟨-, rfl⟩ | ⟨view, seqs, infos, acc₁, acks, hview, hseqs, hinfos, hfold, -, hrest⟩ :=
    channelStep_returns h
  · exact hacc
  have h₁ : AllRounds source sink tips acc₁ := by
    refine Prog.leaf_foldlM (fun _ s => AllRounds source sink tips s) hacc ?_ hfold
    intro _ info s s' hs hinfo hstep
    obtain ⟨packet, hpacket, hround⟩ := sendPacketStep_returns hstep
    cases hround with
    | noTimeoutHeight | sinkClosed | notReady | timeout => exact hs
    | recv hto hclosed hheight hbuilt =>
        obtain ⟨m, ⟨rfl, rfl⟩, hmsg⟩ := constructRecvMessage_returns hbuilt
        refine hs.add fun a ha m' hm' => ?_
        rw [List.mem_singleton.mp ha] at hm'
        obtain rfl := Msg.recvPacket.inj (hmsg.symm.trans hm')
        exact ⟨c, p, view, seqs, infos, info, hwl, hview, hseqs, hinfos, hinfo, hpacket, hto,
          hclosed, hheight⟩
  obtain rfl | ⟨-, received, -, hacks⟩ := hrest
  · exact h₁
  · obtain ⟨added, rfl, hadded⟩ := acknowledgements_returns hacks
    refine h₁.add fun a ha m hm => ?_
    obtain ⟨info, -, packet, ack, t, -, -, -, hmsg⟩ := hadded a ha
    obtain ⟨m', -, hmsg⟩ := constructAckMessage_returns hmsg
    exact nomatch hmsg.symm.trans hm

/-- **Every message for the sink that receives a packet comes from a round.** -/
theorem run_receives {ready : ReadyPackets} (htips : (queryTips source sink).Returns tips)
    (h : (queryReadyAndTimedOutPackets source sink).Returns ready)
    (hreceives : ready.Receives packet t) : HasRound source sink tips packet t := by
  obtain ⟨tips', htips', h⟩ := Prog.leaf_bind_ok.mp h
  obtain rfl := Prog.Returns.unique htips htips'
  have hall : AllRounds source sink tips ready := by
    refine Prog.leaf_foldlM (fun _ s => AllRounds source sink tips s) ?_ ?_ h
    · rintro packet t ⟨a, ha, -⟩
      exact absurd ha List.not_mem_nil
    · rintro _ ⟨c, p⟩ s s' hs hwl hstep
      exact channelStep_allRounds hwl hs hstep
  exact hall packet t hreceives

/-! ### What a run visits -/

/-- A round keeps the messages that are there. -/
theorem SendPacketRound.messages_subset
    (h : SendPacketRound (fun _ _ => True) source sink tips view acc info packet acc') :
    acc.messages ⊆ acc'.messages := by
  cases h with
  | noTimeoutHeight | sinkClosed | notReady | timeout => exact fun _ ha => ha
  | recv => exact fun _ ha => List.mem_append_left _ ha

/-- Each of the packets has its round, and what the round adds is in the messages. -/
def Visited (source sink : Chain Static) (tips : Tips) (view : ChannelView)
    (infos : List PacketInfo) (acc : ReadyPackets) : Prop :=
  ∀ info ∈ infos, ∃ packet before after,
    (packetInfoToPacket info : Prog Static Error Packet).Returns packet ∧
      SendPacketRound (fun _ _ => True) source sink tips view before info packet after ∧
      after.messages ⊆ acc.messages

/-- What was visited stays so as messages are added. -/
theorem Visited.mono {infos : List PacketInfo} (h : Visited source sink tips view infos acc)
    (hsub : acc.messages ⊆ acc'.messages) : Visited source sink tips view infos acc' := by
  intro info hinfo
  obtain ⟨packet, before, after, hpacket, hround, hafter⟩ := h info hinfo
  exact ⟨packet, before, after, hpacket, hround, fun _ ha => hsub (hafter ha)⟩

/-- **The loop over the sent packets** visits each of them. -/
theorem sendPackets_visited {infos : List PacketInfo}
    (h : (infos.foldlM (sendPacketStep source sink tips view) acc).Returns acc') :
    acc.messages ⊆ acc'.messages ∧ Visited source sink tips view infos acc' := by
  refine Prog.leaf_foldlM (fun seen s => acc.messages ⊆ s.messages ∧
    Visited source sink tips view seen s) ⟨fun _ ha => ha, ?_⟩ ?_ h
  · exact fun info hinfo => absurd hinfo List.not_mem_nil
  · rintro seen i s s' ⟨hsub, hseen⟩ - hstep
    obtain ⟨packet, hpacket, hround⟩ := sendPacketStep_returns hstep
    have hgrow := hround.messages_subset
    refine ⟨fun _ ha => hgrow (hsub ha), fun info hinfo => ?_⟩
    rcases List.mem_append.mp hinfo with hinfo | hinfo
    · exact hseen.mono hgrow info hinfo
    · rw [List.mem_singleton.mp hinfo]
      exact ⟨packet, s, s', hpacket, hround, fun _ ha => ha⟩

/-- A whitelisted channel, as a run leaves it: skipped, or visited packet by packet. -/
def ChannelVisited (source sink : Chain Static) (tips : Tips) (c : ChannelId) (p : PortId)
    (acc : ReadyPackets) : Prop :=
  (queryChannelView source sink tips c p).Returns none ∨
    ∃ view seqs infos, (queryChannelView source sink tips c p).Returns (some view) ∧
      (queryUndeliveredSequences tips.sourceHeight tips.sinkHeight c p source.toIbcProvider
        sink.toIbcProvider).Returns seqs ∧
      (source.querySendPackets c p seqs).Returns infos ∧
      Visited source sink tips view infos acc

/-- A visited channel stays so as messages are added. -/
theorem ChannelVisited.mono (h : ChannelVisited source sink tips c p acc)
    (hsub : acc.messages ⊆ acc'.messages) : ChannelVisited source sink tips c p acc' := by
  refine h.imp_right ?_
  rintro ⟨view, seqs, infos, hview, hseqs, hinfos, hvisited⟩
  exact ⟨view, seqs, infos, hview, hseqs, hinfos, hvisited.mono hsub⟩

/-- **One channel** is visited, and the messages stay. -/
theorem channelStep_visited (h : (channelStep source sink tips acc (c, p)).Returns acc') :
    acc.messages ⊆ acc'.messages ∧ ChannelVisited source sink tips c p acc' := by
  obtain ⟨hview, rfl⟩ | ⟨view, seqs, infos, acc₁, acks, hview, hseqs, hinfos, hfold, -, hrest⟩ :=
    channelStep_returns h
  · exact ⟨fun _ ha => ha, .inl hview⟩
  obtain ⟨hsub, hvisited⟩ := sendPackets_visited hfold
  have hgrow : acc₁.messages ⊆ acc'.messages := by
    obtain rfl | ⟨-, received, -, hacks⟩ := hrest
    · exact fun _ ha => ha
    · obtain ⟨added, rfl, -⟩ := acknowledgements_returns hacks
      exact fun _ ha => List.mem_append_left _ ha
  exact ⟨fun _ ha => hgrow (hsub ha),
    .inr ⟨view, seqs, infos, hview, hseqs, hinfos, hvisited.mono hgrow⟩⟩

/-- **A run that returns has visited every channel of the whitelist.** -/
theorem run_visits {ready : ReadyPackets} (htips : (queryTips source sink).Returns tips)
    (h : (queryReadyAndTimedOutPackets source sink).Returns ready)
    (hwl : (c, p) ∈ source.channelWhitelist) : ChannelVisited source sink tips c p ready := by
  obtain ⟨tips', htips', h⟩ := Prog.leaf_bind_ok.mp h
  obtain rfl := Prog.Returns.unique htips htips'
  refine Prog.leaf_foldlM (fun seen s => (c, p) ∈ seen → ChannelVisited source sink tips c p s)
    (fun h => absurd h List.not_mem_nil) ?_ h hwl
  rintro seen ⟨c', p'⟩ s s' hs - hstep hmem
  obtain ⟨hsub, hvisited⟩ := channelStep_visited hstep
  rcases List.mem_append.mp hmem with hmem | hmem
  · exact (hs hmem).mono hsub
  · cases List.mem_singleton.mp hmem
    exact hvisited

end Rounds

section Stable

variable {before after : IbcProvider Static} {h h' : Height} {clientId : ClientId}

/-! ### What stays -/

/-- **The search upward stays at the height it found**, with more heights to look at, if
the same heights have consensus states up to the former end. -/
theorem linearSearch_stable {rn n m height : ℕ} {t : Height} {found : Option Height} (hle : n ≤ m)
    (hsame : ∀ u : Height, u.revisionNumber = rn → u.revisionHeight < height + n →
      (ConsensusAnswered (fun _ _ => True) before h clientId u ↔
        ConsensusAnswered (fun _ _ => True) after h' clientId u))
    (h₁ : (linearSearch before h clientId rn n height).Returns (some t))
    (h₂ : (linearSearch after h' clientId rn m height).Returns found) : found = some t := by
  induction n generalizing m height with
  | zero => cases h₁
  | succ n ih =>
      obtain ⟨m, rfl⟩ : ∃ k, m = k + 1 := ⟨m - 1, by omega⟩
      simp only [linearSearch, Prog.Returns, Prog.leaf_bind_ok, Prog.leaf_expect_ok] at h₁ h₂
      obtain ⟨temp, htemp, answer₁, hanswer₁, h₁⟩ := h₁
      obtain ⟨temp', htemp', answer₂, hanswer₂, h₂⟩ := h₂
      obtain rfl := Option.some.inj (htemp.symm.trans htemp')
      obtain ⟨hrn, hrh⟩ := Height.new_eq_some.mp htemp
      have hat := hsame temp hrn (by omega)
      cases answer₁ with
      | ok r₁ =>
          -- found here before, and so it is now
          obtain ⟨r, hr⟩ := hat.mp ⟨r₁, Prog.leaf_attempt_ok.mp hanswer₁⟩
          obtain rfl := Prog.Returns.unique hanswer₂ (Prog.leaf_attempt_ok.mpr hr)
          simp only [Prog.leaf_pure, Outcome.ok.injEq] at h₁ h₂
          rw [← h₁, ← h₂]
      | error e =>
          cases answer₂ with
          | error e' => exact ih (by omega) (fun u hu hlt => hsame u hu (by omega)) h₁ h₂
          | ok r₂ =>
              obtain ⟨r, hr⟩ := hat.mpr ⟨r₂, Prog.leaf_attempt_ok.mp hanswer₂⟩
              cases Prog.Returns.unique hanswer₁ (Prog.leaf_attempt_ok.mpr hr)

/-- A delay that is over has passed, if the chain answers at all. -/
theorem verifyDelayOn_of_delayOver {timestamp : Timestamp} {delay : Duration}
    {t updateHeight : Height} {updateTime : Time} {passed : Bool}
    (hupdate : (after.queryClientUpdateTimeAndHeight clientId t).Returns (updateHeight, updateTime))
    (hover : DelayOver timestamp h updateTime updateHeight delay
      (calculateBlockDelay delay after.expectedBlockTime))
    (hr : (verifyDelayOn after clientId timestamp h delay t).Returns passed) : passed = true := by
  obtain ⟨answer, hanswer, hr⟩ := Prog.leaf_bind_ok.mp hr
  obtain rfl := Prog.Returns.unique hanswer (Prog.leaf_attempt_ok.mpr hupdate)
  obtain ⟨elapsed, helapsed, hr⟩ := Prog.leaf_bind_ok.mp hr
  rw [hasDelayElapsed_of_delayOver hover helapsed] at hr
  exact (Outcome.ok.inj hr).symm

end Stable

/-! ### Snapshots -/

/-- The two chains at one moment: how they answer, their tips, one channel between them
with its connection, and the source's client on the sink. -/
structure Snapshot where
  source : Chain Static
  sink : Chain Static
  tips : Tips
  channel : ReceiveState
  sinkEnd : ChannelEnd
  connection : ConnectionEnd
  client : ClientState

namespace Snapshot

/-- The chains answer from the snapshot, for the channel `c` on port `p`, and as their
queries are documented. -/
structure AnswersFor (s : Snapshot) (c : ChannelId) (p : PortId) : Prop where
  tips : (queryTips s.source s.sink).Returns s.tips
  channel : s.channel.AnsweredBy s.source.toIbcProvider s.sink.toIbcProvider s.tips.sourceHeight
    s.tips.sinkHeight c p
  sinkEnd : ∃ c', s.channel.channelEnd.counterparty.channelId = some c' ∧
    Decoded (s.sink.queryChannelEnd s.tips.sinkHeight c' s.channel.channelEnd.counterparty.portId)
      s.sinkEnd
  connection : ∃ id, s.channel.channelEnd.connectionHops.head? = some id ∧
    Decoded (s.source.queryConnectionEnd s.tips.sourceHeight id) s.connection
  client : Decoded (s.sink.queryClientState s.tips.sinkHeight s.source.clientId) s.client
  honest : HonestQueries s.source s.sink

/-- **`t` is a later snapshot than `s`**, as far as the messages for the sink depend on it:
the chains are not lower, the ends of the channel differ in their states only, and at and
below the height at which the client was nothing is known that was not known before. -/
structure Later (s t : Snapshot) : Prop where
  channelWhitelist : t.source.channelWhitelist = s.source.channelWhitelist
  clientId : t.source.clientId = s.source.clientId
  expectedBlockTime : t.sink.expectedBlockTime = s.sink.expectedBlockTime
  sinkHeight : s.tips.sinkHeight ≤ t.tips.sinkHeight
  sinkTimestamp : ∀ a, s.tips.sinkTimestamp.time = some a →
    ∃ b, t.tips.sinkTimestamp.time = some b ∧ a ≤ b
  sourceEnd : t.channel.channelEnd =
    { s.channel.channelEnd with state := t.channel.channelEnd.state }
  sinkEnd : t.sinkEnd = { s.sinkEnd with state := t.sinkEnd.state }
  connection : t.connection = s.connection
  /-- A packet that is not received yet is still committed. -/
  commitments : ∀ n ∈ s.channel.commitments, t.channel.notReceived n = true →
    n ∈ t.channel.commitments
  /-- A packet that was reported is reported when its sequence is asked for. -/
  packets : ∀ c p ns infos ns' infos', (s.source.querySendPackets c p ns).Returns infos →
    (t.source.querySendPackets c p ns').Returns infos' → ∀ i ∈ infos, i.sequence ∈ ns' → i ∈ infos'
  revision : t.client.latestHeight.revisionNumber = s.client.latestHeight.revisionNumber
  latest : s.client.latestHeight.revisionHeight ≤ t.client.latestHeight.revisionHeight
  consensus : ∀ u : Height, u.revisionNumber = s.client.latestHeight.revisionNumber →
    u.revisionHeight ≤ s.client.latestHeight.revisionHeight →
      (ConsensusAnswered (fun _ _ => True) s.sink.toIbcProvider s.tips.sinkHeight
          s.source.clientId u ↔
        ConsensusAnswered (fun _ _ => True) t.sink.toIbcProvider t.tips.sinkHeight
          s.source.clientId u)
  updates : ∀ u : Height, u.revisionNumber = s.client.latestHeight.revisionNumber →
    u.revisionHeight ≤ s.client.latestHeight.revisionHeight → ∀ update,
      (s.sink.queryClientUpdateTimeAndHeight s.source.clientId u).Returns update →
        (t.sink.queryClientUpdateTimeAndHeight s.source.clientId u).Returns update

/-- An end of the channel has changed its state. -/
def Changed (s t : Snapshot) : Prop :=
  t.channel.channelEnd.state ≠ s.channel.channelEnd.state ∨ t.sinkEnd.state ≠ s.sinkEnd.state

variable {s t : Snapshot} {c : ChannelId} {p : PortId} {view view' : ChannelView} {packet : Packet}
  {height sequence n : ℕ} {u : Height} {found : Option Height} {seqs : List ℕ}

/-- What a view of the channel shows of the snapshot. -/
structure Shows (s : Snapshot) (view : ChannelView) : Prop where
  sourceEnd : view.sourceChannelEnd = s.channel.channelEnd
  sinkEnd : view.sinkChannelEnd = s.sinkEnd
  delayPeriod : view.delayPeriod = s.connection.delayPeriod
  latest : view.latestSourceHeightOnSink = s.client.latestHeight

/-- The view of the channel is what the snapshot shows. -/
theorem AnswersFor.shows (hs : s.AnswersFor c p)
    (hview : (queryChannelView s.source s.sink s.tips c p).Returns (some view)) :
    s.Shows view := by
  have hat := queryChannelView_some hview
  have hend : view.sourceChannelEnd = s.channel.channelEnd :=
    hat.sourceEnd.unique hs.channel.channelEnd
  obtain ⟨c₁, hc₁, hsink₁⟩ := hat.sinkEnd
  obtain ⟨c₂, hc₂, hsink₂⟩ := hs.sinkEnd
  obtain ⟨id₁, conn, hid₁, hconn₁, hdelay⟩ := hat.connection
  obtain ⟨id₂, hid₂, hconn₂⟩ := hs.connection
  obtain ⟨client, hclient, hlatest⟩ := hat.sourceClient
  rw [hend] at hc₁ hsink₁ hid₁
  obtain rfl := Option.some.inj (hc₁.symm.trans hc₂)
  obtain rfl := Option.some.inj (hid₁.symm.trans hid₂)
  obtain rfl := hconn₁.unique hconn₂
  obtain rfl := hclient.unique hs.client
  exact ⟨hend, hsink₁.unique hsink₂, hdelay.symm, hlatest.symm⟩

/-- **The undelivered sequences, as the function computes them.** -/
theorem AnswersFor.mem_undelivered (hs : s.AnswersFor c p)
    (hseqs : (queryUndeliveredSequences s.tips.sourceHeight s.tips.sinkHeight c p
      s.source.toIbcProvider s.sink.toIbcProvider).Returns seqs) :
    n ∈ seqs ↔ n ∈ s.channel.commitments ∧
      if s.channel.channelEnd.ordering = .unordered then s.channel.receipts n = false
      else s.channel.nextSequenceRecv < n := by
  by_cases hord : s.channel.channelEnd.ordering = .unordered
  · obtain ⟨ns, hns, hmem⟩ := ReceiveState.queryUndeliveredSequences_unordered hs.channel hord
    obtain rfl := Prog.Returns.unique hseqs hns
    rw [if_pos hord, hmem]
  · have hns := ReceiveState.queryUndeliveredSequences_ordered hs.channel hord
    obtain rfl := Prog.Returns.unique hseqs hns
    rw [if_neg hord, List.mem_filter, decide_eq_true_eq]

/-- **The proof height stays.** -/
theorem Later.readyHeight (hlater : s.Later t) (hview : s.Shows view) (hview' : t.Shows view')
    (h : (queryReadyHeight s.source s.sink s.tips view height sequence).Returns (some u))
    (h' : (queryReadyHeight t.source t.sink t.tips view' height sequence).Returns found) :
    found = some u := by
  unfold queryReadyHeight Prog.Returns at h h'
  rw [hview.latest] at h
  rw [hview'.latest] at h'
  have hlatest := hlater.latest
  dsimp only at h h'
  split_ifs at h with hlow
  · simp at h
  rw [if_neg (by omega)] at h'
  simp only [Prog.leaf_bind_ok, Prog.leaf_expect_ok] at h h'
  obtain ⟨start, hstart, found₁, hfound₁, h⟩ := h
  obtain ⟨start', hstart', found₂, hfound₂, h'⟩ := h'
  rw [hlater.revision] at hstart'
  obtain rfl := Option.some.inj (hstart.symm.trans hstart')
  obtain ⟨hrn, hrh⟩ := Height.new_eq_some.mp hstart
  cases found₁ with
  | none => simp at h
  | some x =>
      obtain ⟨hwithin, -⟩ := findSuitableProofHeight_none hfound₁
      -- the search meets the same consensus states up to the former height of the client
      rw [hlater.clientId] at hfound₂
      have hsearch : found₂ = some x := linearSearch_stable (by omega)
        (fun v hv hlt => hlater.consensus v (hv.trans hrn) (by omega)) hfound₁ hfound₂
      subst hsearch
      obtain ⟨passed, hpassed, h⟩ := Prog.leaf_bind_ok.mp h
      obtain ⟨passed', hpassed', h'⟩ := Prog.leaf_bind_ok.mp h'
      split_ifs at h with htrue
      · subst htrue
        obtain ⟨updateHeight, updateTime, hupdate, hover⟩ := verifyDelayOn_true hpassed
        have hover' := hover.mono hlater.sinkTimestamp hlater.sinkHeight
        rw [hview.delayPeriod, ← hlater.connection, ← hview'.delayPeriod,
          ← hlater.expectedBlockTime] at hover'
        have hupdate' := hlater.updates x (hwithin.revision.trans hrn) hwithin.upper _ hupdate
        rw [← hlater.clientId] at hupdate'
        have htrue := verifyDelayOn_of_delayOver hupdate' hover' hpassed'
        rw [if_pos htrue] at h'
        exact (Outcome.ok.inj h').symm.trans (Outcome.ok.inj h)
      · simp at h

variable [Crates] {before after : ReadyPackets}

/-- The round of a packet is on the packet's channel, and its sequence is undelivered. -/
theorem AnswersFor.round (hs : s.AnswersFor packet.sourceChannel packet.sourcePort)
    (h : HasRound s.source s.sink s.tips packet u) :
    ∃ view seqs infos info, RecvRound s.source s.sink s.tips packet.sourceChannel
        packet.sourcePort view seqs infos info packet u ∧
      info.sequence = packet.sequence ∧ packet.sequence ∈ seqs := by
  obtain ⟨c, p, view, seqs, infos, info, hround⟩ := h
  obtain ⟨hseq, ⟨hport, hchannel⟩, -⟩ := packetInfoToPacket_returns hround.converted
  obtain ⟨hmem, hp, hc⟩ := hs.honest.sent c p seqs infos hround.reported info hround.mem
  obtain rfl : packet.sourcePort = p := Ident.ext (hport.trans hp)
  obtain rfl : packet.sourceChannel = c := Ident.ext (hchannel.trans hc)
  exact ⟨view, seqs, infos, info, hround, hseq.symm, hseq ▸ hmem⟩

/-- **A packet that is still undelivered is reported again**, with the same proof
height. -/
theorem Later.receives (hlater : s.Later t)
    (hs : s.AnswersFor packet.sourceChannel packet.sourcePort)
    (ht : t.AnswersFor packet.sourceChannel packet.sourcePort)
    (h₁ : (queryReadyAndTimedOutPackets s.source s.sink).Returns before)
    (h₂ : (queryReadyAndTimedOutPackets t.source t.sink).Returns after)
    (hreceives : before.Receives packet u)
    (hto : Crates.timedOut packet t.tips.sinkTimestamp t.tips.sinkHeight = false)
    (hsame : ¬s.Changed t) (hnot : t.channel.notReceived packet.sequence = true)
    (hnext : t.channel.channelEnd.ordering = .unordered ∨
      t.channel.nextSequenceRecv ≠ packet.sequence) : after.Receives packet u := by
  obtain ⟨hsource, hsink⟩ := not_or.mp hsame
  obtain ⟨view, seqs, infos, info, hround, hinfoseq, hseq⟩ :=
    hs.round (run_receives hs.tips h₁ hreceives)
  have hshows := hs.shows hround.viewed
  have hstate := (queryChannelView_some hround.viewed).openOrClosed
  have hcommitted := ((hs.mem_undelivered hround.undelivered).mp hseq).1
  have hwl : (packet.sourceChannel, packet.sourcePort) ∈ t.source.channelWhitelist := by
    rw [hlater.channelWhitelist]
    exact hround.whitelisted
  obtain hskipped | ⟨view', seqs', infos', hview', hseqs', hinfos', hvisited⟩ :=
    run_visits ht.tips h₂ hwl
  · -- the channel is as open as it was
    obtain ⟨channelEnd, hend, hneither⟩ := queryChannelView_none hskipped
    obtain rfl := hend.unique ht.channel.channelEnd
    rw [hshows.sourceEnd] at hstate
    rw [not_not.mp hsource] at hneither
    exact absurd hstate hneither
  have hshows' := ht.shows hview'
  have hseq' : packet.sequence ∈ seqs' := by
    refine (ht.mem_undelivered hseqs').mpr ⟨hlater.commitments _ hcommitted hnot, ?_⟩
    unfold ReceiveState.notReceived at hnot
    split_ifs at hnot ⊢ with hord
    · rwa [Bool.not_eq_true'] at hnot
    · exact lt_of_le_of_ne (of_decide_eq_true hnot) (hnext.resolve_left hord)
  have hinfo' : info ∈ infos' := hlater.packets _ _ seqs infos seqs' infos' hround.reported hinfos'
    info hround.mem (hinfoseq ▸ hseq')
  obtain ⟨packet', acc, acc', hpacket', hround', hsub⟩ := hvisited info hinfo'
  obtain rfl := Prog.Returns.unique hround.converted hpacket'
  have hclosed : view'.sinkChannelEnd.state ≠ .closed := by
    rw [hshows'.sinkEnd, not_not.mp hsink, ← hshows.sinkEnd]
    exact hround.sinkNotClosed
  cases hround' with
  | noTimeoutHeight hto' | timeout hto' => exact absurd (hto.symm.trans hto') Bool.false_ne_true
  | sinkClosed _ hclosed' => exact absurd hclosed' hclosed
  | notReady _ _ hheight => cases hlater.readyHeight hshows hshows' hround.height hheight
  | recv _ _ hheight hmsg =>
      obtain rfl := Option.some.inj (hlater.readyHeight hshows hshows' hround.height hheight)
      obtain ⟨m, ⟨hmp, hmh⟩, hm⟩ := constructRecvMessage_returns hmsg
      exact ⟨_, hsub (List.mem_append_right _ (List.mem_singleton.mpr rfl)), m, hm, hmp, hmh⟩

/-- **When readiness does not regress.**  A packet that is reported for the sink at a
snapshot is reported at a later one, with the same proof height, unless it has been
received, it has timed out or the channel has changed, exactly if it is not the packet
that the sink accepts next on an ordered channel. -/
theorem queryReadyAndTimedOutPackets_stays_iff (s t : Snapshot) (packet : Packet) (u : Height)
    (before after : ReadyPackets) (hlater : s.Later t)
    (hs : s.AnswersFor packet.sourceChannel packet.sourcePort)
    (ht : t.AnswersFor packet.sourceChannel packet.sourcePort)
    (h₁ : (queryReadyAndTimedOutPackets s.source s.sink).Returns before)
    (h₂ : (queryReadyAndTimedOutPackets t.source t.sink).Returns after)
    (hreceives : before.Receives packet u) :
    (after.Receives packet u ∨ t.channel.notReceived packet.sequence = false ∨
        Crates.timedOut packet t.tips.sinkTimestamp t.tips.sinkHeight = true ∨ s.Changed t) ↔
      ((t.channel.channelEnd.ordering = .unordered ∨
          t.channel.nextSequenceRecv ≠ packet.sequence) ∨
        Crates.timedOut packet t.tips.sinkTimestamp t.tips.sinkHeight = true ∨ s.Changed t) := by
  constructor
  · rintro (hstays | hreceived | hunless)
    · left
      obtain ⟨view, seqs, infos, info, hround, -, hseq⟩ := ht.round (run_receives ht.tips h₂ hstays)
      have hnext := ((ht.mem_undelivered hround.undelivered).mp hseq).2
      by_cases hord : t.channel.channelEnd.ordering = .unordered
      · exact .inl hord
      · rw [if_neg hord] at hnext
        exact .inr hnext.ne
    · left
      by_cases hord : t.channel.channelEnd.ordering = .unordered
      · exact .inl hord
      · rw [ReceiveState.notReceived, if_neg hord, decide_eq_false_iff_not, not_le] at hreceived
        exact .inr hreceived.ne'
    · exact .inr hunless
  · rintro (hnext | hunless)
    · cases hto : Crates.timedOut packet t.tips.sinkTimestamp t.tips.sinkHeight with
      | true => exact .inr (.inr (.inl rfl))
      | false =>
          by_cases hchanged : s.Changed t
          · exact .inr (.inr (.inr hchanged))
          · cases hnot : t.channel.notReceived packet.sequence with
            | false => exact .inr (.inl rfl)
            | true => exact .inl (hlater.receives hs ht h₁ h₂ hreceives hto hchanged hnot hnext)
    · exact .inr (.inr hunless)

end Snapshot

/-! ### An ordered channel with two packets -/

/-- Packets 1 and 2 of an ordered channel. -/
def orderedInfos : List PacketInfo :=
  [{ packetInfo 40 1 1000 none with channelOrder := "ORDERED" },
    { packetInfo 40 2 1000 none with channelOrder := "ORDERED" }]

def orderedSource : Chain Static :=
  { readySource with
    queryChannelEnd := fun _ _ _ => pure (proven (some (.ok (openEnd .ordered))))
    queryPacketAcknowledgements := fun _ _ _ => pure []
    querySendPackets := fun c p ns => pure (orderedInfos.filter
      fun i => i.sequence ∈ ns ∧ i.sourcePort = p.text ∧ i.sourceChannel = c.text)
    queryRecvPackets := fun _ _ _ => pure [] }

/-- A sink that accepts packet `next` next, `passed` blocks later: its client of the source has
been updated with each block. -/
def orderedSink (next passed : ℕ) : Chain Static :=
  { readySink (height0 (48 + passed)) with
    latestHeightAndTimestamp :=
      pure (height0 (50 + passed), .ofTime (seconds (700 + passed)))
    queryChannelEnd := fun _ _ _ => pure (proven (some (.ok (openEnd .ordered))))
    queryNextSequenceRecv := fun _ _ _ => pure (proven next) }

def orderedSnapshot (next passed : ℕ) : Snapshot where
  source := orderedSource
  sink := orderedSink next passed
  tips := ⟨height0 100, .ofTime (seconds 1000), height0 (50 + passed),
    .ofTime (seconds (700 + passed))⟩
  channel := ⟨openEnd .ordered, [1, 2], fun _ => false, next⟩
  sinkEnd := openEnd .ordered
  connection := openConnection (seconds 60)
  client := ⟨height0 (48 + passed)⟩

variable {next next' passed passed' : ℕ}

/-- Both chains answer as the queries are documented. -/
theorem orderedSnapshot_honest : HonestQueries orderedSource (orderedSink next passed) where
  sent c p ns infos hr i hi := by
    simp only [orderedSource, Prog.Returns, Prog.leaf_pure, Outcome.ok.injEq] at hr
    rw [← hr, List.mem_filter] at hi
    exact of_decide_eq_true hi.2
  received c p ns infos hr i hi := by
    simp only [orderedSource, Prog.Returns, Prog.leaf_pure, Outcome.ok.injEq] at hr
    rw [← hr] at hi
    exact absurd hi List.not_mem_nil
  unreceivedPackets := (readySource_honest (height0 (48 + passed))).unreceivedPackets
  unreceivedAcks := (readySource_honest (height0 (48 + passed))).unreceivedAcks
  consensus := (readySource_honest (height0 (48 + passed))).consensus

/-- They answer from the snapshot. -/
theorem orderedSnapshot_answers :
    (orderedSnapshot next passed).AnswersFor channel0 transferPort where
  tips := rfl
  channel := {
    channelEnd := ⟨_, rfl, rfl⟩
    commitments := rfl
    sink := ⟨channel0, rfl, fun ns => ⟨ns, rfl, fun _ => ⟨fun hn => ⟨hn, rfl⟩, And.left⟩⟩, _, rfl,
      rfl⟩ }
  sinkEnd := ⟨channel0, rfl, _, rfl, rfl⟩
  connection := ⟨connection0, rfl, _, rfl, rfl⟩
  client := ⟨_, rfl, rfl⟩
  honest := orderedSnapshot_honest

/-- The sink of the example has a consensus state at the heights from 44 on that its client has
reached. -/
theorem orderedSink_answered_iff {h u : Height} {id : ClientId} :
    ConsensusAnswered (fun _ _ => True) (orderedSink next passed).toIbcProvider h id u ↔
      44 ≤ u.revisionHeight ∧ u.revisionHeight ≤ 48 + passed := by
  have hlatest : (height0 (48 + passed)).revisionHeight = 48 + passed :=
    Nat.max_eq_left (by omega)
  simp only [ConsensusAnswered, orderedSink, readySink, consensusBetween, hlatest]
  split_ifs with hin
  · exact iff_of_true ⟨_, rfl⟩ hin
  · refine iff_of_false ?_ hin
    rintro ⟨_, h⟩
    cases h

/-- A snapshot with more blocks is a later one, whatever the sink accepts next. -/
theorem orderedSnapshot_later (hpassed : passed ≤ passed') :
    (orderedSnapshot next passed).Later (orderedSnapshot next' passed') where
  channelWhitelist := rfl
  clientId := rfl
  expectedBlockTime := rfl
  sinkHeight := Height.le_iff.mpr (.inr ⟨rfl, by
    show max (50 + passed) 1 ≤ max (50 + passed') 1
    omega⟩)
  sinkTimestamp a ha := by
    obtain rfl := Option.some.inj ha
    exact ⟨_, rfl, Nat.mul_le_mul_right _ (by omega)⟩
  sourceEnd := rfl
  sinkEnd := rfl
  connection := rfl
  commitments _ hn _ := hn
  packets c p ns infos ns' infos' h h' i hi hmem := by
    simp only [orderedSnapshot, orderedSource, Prog.Returns, Prog.leaf_pure,
      Outcome.ok.injEq] at h h'
    rw [← h, List.mem_filter] at hi
    rw [← h', List.mem_filter]
    have hasked := of_decide_eq_true hi.2
    exact ⟨hi.1, decide_eq_true ⟨hmem, hasked.2⟩⟩
  revision := rfl
  latest := by
    show max (48 + passed) 1 ≤ max (48 + passed') 1
    omega
  consensus u _ hle := by
    have hle : u.revisionHeight ≤ max (48 + passed) 1 := hle
    exact orderedSink_answered_iff.trans (Iff.trans (by omega) orderedSink_answered_iff.symm)
  updates _ _ _ _ h := h

/-- Packet 2. -/
def orderedPacket : Packet where
  sequence := 2
  sourcePort := transferPort
  sourceChannel := channel0
  destinationPort := transferPort
  destinationChannel := channel0
  data := utf8 "data"
  timeoutHeight := .atHeight (height0 1000)
  timeoutTimestamp := .fromNanoseconds (seconds 800)

/-- The packet and the proof height of a message for the sink. -/
def Msg.receiptOf : Msg → Option (Packet × Height)
  | .recvPacket m => some (m.packet, m.proofs.height)
  | _ => none

/-- A packet is received at a height if a message says so. -/
theorem receives_of_receiptOf {ready : ReadyPackets} {packet : Packet} {t : Height}
    (h : ready.messages.map (fun a => a.msg.receiptOf) = [some (packet, t)]) :
    ready.Receives packet t := by
  obtain ⟨a, ha⟩ := List.map_eq_singleton_iff.mp h
  refine ⟨a, ha.1 ▸ List.mem_singleton.mpr rfl, ?_⟩
  have hmsg := ha.2
  unfold Msg.receiptOf at hmsg
  split at hmsg
  · rename_i m hm
    obtain ⟨hpacket, hheight⟩ := Prod.mk.inj (Option.some.inj hmsg)
    exact ⟨m, hm, hpacket, hheight⟩
  · cases hmsg

/-- While the sink waits for packet 1, packet 2 is reported, at height 44, before and after three
blocks. -/
theorem orderedSnapshot_receives {passed : ℕ} (hpassed : passed = 0 ∨ passed = 3) :
    let _ := Crates.reference
    ∃ ready, (queryReadyAndTimedOutPackets (orderedSnapshot 1 passed).source
      (orderedSnapshot 1 passed).sink).Returns ready ∧
        ready.Receives orderedPacket (height0 44) := by
  intro _
  obtain ⟨ready, hr, hreceipts⟩ := Prog.returns_of_outcome
    (p := queryReadyAndTimedOutPackets (orderedSnapshot 1 passed).source
      (orderedSnapshot 1 passed).sink)
    (f := fun ready => ready.messages.map fun a => a.msg.receiptOf)
    (b := [some (orderedPacket, height0 44)]) (by
      rcases hpassed with rfl | rfl <;> decide +kernel)
  exact ⟨ready, hr, receives_of_receiptOf hreceipts⟩

/-- The theorem at work, from one snapshot to another three blocks later. -/
theorem orderedSnapshot_stays_iff : let _ := Crates.reference
    ∃ before after, (queryReadyAndTimedOutPackets (orderedSnapshot 1 0).source
        (orderedSnapshot 1 0).sink).Returns before ∧
      (queryReadyAndTimedOutPackets (orderedSnapshot 1 3).source
        (orderedSnapshot 1 3).sink).Returns after ∧
      ((after.Receives orderedPacket (height0 44) ∨
          (orderedSnapshot 1 3).channel.notReceived orderedPacket.sequence = false ∨
          Crates.timedOut orderedPacket (orderedSnapshot 1 3).tips.sinkTimestamp
            (orderedSnapshot 1 3).tips.sinkHeight = true ∨
          (orderedSnapshot 1 0).Changed (orderedSnapshot 1 3)) ↔
        (((orderedSnapshot 1 3).channel.channelEnd.ordering = .unordered ∨
            (orderedSnapshot 1 3).channel.nextSequenceRecv ≠ orderedPacket.sequence) ∨
          Crates.timedOut orderedPacket (orderedSnapshot 1 3).tips.sinkTimestamp
            (orderedSnapshot 1 3).tips.sinkHeight = true ∨
          (orderedSnapshot 1 0).Changed (orderedSnapshot 1 3))) := by
  intro _
  obtain ⟨before, h₁, hreceives⟩ := orderedSnapshot_receives (.inl rfl)
  obtain ⟨after, h₂, -⟩ := orderedSnapshot_receives (.inr rfl)
  exact ⟨before, after, h₁, h₂, Snapshot.queryReadyAndTimedOutPackets_stays_iff
    (orderedSnapshot 1 0) (orderedSnapshot 1 3) orderedPacket (height0 44) before after
    (orderedSnapshot_later (by decide)) orderedSnapshot_answers orderedSnapshot_answers h₁ h₂
    hreceives⟩

/-- **The packet that the sink accepts next is not reported.**  Once packet 1 has been
received, packet 2 is no longer reported: it has been neither received nor timed out,
and no end of the channel has changed. -/
theorem orderedSnapshot_regresses : let _ := Crates.reference
    ∃ before after, (orderedSnapshot 1 0).Later (orderedSnapshot 2 0) ∧
      (orderedSnapshot 1 0).AnswersFor channel0 transferPort ∧
      (orderedSnapshot 2 0).AnswersFor channel0 transferPort ∧
      (queryReadyAndTimedOutPackets (orderedSnapshot 1 0).source
        (orderedSnapshot 1 0).sink).Returns before ∧
      (queryReadyAndTimedOutPackets (orderedSnapshot 2 0).source
        (orderedSnapshot 2 0).sink).Returns after ∧
      before.Receives orderedPacket (height0 44) ∧
      ¬(after.Receives orderedPacket (height0 44) ∨
        (orderedSnapshot 2 0).channel.notReceived orderedPacket.sequence = false ∨
        Crates.timedOut orderedPacket (orderedSnapshot 2 0).tips.sinkTimestamp
          (orderedSnapshot 2 0).tips.sinkHeight = true ∨
        (orderedSnapshot 1 0).Changed (orderedSnapshot 2 0)) := by
  intro _
  obtain ⟨before, h₁, hreceives⟩ := orderedSnapshot_receives (.inl rfl)
  obtain ⟨after, h₂, hnone⟩ := Prog.returns_of_outcome
    (p := queryReadyAndTimedOutPackets (orderedSnapshot 2 0).source (orderedSnapshot 2 0).sink)
    (f := fun ready => ready.messages.map Any.typeUrl) (b := []) (by decide +kernel)
  refine ⟨before, after, orderedSnapshot_later le_rfl, orderedSnapshot_answers,
    orderedSnapshot_answers, h₁, h₂, hreceives, ?_⟩
  rintro (⟨a, ha, -⟩ | hreceived | hto | hsource | hsink)
  · rw [List.map_eq_nil_iff.mp hnone] at ha
    exact absurd ha List.not_mem_nil
  · exact absurd hreceived (by decide)
  · exact absurd hto (by decide)
  · exact hsource rfl
  · exact hsink rfl

end HyperspaceLight
