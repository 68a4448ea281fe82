/-
# Closing a channel

A channel is closed on one chain (`chanCloseInit`), and from the event `parse_events`
derives the message that closes its end on the other chain (`chanCloseConfirm`).  The message
names this end as the closed one does, and the handler takes the connection from the
end it has stored.  So unlike the opening the closing works whatever the chains call their
connection: once every event has been relayed, both ends of a channel are closed, or
neither is (`channelClosing`).
-/

import HyperspaceLight.Handshake.StalledChannels

namespace HyperspaceLight

open Interaction Handshake

/-- The channel ends of both chains, the ends whose closing was announced, and those whose
closing was relayed. -/
structure Closings where
  channels : Channels
  announced : List ChannelKey
  relayed : List ChannelKey

namespace Link

variable (link : Link) (w : Channels) (s : Side)

/-! ### The handlers of ICS-4 -/

/-- An end that is closed. -/
def close (e : ChannelEnd) : ChannelEnd := { e with state := .closed }

/-- What `chanCloseConfirm` expects for the end `channel` it has stored. -/
def expectedClosed (m : MsgChannelConfirm) (channel : ChannelEnd) (hop : ConnectionId) :
    ChannelEnd where
  state := .closed
  ordering := channel.ordering
  counterparty := ⟨m.portId, some m.channelId⟩
  connectionHops := [hop]
  version := channel.version

/-- The checks of `chanCloseConfirm` for the stored end `channel`. -/
structure CloseChecks (m : MsgChannelConfirm) (channel : ChannelEnd) : Prop where
  stored : w.ends (s.other, m.portId, m.channelId) = some channel
  verifies : ∃ c hop counterpartyHop, channel.counterparty.channelId = some c ∧
    channel.connectionHops = [hop] ∧
    link.Verifies w s hop counterpartyHop channel.counterparty.portId c
      (expectedClosed m channel counterpartyHop)

/-- A message about the chain `s` passes the checks of the other chain. -/
def ClosePasses : Msg → Prop
  | .channelCloseConfirm m => ∃ channel, link.CloseChecks w s m channel
  | _ => False

/-- The checks pass, and the end of the other chain is not closed yet. -/
def CloseHandled : Msg → Prop
  | .channelCloseConfirm m => ∃ channel, link.CloseChecks w s m channel ∧ channel.state ≠ .closed
  | _ => False

/-! ### Runs -/

/-- `parse_events` derives a message from the event that announces the closing of an end. -/
def DerivesClose [Crates] (k : ChannelKey) (m : Msg) : Prop :=
  ∃ ev a any proofHeight, ev.event = .closeInitChannel a ∧ a.portId = k.2.1 ∧
    a.channelId = k.2.2 ∧
    (parseEvent (Chain.trait (link.chain k.1) .source).toIbcProvider
      (Chain.trait (link.chain k.1.other) .sink).toIbcProvider ev).Leaf
        (Answers w k.1) (.ok (some (any, proofHeight))) ∧
    any.msg = m

/-- **The steps of both chains and of both directions of the relayer**: an end is closed, or the
closing of an end is relayed, which the other chain accepts or refuses. -/
inductive CloseStep [Crates] : Closings → Closings → Prop
  | closeInit {w : Closings} {k : ChannelKey} {e : ChannelEnd} (stored : w.channels.ends k = some e)
      (state : e.state ≠ .closed) :
      CloseStep w ⟨w.channels.put k (close e) [], k :: w.announced, w.relayed⟩
  | relay {w : Closings} {k : ChannelKey} {m : MsgChannelConfirm} {channel : ChannelEnd}
      (told : k ∈ w.announced) (derives : link.DerivesClose w.channels k (.channelCloseConfirm m))
      (checks : link.CloseChecks w.channels k.1 m channel) (state : channel.state ≠ .closed) :
      CloseStep w ⟨w.channels.put (k.1.other, m.portId, m.channelId) (close channel) [],
        w.announced, k :: w.relayed⟩
  | refuse {w : Closings} {k : ChannelKey} {m : Msg} (told : k ∈ w.announced)
      (derives : link.DerivesClose w.channels k m)
      (refuses : ¬link.CloseHandled w.channels k.1 m) :
      CloseStep w ⟨w.channels, w.announced, k :: w.relayed⟩

/-- What runs lead to, from channels of which none was closed. -/
inductive CloseReachable [Crates] (start : Channels) : Closings → Prop
  | start : CloseReachable start ⟨start, [], []⟩
  | step {w w' : Closings} (h : CloseReachable start w) (hstep : link.CloseStep w w') :
      CloseReachable start w'

/-! ### The two ends of a channel -/

/-- What the closing of `k` stands for: the end is closed; once relayed, so is its peer; and
nothing else closes it than a closing of one of the two. -/
structure Half (w : Closings) (k k' : ChannelKey) (e e' : ChannelEnd) : Prop where
  announced : k ∈ w.announced → e.state = .closed
  relayed : k ∈ w.relayed → e'.state = .closed
  cause : e.state = .closed → k ∈ w.announced ∨ k' ∈ w.announced

/-- **The two ends of a channel**, with what has been closed and relayed. -/
structure Pair (w : Closings) (k k' : ChannelKey) (e e' : ChannelEnd) : Prop where
  sides : k'.1 = k.1.other
  stored : w.channels.ends k = some e
  stored' : w.channels.ends k' = some e'
  names : link.NameEachOther k e k' e'
  half : Half w k k' e e'
  half' : Half w k' k e' e

variable {link} {k k' : ChannelKey} {e e' : ChannelEnd}

/-- Two ends name each other both ways. -/
theorem NameEachOther.symm (h : link.NameEachOther k e k' e') : link.NameEachOther k' e' k e :=
  ⟨h.second, h.first, h.ordering.symm, h.version.symm, h.otherHops, h.hops⟩

/-- A closed end names what it named. -/
theorem NameEachOther.close (h : link.NameEachOther k e k' e') :
    link.NameEachOther k (close e) k' e' :=
  ⟨h.first, h.second, h.ordering, h.version, h.hops, h.otherHops⟩

namespace Pair

variable {w w' : Closings}

/-- A pair is one the other way round. -/
theorem symm (h : link.Pair w k k' e e') : link.Pair w k' k e' e where
  sides := by rw [h.sides, Side.other_other]
  stored := h.stored'
  stored' := h.stored
  names := h.names.symm
  half := h.half'
  half' := h.half

/-- The end that the first one names is the second one. -/
theorem key_eq (h : link.Pair w k k' e e') {p : PortId} {c : ChannelId}
    (hcp : e.counterparty = ⟨p, some c⟩) : (k.1.other, p, c) = k' := by
  obtain ⟨hport, hchannel⟩ := ChanCounterparty.mk.inj (h.names.first.symm.trans hcp)
  obtain ⟨s, p', c'⟩ := k'
  rw [← h.sides, ← hport, ← Option.some.inj hchannel]

/-- What has nothing to do with the channel. -/
theorem frame (h : link.Pair w k k' e e') (hk : w'.channels.ends k = w.channels.ends k)
    (hk' : w'.channels.ends k' = w.channels.ends k')
    (hann : k ∈ w'.announced ↔ k ∈ w.announced) (hann' : k' ∈ w'.announced ↔ k' ∈ w.announced)
    (hrel : k ∈ w'.relayed ↔ k ∈ w.relayed) (hrel' : k' ∈ w'.relayed ↔ k' ∈ w.relayed) :
    link.Pair w' k k' e e' where
  sides := h.sides
  stored := hk.trans h.stored
  stored' := hk'.trans h.stored'
  names := h.names
  half := ⟨fun ha => h.half.announced (hann.mp ha), fun hr => h.half.relayed (hrel.mp hr),
    fun hc => by rw [hann, hann']; exact h.half.cause hc⟩
  half' := ⟨fun ha => h.half'.announced (hann'.mp ha), fun hr => h.half'.relayed (hrel'.mp hr),
    fun hc => by rw [hann, hann']; exact h.half'.cause hc⟩

/-- **The first end is closed**, because one of the two was. -/
theorem put (h : link.Pair w k k' e e') {announced relayed : List ChannelKey}
    (hann : w.announced ⊆ announced) (hann' : k' ∈ announced → k' ∈ w.announced)
    (hrel : k ∈ relayed → k ∈ w.relayed) (hcause : k ∈ announced ∨ k' ∈ announced) :
    link.Pair ⟨w.channels.put k (close e) [], announced, relayed⟩ k k' (close e) e' where
  sides := h.sides
  stored := State.put_ends_self
  stored' := by
    rw [State.put_ends_ne (ne_of_sides h.sides)]
    exact h.stored'
  names := h.names.close
  half := ⟨fun _ => rfl, fun hr => h.half.relayed (hrel hr), fun _ => hcause⟩
  half' := ⟨fun ha => h.half'.announced (hann' ha), fun _ => rfl,
    fun hc => (h.half'.cause hc).imp (hann ·) (hann ·)⟩

/-- **The message of a closed end passes the checks of the other one.** -/
theorem checks (h : link.Pair w k k' e e') (hclosed : e.state = .closed) {m : MsgChannelConfirm}
    (hcp : e.counterparty = ⟨m.portId, some m.channelId⟩) :
    link.CloseChecks w.channels k.1 m e' where
  stored := by
    rw [h.key_eq hcp]
    exact h.stored'
  verifies := by
    refine ⟨k.2.2, link.connectionId k.1.other, link.connectionId k.1, ?_, ?_, ?_⟩
    · rw [h.names.second]
    · rw [← h.sides]
      exact h.names.otherHops
    · have hexpected : expectedClosed m e' (link.connectionId k.1) = e := by
        rw [expectedClosed, ← hcp, ← h.names.ordering, ← h.names.version, ← h.names.hops, ← hclosed]
      rw [hexpected, h.names.second]
      exact verifies_of_stored k.1 h.stored

end Pair

section

variable [Crates] {w : Channels} {m : Msg}

/-- **What a closing becomes**: a message for the end that the closed one names. -/
theorem DerivesClose.msg (h : link.DerivesClose w k m) : ∃ e m', w.ends k = some e ∧
    m = .channelCloseConfirm m' ∧ e.counterparty = ⟨m'.portId, some m'.channelId⟩ := by
  obtain ⟨ev, a, any, proofHeight, hevent, hport, hchannel, h, rfl⟩ := h
  rw [parseEvent, hevent] at h
  obtain ⟨⟨e, proof, height⟩, hend, h⟩ := Prog.leaf_bind_ok.mp h
  obtain ⟨counterpartyId, hcounterparty, h⟩ := Prog.leaf_bind_ok.mp h
  rw [Prog.leaf_expect_ok] at hcounterparty
  have he : w.ends k = some e := by
    obtain ⟨s, p, c⟩ := k
    rw [← show a.portId = p from hport, ← show a.channelId = c from hchannel]
    exact channelEndWithProof_stored hend
  exact ⟨e, _, he, leaf_toAny_pure h, by rw [← hcounterparty]⟩

/-- The message of an end goes to its peer. -/
theorem Pair.derives {w : Closings} (h : link.Pair w k k' e e')
    (derives : link.DerivesClose w.channels k m) :
    ∃ m', m = .channelCloseConfirm m' ∧ e.counterparty = ⟨m'.portId, some m'.channelId⟩ := by
  obtain ⟨e₀, m', he₀, rfl, hcp⟩ := derives.msg
  obtain rfl : e = e₀ := Option.some.inj (h.stored.symm.trans he₀)
  exact ⟨m', rfl, hcp⟩

/-- A closing whose message encodes is relayed. -/
theorem exists_derives_close (hencode : ∀ m, ∃ bytes, Crates.encodeVec m = .ok bytes)
    (he : w.ends k = some e) {c : ChannelId} (hc : e.counterparty.channelId = some c) :
    ∃ m, link.DerivesClose w k m := by
  let a : CloseInitAttributes :=
    ⟨k.2.1, k.2.2, link.connectionId k.1, e.counterparty.portId, some c⟩
  let ev := inBlock (.closeInitChannel a)
  obtain ⟨any, hany, hmsg⟩ := exists_toAny hencode (.channelCloseConfirm {
    portId := e.counterparty.portId
    channelId := c
    proofs := ⟨⟨utf8 "proof", by decide⟩, none, none, none, height0 1⟩
    signer := (link.chain k.1.other).accountId }) (encodingContext "close_chan_init") ev
  exact ⟨_, ev, a, any, height0 1, rfl, rfl, rfl,
    Prog.leaf_bind_ok.mpr ⟨_, leaf_channelEndWithProof .question he,
      Prog.leaf_bind_ok.mpr ⟨c, Prog.leaf_expect_ok.mpr hc,
        Prog.leaf_bind_ok.mpr ⟨any, hany, rfl⟩⟩⟩, hmsg⟩

/-! ### One step -/

variable {w w' : Closings}

omit [Crates] in
/-- **The closing of an end is relayed to the first end of the pair**, which accepts it: then the
other one is closed already. -/
theorem Pair.relay_to (h : link.Pair w k k' e e') {k₀ : ChannelKey} {m : MsgChannelConfirm}
    {channel : ChannelEnd} (checks : link.CloseChecks w.channels k₀.1 m channel)
    (htarget : (k₀.1.other, m.portId, m.channelId) = k) :
    link.Pair ⟨w.channels.put k (close channel) [], w.announced, k₀ :: w.relayed⟩ k k' (close e)
      e' := by
  have hstored := checks.stored
  rw [htarget] at hstored
  obtain rfl : e = channel := Option.some.inj (h.stored.symm.trans hstored)
  have hside : k₀.1 = k'.1 := by
    rw [h.sides, ← htarget, Side.other_other]
  -- the end that the handler has verified is the other one
  have hclosed : e'.state = .closed := by
    obtain ⟨c, hop, hop', hc, -, hverifies⟩ := checks.verifies
    rw [h.names.first] at hc hverifies
    have hverified := hverifies.stored
    rw [hside, ← Option.some.inj hc] at hverified
    rw [Option.some.inj (h.stored'.symm.trans hverified)]
    rfl
  refine h.put (fun _ ha => ha) (fun ha => ha) (fun hr => ?_) (h.half'.cause hclosed).symm
  refine (List.mem_cons.mp hr).resolve_left fun heq => ?_
  have hself : k.1.other = k.1 := by
    rw [← h.sides, ← hside, heq]
  generalize k.1 = s at hself
  cases s <;> cases hself

/-- **The closing of the first end is refused**: then the other one is closed. -/
theorem Pair.refused (h : link.Pair w k k' e e') (told : k ∈ w.announced)
    (derives : link.DerivesClose w.channels k m)
    (refuses : ¬link.CloseHandled w.channels k.1 m) :
    link.Pair ⟨w.channels, w.announced, k :: w.relayed⟩ k k' e e' := by
  obtain ⟨m', rfl, hcp⟩ := h.derives derives
  have hchecks := h.checks (h.half.announced told) hcp
  have hclosed : e'.state = .closed := by
    by_contra hopen
    exact refuses ⟨e', hchecks, hopen⟩
  have hne : k' ≠ k := ne_of_sides h.sides
  refine ⟨h.sides, h.stored, h.stored', h.names,
    ⟨h.half.announced, fun _ => hclosed, h.half.cause⟩, h.half'.announced, fun hr => ?_,
    h.half'.cause⟩
  exact h.half'.relayed ((List.mem_cons.mp hr).resolve_left hne)

omit [Crates] in
/-- Two open ends, of which neither was closed. -/
theorem Pair.start {w : Channels} (hside : k'.1 = k.1.other) (he : w.ends k = some e)
    (he' : w.ends k' = some e') (hopen : e.state = .open) (hopen' : e'.state = .open)
    (hnames : link.NameEachOther k e k' e') : link.Pair ⟨w, [], []⟩ k k' e e' where
  sides := hside
  stored := he
  stored' := he'
  names := hnames
  half := ⟨fun ha => (nomatch ha), fun hr => (nomatch hr), fun hc => by rw [hopen] at hc; cases hc⟩
  half' := ⟨fun ha => (nomatch ha), fun hr => (nomatch hr),
    fun hc => by rw [hopen'] at hc; cases hc⟩

/-- **A step keeps the two ends together.** -/
theorem Pair.step (h : link.Pair w k k' e e') (hstep : link.CloseStep w w') :
    ∃ e₁ e₁', link.Pair w' k k' e₁ e₁' := by
  have hne : k' ≠ k := ne_of_sides h.sides
  cases hstep with
  | @closeInit k₀ e₀ stored state =>
      by_cases hk : k₀ = k
      · subst hk
        obtain rfl : e = e₀ := Option.some.inj (h.stored.symm.trans stored)
        exact ⟨_, _, h.put (List.subset_cons_self ..)
          (fun ha => (List.mem_cons.mp ha).resolve_left hne) (fun hr => hr)
          (.inl (List.mem_cons_self ..))⟩
      by_cases hk' : k₀ = k'
      · subst hk'
        obtain rfl : e' = e₀ := Option.some.inj (h.stored'.symm.trans stored)
        exact ⟨_, _, (h.symm.put (List.subset_cons_self ..)
          (fun ha => (List.mem_cons.mp ha).resolve_left hne.symm) (fun hr => hr)
          (.inl (List.mem_cons_self ..))).symm⟩
      · exact ⟨e, e', h.frame (State.put_ends_ne (Ne.symm hk)) (State.put_ends_ne (Ne.symm hk'))
          (by simp [Ne.symm hk]) (by simp [Ne.symm hk']) Iff.rfl Iff.rfl⟩
  | @relay k₀ m channel told derives checks state =>
      by_cases hk : (k₀.1.other, m.portId, m.channelId) = k
      · rw [hk]
        exact ⟨_, _, h.relay_to checks hk⟩
      by_cases hk' : (k₀.1.other, m.portId, m.channelId) = k'
      · rw [hk']
        exact ⟨_, _, (h.symm.relay_to checks hk').symm⟩
      · -- the closing is not that of one of the two ends
        have hself : k ≠ k₀ := by
          rintro rfl
          obtain ⟨m', heq, hcp⟩ := h.derives derives
          obtain rfl := Msg.channelCloseConfirm.inj heq
          exact hk' (h.key_eq hcp)
        have hself' : k' ≠ k₀ := by
          rintro rfl
          obtain ⟨m', heq, hcp⟩ := h.symm.derives derives
          obtain rfl := Msg.channelCloseConfirm.inj heq
          exact hk (h.symm.key_eq hcp)
        exact ⟨e, e', h.frame (State.put_ends_ne (Ne.symm hk)) (State.put_ends_ne (Ne.symm hk'))
          Iff.rfl Iff.rfl (by simp [hself]) (by simp [hself'])⟩
  | @refuse k₀ m told derives refuses =>
      by_cases hk : k₀ = k
      · subst hk
        exact ⟨e, e', h.refused told derives refuses⟩
      by_cases hk' : k₀ = k'
      · subst hk'
        exact ⟨e, e', (h.symm.refused told derives refuses).symm⟩
      · exact ⟨e, e', h.frame rfl rfl Iff.rfl Iff.rfl (by simp [Ne.symm hk])
          (by simp [Ne.symm hk'])⟩

/-- **Runs keep the two ends together.** -/
theorem CloseReachable.pair {start : Channels} (h : link.CloseReachable start w)
    (hstart : link.Pair ⟨start, [], []⟩ k k' e e') : ∃ e₁ e₁', link.Pair w k k' e₁ e₁' := by
  induction h with
  | start => exact ⟨e, e', hstart⟩
  | step _ hstep ih =>
      obtain ⟨e₁, e₁', hpair⟩ := ih
      exact hpair.step hstep

/-- **A channel can be closed** on both chains. -/
theorem Pair.closes {start : Channels} (hencode : ∀ m, ∃ bytes, Crates.encodeVec m = .ok bytes)
    (h : link.Pair ⟨start, [], []⟩ k k' e e') (hopen : e.state ≠ .closed)
    (hopen' : e'.state ≠ .closed) :
    ∃ w, link.CloseReachable start w ∧ w.announced = [k] ∧ w.relayed = [k] ∧
      w.channels.ends k = some (close e) := by
  let w₁ : Closings := ⟨start.put k (close e) [], [k], []⟩
  have hreach : link.CloseReachable start w₁ := .step .start (.closeInit h.stored hopen)
  have hne : k' ≠ k := ne_of_sides h.sides
  have hpair : link.Pair w₁ k k' (close e) e' := h.put (List.nil_subset _)
    (fun ha => absurd (List.mem_singleton.mp ha) hne) (fun hr => hr)
    (.inl (List.mem_singleton_self _))
  obtain ⟨m, hm⟩ := exists_derives_close hencode hpair.stored
    (congrArg ChanCounterparty.channelId hpair.names.first)
  obtain ⟨m', rfl, hcp⟩ := hpair.derives hm
  refine ⟨_, hreach.step (.relay (List.mem_singleton_self _) hm (hpair.checks rfl hcp) hopen'), rfl,
    rfl, ?_⟩
  rw [hpair.key_eq hcp, State.put_ends_ne hne.symm]
  exact hpair.stored

end

end Link

/-- **Closing a channel.**  For every link of two chains, whatever they call their connection, and
two open ends over it that name each other: in every state of every run, the closing of the first
can be relayed, and its message passes the checks of the other chain; the first is closed
only if one of the two was; and once every closing has been relayed, both are closed or neither
is. -/
theorem channelClosing [Crates] (link : Link)
    (hencode : ∀ m, ∃ bytes, Crates.encodeVec m = .ok bytes) (start : Channels) (w : Closings)
    (h : link.CloseReachable start w) (k k' : ChannelKey) (e e' : ChannelEnd)
    (hside : k'.1 = k.1.other) (he : start.ends k = some e) (he' : start.ends k' = some e')
    (hopen : e.state = .open) (hopen' : e'.state = .open) (hnames : link.NameEachOther k e k' e') :
    ∃ e₁ e₁', w.channels.ends k = some e₁ ∧ w.channels.ends k' = some e₁' ∧
      (k ∈ w.announced → (∃ m, link.DerivesClose w.channels k m) ∧
        ∀ m, link.DerivesClose w.channels k m → link.ClosePasses w.channels k.1 m) ∧
      (e₁.state = .closed → k ∈ w.announced ∨ k' ∈ w.announced) ∧
      ((∀ a ∈ w.announced, a ∈ w.relayed) → (e₁.state = .closed ↔ e₁'.state = .closed)) := by
  have hstart := Link.Pair.start hside he he' hopen hopen' hnames
  obtain ⟨e₁, e₁', hpair⟩ := h.pair hstart
  have hchannel : e₁.counterparty.channelId = some k'.2.2 := by
    rw [hpair.names.first]
  refine ⟨e₁, e₁', hpair.stored, hpair.stored', fun told => ⟨?_, fun m derives => ?_⟩,
    hpair.half.cause, fun hall => ⟨fun hc => ?_, fun hc => ?_⟩⟩
  · exact Link.exists_derives_close hencode hpair.stored hchannel
  · obtain ⟨m', rfl, hcp⟩ := hpair.derives derives
    exact ⟨e₁', hpair.checks (hpair.half.announced told) hcp⟩
  · rcases hpair.half.cause hc with ha | ha
    · exact hpair.half.relayed (hall k ha)
    · exact hpair.half'.announced ha
  · rcases hpair.half'.cause hc with ha | ha
    · exact hpair.half'.relayed (hall k' ha)
    · exact hpair.half.announced ha

/-- The theorem at work: a channel between two fresh chains is closed on the first, and after the
event was relayed on the other. -/
theorem freshChannel_closed : ∃ (w : Closings) (k' : ChannelKey) (e e' : ChannelEnd),
    w.channels.ends (.a, transferPort, channel0) = some e ∧ w.channels.ends k' = some e' ∧
    e.state = .closed ∧ e'.state = .closed := by
  let _ := Crates.reference
  have hencode : ∀ m, ∃ bytes, Crates.encodeVec m = .ok bytes := fun _ => ⟨_, rfl⟩
  have hinit : freshLink.InitEnd (.a, transferPort, channel0) freshChannel := ⟨rfl, rfl, rfl⟩
  have hreachable := Link.Reachable.start.step (.openInit rfl hinit)
  obtain ⟨start, c, -, he, he'⟩ := hreachable.opens hencode rfl State.put_ends_self rfl
  have hnames := hinit.nameEachOther rfl c
  have hpair := Link.Pair.start rfl he he' rfl rfl hnames
  obtain ⟨w, hw, hann, hrel, hclosed⟩ := hpair.closes hencode nofun nofun
  obtain ⟨e₁, e₁', he₁, he₁', -, -, hboth⟩ := channelClosing freshLink hencode start w hw _ _ _ _
    rfl he he' rfl rfl hnames
  have hclosed₁ : e₁.state = .closed := by
    rw [Option.some.inj (he₁.symm.trans hclosed)]
    rfl
  exact ⟨w, _, e₁, e₁', he₁, he₁', hclosed₁,
    (hboth fun a ha => by rwa [hrel, ← hann]).mp hclosed₁⟩

end HyperspaceLight
