/-
# The channel handshake

Two chains that run the handlers of ICS-4 over one open connection, and the messages
that `parse_events` derives from their channel events.  A proof verifies if the end that
the handler expects is the end that is stored.

`MsgChannelOpenTry` names the connection of the receiving chain.  The relayer copies the
connection hops of the end that was opened, which are the ids of the connection on the
sending chain.  So the handshake works exactly where both chains have given the
connection the same id (`channelHandshake_iff`).
-/

import HyperspaceLight.Handshake.Connection

namespace HyperspaceLight

open Interaction Handshake

/-- Where a channel end is stored. -/
abbrev ChannelKey := Side × PortId × ChannelId

/-- The channel ends of both chains, with what was announced. -/
abbrev Channels := Handshake.State ChannelKey ChannelEnd

/-- `conn` is an open connection to a chain with the given store prefix, through a client that
follows it, and is called `id` there. -/
structure OpenTo (follows : ClientId → Prop) (storePrefix : StorePrefix) (conn : ConnectionEnd)
    (id : ConnectionId) : Prop where
  state : conn.state = .open
  follows : follows conn.clientId
  counterpartyId : conn.counterparty.connectionId = some id
  counterpartyPrefix : conn.counterparty.storePrefix = storePrefix

/-- **Two chains joined by an open connection.**  Their ids for it are arbitrary; an open
connection to the other chain is named back there. -/
structure Link where
  chain : Side → ChainInfo
  follows : Side → ClientId → Prop
  connections : Side → ConnectionId → Option ConnectionEnd
  connectionId : Side → ConnectionId
  joined (s : Side) : ∃ conn, connections s (connectionId s) = some conn ∧
    OpenTo (follows s) (chain s.other).connectionPrefix conn (connectionId s.other)
  named_back {s : Side} {id id' : ConnectionId} {conn : ConnectionEnd}
    (h : connections s id = some conn)
    (ho : OpenTo (follows s) (chain s.other).connectionPrefix conn id') :
    ∃ conn', connections s.other id' = some conn' ∧ conn'.counterparty.connectionId = some id

namespace Link

variable (link : Link) (w : Channels) (s : Side)

/-! ### The handlers of ICS-4 -/

/-- An end that `chanOpenInit` stores. -/
structure InitEnd (k : ChannelKey) (e : ChannelEnd) : Prop where
  state : e.state = .init
  counterpartyId : e.counterparty.channelId = none
  hops : e.connectionHops = [link.connectionId k.1]

/-- `verifyChannelState` over the connection `hop` of the other chain, which the chain `s`
calls `counterpartyHop`: `s` stores the end `expected`. -/
structure Verifies (hop counterpartyHop : ConnectionId) (p : PortId) (c : ChannelId)
    (expected : ChannelEnd) : Prop where
  connection : ∃ conn, link.connections s.other hop = some conn ∧
    OpenTo (link.follows s.other) (link.chain s).connectionPrefix conn counterpartyHop
  stored : w.ends (s, p, c) = some expected

/-- What `chanOpenTry` expects, over a connection that the counterparty calls `hop`. -/
def expectedInit (m : MsgChannelOpenTry) (hop : ConnectionId) : ChannelEnd where
  state := .init
  ordering := m.channel.ordering
  counterparty := ⟨m.portId, none⟩
  connectionHops := [hop]
  version := m.counterpartyVersion

/-- What `chanOpenAck` expects for the end `channel` it has stored. -/
def expectedTry (m : MsgChannelOpenAck) (channel : ChannelEnd) (hop : ConnectionId) :
    ChannelEnd where
  state := .tryOpen
  ordering := channel.ordering
  counterparty := ⟨m.portId, some m.channelId⟩
  connectionHops := [hop]
  version := m.counterpartyVersion

/-- What `chanOpenConfirm` expects for the end `channel` it has stored. -/
def expectedOpen (m : MsgChannelConfirm) (channel : ChannelEnd) (hop : ConnectionId) :
    ChannelEnd where
  state := .open
  ordering := channel.ordering
  counterparty := ⟨m.portId, some m.channelId⟩
  connectionHops := [hop]
  version := channel.version

/-- The checks of `chanOpenTry`. -/
structure TryChecks (m : MsgChannelOpenTry) : Prop where
  previous : m.previousChannelId = none
  state : m.channel.state = .tryOpen
  verifies : ∃ c hop counterpartyHop, m.channel.counterparty.channelId = some c ∧
    m.channel.connectionHops = [hop] ∧
    link.Verifies w s hop counterpartyHop m.channel.counterparty.portId c
      (expectedInit m counterpartyHop)

/-- The checks of `chanOpenAck` for the stored end `channel`. -/
structure AckChecks (m : MsgChannelOpenAck) (channel : ChannelEnd) : Prop where
  stored : w.ends (s.other, m.portId, m.channelId) = some channel
  verifies : ∃ hop counterpartyHop, channel.connectionHops = [hop] ∧
    link.Verifies w s hop counterpartyHop channel.counterparty.portId m.counterpartyChannelId
      (expectedTry m channel counterpartyHop)

/-- The checks of `chanOpenConfirm` for the stored end `channel`. -/
structure ConfirmChecks (m : MsgChannelConfirm) (channel : ChannelEnd) : Prop where
  stored : w.ends (s.other, m.portId, m.channelId) = some channel
  verifies : ∃ c hop counterpartyHop, channel.counterparty.channelId = some c ∧
    channel.connectionHops = [hop] ∧
    link.Verifies w s hop counterpartyHop channel.counterparty.portId c
      (expectedOpen m channel counterpartyHop)

/-- A message about the chain `s` passes the checks of the other chain. -/
def Passes : Msg → Prop
  | .channelOpenTry m => link.TryChecks w s m
  | .channelOpenAck m => ∃ channel, link.AckChecks w s m channel
  | .channelOpenConfirm m => ∃ channel, link.ConfirmChecks w s m channel
  | _ => False

/-- The checks pass, and the end of the other chain is in the right state. -/
def Handled : Msg → Prop
  | .channelOpenTry m => link.TryChecks w s m
  | .channelOpenAck m => ∃ channel, link.AckChecks w s m channel ∧ channel.state = .init
  | .channelOpenConfirm m => ∃ channel, link.ConfirmChecks w s m channel ∧ channel.state = .tryOpen
  | _ => False

/-- **The other chain accepts a message.** -/
inductive Accepts : Msg → Channels → Prop
  | openTry {m : MsgChannelOpenTry} {c : ChannelId} (checks : link.TryChecks w s m)
      (fresh : w.ends (s.other, m.portId, c) = none) :
      Accepts (.channelOpenTry m) (w.put (s.other, m.portId, c) m.channel
        [.tried (s.other, m.portId, c)])
  | openAck {m : MsgChannelOpenAck} {channel : ChannelEnd}
      (checks : link.AckChecks w s m channel) (state : channel.state = .init) :
      Accepts (.channelOpenAck m) (w.put (s.other, m.portId, m.channelId)
        { channel with
          state := .open
          counterparty := { channel.counterparty with channelId := some m.counterpartyChannelId }
          version := m.counterpartyVersion } [.acked (s.other, m.portId, m.channelId)])
  | openConfirm {m : MsgChannelConfirm} {channel : ChannelEnd}
      (checks : link.ConfirmChecks w s m channel) (state : channel.state = .tryOpen) :
      Accepts (.channelOpenConfirm m) (w.put (s.other, m.portId, m.channelId)
        { channel with state := .open } [])

/-! ### The messages of the relayer -/

/-- The chain `s` answers from its state. -/
def Answers : (o : TraitSig.Op) → Except Error (TraitSig.Res o) → Prop
  | (.source, .queryChannelEnd _ c p), .ok r => r.value = (w.ends (s, p, c)).map .ok
  | _, _ => True

/-- The event that announces a step. -/
def Announces : Announcement ChannelKey → IbcEvent → Prop
  | .init k, .openInitChannel a => a.portId = k.2.1 ∧ a.channelId = some k.2.2
  | .tried k, .openTryChannel a => a.portId = k.2.1 ∧ a.channelId = some k.2.2
  | .acked k, .openAckChannel a => a.portId = k.2.1 ∧ a.channelId = some k.2.2
  | _, _ => False

/-- `parse_events` derives a message from an event that announces a step. -/
def Derives [Crates] (a : Announcement ChannelKey) (m : Msg) : Prop :=
  ∃ ev any proofHeight, Announces a ev.event ∧
    (parseEvent (Chain.trait (link.chain a.key.1) .source).toIbcProvider
      (Chain.trait (link.chain a.key.1.other) .sink).toIbcProvider ev).Leaf
        (Answers w a.key.1) (.ok (some (any, proofHeight))) ∧
    any.msg = m

/-- The end is still in the state that was announced. -/
def StillAnnounced : Announcement ChannelKey → Prop
  | .init k => ∃ e, w.ends k = some e ∧ e.state = .init
  | .tried k => ∃ e, w.ends k = some e ∧ e.state = .tryOpen
  | .acked k => ∃ e, w.ends k = some e ∧ e.state = .open

/-- **The steps of both chains and of both directions of the relayer.** -/
inductive Step [Crates] : Channels → Channels → Prop
  | openInit {w : Channels} {k : ChannelKey} {e : ChannelEnd} (fresh : w.ends k = none)
      (init : link.InitEnd k e) : Step w (w.put k e [.init k])
  | relay {w w' : Channels} {a : Announcement ChannelKey} {m : Msg} (told : a ∈ w.log)
      (derives : link.Derives w a m) (accepts : link.Accepts w a.key.1 m w') :
      Step w (w'.relay a)
  | refuse {w : Channels} {a : Announcement ChannelKey} {m : Msg} (told : a ∈ w.log)
      (derives : link.Derives w a m) (refuses : ¬link.Handled w a.key.1 m) : Step w (w.relay a)

/-- What runs lead to, from chains without channels. -/
inductive Reachable [Crates] : Channels → Prop
  | start : Reachable .start
  | step {w w' : Channels} (h : Reachable w) (hstep : link.Step w w') : Reachable w'

/-- **The handshake works**: every message derived from an event whose end is still in the
announced state passes the checks of the other chain, and once every event has been
relayed, each end that was opened is open, and so is its counterparty, which names it. -/
structure HandshakeWorks [Crates] : Prop where
  passes {w : Channels} {a : Announcement ChannelKey} {m : Msg} (h : link.Reachable w)
    (told : a ∈ w.log) (hstill : StillAnnounced w a) (derives : link.Derives w a m) :
    link.Passes w a.key.1 m
  opens {w : Channels} {k : ChannelKey} (h : link.Reachable w)
    (hall : ∀ a ∈ w.log, a ∈ w.relayed) (hk : .init k ∈ w.log) :
    ∃ k' e e', k'.1 = k.1.other ∧ w.ends k = some e ∧ w.ends k' = some e' ∧ e.state = .open ∧
      e'.state = .open ∧ e.counterparty = ⟨k'.2.1, some k'.2.2⟩ ∧
      e'.counterparty = ⟨k.2.1, some k.2.2⟩

/-! ### The rules of the handshake -/

/-- How far an end is. -/
def phase (e : ChannelEnd) : Phase :=
  match e.state with
  | .tryOpen => .tryOpen
  | .open => .open
  | _ => .init

/-- The end that an end names. -/
def peer (k : ChannelKey) (e : ChannelEnd) : Option ChannelKey :=
  e.counterparty.channelId.map fun c => (k.1.other, e.counterparty.portId, c)

/-- The end that answers `e`. -/
def answer (k : ChannelKey) (e : ChannelEnd) : ChannelEnd where
  state := .tryOpen
  ordering := e.ordering
  counterparty := ⟨k.2.1, some k.2.2⟩
  connectionHops := e.connectionHops
  version := e.version

/-- The end `e` after it has taken up an answer. -/
def takeUp (e : ChannelEnd) (c : ChannelId) (version : String) : ChannelEnd where
  state := .open
  ordering := e.ordering
  counterparty := { e.counterparty with channelId := some c }
  connectionHops := e.connectionHops
  version := version

/-- The handshake, without messages. -/
def rules : Rules ChannelKey ChannelEnd where
  phase := phase
  peer := peer
  Opens := link.InitEnd
  Tries k e k' e' := e.state = .init ∧ k'.1 = k.1.other ∧ k'.2.1 = e.counterparty.portId ∧
    e' = answer k e
  Acks k' e' k e e₁ := e.state = .init ∧ e'.state = .tryOpen ∧ peer k' e' = some k ∧
    k'.2.1 = e.counterparty.portId ∧ e₁ = takeUp e k'.2.2 e'.version
  Confirms k e k' e' e₁ := e.state = .open ∧ peer k e = some k' ∧ e'.state = .tryOpen ∧
    peer k' e' = some k ∧ e₁ = { e' with state := .open }

/-- **What ties an end to the one that answers it.** -/
structure Matches (k : ChannelKey) (e : ChannelEnd) (k' : ChannelKey) (e' : ChannelEnd) : Prop where
  sides : k'.1 = k.1.other
  opener : e.state = .init ∨ e.state = .open
  answerer : e'.state = .tryOpen ∨ e'.state = .open
  port : k'.2.1 = e.counterparty.portId
  ordering : e'.ordering = e.ordering
  version : e'.version = e.version
  hops : e.connectionHops = [link.connectionId k.1]
  otherHops : e'.connectionHops = [link.connectionId k'.1]

/-- The peer of an end is on the other side, under the identifiers the end names. -/
theorem peer_eq_some {k k' : ChannelKey} {e : ChannelEnd} :
    peer k e = some k' ↔ k'.1 = k.1.other ∧ e.counterparty = ⟨k'.2.1, some k'.2.2⟩ := by
  obtain ⟨s', p', c'⟩ := k'
  obtain ⟨state, ordering, ⟨p, c⟩, hops, version⟩ := e
  simp only [peer, Option.map_eq_some_iff, Prod.mk.injEq, ChanCounterparty.mk.injEq]
  constructor
  · rintro ⟨c, hc, rfl, rfl, rfl⟩
    exact ⟨rfl, rfl, hc⟩
  · rintro ⟨rfl, rfl, hc⟩
    exact ⟨c', hc, rfl, rfl, rfl⟩

/-- An end is open in both senses at once. -/
theorem phase_eq_open {e : ChannelEnd} : phase e = .open ↔ e.state = .open := by
  unfold phase
  cases e.state <;> simp

/-- An end is tried in both senses at once. -/
theorem phase_eq_tryOpen {e : ChannelEnd} : phase e = .tryOpen ↔ e.state = .tryOpen := by
  unfold phase
  cases e.state <;> simp

/-- An end in state Init is one of the protocol. -/
theorem phase_of_init {e : ChannelEnd} (h : e.state = .init) : phase e = .init := by
  unfold phase
  rw [h]

/-- Both chains call the connection the same. -/
theorem connectionId_eq (hid : link.connectionId .a = link.connectionId .b) (s s' : Side) :
    link.connectionId s = link.connectionId s' := by
  cases s <;> cases s' <;> first | rfl | exact hid | exact hid.symm

/-- **The rules of channels are lawful** where the two ends of the connection have one identifier:
each message copies what it must into the end it makes. -/
theorem rules_lawful (hid : link.connectionId .a = link.connectionId .b) :
    Lawful link.rules link.Matches where
  match_phase h := by
    refine ⟨fun hp => ?_, fun hp => ?_⟩
    · have hstate := phase_eq_tryOpen.mp hp
      rcases h.opener with ho | ho <;> · rw [hstate] at ho; cases ho
    · rcases h.answerer with ha | ha
      · exact absurd (hp.symm.trans (phase_eq_tryOpen.mpr ha)) nofun
      · exact absurd (hp.symm.trans (phase_eq_open.mpr ha)) nofun
  opens h := phase_of_init h.state
  tries := by
    rintro k k' e e' ⟨hinit, hside, -, rfl⟩
    have hback : k.1 = k'.1.other := by rw [hside, Side.other_other]
    have hpeer : peer k' (answer k e) = some k := peer_eq_some.mpr ⟨hback, rfl⟩
    exact ⟨phase_of_init hinit, rfl, hpeer⟩
  tries_match := by
    rintro k k' e e' ⟨hinit, hside, hport, rfl⟩ ho
    exact {
      sides := hside
      opener := .inl hinit
      answerer := .inl rfl
      port := hport
      ordering := rfl
      version := rfl
      hops := ho.hops
      -- the hops are copied, so the ids have to be the same
      otherHops := by rw [link.connectionId_eq hid k'.1 k.1]; exact ho.hops }
  acks := by
    rintro k k' e e' e₁ ⟨hinit, htry, hpeer, hport, rfl⟩
    have hside : k'.1 = k.1.other := by rw [(peer_eq_some.mp hpeer).1, Side.other_other]
    have hnames : peer k (takeUp e k'.2.2 e'.version) = some k' :=
      peer_eq_some.mpr ⟨hside, by rw [takeUp, hport]⟩
    exact ⟨hpeer, phase_of_init hinit, rfl, hnames⟩
  acks_match := by
    rintro k k' e e' e₁ ⟨hinit, htry, hpeer, hport, rfl⟩ hm k₂ e₂ hm₂
    exact { hm₂ with
      opener := .inr rfl
      version := hm₂.version.trans hm.version.symm }
  confirms := by
    rintro k k' e e' e₁ ⟨hopen, hpeer, htry, hpeer', rfl⟩
    exact ⟨phase_eq_open.mpr hopen, hpeer, phase_eq_tryOpen.mpr htry, hpeer', rfl, hpeer'⟩
  confirms_match := by
    rintro k k' e e' e₁ ⟨hopen, hpeer, htry, hpeer', rfl⟩ k₂ e₂ hm
    exact { hm with answerer := .inr rfl }

/-- **The rules of channels are live**: nobody refuses what it could accept. -/
theorem rules_live : Live link.rules link.Matches where
  tries {k e} h := ⟨(k.1.other, e.counterparty.portId, k.2.2), answer k e, h.state, rfl, rfl, rfl⟩
  acks h hm hphase hpeer := ⟨_, h.state, phase_eq_tryOpen.mp hphase, hpeer, hm.port, rfl⟩
  confirms hopen hpeer _ hphase hpeer' :=
    ⟨_, phase_eq_open.mp hopen, hpeer, phase_eq_tryOpen.mp hphase, hpeer', rfl⟩

/-! ### What the handlers expect of matching ends -/

section

variable {link w}

/-- The other chain knows a connection by the id that its own end names. -/
theorem verifies_of_stored {p : PortId} {c : ChannelId} {e : ChannelEnd}
    (h : w.ends (s, p, c) = some e) :
    link.Verifies w s (link.connectionId s.other) (link.connectionId s) p c e where
  connection := by
    obtain ⟨conn, hconn, hopen⟩ := link.joined s.other
    rw [Side.other_other] at hopen
    exact ⟨conn, hconn, hopen⟩
  stored := h

/-- **The message of an opening passes the checks, if the ids are the same.** -/
theorem InitEnd.passes (hid : link.connectionId .a = link.connectionId .b) {k : ChannelKey}
    {e : ChannelEnd} {m : MsgChannelOpenTry} (he : w.ends k = some e) (h : link.InitEnd k e)
    (hprev : m.previousChannelId = e.counterparty.channelId)
    (hport : m.portId = e.counterparty.portId) (hchannel : m.channel = answer k e)
    (hversion : m.counterpartyVersion = e.version) : link.TryChecks w k.1 m where
  previous := hprev.trans h.counterpartyId
  state := by rw [hchannel, answer]
  verifies := by
    refine ⟨k.2.2, link.connectionId k.1.other, link.connectionId k.1, by rw [hchannel, answer], ?_,
      ?_⟩
    · rw [hchannel, answer, h.hops, link.connectionId_eq hid k.1]
    · have hexpected : expectedInit m (link.connectionId k.1) = e := by
        rw [expectedInit, hchannel, answer, hport, hversion, ← h.counterpartyId, ← h.hops, ← h.state]
      rw [hexpected, hchannel]
      exact verifies_of_stored k.1 he

/-- **The message of an answer passes the checks.** -/
theorem Matches.passes_ack {k k' : ChannelKey} {e e' : ChannelEnd} {m : MsgChannelOpenAck}
    (he : w.ends k = some e) (he' : w.ends k' = some e') (h : link.Matches k e k' e')
    (htry : e'.state = .tryOpen) (hpeer : peer k' e' = some k)
    (hport : m.portId = k.2.1) (hid : m.channelId = k.2.2) (hid' : m.counterpartyChannelId = k'.2.2)
    (hversion : m.counterpartyVersion = e'.version) : link.AckChecks w k'.1 m e := by
  obtain ⟨hside, hcp⟩ := peer_eq_some.mp hpeer
  refine ⟨?_, link.connectionId k'.1.other, link.connectionId k'.1, ?_, ?_⟩
  · rw [hport, hid, ← hside]
    exact he
  · rw [← hside]
    exact h.hops
  · have hexpected : expectedTry m e (link.connectionId k'.1) = e' := by
      rw [expectedTry, hport, hid, hversion, ← h.ordering, ← hcp, ← h.otherHops, ← htry]
    rw [hexpected, ← h.port, hid']
    exact verifies_of_stored k'.1 he'

/-- **The message of an opened end passes the checks.** -/
theorem Matches.passes_confirm {k k' : ChannelKey} {e e' : ChannelEnd} {m : MsgChannelConfirm}
    (he : w.ends k = some e) (he' : w.ends k' = some e') (h : link.Matches k e k' e')
    (hopen : e.state = .open) (hpeer : peer k e = some k') (hpeer' : peer k' e' = some k)
    (hport : m.portId = k'.2.1) (hid : m.channelId = k'.2.2) :
    link.ConfirmChecks w k.1 m e' := by
  obtain ⟨hside, hcp⟩ := peer_eq_some.mp hpeer
  have hcp' := (peer_eq_some.mp hpeer').2
  refine ⟨?_, k.2.2, link.connectionId k.1.other, link.connectionId k.1, by rw [hcp'], ?_, ?_⟩
  · rw [hport, hid, ← hside]
    exact he'
  · rw [← hside]
    exact h.otherHops
  · have hexpected : expectedOpen m e' (link.connectionId k.1) = e := by
      rw [expectedOpen, hport, hid, h.ordering, h.version, ← hcp, ← h.hops, ← hopen]
    rw [hexpected, hcp']
    exact verifies_of_stored k.1 he

end

/-! ### The messages of each arm -/

section

variable {link w s} {source sink : ChainInfo} {ev : IbcEventWithHeight} {any : Any}
  {proofHeight : Height}

/-- The channel end of an answer is the one that is stored. -/
theorem channelEndWithProof_stored {arm missingHeight : String} {mode : DecodeMode} {height : Height}
    {c : ChannelId} {p : PortId} {e : ChannelEnd} {proof : CommitmentProofBytes}
    (h : (channelEndWithProof arm mode missingHeight (Chain.trait source .source).toIbcProvider
      height c p).Leaf (Answers w s) (.ok (e, proof, proofHeight))) :
    w.ends (s, p, c) = some e := by
  obtain ⟨response, hresponse, h⟩ := Prog.leaf_bind_ok.mp h
  obtain ⟨raw, hraw, h⟩ := Prog.leaf_bind_ok.mp h
  obtain ⟨e', he', h⟩ := Prog.leaf_bind_ok.mp h
  obtain ⟨_, -, h⟩ := Prog.leaf_bind_ok.mp h
  obtain ⟨_, -, h⟩ := Prog.leaf_bind_ok.mp h
  obtain ⟨_, -, h⟩ := Prog.leaf_bind_ok.mp h
  rw [Prog.leaf_pure, Outcome.ok.injEq, Prod.mk.injEq] at h
  obtain ⟨rfl, -⟩ := h
  have hanswer : response.value = (w.ends (s, p, c)).map .ok :=
    Prog.leaf_ask_ok (S := TraitSig) |>.mp hresponse
  have hdecoded : raw = .ok e' := by
    cases mode with
    | expect => exact Raw.leaf_tryFrom_ok.mp (Prog.leaf_unwrap_ok.mp he')
    | question => exact Raw.leaf_tryFrom_ok.mp he'
  rw [Prog.leaf_okOr_ok] at hraw
  rw [hraw, hdecoded] at hanswer
  obtain ⟨e, he, heq⟩ := Option.map_eq_some_iff.mp hanswer.symm
  exact Except.ok.inj heq ▸ he

variable [Crates]

/-- **What an OpenInit event becomes**: the hops are those of the end. -/
theorem openInitChannelArm_msg {a : ChannelAttributes} {c : ChannelId}
    (hc : a.channelId = some c)
    (h : (openInitChannelArm (Chain.trait source .source).toIbcProvider
      (Chain.trait sink .sink).toIbcProvider ev a).Leaf (Answers w s)
        (.ok (some (any, proofHeight)))) :
    ∃ e m, w.ends (s, a.portId, c) = some e ∧ any.msg = .channelOpenTry m ∧
      m.previousChannelId = e.counterparty.channelId ∧ m.portId = e.counterparty.portId ∧
      m.channel = answer (s, a.portId, c) e ∧ m.counterpartyVersion = e.version := by
  unfold openInitChannelArm at h
  rw [hc] at h
  obtain ⟨⟨e, proof, height⟩, hend, h⟩ := Prog.leaf_bind_ok.mp h
  exact ⟨e, _, channelEndWithProof_stored hend, leaf_toAny_pure h, rfl, rfl, rfl, rfl⟩

/-- **What an OpenTry event becomes.** -/
theorem openTryChannelArm_msg {a : ChannelAttributes} {c : ChannelId}
    (hc : a.channelId = some c)
    (h : (openTryChannelArm (Chain.trait source .source).toIbcProvider
      (Chain.trait sink .sink).toIbcProvider ev a).Leaf (Answers w s)
        (.ok (some (any, proofHeight)))) :
    ∃ e m, w.ends (s, a.portId, c) = some e ∧ any.msg = .channelOpenAck m ∧
      e.counterparty = ⟨m.portId, some m.channelId⟩ ∧ m.counterpartyChannelId = c ∧
      m.counterpartyVersion = e.version := by
  unfold openTryChannelArm at h
  rw [hc] at h
  obtain ⟨⟨e, proof, height⟩, hend, h⟩ := Prog.leaf_bind_ok.mp h
  obtain ⟨counterpartyId, hcounterparty, h⟩ := Prog.leaf_bind_ok.mp h
  rw [Prog.leaf_expect_ok] at hcounterparty
  exact ⟨e, _, channelEndWithProof_stored hend, leaf_toAny_pure h, by rw [← hcounterparty], rfl, rfl⟩

/-- **What an OpenAck event becomes.** -/
theorem openAckChannelArm_msg {a : ChannelAttributes} {c : ChannelId}
    (hc : a.channelId = some c)
    (h : (openAckChannelArm (Chain.trait source .source).toIbcProvider
      (Chain.trait sink .sink).toIbcProvider ev a).Leaf (Answers w s)
        (.ok (some (any, proofHeight)))) :
    ∃ e m, w.ends (s, a.portId, c) = some e ∧ any.msg = .channelOpenConfirm m ∧
      e.counterparty = ⟨m.portId, some m.channelId⟩ := by
  unfold openAckChannelArm at h
  rw [hc] at h
  obtain ⟨⟨e, proof, height⟩, hend, h⟩ := Prog.leaf_bind_ok.mp h
  obtain ⟨counterpartyId, hcounterparty, h⟩ := Prog.leaf_bind_ok.mp h
  rw [Prog.leaf_expect_ok] at hcounterparty
  exact ⟨e, _, channelEndWithProof_stored hend, leaf_toAny_pure h, by rw [← hcounterparty]⟩

/-- **What the relayer derives**, in terms of the end that announced the event. -/
theorem Derives.msg {a : Announcement ChannelKey} {m : Msg} (h : link.Derives w a m) :
    ∃ e, w.ends a.key = some e ∧ match a with
      | .init k => ∃ m', m = .channelOpenTry m' ∧
          m'.previousChannelId = e.counterparty.channelId ∧ m'.portId = e.counterparty.portId ∧
          m'.channel = answer k e ∧ m'.counterpartyVersion = e.version
      | .tried k => ∃ m', m = .channelOpenAck m' ∧
          e.counterparty = ⟨m'.portId, some m'.channelId⟩ ∧ m'.counterpartyChannelId = k.2.2 ∧
          m'.counterpartyVersion = e.version
      | .acked _ => ∃ m', m = .channelOpenConfirm m' ∧
          e.counterparty = ⟨m'.portId, some m'.channelId⟩ := by
  obtain ⟨ev, any, proofHeight, hev, h, rfl⟩ := h
  unfold Announces at hev
  split at hev
  · next k attributes hevent _ =>
      rw [parseEvent, hevent] at h
      obtain ⟨s, p, c⟩ := k
      obtain ⟨rfl, hc⟩ := hev
      obtain ⟨e, m, he, hm⟩ := openInitChannelArm_msg hc h
      exact ⟨e, he, m, hm⟩
  · next k attributes hevent _ =>
      rw [parseEvent, hevent] at h
      obtain ⟨s, p, c⟩ := k
      obtain ⟨rfl, hc⟩ := hev
      obtain ⟨e, m, he, hm⟩ := openTryChannelArm_msg hc h
      exact ⟨e, he, m, hm⟩
  · next k attributes hevent _ =>
      rw [parseEvent, hevent] at h
      obtain ⟨s, p, c⟩ := k
      obtain ⟨rfl, hc⟩ := hev
      obtain ⟨e, m, he, hm⟩ := openAckChannelArm_msg hc h
      exact ⟨e, he, m, hm⟩
  · exact hev.elim

/-! ### Runs where the ids are the same -/

section

variable {a : Announcement ChannelKey} {m : Msg}

/-- **Every derived message of a step that still stands passes the checks.** -/
theorem passes_of_inv (hid : link.connectionId .a = link.connectionId .b)
    (hinv : Inv link.rules link.Matches w) (told : a ∈ w.log) (hstill : StillAnnounced w a)
    (derives : link.Derives w a m) : link.Passes w a.key.1 m := by
  obtain ⟨e, he, hmsg⟩ := derives.msg
  cases a with
  | init k =>
      obtain ⟨m', rfl, hprev, hport, hchannel, hversion⟩ := hmsg
      obtain ⟨e₀, he₀, hend⟩ := hinv.init_end told
      obtain rfl : e₀ = e := Option.some.inj (he₀.symm.trans he)
      obtain ⟨e₁, he₁, hinit⟩ := hstill
      obtain rfl : e₁ = e₀ := Option.some.inj (he₁.symm.trans he)
      have hopens : link.InitEnd k e₁ := by
        refine hend.resolve_right fun ⟨hopen, _⟩ => ?_
        exact absurd (hinit.symm.trans (phase_eq_open.mp hopen)) nofun
      exact hopens.passes hid he hprev hport hchannel hversion
  | tried k' =>
      obtain ⟨m', rfl, hcp, hid', hversion⟩ := hmsg
      obtain ⟨k, e₀, e', -, ⟨he₀, he', hpeer, hm⟩, -⟩ := hinv.tried_end told
      obtain rfl : e' = e := Option.some.inj (he'.symm.trans he)
      obtain ⟨e₁, he₁, htry⟩ := hstill
      obtain rfl : e₁ = e' := Option.some.inj (he₁.symm.trans he)
      have hname := hcp.symm.trans (peer_eq_some.mp hpeer).2
      rw [ChanCounterparty.mk.injEq, Option.some.injEq] at hname
      exact ⟨e₀, hm.passes_ack he₀ he htry hpeer hname.1 hname.2 hid' hversion⟩
  | acked k =>
      obtain ⟨m', rfl, hcp⟩ := hmsg
      obtain ⟨k', e₀, e', -, ⟨he₀, he', hpeer', hm⟩, hopen, hpeer⟩ := hinv.acked_end told
      obtain rfl : e₀ = e := Option.some.inj (he₀.symm.trans he)
      have hname := hcp.symm.trans (peer_eq_some.mp hpeer).2
      rw [ChanCounterparty.mk.injEq, Option.some.injEq] at hname
      exact ⟨e', hm.passes_confirm he he' (phase_eq_open.mp hopen) hpeer hpeer' hname.1 hname.2⟩

/-- **An accepted message is a step of the handshake.** -/
theorem Accepts.refines {w' : Channels} (hinv : Inv link.rules link.Matches w) (told : a ∈ w.log)
    (derives : link.Derives w a m) (accepts : link.Accepts w a.key.1 m w') :
    Handshake.Step link.rules w (w'.relay a) := by
  obtain ⟨e, he, hmsg⟩ := derives.msg
  cases a with
  | init k =>
      obtain ⟨s, p, c⟩ := k
      obtain ⟨m', rfl, -, hport, hchannel, -⟩ := hmsg
      cases accepts with
      | @openTry _ c' checks fresh =>
          obtain ⟨c₀, hop, hop', hc₀, -, hverifies⟩ := checks.verifies
          rw [hchannel] at hc₀ hverifies
          obtain rfl : c = c₀ := Option.some.inj hc₀
          have hinit : e.state = .init := by
            rw [Option.some.inj (he.symm.trans hverifies.stored)]
            rfl
          rw [hchannel]
          exact .tried told he ⟨hinit, rfl, hport, rfl⟩ fresh
  | tried k =>
      obtain ⟨s, p, c⟩ := k
      obtain ⟨m', rfl, hcp, hc, hversion⟩ := hmsg
      cases accepts with
      | @openAck _ channel checks state =>
          obtain ⟨hop, hop', -, hverifies⟩ := checks.verifies
          have hpeer : peer (s, p, c) e = some (s.other, m'.portId, m'.channelId) :=
            peer_eq_some.mpr ⟨rfl, hcp⟩
          obtain ⟨-, ⟨-, -, -, hm⟩, -⟩ := hinv.bond_of_tried told he hpeer checks.stored
          -- the end that the handler has verified is the one that was announced
          have hstored := hverifies.stored
          rw [hc, ← hm.port] at hstored
          have htry : e.state = .tryOpen := by
            rw [Option.some.inj (he.symm.trans hstored)]
            rfl
          have hnew : takeUp channel c e.version =
              { channel with
                state := .open
                counterparty := { channel.counterparty with
                  channelId := some m'.counterpartyChannelId }
                version := m'.counterpartyVersion } := by
            rw [takeUp, hc, hversion]
          rw [← hnew]
          exact .acked told he checks.stored ⟨state, htry, hpeer, hm.port, rfl⟩
  | acked k =>
      obtain ⟨s, p, c⟩ := k
      obtain ⟨m', rfl, hcp⟩ := hmsg
      cases accepts with
      | @openConfirm _ channel checks state =>
          obtain ⟨k', e₀, e', -, ⟨he₀, he', hpeer', -⟩, hopen, hpeer⟩ := hinv.acked_end told
          obtain rfl : e₀ = e := Option.some.inj (he₀.symm.trans he)
          obtain rfl : k' = (s.other, m'.portId, m'.channelId) :=
            Option.some.inj (hpeer.symm.trans (peer_eq_some.mpr ⟨rfl, hcp⟩))
          obtain rfl : e' = channel := Option.some.inj (he'.symm.trans checks.stored)
          exact .confirmed told he checks.stored
            ⟨phase_eq_open.mp hopen, hpeer, state, hpeer', rfl⟩

/-- **What is refused has no rule.** -/
theorem refuses_of_not_handled (hid : link.connectionId .a = link.connectionId .b)
    (hinv : Inv link.rules link.Matches w) (told : a ∈ w.log) (derives : link.Derives w a m)
    (refuses : ¬link.Handled w a.key.1 m) :
    link.rules.Refuses w a := by
  obtain ⟨e, he, hmsg⟩ := derives.msg
  cases a with
  | init k =>
      obtain ⟨m', rfl, -⟩ := hmsg
      intro e₀ he₀ k' e' htries
      have hstill : StillAnnounced w (.init k) := ⟨e₀, he₀, htries.1⟩
      exact refuses (passes_of_inv hid hinv told hstill derives)
  | tried k' =>
      obtain ⟨m', rfl, hcp, hid', hversion⟩ := hmsg
      intro e' he' k e₀ e₁ he₀ hacks
      obtain ⟨hinit, htry, hpeer, -, -⟩ := hacks
      obtain rfl : e' = e := Option.some.inj (he'.symm.trans he)
      obtain ⟨-, ⟨-, -, -, hm⟩, -⟩ := hinv.bond_of_tried told he hpeer he₀
      have hname := hcp.symm.trans (peer_eq_some.mp hpeer).2
      rw [ChanCounterparty.mk.injEq, Option.some.injEq] at hname
      exact refuses ⟨e₀, hm.passes_ack he₀ he htry hpeer hname.1 hname.2 hid' hversion, hinit⟩
  | acked k =>
      obtain ⟨m', rfl, hcp⟩ := hmsg
      intro e₀ he₀ k' e' e₁ he' hconfirms
      obtain ⟨hopen, hpeer, htry, hpeer', -⟩ := hconfirms
      obtain rfl : e₀ = e := Option.some.inj (he₀.symm.trans he)
      obtain ⟨k₁, e₂, e₃, -, ⟨he₂, he₃, -, hm⟩, -, hpeer₁⟩ := hinv.acked_end told
      obtain rfl : e₂ = e₀ := Option.some.inj (he₂.symm.trans he)
      obtain rfl : k₁ = k' := Option.some.inj (hpeer₁.symm.trans hpeer)
      obtain rfl : e₃ = e' := Option.some.inj (he₃.symm.trans he')
      have hname := hcp.symm.trans (peer_eq_some.mp hpeer).2
      rw [ChanCounterparty.mk.injEq, Option.some.injEq] at hname
      exact refuses ⟨e₃, hm.passes_confirm he he' hopen hpeer hpeer' hname.1 hname.2, htry⟩

/-- **A run of the relayer is a run of the protocol.** -/
theorem Reachable.refines (hid : link.connectionId .a = link.connectionId .b) {w : Channels}
    (h : link.Reachable w) :
    Handshake.Reachable link.rules w := by
  induction h with
  | start => exact .start
  | step _ hstep ih =>
      have hinv := ih.inv (link.rules_lawful hid)
      cases hstep with
      | openInit fresh init => exact ih.step (.opened fresh init)
      | relay told derives accepts => exact ih.step (accepts.refines hinv told derives)
      | refuse told derives refuses =>
          exact ih.step (.refused told (refuses_of_not_handled hid hinv told derives refuses))

/-- **With one id for the connection the handshake works.** -/
theorem handshakeWorks_of_eq (hid : link.connectionId .a = link.connectionId .b) :
    link.HandshakeWorks where
  passes h told hstill derives :=
    passes_of_inv hid ((h.refines hid).inv (link.rules_lawful hid)) told hstill derives
  opens h hall hk := by
    obtain ⟨k', e, e', he, he', hopen, hopen', hpeer, hpeer'⟩ :=
      (h.refines hid).settled (link.rules_lawful hid) link.rules_live hall hk
    exact ⟨k', e, e', (peer_eq_some.mp hpeer).1, he, he', phase_eq_open.mp hopen,
      phase_eq_open.mp hopen', (peer_eq_some.mp hpeer).2, (peer_eq_some.mp hpeer').2⟩

end

/-! ### Runs where the ids differ -/

omit [Crates] in
/-- **An opening whose message passes the checks**: the other chain has an open connection with the
id of the first hop, and it is called the same on the chain of the opening. -/
theorem connectionId_eq_of_passes {k : ChannelKey} {e : ChannelEnd} {m : MsgChannelOpenTry}
    (he : w.ends k = some e) (h : link.InitEnd k e) (hchannel : m.channel = answer k e)
    (hpasses : link.TryChecks w k.1 m) :
    link.connectionId k.1 = link.connectionId k.1.other := by
  obtain ⟨c, hop, hop', hc, hhop, ⟨conn, hconn, hopen⟩, hstored⟩ := hpasses.verifies
  rw [hchannel] at hc hhop hstored
  obtain rfl : k.2.2 = c := Option.some.inj hc
  -- the end that is verified is the opened one
  have hend : e = expectedInit m hop' := Option.some.inj (he.symm.trans hstored)
  have hhops : e.connectionHops = [hop'] := by rw [hend, expectedInit]
  obtain rfl : link.connectionId k.1 = hop := List.singleton_inj.mp (h.hops.symm.trans hhop)
  obtain rfl : link.connectionId k.1 = hop' := List.singleton_inj.mp (h.hops.symm.trans hhops)
  -- so the connection is named back by its own id
  have hback : OpenTo (link.follows k.1.other) (link.chain k.1.other.other).connectionPrefix conn
      (link.connectionId k.1) := by
    rw [Side.other_other]
    exact hopen
  obtain ⟨conn', hconn', hname⟩ := link.named_back hconn hback
  rw [Side.other_other] at hconn'
  obtain ⟨conn₀, hconn₀, hopen₀⟩ := link.joined k.1
  obtain rfl : conn' = conn₀ := Option.some.inj (hconn'.symm.trans hconn₀)
  exact Option.some.inj (hname.symm.trans hopen₀.counterpartyId)

/-- An opening whose message encodes is relayed. -/
theorem exists_derives_init (hencode : ∀ m, ∃ bytes, Crates.encodeVec m = .ok bytes)
    {k : ChannelKey} {e : ChannelEnd} (he : w.ends k = some e) :
    ∃ m, link.Derives w (.init k) m := by
  let attributes : ChannelAttributes := ⟨k.2.1, some k.2.2, link.connectionId k.1, k.2.1, none⟩
  have hend : (channelEndWithProof "open_chan_init" .expect
      "[get_messages_for_events - open_chan_init]Proof height should be present"
      (Chain.trait (link.chain k.1) .source).toIbcProvider (height0 5) k.2.2 k.2.1).Leaf
        (Answers w k.1) (.ok (e, ⟨utf8 "proof", by decide⟩, height0 1)) := by
    refine Prog.leaf_bind_ok.mpr ⟨proven (some (.ok e)), ?_, rfl⟩
    refine (Prog.leaf_ask_ok (S := TraitSig)).mpr ?_
    show some (Except.ok e) = (w.ends k).map Except.ok
    rw [he]
    rfl
  let m : MsgChannelOpenTry := {
    portId := e.counterparty.portId
    previousChannelId := e.counterparty.channelId
    channel := answer k e
    counterpartyVersion := e.version
    proofs := ⟨⟨utf8 "proof", by decide⟩, none, none, none, height0 1⟩
    signer := (link.chain k.1.other).accountId }
  obtain ⟨bytes, hbytes⟩ := hencode (.channelOpenTry m)
  let any : Any := ⟨(Msg.channelOpenTry m).typeUrl, bytes, .channelOpenTry m,
    some (inBlock (.openInitChannel attributes))⟩
  have htoAny : ((Msg.channelOpenTry m).toAny (encodingContext "open_chan_init")
      (some (inBlock (.openInitChannel attributes))) : Prog TraitSig Error Any).Leaf
        (Answers w k.1) (.ok any) := by
    rw [Msg.toAny, hbytes]
    rfl
  exact ⟨.channelOpenTry m, inBlock (.openInitChannel attributes), any, height0 1, ⟨rfl, rfl⟩,
    Prog.leaf_bind_ok.mpr ⟨_, hend, Prog.leaf_bind_ok.mpr ⟨any, htoAny, rfl⟩⟩, rfl⟩

/-- **Where the handshake works the ids are the same**: the first opening needs it. -/
theorem connectionId_eq_of_works (hencode : ∀ m, ∃ bytes, Crates.encodeVec m = .ok bytes)
    (h : link.HandshakeWorks) : link.connectionId .a = link.connectionId .b := by
  let k : ChannelKey := (.a, transferPort, channel0)
  let e : ChannelEnd :=
    ⟨.init, .unordered, ⟨transferPort, none⟩, [link.connectionId .a], "ics20-1"⟩
  have hinit : link.InitEnd k e := ⟨rfl, rfl, rfl⟩
  have hreachable : link.Reachable (State.start.put k e [.init k]) :=
    .step .start (.openInit rfl hinit)
  have he : (State.start.put k e [.init k]).ends k = some e := State.put_ends_self
  obtain ⟨m, hm⟩ := exists_derives_init hencode he
  have hpasses := h.passes hreachable (List.mem_cons_self ..) ⟨e, he, rfl⟩ hm
  obtain ⟨e', he', m', rfl, -, -, hchannel, -⟩ := hm.msg
  obtain rfl : e = e' := Option.some.inj (he.symm.trans he')
  exact connectionId_eq_of_passes he hinit hchannel hpasses

end

end Link

/-- **The channel handshake works exactly where both chains call the connection the same.**  For
every link of two chains, over all ports, orderings and versions and all orders of steps. -/
theorem channelHandshake_iff [Crates] (link : Link)
    (hencode : ∀ m, ∃ bytes, Crates.encodeVec m = .ok bytes) :
    link.HandshakeWorks ↔ link.connectionId .a = link.connectionId .b :=
  ⟨Link.connectionId_eq_of_works hencode, Link.handshakeWorks_of_eq⟩

/-- Two chains that both call their connection `connection-0`. -/
def freshLink : Link where
  chain
    | .a => chainInfo "a"
    | .b => chainInfo "b"
  follows _ _ := True
  connections _ id := if id = connection0 then
    some ⟨.open, client0, ⟨client0, some connection0, ibcPrefix⟩, [ConnectionNet.version1], 0⟩
    else none
  connectionId _ := connection0
  joined s := ⟨_, if_pos rfl, rfl, trivial, rfl, by cases s <;> rfl⟩
  named_back {s id id' conn} h ho := by
    split_ifs at h with heq
    obtain rfl := Option.some.inj h
    obtain rfl : connection0 = id' := Option.some.inj ho.counterpartyId
    exact ⟨_, if_pos rfl, by rw [heq]⟩

/-- The hypothesis of `channelHandshake_iff` can be met, and so can both of its sides. -/
theorem freshLink_works : @Link.HandshakeWorks freshLink Crates.reference :=
  (@channelHandshake_iff Crates.reference freshLink fun _ => ⟨_, rfl⟩).mpr rfl

/-! ### Links made by the connection handshake -/

/-- **Two ends that a connection handshake has opened join their chains.** -/
def ConnectionNet.link [Crates] (net : ConnectionNet) (w : Connections) (h : net.Reachable w)
    (id : Side → ConnectionId)
    (hopen : ∀ s, ∃ conn, w.ends (s, id s) = some conn ∧ conn.state = .open ∧
      conn.counterparty.connectionId = some (id s.other)) : Link where
  chain := net.chain
  follows := net.follows
  connections s i := w.ends (s, i)
  connectionId := id
  joined s := by
    obtain ⟨conn, hconn, hstate, hcp⟩ := hopen s
    obtain ⟨hfollows, k', e', hside, -, hname⟩ := h.open_end hconn hstate
    refine ⟨conn, hconn, hstate, hfollows, hcp, ?_⟩
    rw [hname.first, hside]
  named_back {s i i' conn} hconn ho := by
    obtain ⟨-, k', e', hside, he', hname⟩ := h.open_end hconn ho.state
    obtain ⟨s', c'⟩ := k'
    obtain rfl : s' = s.other := hside
    have hid := ho.counterpartyId
    rw [hname.first, Option.some.injEq] at hid
    exact ⟨e', hid ▸ he', by rw [hname.second]⟩

/-- Two chains joined by `connection-3` of the first and `connection-7` of the second. -/
def crossedLink : Link :=
  @ConnectionNet.link Crates.reference ConnectionNet.crossedNet ConnectionNet.afterConfirm
    ConnectionNet.afterConfirm_reachable
    (fun
      | .a => ConnectionNet.crossedKeyA.2
      | .b => ConnectionNet.crossedKeyB.2)
    (fun s => by cases s <;> exact ⟨_, rfl, rfl, rfl⟩)

/-- **No channel handshake over them works.** -/
theorem crossedLink_fails : ¬@Link.HandshakeWorks crossedLink Crates.reference := fun h =>
  absurd (@Link.connectionId_eq_of_works crossedLink Crates.reference (fun _ => ⟨_, rfl⟩) h)
    (by decide)

end HyperspaceLight
