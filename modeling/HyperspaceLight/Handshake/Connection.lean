/-
# The connection handshake

Two chains that run the handlers of ICS-3, and the messages that `parse_events` derives
from their connection events.  A proof verifies if the end that the handler expects is
the end that is stored.  Client ids, connection ids, prefixes, versions and delays are
arbitrary, connections are opened on both chains at any time, and the events are
relayed in any order and any number of times.

The relay loop handles one finality event at a time, so what a direction derives is
delivered before the other direction goes on.

Each message derived from an event whose end is still in the announced state passes
the identifier checks of the other chain, and open ends name each other
(`connectionHandshake`).
-/

import HyperspaceLight.Core.Events
import HyperspaceLight.Cosmos.Node
import HyperspaceLight.Handshake.Protocol

namespace HyperspaceLight

open Interaction Handshake

/-- The end of an arm: the message is encoded and returned. -/
theorem leaf_toAny_pure [Crates] {A : (o : TraitSig.Op) → Except Error (TraitSig.Res o) → Prop}
    {m : Msg} {context : String} {ev : IbcEventWithHeight} {any : Any} {height proofHeight : Height}
    (h : (m.toAny context (some ev) >>= fun any => pure (some (any, height)) :
      Prog TraitSig Error (Option (Any × Height))).Leaf A (.ok (some (any, proofHeight)))) :
    any.msg = m := by
  obtain ⟨any', hany, h⟩ := Prog.leaf_bind_ok.mp h
  simp only [Prog.leaf_pure, Outcome.ok.injEq, Option.some.injEq, Prod.mk.injEq] at h
  obtain ⟨rfl, -⟩ := h
  exact (Msg.toAny_returns hany).1

/-- An event in some block. -/
def inBlock (event : IbcEvent) : IbcEventWithHeight := ⟨event, height0 5, ⟨0, 0⟩⟩

/-- Where a connection end is stored. -/
abbrev ConnectionKey := Side × ConnectionId

/-- The connection ends of both chains, with what was announced. -/
abbrev Connections := Handshake.State ConnectionKey ConnectionEnd

/-- What the handlers of two chains depend on: the chains, the clients on each that
follow the other chain, and how versions are chosen. -/
structure ConnectionNet where
  chain : Side → ChainInfo
  follows : Side → ClientId → Prop
  pickVersion : Side → List ConnVersion → Option ConnVersion
  supports : List ConnVersion → ConnVersion → Prop
  pickVersion_supports {s : Side} {versions : List ConnVersion} {version : ConnVersion}
    (h : pickVersion s versions = some version) : supports versions version

namespace ConnectionNet

variable (net : ConnectionNet) (w : Connections) (s : Side)

/-- The store prefix of a chain. -/
abbrev storePrefix : StorePrefix := (net.chain s).connectionPrefix

/-- The client states that a chain stores at some time. -/
abbrev Clients := ClientId → Option ClientState

/-! ### The handlers of ICS-3 -/

/-- An end that `connOpenInit` stores, for a client of each chain. -/
structure InitEnd (k : ConnectionKey) (e : ConnectionEnd) : Prop where
  state : e.state = .init
  client : net.follows k.1 e.clientId
  counterpartyClient : net.follows k.1.other e.counterparty.clientId
  counterpartyId : e.counterparty.connectionId = none
  counterpartyPrefix : e.counterparty.storePrefix = net.storePrefix k.1.other

/-- `verifyConnectionState`: a client of the other chain verifies that the chain `s`
stores the end `expected`. -/
structure Verifies (clientId : ClientId) (storePrefix : StorePrefix) (id : ConnectionId)
    (expected : ConnectionEnd) : Prop where
  follows : net.follows s.other clientId
  under : storePrefix = net.storePrefix s
  stored : w.ends (s, id) = some expected

/-- What `connOpenTry` expects on the chain `s`. -/
def expectedInit (m : MsgConnectionOpenTry) : ConnectionEnd where
  state := .init
  clientId := m.counterparty.clientId
  counterparty := ⟨m.clientId, none, net.storePrefix s.other⟩
  versions := m.counterpartyVersions
  delayPeriod := m.delayPeriod

/-- What `connOpenAck` expects for the end `conn` it has stored. -/
def expectedTry (m : MsgConnectionOpenAck) (conn : ConnectionEnd) : ConnectionEnd where
  state := .tryOpen
  clientId := conn.counterparty.clientId
  counterparty := ⟨conn.clientId, some m.connectionId, net.storePrefix s.other⟩
  versions := [m.version]
  delayPeriod := conn.delayPeriod

/-- What `connOpenConfirm` expects for the end `conn` it has stored. -/
def expectedOpen (m : MsgConnectionOpenConfirm) (conn : ConnectionEnd) : ConnectionEnd where
  state := .open
  clientId := conn.counterparty.clientId
  counterparty := ⟨conn.clientId, some m.connectionId, net.storePrefix s.other⟩
  versions := conn.versions
  delayPeriod := conn.delayPeriod

variable (clients : Clients)

/-- The identifier checks of `connOpenTry`. -/
structure TryChecks (m : MsgConnectionOpenTry) : Prop where
  previous : m.previousConnectionId = none
  client : m.clientState = clients m.counterparty.clientId
  verifies : ∃ id, m.counterparty.connectionId = some id ∧
    net.Verifies w s m.clientId m.counterparty.storePrefix id (net.expectedInit s m)

/-- The identifier checks of `connOpenAck`. -/
structure AckChecks (m : MsgConnectionOpenAck) (conn : ConnectionEnd) : Prop where
  stored : w.ends (s.other, m.connectionId) = some conn
  version : conn.state = .init → net.supports conn.versions m.version
  client : m.clientState = clients conn.counterparty.clientId
  verifies : net.Verifies w s conn.clientId conn.counterparty.storePrefix
    m.counterpartyConnectionId (net.expectedTry s m conn)

/-- The identifier checks of `connOpenConfirm`. -/
structure ConfirmChecks (m : MsgConnectionOpenConfirm) (conn : ConnectionEnd) : Prop where
  stored : w.ends (s.other, m.connectionId) = some conn
  verifies : ∃ id, conn.counterparty.connectionId = some id ∧
    net.Verifies w s conn.clientId conn.counterparty.storePrefix id (net.expectedOpen s m conn)

/-- A message about the chain `s` passes the identifier checks of the other chain. -/
def Passes : Msg → Prop
  | .connectionOpenTry m => net.TryChecks w s clients m
  | .connectionOpenAck m => ∃ conn, net.AckChecks w s clients m conn
  | .connectionOpenConfirm m => ∃ conn, net.ConfirmChecks w s m conn
  | _ => False

/-- **The other chain accepts a message**: its end is in the right state, and the identifier
checks pass. -/
inductive Accepts : Msg → Connections → Prop
  | openTry {m : MsgConnectionOpenTry} {version : ConnVersion} {id : ConnectionId}
      (checks : net.TryChecks w s clients m)
      (picked : net.pickVersion s.other m.counterpartyVersions = some version)
      (fresh : w.ends (s.other, id) = none) :
      Accepts (.connectionOpenTry m) (w.put (s.other, id)
        { state := .tryOpen, clientId := m.clientId, counterparty := m.counterparty,
          versions := [version], delayPeriod := m.delayPeriod } [.tried (s.other, id)])
  | openAck {m : MsgConnectionOpenAck} {conn : ConnectionEnd}
      (checks : net.AckChecks w s clients m conn) (state : conn.state = .init) :
      Accepts (.connectionOpenAck m) (w.put (s.other, m.connectionId)
        { conn with
          state := .open
          counterparty := { conn.counterparty with
            connectionId := some m.counterpartyConnectionId }
          versions := [m.version] } [.acked (s.other, m.connectionId)])
  | openConfirm {m : MsgConnectionOpenConfirm} {conn : ConnectionEnd}
      (checks : net.ConfirmChecks w s m conn) (state : conn.state = .tryOpen) :
      Accepts (.connectionOpenConfirm m) (w.put (s.other, m.connectionId)
        { conn with state := .open } [])

/-! ### The messages of the relayer -/

/-- The chain `s` answers from its state. -/
def Answers : (o : TraitSig.Op) → Except Error (TraitSig.Res o) → Prop
  | (.source, .queryConnectionEnd _ id), .ok r => r.value = (w.ends (s, id)).map .ok
  | (.source, .queryClientState _ id), .ok r => r.value = (clients id).map .ok
  | _, _ => True

/-- The event that announces a step of the end `e`. -/
def Announces (e : ConnectionEnd) : Announcement ConnectionKey → IbcEvent → Prop
  | .init k, .openInitConnection a => a.connectionId = some k.2 ∧ a.clientId = e.clientId
  | .tried k, .openTryConnection a => a.connectionId = some k.2 ∧ a.clientId = e.clientId
  | .acked k, .openAckConnection a => a.connectionId = some k.2 ∧ a.clientId = e.clientId
  | _, _ => False

/-- `parse_events` derives a message from an event that announces a step. -/
def Derives [Crates] (a : Announcement ConnectionKey) (m : Msg) : Prop :=
  ∃ e ev any proofHeight, w.ends a.key = some e ∧ Announces e a ev.event ∧
    (parseEvent (Chain.trait (net.chain a.key.1) .source).toIbcProvider
      (Chain.trait (net.chain a.key.1.other) .sink).toIbcProvider ev).Leaf
        (Answers w a.key.1 clients) (.ok (some (any, proofHeight))) ∧
    any.msg = m

/-- The end is still in the state that was announced. -/
def StillAnnounced : Announcement ConnectionKey → Prop
  | .init k => ∃ e, w.ends k = some e ∧ e.state = .init
  | .tried k => ∃ e, w.ends k = some e ∧ e.state = .tryOpen
  | .acked k => ∃ e, w.ends k = some e ∧ e.state = .open

/-- **The steps of both chains and of both directions of the relayer.**  A message that is
refused is no step: it changes nothing. -/
inductive Step [Crates] : Connections → Connections → Prop
  | openInit {w : Connections} {k : ConnectionKey} {e : ConnectionEnd} (fresh : w.ends k = none)
      (init : net.InitEnd k e) : Step w (w.put k e [.init k])
  | relay {w w' : Connections} {a : Announcement ConnectionKey} {clients : Clients} {m : Msg}
      (told : a ∈ w.log) (derives : net.Derives w clients a m)
      (accepts : net.Accepts w a.key.1 clients m w') : Step w (w'.relay a)

/-- What runs lead to, from chains without connections. -/
inductive Reachable [Crates] : Connections → Prop
  | start : Reachable .start
  | step {w w' : Connections} (h : Reachable w) (hstep : net.Step w w') : Reachable w'

/-! ### The rules of the handshake -/

/-- How far an end is. -/
def phase (e : ConnectionEnd) : Phase :=
  match e.state with
  | .uninitialized | .init => .init
  | .tryOpen => .tryOpen
  | .open => .open

/-- The end that an end names. -/
def peer (k : ConnectionKey) (e : ConnectionEnd) : Option ConnectionKey :=
  e.counterparty.connectionId.map fun id => (k.1.other, id)

/-- The end that answers `e`. -/
def answer (k : ConnectionKey) (e : ConnectionEnd) (version : ConnVersion) : ConnectionEnd where
  state := .tryOpen
  clientId := e.counterparty.clientId
  counterparty := ⟨e.clientId, some k.2, net.storePrefix k.1⟩
  versions := [version]
  delayPeriod := e.delayPeriod

/-- The end `e` after it has taken up an answer. -/
def takeUp (e : ConnectionEnd) (id : ConnectionId) (version : ConnVersion) : ConnectionEnd where
  state := .open
  clientId := e.clientId
  counterparty := { e.counterparty with connectionId := some id }
  versions := [version]
  delayPeriod := e.delayPeriod

/-- The handshake, without messages. -/
def rules : Rules ConnectionKey ConnectionEnd where
  phase := phase
  peer := peer
  Opens := net.InitEnd
  Tries k e k' e' := e.state = .init ∧ k'.1 = k.1.other ∧
    ∃ version, net.pickVersion k'.1 e.versions = some version ∧ e' = net.answer k e version
  Acks k' e' k e e₁ := e.state = .init ∧ e'.state = .tryOpen ∧ peer k' e' = some k ∧
    ∃ version, e'.versions = [version] ∧ e₁ = takeUp e k'.2 version
  Confirms k e k' e' e₁ := e.state = .open ∧ peer k e = some k' ∧ e'.state = .tryOpen ∧
    peer k' e' = some k ∧ e₁ = { e' with state := .open }

/-- **What ties an end to the one that answers it.** -/
structure Matches (k : ConnectionKey) (e : ConnectionEnd) (k' : ConnectionKey)
    (e' : ConnectionEnd) : Prop where
  sides : k'.1 = k.1.other
  opener : e.state = .init ∨ e.state = .open
  answerer : e'.state = .tryOpen ∨ e'.state = .open
  client : e'.counterparty.clientId = e.clientId
  counterpartyClient : e'.clientId = e.counterparty.clientId
  followed : net.follows k.1 e.clientId
  follows : net.follows k'.1 e'.clientId
  ownPrefix : e'.counterparty.storePrefix = net.storePrefix k.1
  otherPrefix : e.counterparty.storePrefix = net.storePrefix k'.1
  delay : e'.delayPeriod = e.delayPeriod
  version : ∃ version, e'.versions = [version] ∧
    (e.state = .init → net.pickVersion k'.1 e.versions = some version) ∧
    (e.state = .open → e.versions = [version])

/-- The peer of an end is on the other side, under the identifier the end names. -/
theorem peer_eq_some {k k' : ConnectionKey} {e : ConnectionEnd} :
    peer k e = some k' ↔ k'.1 = k.1.other ∧ e.counterparty.connectionId = some k'.2 := by
  obtain ⟨s', id'⟩ := k'
  simp only [peer, Option.map_eq_some_iff, Prod.mk.injEq]
  constructor
  · rintro ⟨id, hid, rfl, rfl⟩
    exact ⟨rfl, hid⟩
  · rintro ⟨rfl, hid⟩
    exact ⟨id', hid, rfl, rfl⟩

/-- An end is open in both senses at once. -/
theorem phase_eq_open {e : ConnectionEnd} : phase e = .open ↔ e.state = .open := by
  unfold phase
  cases e.state <;> simp

/-- An end is tried in both senses at once. -/
theorem phase_eq_tryOpen {e : ConnectionEnd} : phase e = .tryOpen ↔ e.state = .tryOpen := by
  unfold phase
  cases e.state <;> simp

/-- An end in state Init is one of the protocol. -/
theorem phase_of_init {e : ConnectionEnd} (h : e.state = .init) : phase e = .init := by
  unfold phase
  rw [h]

/-- **The rules of connections are lawful**: each message copies what it must into the end it
makes. -/
theorem rules_lawful : Lawful net.rules net.Matches where
  match_phase h := by
    refine ⟨fun hp => ?_, fun hp => ?_⟩
    · have hstate := phase_eq_tryOpen.mp hp
      rcases h.opener with ho | ho <;> · rw [hstate] at ho; cases ho
    · rcases h.answerer with ha | ha
      · have hp' := phase_eq_tryOpen.mpr ha
        exact absurd (hp.symm.trans hp') nofun
      · have hp' := phase_eq_open.mpr ha
        exact absurd (hp.symm.trans hp') nofun
  opens h := phase_of_init h.state
  tries := by
    rintro k k' e e' ⟨hinit, hside, version, -, rfl⟩
    have hback : k.1 = k'.1.other := by rw [hside, Side.other_other]
    have hpeer : peer k' (net.answer k e version) = some k := peer_eq_some.mpr ⟨hback, rfl⟩
    exact ⟨phase_of_init hinit, rfl, hpeer⟩
  tries_match := by
    rintro k k' e e' ⟨hinit, hside, version, hpick, rfl⟩ ho
    exact {
      sides := hside
      opener := .inl hinit
      answerer := .inl rfl
      client := rfl
      counterpartyClient := rfl
      followed := ho.client
      follows := hside ▸ ho.counterpartyClient
      ownPrefix := rfl
      otherPrefix := hside ▸ ho.counterpartyPrefix
      delay := rfl
      version := ⟨version, rfl, fun _ => hpick, fun hopen => by rw [hinit] at hopen; cases hopen⟩ }
  acks := by
    rintro k k' e e' e₁ ⟨hinit, htry, hpeer, version, hversion, rfl⟩
    have hside : k'.1 = k.1.other := by rw [(peer_eq_some.mp hpeer).1, Side.other_other]
    have hnames : peer k (takeUp e k'.2 version) = some k' := peer_eq_some.mpr ⟨hside, rfl⟩
    exact ⟨hpeer, phase_of_init hinit, rfl, hnames⟩
  acks_match := by
    rintro k k' e e' e₁ ⟨hinit, htry, hpeer, version, hversion, rfl⟩ hm k₂ e₂ hm₂
    -- both answers have picked the same version
    obtain ⟨v, hv, hpick, -⟩ := hm.version
    obtain ⟨v₂, hv₂, hpick₂, -⟩ := hm₂.version
    have hside : k'.1 = k₂.1 := hm.sides.trans hm₂.sides.symm
    obtain rfl : v = v₂ := by
      have h := hpick hinit
      rw [hside, hpick₂ hinit] at h
      exact Option.some.inj h.symm
    obtain rfl : version = v := List.singleton_inj.mp (hversion.symm.trans hv)
    exact { hm₂ with
      opener := .inr rfl
      version := ⟨version, hv₂, fun h => (nomatch h), fun _ => rfl⟩ }
  confirms := by
    rintro k k' e e' e₁ ⟨hopen, hpeer, htry, hpeer', rfl⟩
    exact ⟨phase_eq_open.mpr hopen, hpeer, phase_eq_tryOpen.mpr htry, hpeer', rfl, hpeer'⟩
  confirms_match := by
    rintro k k' e e' e₁ ⟨hopen, hpeer, htry, hpeer', rfl⟩ k₂ e₂ hm
    exact { hm with answerer := .inr rfl }

/-! ### What the handlers expect of matching ends -/

section

variable {net w clients}

/-- **The message of an opening passes the checks.** -/
theorem InitEnd.passes {k : ConnectionKey} {e : ConnectionEnd} {m : MsgConnectionOpenTry}
    (he : w.ends k = some e) (h : net.InitEnd k e)
    (hprev : m.previousConnectionId = e.counterparty.connectionId)
    (hclient : m.clientId = e.counterparty.clientId) (hstate : m.clientState = clients e.clientId)
    (hcp : m.counterparty = ⟨e.clientId, some k.2, net.storePrefix k.1⟩)
    (hversions : m.counterpartyVersions = e.versions) (hdelay : m.delayPeriod = e.delayPeriod) :
    net.TryChecks w k.1 clients m where
  previous := hprev.trans h.counterpartyId
  client := by rw [hstate, hcp]
  verifies := by
    refine ⟨k.2, by rw [hcp], hclient ▸ h.counterpartyClient, by rw [hcp], ?_⟩
    have hexpected : net.expectedInit k.1 m = e := by
      rw [expectedInit, hcp, hclient, hversions, hdelay, ← h.counterpartyId, ← h.counterpartyPrefix,
        ← h.state]
    rw [hexpected]
    exact he

/-- **The message of an answer passes the checks.** -/
theorem Matches.passes_ack {k k' : ConnectionKey} {e e' : ConnectionEnd} {m : MsgConnectionOpenAck}
    (he : w.ends k = some e) (he' : w.ends k' = some e') (h : net.Matches k e k' e')
    (htry : e'.state = .tryOpen) (hpeer : peer k' e' = some k)
    (hid : m.connectionId = k.2) (hid' : m.counterpartyConnectionId = k'.2)
    (hstate : m.clientState = clients e'.clientId) (hversion : e'.versions.head? = some m.version) :
    net.AckChecks w k'.1 clients m e := by
  obtain ⟨version, hversions, hpick, -⟩ := h.version
  obtain ⟨hside, hcp⟩ := peer_eq_some.mp hpeer
  rw [hversions] at hversion
  obtain rfl : version = m.version := Option.some.inj hversion
  have hexpected : net.expectedTry k'.1 m e = e' := by
    rw [expectedTry, hid, ← hversions, ← h.counterpartyClient, ← h.client, ← hcp, ← hside,
      ← h.ownPrefix, ← h.delay, ← htry]
  refine ⟨?_, fun hinit => net.pickVersion_supports (hpick hinit), ?_, ?_, h.otherPrefix, ?_⟩
  · rw [hid, ← hside]
    exact he
  · rw [hstate, h.counterpartyClient]
  · rw [← hside]
    exact h.followed
  · rw [hexpected, hid']
    exact he'

/-- **The message of an opened end passes the checks.** -/
theorem Matches.passes_confirm {k k' : ConnectionKey} {e e' : ConnectionEnd}
    {m : MsgConnectionOpenConfirm} (he : w.ends k = some e) (he' : w.ends k' = some e')
    (h : net.Matches k e k' e') (hopen : e.state = .open) (hpeer : peer k e = some k')
    (hpeer' : peer k' e' = some k) (hid : m.connectionId = k'.2) :
    net.ConfirmChecks w k.1 m e' := by
  obtain ⟨version, hversions, -, hversion⟩ := h.version
  obtain ⟨hside, hcp⟩ := peer_eq_some.mp hpeer
  have hexpected : net.expectedOpen k.1 m e' = e := by
    rw [expectedOpen, hid, hversions, ← hversion hopen, h.counterpartyClient, h.client, ← hcp,
      ← hside, ← h.otherPrefix, h.delay, ← hopen]
  refine ⟨?_, k.2, (peer_eq_some.mp hpeer').2, ?_, h.ownPrefix, ?_⟩
  · rw [hid, ← hside]
    exact he'
  · rw [← hside]
    exact h.follows
  · rw [hexpected]
    exact he

end

/-! ### The messages of each arm -/

section

variable {net w s clients} {source sink : ChainInfo} {ev : IbcEventWithHeight} {any : Any}
  {proofHeight : Height}

/-- The connection end of an answer is the one that is stored. -/
theorem connectionEndWithProof_stored {arm : String} {height : Height} {id : ConnectionId}
    {response : QueryConnectionResponse} {e : ConnectionEnd} {proof : CommitmentProofBytes}
    (h : (connectionEndWithProof arm (Chain.trait source .source).toIbcProvider height id).Leaf
      (Answers w s clients) (.ok (response, e, proof))) : w.ends (s, id) = some e := by
  obtain ⟨response', hresponse, h⟩ := Prog.leaf_bind_ok.mp h
  obtain ⟨raw, hraw, h⟩ := Prog.leaf_bind_ok.mp h
  obtain ⟨e', he', h⟩ := Prog.leaf_bind_ok.mp h
  obtain ⟨proof', -, h⟩ := Prog.leaf_bind_ok.mp h
  rw [Prog.leaf_pure, Outcome.ok.injEq, Prod.mk.injEq, Prod.mk.injEq] at h
  obtain ⟨rfl, rfl, rfl⟩ := h
  have hanswer : response'.value = (w.ends (s, id)).map .ok :=
    Prog.leaf_ask_ok (S := TraitSig) |>.mp hresponse
  rw [Prog.leaf_okOr_ok] at hraw
  rw [Raw.leaf_tryFrom_ok] at he'
  rw [hraw, he'] at hanswer
  obtain ⟨e, he, heq⟩ := Option.map_eq_some_iff.mp hanswer.symm
  exact Except.ok.inj heq ▸ he

/-- The client state of an answer is the one that is stored. -/
theorem clientStateWithProof_stored {height : Height} {id : ClientId}
    {response : QueryClientStateResponse} {proof : Option CommitmentProofBytes} {cs : ClientState}
    (hresponse : ((Chain.trait source .source).queryClientState height id).Leaf
      (Answers w s clients) (.ok response))
    (h : (clientStateWithProof response : Prog TraitSig Error _).Leaf (Answers w s clients)
      (.ok (proof, cs))) : clients id = some cs := by
  obtain ⟨raw, hraw, h⟩ := Prog.leaf_bind_ok.mp h
  obtain ⟨cs', hcs, h⟩ := Prog.leaf_bind_ok.mp h
  rw [Prog.leaf_pure, Outcome.ok.injEq, Prod.mk.injEq] at h
  obtain ⟨-, rfl⟩ := h
  have hanswer : response.value = (clients id).map .ok :=
    Prog.leaf_ask_ok (S := TraitSig) |>.mp hresponse
  rw [Prog.leaf_okOr_ok] at hraw
  rw [Raw.leaf_tryFrom_ok] at hcs
  rw [hraw, hcs] at hanswer
  obtain ⟨cs, hcs, heq⟩ := Option.map_eq_some_iff.mp hanswer.symm
  exact Except.ok.inj heq ▸ hcs

variable [Crates]

/-- **What an OpenInit event becomes.** -/
theorem openInitConnectionArm_msg {a : ConnectionAttributes} {id : ConnectionId} {e : ConnectionEnd}
    (hid : a.connectionId = some id) (he : w.ends (s, id) = some e)
    (h : (openInitConnectionArm (Chain.trait source .source).toIbcProvider
      (Chain.trait sink .sink).toIbcProvider ev a).Leaf (Answers w s clients)
        (.ok (some (any, proofHeight)))) :
    ∃ m, any.msg = .connectionOpenTry m ∧ m.previousConnectionId = e.counterparty.connectionId ∧
      m.clientId = e.counterparty.clientId ∧ m.clientState = clients a.clientId ∧
      m.counterparty = ⟨a.clientId, some id, source.connectionPrefix⟩ ∧
      m.counterpartyVersions = e.versions ∧ m.delayPeriod = e.delayPeriod := by
  unfold openInitConnectionArm at h
  rw [hid] at h
  obtain ⟨⟨response, e', proof⟩, hend, h⟩ := Prog.leaf_bind_ok.mp h
  obtain rfl : e' = e := Option.some.inj ((connectionEndWithProof_stored hend).symm.trans he)
  obtain ⟨clientResponse, hresponse, h⟩ := Prog.leaf_bind_ok.mp h
  obtain ⟨_, -, h⟩ := Prog.leaf_bind_ok.mp h
  obtain ⟨⟨clientProof, cs⟩, hcs, h⟩ := Prog.leaf_bind_ok.mp h
  obtain ⟨_, -, h⟩ := Prog.leaf_bind_ok.mp h
  obtain ⟨_, -, h⟩ := Prog.leaf_bind_ok.mp h
  exact ⟨_, leaf_toAny_pure h, rfl, rfl, (clientStateWithProof_stored hresponse hcs).symm, rfl, rfl,
    rfl⟩

/-- **What an OpenTry event becomes.** -/
theorem openTryConnectionArm_msg {a : ConnectionAttributes} {id : ConnectionId} {e : ConnectionEnd}
    (hid : a.connectionId = some id) (he : w.ends (s, id) = some e)
    (h : (openTryConnectionArm (Chain.trait source .source).toIbcProvider
      (Chain.trait sink .sink).toIbcProvider ev a).Leaf (Answers w s clients)
        (.ok (some (any, proofHeight)))) :
    ∃ m, any.msg = .connectionOpenAck m ∧ e.counterparty.connectionId = some m.connectionId ∧
      m.counterpartyConnectionId = id ∧ m.clientState = clients a.clientId ∧
      e.versions.head? = some m.version := by
  unfold openTryConnectionArm at h
  rw [hid] at h
  obtain ⟨⟨response, e', proof⟩, hend, h⟩ := Prog.leaf_bind_ok.mp h
  obtain rfl : e' = e := Option.some.inj ((connectionEndWithProof_stored hend).symm.trans he)
  obtain ⟨clientResponse, hresponse, h⟩ := Prog.leaf_bind_ok.mp h
  obtain ⟨_, -, h⟩ := Prog.leaf_bind_ok.mp h
  obtain ⟨⟨clientProof, cs⟩, hcs, h⟩ := Prog.leaf_bind_ok.mp h
  obtain ⟨_, -, h⟩ := Prog.leaf_bind_ok.mp h
  obtain ⟨counterpartyId, hcounterparty, h⟩ := Prog.leaf_bind_ok.mp h
  obtain ⟨_, -, h⟩ := Prog.leaf_bind_ok.mp h
  obtain ⟨version, hversion, h⟩ := Prog.leaf_bind_ok.mp h
  rw [Prog.leaf_okOr_ok] at hcounterparty hversion
  exact ⟨_, leaf_toAny_pure h, hcounterparty, rfl, (clientStateWithProof_stored hresponse hcs).symm,
    hversion⟩

/-- **What an OpenAck event becomes.** -/
theorem openAckConnectionArm_msg {a : ConnectionAttributes} {id : ConnectionId} {e : ConnectionEnd}
    (hid : a.connectionId = some id) (he : w.ends (s, id) = some e)
    (h : (openAckConnectionArm (Chain.trait source .source).toIbcProvider
      (Chain.trait sink .sink).toIbcProvider ev a).Leaf (Answers w s clients)
        (.ok (some (any, proofHeight)))) :
    ∃ m, any.msg = .connectionOpenConfirm m ∧ e.counterparty.connectionId = some m.connectionId := by
  unfold openAckConnectionArm at h
  rw [hid] at h
  obtain ⟨⟨response, e', proof⟩, hend, h⟩ := Prog.leaf_bind_ok.mp h
  obtain rfl : e' = e := Option.some.inj ((connectionEndWithProof_stored hend).symm.trans he)
  obtain ⟨_, -, h⟩ := Prog.leaf_bind_ok.mp h
  obtain ⟨counterpartyId, hcounterparty, h⟩ := Prog.leaf_bind_ok.mp h
  rw [Prog.leaf_okOr_ok] at hcounterparty
  exact ⟨_, leaf_toAny_pure h, hcounterparty⟩

/-- **What the relayer derives**, in terms of the end that announced the event. -/
theorem Derives.msg {a : Announcement ConnectionKey} {m : Msg} (h : net.Derives w clients a m) :
    ∃ e, w.ends a.key = some e ∧ match a with
      | .init k => ∃ m', m = .connectionOpenTry m' ∧
          m'.previousConnectionId = e.counterparty.connectionId ∧
          m'.clientId = e.counterparty.clientId ∧ m'.clientState = clients e.clientId ∧
          m'.counterparty = ⟨e.clientId, some k.2, net.storePrefix k.1⟩ ∧
          m'.counterpartyVersions = e.versions ∧ m'.delayPeriod = e.delayPeriod
      | .tried k => ∃ m', m = .connectionOpenAck m' ∧
          e.counterparty.connectionId = some m'.connectionId ∧
          m'.counterpartyConnectionId = k.2 ∧ m'.clientState = clients e.clientId ∧
          e.versions.head? = some m'.version
      | .acked _ => ∃ m', m = .connectionOpenConfirm m' ∧
          e.counterparty.connectionId = some m'.connectionId := by
  obtain ⟨e, ev, any, proofHeight, he, hev, h, rfl⟩ := h
  refine ⟨e, he, ?_⟩
  unfold Announces at hev
  split at hev
  · next k attributes hevent _ =>
      rw [parseEvent, hevent] at h
      obtain ⟨m, hm, hprev, hclient, hstate, hcp, hrest⟩ := openInitConnectionArm_msg hev.1 he h
      exact ⟨m, hm, hprev, hclient, hev.2 ▸ hstate, hev.2 ▸ hcp, hrest⟩
  · next k attributes hevent _ =>
      rw [parseEvent, hevent] at h
      obtain ⟨m, hm, hcp, hid, hstate, hversion⟩ := openTryConnectionArm_msg hev.1 he h
      exact ⟨m, hm, hcp, hid, hev.2 ▸ hstate, hversion⟩
  · next k attributes hevent _ =>
      rw [parseEvent, hevent] at h
      exact openAckConnectionArm_msg hev.1 he h
  · exact hev.elim

/-! ### Runs -/

/-- **A step of the chains is a step of the handshake.** -/
theorem Step.refines {w w' : Connections} (hinv : Inv net.rules net.Matches w)
    (h : net.Step w w') : Handshake.Step net.rules w w' := by
  cases h with
  | openInit fresh init => exact .opened fresh init
  | @relay w₁ a clients m told derives accepts =>
      obtain ⟨e, he, hmsg⟩ := derives.msg
      cases a with
      | init k =>
          obtain ⟨s, id⟩ := k
          obtain ⟨m', rfl, -, hclient, -, hcp, hversions, hdelay⟩ := hmsg
          cases accepts with
          | @openTry _ version id' checks picked fresh =>
              obtain ⟨id₀, hid₀, hverifies⟩ := checks.verifies
              rw [hcp] at hid₀
              obtain rfl : id = id₀ := Option.some.inj hid₀
              have hstored : e = net.expectedInit s m' :=
                Option.some.inj (he.symm.trans hverifies.stored)
              have hnew : net.answer (s, id) e version =
                  { state := .tryOpen, clientId := m'.clientId, counterparty := m'.counterparty,
                    versions := [version], delayPeriod := m'.delayPeriod } := by
                rw [answer, ← hclient, hcp, hdelay]
              rw [← hnew]
              exact .tried told he ⟨by rw [hstored]; rfl, rfl, version, hversions ▸ picked, rfl⟩ fresh
      | tried k =>
          obtain ⟨s, id⟩ := k
          obtain ⟨m', rfl, hcp, hid, -, hversion⟩ := hmsg
          cases accepts with
          | @openAck _ conn checks state =>
              have hstored := checks.verifies.stored
              rw [hid] at hstored
              have hend : e = net.expectedTry s m' conn := Option.some.inj (he.symm.trans hstored)
              have hnew : takeUp conn id m'.version =
                  { conn with
                    state := .open
                    counterparty := { conn.counterparty with
                      connectionId := some m'.counterpartyConnectionId }
                    versions := [m'.version] } := by
                rw [takeUp, hid]
              rw [← hnew]
              refine .acked told he checks.stored ⟨state, by rw [hend]; rfl, ?_, m'.version,
                by rw [hend]; rfl, rfl⟩
              exact peer_eq_some.mpr ⟨rfl, hcp⟩
      | acked k =>
          obtain ⟨s, id⟩ := k
          obtain ⟨m', rfl, hcp⟩ := hmsg
          cases accepts with
          | @openConfirm _ conn checks state =>
              obtain ⟨k', e₀, e', -, ⟨he₀, he', hpeer', -⟩, hopen, hpeer⟩ := hinv.acked_end told
              obtain rfl : e₀ = e := Option.some.inj (he₀.symm.trans he)
              -- the end that is to follow is the one that the opened end names
              obtain rfl : k' = (s.other, m'.connectionId) :=
                Option.some.inj (hpeer.symm.trans (peer_eq_some.mpr ⟨rfl, hcp⟩))
              obtain rfl : e' = conn := Option.some.inj (he'.symm.trans checks.stored)
              exact .confirmed told he checks.stored
                ⟨phase_eq_open.mp hopen, hpeer, state, hpeer', rfl⟩

/-- **A run of the relayer is a run of the protocol.** -/
theorem Reachable.refines {w : Connections} (h : net.Reachable w) :
    Handshake.Reachable net.rules w := by
  induction h with
  | start => exact .start
  | step _ hstep ih => exact ih.step (hstep.refines (ih.inv net.rules_lawful))

/-- The invariant of the protocol holds in every run of the relayer. -/
theorem Reachable.inv {w : Connections} (h : net.Reachable w) : Inv net.rules net.Matches w :=
  h.refines.inv net.rules_lawful

/-- **Every derived message of a step that still stands passes the checks.** -/
theorem Reachable.passes {w : Connections} {a : Announcement ConnectionKey} {clients : Clients}
    {m : Msg} (h : net.Reachable w) (told : a ∈ w.log) (hstill : StillAnnounced w a)
    (derives : net.Derives w clients a m) : net.Passes w a.key.1 clients m := by
  have hinv := h.inv
  obtain ⟨e, he, hmsg⟩ := derives.msg
  cases a with
  | init k =>
      obtain ⟨m', rfl, hprev, hclient, hstate, hcp, hversions, hdelay⟩ := hmsg
      obtain ⟨e₀, he₀, hend⟩ := hinv.init_end told
      obtain rfl : e₀ = e := Option.some.inj (he₀.symm.trans he)
      obtain ⟨e₁, he₁, hinit⟩ := hstill
      obtain rfl : e₁ = e₀ := Option.some.inj (he₁.symm.trans he)
      have hopens : net.InitEnd k e₁ := by
        refine hend.resolve_right fun ⟨hopen, _⟩ => ?_
        exact absurd (hinit.symm.trans (phase_eq_open.mp hopen)) nofun
      exact hopens.passes he hprev hclient hstate hcp hversions hdelay
  | tried k' =>
      obtain ⟨m', rfl, hcp, hid, hstate, hversion⟩ := hmsg
      obtain ⟨k, e₀, e', -, ⟨he₀, he', hpeer, hm⟩, -⟩ := hinv.tried_end told
      obtain rfl : e' = e := Option.some.inj (he'.symm.trans he)
      obtain ⟨e₁, he₁, htry⟩ := hstill
      obtain rfl : e₁ = e' := Option.some.inj (he₁.symm.trans he)
      have hname : m'.connectionId = k.2 :=
        Option.some.inj (hcp.symm.trans (peer_eq_some.mp hpeer).2)
      exact ⟨e₀, hm.passes_ack he₀ he htry hpeer hname hid hstate hversion⟩
  | acked k =>
      obtain ⟨m', rfl, hcp⟩ := hmsg
      obtain ⟨k', e₀, e', -, ⟨he₀, he', hpeer', hm⟩, hopen, hpeer⟩ := hinv.acked_end told
      obtain rfl : e₀ = e := Option.some.inj (he₀.symm.trans he)
      have hname : m'.connectionId = k'.2 :=
        Option.some.inj (hcp.symm.trans (peer_eq_some.mp hpeer).2)
      exact ⟨e', hm.passes_confirm he he' (phase_eq_open.mp hopen) hpeer hpeer' hname⟩

/-- Two ends that name each other: by connection, client and prefix, with one version and one
delay. -/
structure NameEachOther (net : ConnectionNet) (k : ConnectionKey) (e : ConnectionEnd)
    (k' : ConnectionKey) (e' : ConnectionEnd) : Prop where
  first : e.counterparty = ⟨e'.clientId, some k'.2, net.storePrefix k'.1⟩
  second : e'.counterparty = ⟨e.clientId, some k.2, net.storePrefix k.1⟩
  versions : e.versions = e'.versions
  delay : e.delayPeriod = e'.delayPeriod

omit [Crates] in
/-- Matching ends of which the first is open name each other. -/
theorem Matches.nameEachOther {k k' : ConnectionKey} {e e' : ConnectionEnd}
    (h : net.Matches k e k' e') (hopen : e.state = .open) (hpeer : peer k e = some k')
    (hpeer' : peer k' e' = some k) : net.NameEachOther k e k' e' where
  first := by rw [← (peer_eq_some.mp hpeer).2, h.counterpartyClient, ← h.otherPrefix]
  second := by rw [← (peer_eq_some.mp hpeer').2, ← h.client, ← h.ownPrefix]
  versions := by
    obtain ⟨version, hversions, -, hversion⟩ := h.version
    rw [hversion hopen, hversions]
  delay := h.delay.symm

omit [Crates] in
/-- Two ends name each other both ways. -/
theorem NameEachOther.symm {k k' : ConnectionKey} {e e' : ConnectionEnd}
    (h : net.NameEachOther k e k' e') : net.NameEachOther k' e' k e :=
  ⟨h.second, h.first, h.versions.symm, h.delay.symm⟩

/-- **Open ends name each other**, and the client of an open end follows the other chain. -/
theorem Reachable.open_end {w : Connections} (h : net.Reachable w) {k : ConnectionKey}
    {e : ConnectionEnd} (he : w.ends k = some e) (hopen : e.state = .open) :
    net.follows k.1 e.clientId ∧ ∃ k' e', k'.1 = k.1.other ∧ w.ends k' = some e' ∧
      net.NameEachOther k e k' e' := by
  obtain ⟨k', e', hpeer, he', hpeer', hm⟩ :=
    h.inv.mutual net.rules_lawful he (phase_eq_open.mpr hopen)
  have hside := (peer_eq_some.mp hpeer).1
  rcases hm with hm | ⟨hopen', hm⟩
  · exact ⟨hm.followed, k', e', hside, he', hm.nameEachOther hopen hpeer hpeer'⟩
  · exact ⟨hm.follows, k', e', hside, he',
      (hm.nameEachOther (phase_eq_open.mp hopen') hpeer' hpeer).symm⟩

end

end ConnectionNet

/-- **The connection handshake.**  In every state that two chains and the relayer can reach,
each message derived from an event whose end is still in the announced state passes
the identifier checks of the other chain, and every open end names an end of the other
chain that names it. -/
theorem connectionHandshake [Crates] (net : ConnectionNet) (w : Connections)
    (h : net.Reachable w) :
    (∀ a clients m, a ∈ w.log → ConnectionNet.StillAnnounced w a → net.Derives w clients a m →
      net.Passes w a.key.1 clients m) ∧
    ∀ k e, w.ends k = some e → e.state = .open → ∃ k' e', k'.1 = k.1.other ∧
      w.ends k' = some e' ∧ net.NameEachOther k e k' e' := by
  exact ⟨fun a clients m told hstill derives => h.passes told hstill derives,
    fun k e he hopen => (h.open_end he hopen).2⟩

/-! ### A handshake between chains that number differently -/

namespace ConnectionNet

/-- The answers of a chain that proves what it stores. -/
def answers (w : Connections) (clients : Clients) (s : Side) :
    (o : TraitSig.Op) → Except Error (TraitSig.Res o)
  | (.source, .queryConnectionEnd _ id) => .ok (proven ((w.ends (s, id)).map .ok))
  | (.source, .queryClientState _ id) => .ok (proven ((clients id).map .ok))
  | (.source, .queryClientConsensus _ _ _) => .ok (proven none)
  | _ => .error (.external "unavailable")

/-- A message that is computed is one that is derived. -/
theorem derives_of_eval [Crates] {net : ConnectionNet} {w : Connections} {clients : Clients}
    {a : Announcement ConnectionKey} {e : ConnectionEnd} (ev : IbcEventWithHeight) {any : Any}
    {proofHeight : Height} (he : w.ends a.key = some e) (hev : Announces e a ev.event)
    (heval : (parseEvent (Chain.trait (net.chain a.key.1) .source).toIbcProvider
      (Chain.trait (net.chain a.key.1.other) .sink).toIbcProvider ev).eval
        (answers w clients a.key.1) = .ok (some (any, proofHeight))) :
    net.Derives w clients a any.msg := by
  refine ⟨e, ev, any, proofHeight, he, hev, ?_, rfl⟩
  rw [← heval]
  refine Prog.leaf_eval (fun o => ?_) _
  obtain ⟨role, op⟩ := o
  cases role <;> cases op <;> first | rfl | trivial

/-- Two chains with different prefixes, one client on each, and one version. -/
def crossedNet : ConnectionNet where
  chain
    | .a => chainInfo "a"
    | .b => { chainInfo "b" with connectionPrefix := ⟨utf8 "store", by decide⟩ }
  follows
    | .a, id => id = ⟨"07-tendermint-4", by decide⟩
    | .b, id => id = ⟨"07-tendermint-9", by decide⟩
  pickVersion _ versions := versions.head?
  supports versions version := version ∈ versions
  pickVersion_supports h := List.mem_of_mem_head? h

def crossedKeyA : ConnectionKey := (.a, ⟨"connection-3", by decide⟩)

def crossedKeyB : ConnectionKey := (.b, ⟨"connection-7", by decide⟩)

def version1 : ConnVersion := ⟨"1", ["ORDER_ORDERED", "ORDER_UNORDERED"]⟩

/-- The end that is opened on the first chain. -/
def openingEnd : ConnectionEnd where
  state := .init
  clientId := ⟨"07-tendermint-4", by decide⟩
  counterparty := ⟨⟨"07-tendermint-9", by decide⟩, none, ⟨utf8 "store", by decide⟩⟩
  versions := [version1]
  delayPeriod := 5

/-- The end that answers it. -/
def answeringEnd : ConnectionEnd := crossedNet.answer crossedKeyA openingEnd version1

/-- The end that has taken up the answer. -/
def openedEnd : ConnectionEnd := takeUp openingEnd crossedKeyB.2 version1

def afterInit : Connections := State.start.put crossedKeyA openingEnd [.init crossedKeyA]

def afterTry : Connections :=
  (afterInit.put crossedKeyB answeringEnd [.tried crossedKeyB]).relay (.init crossedKeyA)

def afterAck : Connections :=
  (afterTry.put crossedKeyA openedEnd [.acked crossedKeyA]).relay (.tried crossedKeyB)

def afterConfirm : Connections :=
  (afterAck.put crossedKeyB { answeringEnd with state := .open } []).relay (.acked crossedKeyA)

def attributesOf (k : ConnectionKey) (e : ConnectionEnd) : ConnectionAttributes :=
  ⟨some k.2, e.clientId, e.counterparty.connectionId, e.counterparty.clientId⟩

/-- The opened connection of the example is reachable. -/
theorem afterConfirm_reachable : @Reachable crossedNet Crates.reference afterConfirm := by
  let _ := Crates.reference
  let clients : Clients := fun _ => some ⟨height0 1⟩
  have h₁ : crossedNet.Reachable afterInit :=
    .step .start (.openInit rfl ⟨rfl, rfl, rfl, rfl, rfl⟩)
  have d₁ : crossedNet.Derives afterInit clients (.init crossedKeyA) _ := derives_of_eval
    (inBlock (.openInitConnection (attributesOf crossedKeyA openingEnd))) rfl ⟨rfl, rfl⟩ rfl
  have h₂ : crossedNet.Reachable afterTry := h₁.step (.relay (List.mem_cons_self ..) d₁
    (.openTry ⟨rfl, rfl, _, rfl, rfl, rfl, rfl⟩ rfl rfl))
  have d₂ : crossedNet.Derives afterTry clients (.tried crossedKeyB) _ := derives_of_eval
    (inBlock (.openTryConnection (attributesOf crossedKeyB answeringEnd))) rfl ⟨rfl, rfl⟩ rfl
  have h₃ : crossedNet.Reachable afterAck := h₂.step (.relay (List.mem_cons_self ..) d₂
    (.openAck ⟨rfl, fun _ => List.mem_cons_self .., rfl, rfl, rfl, rfl⟩ rfl))
  have d₃ : crossedNet.Derives afterAck clients (.acked crossedKeyA) _ := derives_of_eval
    (inBlock (.openAckConnection (attributesOf crossedKeyA openedEnd))) rfl ⟨rfl, rfl⟩ rfl
  exact h₃.step (.relay (List.mem_cons_self ..) d₃
    (.openConfirm ⟨rfl, _, rfl, rfl, rfl, rfl⟩ rfl))

end ConnectionNet

/-- The hypothesis of `connectionHandshake` holds after a handshake between chains that
number their connections differently. -/
theorem connectionHandshake_crossed :
    ∃ k' e', k'.1 = Side.b ∧ ConnectionNet.afterConfirm.ends k' = some e' ∧
      ConnectionNet.crossedNet.NameEachOther ConnectionNet.crossedKeyA ConnectionNet.openedEnd k' e' :=
  (@connectionHandshake Crates.reference ConnectionNet.crossedNet ConnectionNet.afterConfirm
    ConnectionNet.afterConfirm_reachable).2 ConnectionNet.crossedKeyA ConnectionNet.openedEnd rfl rfl

end HyperspaceLight
