/-
# What the setup leaves to the relayer

`src/testsuite/setup.rs`.  `setup_clients` takes the clients that are there, or creates
them; `setup_connection_and_channel` takes the first open transfer channel over a
connection with the wanted delay, or opens a connection and a channel.

What is taken depends on what the chains answer, and on which of it comes first
(`setupConnectionAndChannel_iff`).  A channel that is taken is never compared with
`chain_b`: the one question about it, for the connections of its client, is the
chain's to answer.  The ids that `setup_clients` finds and those that it creates are not of
the same kind (`setupClients_iff`): it finds the clients that a chain hosts, and creates
those that a chain has on the other one.
-/

import HyperspaceLight.Testsuite.Create

namespace HyperspaceLight

open Interaction

variable {S : Sig}

/-! ### The two functions -/

/-- An open transfer channel: its two ends, and the connection on the side of `chain_a`. -/
structure OpenChannel where
  channelA : ChannelId
  channelB : ChannelId
  connection : ConnectionId

/-- One round of the loop over the channels of a connection. -/
def tryChannel [Crates] (chainA : SetupChain S) (latestHeight : Height) (channel : IdentifiedChannel) :
    Prog S Error (Option OpenChannel) := do
  let channelId ← .expect errText (Ident.parse .channel channel.channelId)
  -- asked on the transfer port, whatever port the channel is on
  let response ← (chainA.queryChannelEnd latestHeight channelId transferPort).unwrap errText
  let raw ← .expect noneText response.value
  let channelEnd ← raw.tryFrom.unwrap errText
  if channelEnd.state = .open ∧ channel.portId = transferPort.text then do
    let channelB ← .expect noneText channelEnd.counterparty.channelId
    let connection ← .expect "index out of bounds" channelEnd.connectionHops.head?
    return some ⟨channelId, channelB, connection⟩
  else return none

/-- One round of the loop over the connections. -/
def tryConnection [Crates] (chainA : SetupChain S) (latestHeight : Height) (connectionDelay : Duration)
    (connection : String) : Prog S Error (Option OpenChannel) := do
  let connectionId ← .expect errText (Ident.parse .connection connection)
  let response ← (chainA.queryConnectionEnd latestHeight connectionId).unwrap errText
  let connectionEnd ← .expect noneText response
  if connectionEnd.delayPeriod ≠ connectionDelay then return none
  else do
    let channels ← (chainA.queryConnectionChannels latestHeight connectionId).unwrap errText
    channels.findSomeM? (tryChannel chainA latestHeight)

section Flow

variable [SetupCrates]

/-- A new connection, and a new channel over it. -/
def createConnectionAndChannel (chainA chainB : SetupChain S) (connectionDelay : Duration) :
    Prog S Error OpenChannel := do
  let (connection, _) ← (createConnection chainA chainB connectionDelay).unwrap errText
  let (channelA, channelB) ←
    (createChannel chainA chainB connection transferPort "ics20-1" .unordered).unwrap errText
  return ⟨channelA, channelB, connection⟩

/-- `setup_connection_and_channel`, beside the relayer that it starts. -/
def setupConnectionAndChannel [Crates] (chainA chainB : SetupChain S) (connectionDelay : Duration) :
    Prog S Error OpenChannel := do
  let (latestHeight, _) ← chainA.latestHeightAndTimestamp.unwrap errText
  let connections ← (chainA.queryConnectionUsingClient
    (latestHeight.revisionHeight % 2 ^ 32) chainB.clientId.text).unwrap errText
  match ← connections.findSomeM? (tryConnection chainA latestHeight connectionDelay) with
  | some found => return found
  | none => createConnectionAndChannel chainA chainB connectionDelay

def isNewBlock : IbcEvent → Bool
  | .newBlock _ => true
  | _ => false

/-- The wait for the first block of a chain. -/
def awaitBlock (chain : SetupChain S) : Prog S Error IbcEventWithHeight := do
  let delivered ← chain.ibcEvents none
  .expect "index out of bounds" (firstEvent isNewBlock delivered.events).head?

/-- The clients that are there, or new ones. -/
def takeOrCreateClients (chainA chainB : SetupChain S) (clientsOnA clientsOnB : List ClientId) :
    Prog S Error (ClientId × ClientId) :=
  match clientsOnA, clientsOnB with
  | clientA :: _, clientB :: _ => return (clientA, clientB)
  | _, _ => (createClients chainA chainB).unwrap errText

/-- `setup_clients`, once both chains are connected: the ids that are set on them. -/
def setupClients (chainA chainB : SetupChain S) : Prog S Error (ClientId × ClientId) := do
  let _ ← awaitBlock chainA
  let _ ← awaitBlock chainB
  let _ ← chainA.latestHeightAndTimestamp.unwrap errText
  let _ ← chainB.latestHeightAndTimestamp.unwrap errText
  let clientsOnA ← chainA.queryClients.unwrap errText
  let clientsOnB ← chainB.queryClients.unwrap errText
  takeOrCreateClients chainA chainB clientsOnA clientsOnB

end Flow

/-! ### What is taken -/

section Taken

variable [Crates] (A : (o : S.Op) → Except Error (S.Res o) → Prop) (chainA chainB : SetupChain S)
  (h : Height) (delay : Duration)

/-- The channel is answered with an end, as a channel on the transfer port. -/
def EndAnswered (channel : IdentifiedChannel) (c : ChannelId) (e : ChannelEnd) : Prop :=
  Ident.parse .channel channel.channelId = some c ∧
    ∃ r, (chainA.queryChannelEnd h c transferPort).Leaf A (.ok r) ∧ r.value = some (.ok e)

/-- An open end of a transfer channel. -/
def IsOpenTransfer (channel : IdentifiedChannel) (e : ChannelEnd) : Prop :=
  e.state = .open ∧ channel.portId = transferPort.text

/-- The setup passes over the channel. -/
def ChannelPassed (channel : IdentifiedChannel) : Prop :=
  ∃ c e, EndAnswered A chainA h channel c e ∧ ¬IsOpenTransfer channel e

/-- The setup takes the channel: it is open, and its end says what it is connected to. -/
def ChannelTaken (channel : IdentifiedChannel) (found : OpenChannel) : Prop :=
  ∃ e, EndAnswered A chainA h channel found.channelA e ∧ IsOpenTransfer channel e ∧
    e.counterparty.channelId = some found.channelB ∧
    e.connectionHops.head? = some found.connection

/-- The connection is answered with its delay. -/
def DelayAnswered (connection : String) (c : ConnectionId) (d : Duration) : Prop :=
  Ident.parse .connection connection = some c ∧
    ∃ e, (chainA.queryConnectionEnd h c).Leaf A (.ok (some e)) ∧ e.delayPeriod = d

/-- The setup passes over the connection: it has another delay, or no channel is taken. -/
def ConnectionPassed (connection : String) : Prop :=
  ∃ c d, DelayAnswered A chainA h connection c d ∧ (d = delay →
    ∃ channels, (chainA.queryConnectionChannels h c).Leaf A (.ok channels) ∧
      ∀ channel ∈ channels, ChannelPassed A chainA h channel)

/-- The setup takes the first channel of the connection that it does not pass over. -/
def ConnectionTaken (connection : String) (found : OpenChannel) : Prop :=
  ∃ c, DelayAnswered A chainA h connection c delay ∧
    ∃ channels, (chainA.queryConnectionChannels h c).Leaf A (.ok channels) ∧
      ∃ seen channel rest, channels = seen ++ channel :: rest ∧
        (∀ channel' ∈ seen, ChannelPassed A chainA h channel') ∧
        ChannelTaken A chainA h channel found

end Taken

section Loops

variable [Crates] {A : (o : S.Op) → Except Error (S.Res o) → Prop} {chainA : SetupChain S}
  {h : Height} {delay : Duration}

/-- One channel: its end is asked for, and taken if it is an open transfer channel. -/
theorem tryChannel_leaf {channel : IdentifiedChannel} {result : Option OpenChannel} :
    (tryChannel chainA h channel).Leaf A (.ok result) ↔
      ∃ c e, EndAnswered A chainA h channel c e ∧
        (¬IsOpenTransfer channel e ∧ result = none ∨
          IsOpenTransfer channel e ∧ ∃ channelB connection,
            e.counterparty.channelId = some channelB ∧
            e.connectionHops.head? = some connection ∧
            result = some ⟨c, channelB, connection⟩) := by
  simp only [tryChannel, EndAnswered, Prog.leaf_bind_ok, Prog.leaf_expect_ok,
    Prog.leaf_unwrap_ok, Raw.leaf_tryFrom_ok]
  constructor
  · rintro ⟨c, hc, response, hresponse, _, hvalue, e, rfl, hr⟩
    refine ⟨c, e, ⟨hc, response, hresponse, hvalue⟩, ?_⟩
    by_cases htaken : e.state = .open ∧ channel.portId = transferPort.text
    · rw [if_pos htaken] at hr
      simp only [Prog.leaf_bind_ok, Prog.leaf_expect_ok, Prog.leaf_pure, Outcome.ok.injEq] at hr
      obtain ⟨channelB, hB, connection, hconn, hr⟩ := hr
      exact .inr ⟨htaken, channelB, connection, hB, hconn, hr.symm⟩
    · rw [if_neg htaken] at hr
      exact .inl ⟨htaken, (Outcome.ok.inj hr).symm⟩
  · rintro ⟨c, e, ⟨hc, response, hresponse, hvalue⟩, hr⟩
    refine ⟨c, hc, response, hresponse, _, hvalue, e, rfl, ?_⟩
    obtain ⟨hpassed, rfl⟩ | ⟨htaken, channelB, connection, hB, hconn, rfl⟩ := hr
    · have hif : ¬(e.state = .open ∧ channel.portId = transferPort.text) := hpassed
      rw [if_neg hif]
      rfl
    · have hif : e.state = .open ∧ channel.portId = transferPort.text := htaken
      rw [if_pos hif]
      simp only [Prog.leaf_bind_ok, Prog.leaf_expect_ok]
      exact ⟨channelB, hB, connection, hconn, rfl⟩

/-- A channel is passed over where nothing is found. -/
theorem tryChannel_none {channel : IdentifiedChannel} :
    (tryChannel chainA h channel).Leaf A (.ok none) ↔ ChannelPassed A chainA h channel := by
  simp [tryChannel_leaf, ChannelPassed]

/-- A channel is taken where the search finds one. -/
theorem tryChannel_some {channel : IdentifiedChannel} {found : OpenChannel} :
    (tryChannel chainA h channel).Leaf A (.ok (some found)) ↔
      ChannelTaken A chainA h channel found := by
  rw [tryChannel_leaf]
  constructor
  · rintro ⟨c, e, hend, ⟨-, hr⟩ | ⟨htaken, channelB, connection, hB, hconn, hr⟩⟩
    · cases hr
    · obtain rfl := Option.some.inj hr
      exact ⟨e, hend, htaken, hB, hconn⟩
  · rintro ⟨e, hend, htaken, hB, hconn⟩
    exact ⟨_, e, hend, .inr ⟨htaken, _, _, hB, hconn, rfl⟩⟩

/-- One connection: its channels are looked through if it has the delay. -/
theorem tryConnection_leaf {connection : String} {result : Option OpenChannel} :
    (tryConnection chainA h delay connection).Leaf A (.ok result) ↔
      ∃ c d, DelayAnswered A chainA h connection c d ∧
        (d ≠ delay ∧ result = none ∨ d = delay ∧ ∃ channels,
          (chainA.queryConnectionChannels h c).Leaf A (.ok channels) ∧
          (channels.findSomeM? (tryChannel chainA h)).Leaf A (.ok result)) := by
  simp only [tryConnection, DelayAnswered, Prog.leaf_bind_ok, Prog.leaf_expect_ok,
    Prog.leaf_unwrap_ok]
  constructor
  · rintro ⟨c, hc, _, hanswer, e, rfl, hr⟩
    refine ⟨c, e.delayPeriod, ⟨hc, e, hanswer, rfl⟩, ?_⟩
    by_cases hdelay : e.delayPeriod = delay
    · rw [if_neg (not_not.mpr hdelay)] at hr
      simp only [Prog.leaf_bind_ok, Prog.leaf_unwrap_ok] at hr
      exact .inr ⟨hdelay, hr⟩
    · rw [if_pos hdelay] at hr
      exact .inl ⟨hdelay, (Outcome.ok.inj hr).symm⟩
  · rintro ⟨c, d, ⟨hc, e, hanswer, rfl⟩, hr⟩
    refine ⟨c, hc, some e, hanswer, e, rfl, ?_⟩
    obtain ⟨hdelay, rfl⟩ | ⟨hdelay, hr⟩ := hr
    · rw [if_pos hdelay]
      rfl
    · rw [if_neg (not_not.mpr hdelay)]
      simpa only [Prog.leaf_bind_ok, Prog.leaf_unwrap_ok] using hr

/-- A connection is passed over where nothing is found. -/
theorem tryConnection_none {connection : String} :
    (tryConnection chainA h delay connection).Leaf A (.ok none) ↔
      ConnectionPassed A chainA h delay connection := by
  rw [tryConnection_leaf, ConnectionPassed]
  refine exists_congr fun c => exists_congr fun d => and_congr_right fun _ => ?_
  simp only [Prog.leaf_findSomeM?_none, tryChannel_none, and_true]
  constructor
  · rintro (hne | ⟨-, hr⟩) heq
    · exact absurd heq hne
    · exact hr
  · intro hr
    by_cases heq : d = delay
    · exact .inr ⟨heq, hr heq⟩
    · exact .inl heq

/-- A connection is taken where the search finds one. -/
theorem tryConnection_some {connection : String} {found : OpenChannel} :
    (tryConnection chainA h delay connection).Leaf A (.ok (some found)) ↔
      ConnectionTaken A chainA h delay connection found := by
  rw [tryConnection_leaf, ConnectionTaken]
  refine exists_congr fun c => ?_
  simp only [Prog.leaf_findSomeM?_some, tryChannel_none, tryChannel_some]
  constructor
  · rintro ⟨d, hd, ⟨-, hr⟩ | ⟨rfl, hr⟩⟩
    · cases hr
    · exact ⟨hd, hr⟩
  · rintro ⟨hd, hr⟩
    exact ⟨delay, hd, .inr ⟨rfl, hr⟩⟩

end Loops

section Setup

variable [SetupCrates] (A : (o : S.Op) → Except Error (S.Res o) → Prop)
  (chainA chainB : SetupChain S) (delay : Duration)

/-- A connection and a channel over it were opened on `chainA`, and the first ones that
`chainB` confirmed are these. -/
def ChannelOpened (found : OpenChannel) : Prop :=
  (∃ txId, Submitted A chainA (connectionOpenInit chainA chainB delay) txId) ∧
    (∃ connectionB, FirstConfirmed A chainB confirmedConnection found.connection connectionB) ∧
    (∃ txId, Submitted A chainA (channelOpenInit chainA found.connection transferPort "ics20-1"
      .unordered) txId) ∧
    FirstConfirmed A chainB confirmedChannel found.channelA found.channelB

/-- **A connection and a channel**: both are created, one after the other. -/
theorem createConnectionAndChannel_ok {found : OpenChannel} :
    (createConnectionAndChannel chainA chainB delay).Leaf A (.ok found) ↔
      ChannelOpened A chainA chainB delay found := by
  obtain ⟨channelA, channelB, connection⟩ := found
  simp only [createConnectionAndChannel, createConnection, createChannel, ChannelOpened,
    Prog.leaf_bind_ok, Prog.leaf_unwrap_ok, Prod.exists, openAndConfirm_ok, Prog.leaf_pure]
  constructor
  · rintro ⟨_, connectionB, ⟨htx, hconfirmed⟩, _, _, ⟨htx', hconfirmed'⟩, hfound⟩
    obtain ⟨rfl, rfl, rfl⟩ := OpenChannel.mk.inj (Outcome.ok.inj hfound)
    exact ⟨htx, ⟨connectionB, hconfirmed⟩, htx', hconfirmed'⟩
  · rintro ⟨htx, ⟨connectionB, hconfirmed⟩, htx', hconfirmed'⟩
    exact ⟨connection, connectionB, ⟨htx, hconfirmed⟩, channelA, channelB, ⟨htx', hconfirmed'⟩, rfl⟩

/-- **What the setup of a channel returns**: the first open transfer channel of the first
connection with the delay that has one, as `chain_a` answers; and only if every connection is
passed over, a channel that was opened for it. -/
theorem setupConnectionAndChannel_iff [Crates] (found : OpenChannel) :
    (setupConnectionAndChannel chainA chainB delay).Leaf A (.ok found) ↔
      ∃ tip connections, chainA.latestHeightAndTimestamp.Leaf A (.ok tip) ∧
        (chainA.queryConnectionUsingClient (tip.1.revisionHeight % 2 ^ 32)
          chainB.clientId.text).Leaf A (.ok connections) ∧
        ((∃ seen connection rest, connections = seen ++ connection :: rest ∧
            (∀ c ∈ seen, ConnectionPassed A chainA tip.1 delay c) ∧
            ConnectionTaken A chainA tip.1 delay connection found) ∨
          (∀ c ∈ connections, ConnectionPassed A chainA tip.1 delay c) ∧
            ChannelOpened A chainA chainB delay found) := by
  simp only [setupConnectionAndChannel, Prog.leaf_bind_ok, Prog.leaf_unwrap_ok]
  constructor
  · rintro ⟨tip, htip, connections, hconnections, result, hsearch, hr⟩
    refine ⟨tip, connections, htip, hconnections, ?_⟩
    cases result with
    | some first =>
        obtain rfl := Outcome.ok.inj hr
        simp only [Prog.leaf_findSomeM?_some, tryConnection_none, tryConnection_some] at hsearch
        exact .inl hsearch
    | none =>
        simp only [Prog.leaf_findSomeM?_none, tryConnection_none] at hsearch
        exact .inr ⟨hsearch, (createConnectionAndChannel_ok A chainA chainB delay).mp hr⟩
  · rintro ⟨tip, connections, htip, hconnections, htaken | ⟨hpassed, hopened⟩⟩
    · refine ⟨tip, htip, connections, hconnections, some found, ?_, rfl⟩
      simpa only [Prog.leaf_findSomeM?_some, tryConnection_none, tryConnection_some] using htaken
    · refine ⟨tip, htip, connections, hconnections, none, ?_,
        (createConnectionAndChannel_ok A chainA chainB delay).mpr hopened⟩
      simpa only [Prog.leaf_findSomeM?_none, tryConnection_none] using hpassed

/-- The chain hosts a client that was created on it from these states. -/
def CreatedOn (chain : SetupChain S) (states : ClientState × ConsensusState) (id : ClientId) :
    Prop :=
  ∃ txId, Submitted A chain (.createClient ⟨states.1, states.2, chain.accountId⟩) txId ∧
    (chain.queryClientIdFromTxHash txId).Leaf A (.ok id)

/-- **Two clients**: each chain stores one of the other's initial state. -/
theorem createClients_ok {ids : ClientId × ClientId} :
    (createClients chainA chainB).Leaf A (.ok ids) ↔ ∃ statesA statesB,
      chainA.initializeClientState.Leaf A (.ok statesA) ∧
      chainB.initializeClientState.Leaf A (.ok statesB) ∧
      CreatedOn A chainA statesB ids.2 ∧ CreatedOn A chainB statesA ids.1 := by
  obtain ⟨idAOnB, idBOnA⟩ := ids
  simp only [createClients, CreatedOn, submitted_iff, Prog.leaf_bind_ok, Prog.leaf_pure]
  constructor
  · rintro ⟨statesA, hA, statesB, hB, any, hany, tx, htx, _, hid, any', hany', tx', htx', _, hid',
      hids⟩
    obtain ⟨rfl, rfl⟩ := Prod.mk.inj (Outcome.ok.inj hids)
    exact ⟨statesA, statesB, hA, hB, ⟨tx, ⟨any, hany, htx⟩, hid⟩, ⟨tx', ⟨any', hany', htx'⟩, hid'⟩⟩
  · rintro ⟨statesA, statesB, hA, hB, ⟨tx, ⟨any, hany, htx⟩, hid⟩, ⟨tx', ⟨any', hany', htx'⟩, hid'⟩⟩
    exact ⟨statesA, hA, statesB, hB, any, hany, tx, htx, _, hid, any', hany', tx', htx', _, hid',
      rfl⟩

/-- A block of the chain arrives. -/
def BlockSeen (chain : SetupChain S) : Prop :=
  ∃ delivered, (chain.ibcEvents none).Leaf A (.ok delivered) ∧
    ∃ ev ∈ delivered.events, isNewBlock ev.event = true

omit [SetupCrates] in
/-- A block is awaited exactly until one is seen. -/
theorem awaitBlock_ok {chain : SetupChain S} :
    (∃ ev, (awaitBlock chain).Leaf A (.ok ev)) ↔ BlockSeen A chain := by
  have hfirst : ∀ events : List IbcEventWithHeight,
      (∃ ev, (firstEvent isNewBlock events).head? = some ev) ↔
        ∃ ev ∈ events, isNewBlock ev.event = true := by
    intro events
    rw [firstEvent_eq, Option.head?_toList, ← Option.isSome_iff_exists]
    exact List.find?_isSome
  simp only [awaitBlock, BlockSeen, Prog.leaf_bind_ok, Prog.leaf_expect_ok, ← hfirst]
  constructor
  · rintro ⟨ev, delivered, hdelivered, hev⟩
    exact ⟨delivered, hdelivered, ev, hev⟩
  · rintro ⟨delivered, hdelivered, ev, hev⟩
    exact ⟨ev, delivered, hdelivered, hev⟩

/-- **Clients that are there are taken**; if one is missing, both are created. -/
theorem takeOrCreateClients_ok {clientsOnA clientsOnB : List ClientId}
    {ids : ClientId × ClientId} :
    (takeOrCreateClients chainA chainB clientsOnA clientsOnB).Leaf A (.ok ids) ↔
      clientsOnA.head? = some ids.1 ∧ clientsOnB.head? = some ids.2 ∨
        (clientsOnA = [] ∨ clientsOnB = []) ∧ ∃ statesA statesB,
          chainA.initializeClientState.Leaf A (.ok statesA) ∧
          chainB.initializeClientState.Leaf A (.ok statesB) ∧
          CreatedOn A chainA statesB ids.2 ∧ CreatedOn A chainB statesA ids.1 := by
  rw [← createClients_ok]
  cases clientsOnA with
  | nil => simp [takeOrCreateClients]
  | cons clientA restA =>
      cases clientsOnB with
      | nil => simp [takeOrCreateClients]
      | cons clientB restB => simp [takeOrCreateClients, Prod.ext_iff, eq_comm]

/-- **Found and created ids are crossed**: if both chains host clients, each chain is given the
first one that it hosts itself; else the one that was created for it on the other chain. -/
theorem setupClients_iff (ids : ClientId × ClientId) :
    (setupClients chainA chainB).Leaf A (.ok ids) ↔
      BlockSeen A chainA ∧ BlockSeen A chainB ∧
      (∃ tip, chainA.latestHeightAndTimestamp.Leaf A (.ok tip)) ∧
      (∃ tip, chainB.latestHeightAndTimestamp.Leaf A (.ok tip)) ∧
      ∃ clientsOnA clientsOnB, chainA.queryClients.Leaf A (.ok clientsOnA) ∧
        chainB.queryClients.Leaf A (.ok clientsOnB) ∧
        (clientsOnA.head? = some ids.1 ∧ clientsOnB.head? = some ids.2 ∨
          (clientsOnA = [] ∨ clientsOnB = []) ∧ ∃ statesA statesB,
            chainA.initializeClientState.Leaf A (.ok statesA) ∧
            chainB.initializeClientState.Leaf A (.ok statesB) ∧
            CreatedOn A chainA statesB ids.2 ∧ CreatedOn A chainB statesA ids.1) := by
  simp only [setupClients, Prog.leaf_bind_ok, Prog.leaf_unwrap_ok, ← awaitBlock_ok,
    ← takeOrCreateClients_ok]
  constructor
  · rintro ⟨_, hA, _, hB, tipA, htipA, tipB, htipB, clientsOnA, honA, clientsOnB, honB, hr⟩
    exact ⟨⟨_, hA⟩, ⟨_, hB⟩, ⟨tipA, htipA⟩, ⟨tipB, htipB⟩, clientsOnA, clientsOnB, honA, honB, hr⟩
  · rintro ⟨⟨_, hA⟩, ⟨_, hB⟩, ⟨tipA, htipA⟩, ⟨tipB, htipB⟩, clientsOnA, clientsOnB, honA, honB, hr⟩
    exact ⟨_, hA, _, hB, tipA, htipA, tipB, htipB, clientsOnA, honA, clientsOnB, honB, hr⟩

end Setup

end HyperspaceLight
