/-
# Clients, a connection and a channel between two chains

`src/testsuite/create.rs`: what has to exist before the relayer has anything to do.
Each function submits the first message of a handshake, or the message that creates a
client, and waits for what the chains make of it; the steps in between are left to the
relayer that runs beside it.  A connection is taken from the first event that confirms
one; if the chains confirm only what the handshake has opened, its two ends name each other
(`createConnection_mutual`).  A channel is taken in the same way, and since it can
only be open where both chains call the connection the same, there is none to take elsewhere
(`createChannel_mutual`).

The two chains are known by the methods that are called on them (`SetupChain`).  A
stream of events is known by what it delivers until the wait for it is over
(`StreamPart`).
-/

import HyperspaceLight.Handshake.StalledChannels

namespace HyperspaceLight

open Interaction

/-! ### Messages -/

/-- `MsgCreateClient`; both states are passed on as they are. -/
structure MsgCreateClient where
  clientState : ClientState
  consensusState : ConsensusState
  signer : Signer

structure MsgConnectionOpenInit where
  clientId : ClientId
  counterparty : ConnCounterparty
  version : Option ConnVersion
  delayPeriod : Duration
  signer : Signer

structure MsgChannelOpenInit where
  portId : PortId
  channel : ChannelEnd
  signer : Signer

/-- The messages that the setup submits. -/
inductive SetupMsg where
  | createClient (m : MsgCreateClient)
  | connectionOpenInit (m : MsgConnectionOpenInit)
  | channelOpenInit (m : MsgChannelOpenInit)

/-- `Msg::type_url`. -/
def SetupMsg.typeUrl : SetupMsg → String
  | createClient _ => "/ibc.core.client.v1.MsgCreateClient"
  | connectionOpenInit _ => "/ibc.core.connection.v1.MsgConnectionOpenInit"
  | channelOpenInit _ => "/ibc.core.channel.v1.MsgChannelOpenInit"

/-- `google::protobuf::Any` of a message of the setup. -/
structure SetupAny where
  typeUrl : String
  value : Bytes
  msg : SetupMsg

/-- `Protobuf::encode_vec` of the messages of the setup. -/
class SetupCrates where
  encodeVec : SetupMsg → Except String Bytes

/-- `Version::default`. -/
def ConnVersion.default : ConnVersion := ⟨"1", ["ORDER_ORDERED", "ORDER_UNORDERED"]⟩

/-! ### What the setup asks of a chain -/

/-- What a stream of events delivers while it is waited for, and whether it was closed. -/
structure StreamPart where
  events : List IbcEventWithHeight
  closed : Bool

/-- `ibc_proto`'s connection end, as far as the setup reads it. -/
structure RawConnectionEnd where
  delayPeriod : ℕ

/-- `IdentifiedChannel`, as far as the setup reads it. -/
structure IdentifiedChannel where
  portId : String
  channelId : String

/-- The methods of a chain that the setup calls.  A connection in a list is known by its id.
The argument of `ibcEvents` is how many seconds the stream is waited for, if there is a bound. -/
structure SetupChain (S : Sig) where
  name : String
  clientId : ClientId
  accountId : Signer
  connectionPrefix : StorePrefix
  latestHeightAndTimestamp : Prog S Error (Height × Timestamp)
  queryClients : Prog S Error (List ClientId)
  queryConnectionUsingClient : ℕ → String → Prog S Error (List String)
  queryConnectionEnd : Height → ConnectionId → Prog S Error (Option RawConnectionEnd)
  queryConnectionChannels : Height → ConnectionId → Prog S Error (List IdentifiedChannel)
  queryChannelEnd : Height → ChannelId → PortId → Prog S Error QueryChannelResponse
  initializeClientState : Prog S Error (ClientState × ConsensusState)
  queryClientIdFromTxHash : TransactionId → Prog S Error ClientId
  submit : List SetupAny → Prog S Error TransactionId
  ibcEvents : Option ℕ → Prog S Error StreamPart

variable {S : Sig}

/-- The panic of `Option::unwrap`. -/
def noneText : String := "called `Option::unwrap()` on a `None` value"

/-- The panic of `Result::unwrap`, without the error. -/
def errText : String := "called `Result::unwrap()` on an `Err` value"

/-- `skip_while`, `take(1)` and `collect`. -/
def firstEvent (wanted : IbcEvent → Bool) (events : List IbcEventWithHeight) :
    List IbcEventWithHeight :=
  (events.dropWhile fun ev => !wanted ev.event).take 1

/-- `timeout_future` for the first event that is wanted. -/
def timeoutFuture (secs : ℕ) (reason : String) (wanted : IbcEvent → Bool)
    (delivered : StreamPart) : Prog S Error (List IbcEventWithHeight) :=
  let events := firstEvent wanted delivered.events
  if events = [] ∧ delivered.closed = false then
    .panic ("Future didn't finish within " ++ toString secs ++ "s, " ++ reason)
  else return events

section Create

variable [SetupCrates]

/-- `Any { type_url, value: msg.encode_vec()? }`. -/
def SetupMsg.toAny (m : SetupMsg) : Prog S Error SetupAny :=
  match SetupCrates.encodeVec m with
  | .ok value => pure { typeUrl := m.typeUrl, value, msg := m }
  | .error t => .fail (.external t)

/-- `create_clients`: the id of the client of `chainA` on `chainB`, and the other way round. -/
def createClients (chainA chainB : SetupChain S) : Prog S Error (ClientId × ClientId) := do
  let (clientStateA, csStateA) ← chainA.initializeClientState
  let (clientStateB, csStateB) ← chainB.initializeClientState
  let msg ← (SetupMsg.createClient ⟨clientStateB, csStateB, chainA.accountId⟩).toAny
  let txId ← chainA.submit [msg]
  let clientIdBOnA ← chainA.queryClientIdFromTxHash txId
  let msg ← (SetupMsg.createClient ⟨clientStateA, csStateA, chainB.accountId⟩).toAny
  let txId ← chainB.submit [msg]
  let clientIdAOnB ← chainB.queryClientIdFromTxHash txId
  return (clientIdAOnB, clientIdBOnA)

/-- The two ids in an event, that of the counterparty first. -/
def readIds {ι : Type} (ids : Option (Option ι × Option ι)) : Prog S Error (ι × ι) :=
  match ids with
  | some (idA, idB) => do
      let idA ← .expect noneText idA
      let idB ← .expect noneText idB
      return (idA, idB)
  | none => .panic "Unexpected event"

/-- What `create_connection` and `create_channel` do: they submit the opening on `chainA` and
wait for the event on `chainB` that confirms one.  `ids` are those of such an event. -/
def openAndConfirm {ι : Type} (chainA chainB : SetupChain S) (opening : SetupMsg)
    (eventName : String) (ids : IbcEvent → Option (Option ι × Option ι)) :
    Prog S Error (ι × ι) := do
  -- `to_any` cannot fail
  let msg ← opening.toAny.unwrap errText
  let _ ← chainA.submit [msg]
  let delivered ← chainB.ibcEvents (some (15 * 60))
  let events ← timeoutFuture (15 * 60) ("Didn't see " ++ eventName ++ " on " ++ chainB.name)
    (fun event => (ids event).isSome) delivered
  match events.getLast? with
  | some ev => readIds (ids ev.event)
  | none => .panic ("Last event should be " ++ eventName ++ ": None")

/-- The connection ids in the event that confirms a connection. -/
def confirmedConnection : IbcEvent → Option (Option ConnectionId × Option ConnectionId)
  | .openConfirmConnection conn => some (conn.counterpartyConnectionId, conn.connectionId)
  | _ => none

/-- The opening of a connection from `chainA` to `chainB`. -/
def connectionOpenInit (chainA chainB : SetupChain S) (delayPeriod : Duration) : SetupMsg :=
  .connectionOpenInit {
    clientId := chainA.clientId
    counterparty := ⟨chainB.clientId, none, chainB.connectionPrefix⟩
    version := some .default
    delayPeriod
    signer := chainA.accountId }

/-- `create_connection`. -/
def createConnection (chainA chainB : SetupChain S) (delayPeriod : Duration) :
    Prog S Error (ConnectionId × ConnectionId) :=
  openAndConfirm chainA chainB (connectionOpenInit chainA chainB delayPeriod)
    "OpenConfirmConnection" confirmedConnection

/-- The channel ids in the event that confirms a channel. -/
def confirmedChannel : IbcEvent → Option (Option ChannelId × Option ChannelId)
  | .openConfirmChannel chan => some (chan.counterpartyChannelId, chan.channelId)
  | _ => none

/-- The opening of a channel over a connection of `chainA`. -/
def channelOpenInit (chainA : SetupChain S) (connectionId : ConnectionId) (portId : PortId)
    (version : String) (order : Order) : SetupMsg :=
  .channelOpenInit {
    portId
    channel := {
      state := .init
      ordering := order
      counterparty := ⟨portId, none⟩
      connectionHops := [connectionId]
      version }
    signer := chainA.accountId }

/-- `create_channel`. -/
def createChannel (chainA chainB : SetupChain S) (connectionId : ConnectionId)
    (portId : PortId) (version : String) (order : Order) : Prog S Error (ChannelId × ChannelId) :=
  openAndConfirm chainA chainB (channelOpenInit chainA connectionId portId version order)
    "OpenConfirmChannel" confirmedChannel

end Create

/-! ### What they wait for -/

section Confirmed

variable {A : (o : S.Op) → Except Error (S.Res o) → Prop} {wanted : IbcEvent → Bool}

/-- The first wanted event, as a search of the list. -/
theorem firstEvent_eq (events : List IbcEventWithHeight) :
    firstEvent wanted events = (events.find? fun ev => wanted ev.event).toList := by
  induction events with
  | nil => rfl
  | cons ev events ih =>
      unfold firstEvent at ih ⊢
      by_cases hev : wanted ev.event = true
      · simp [hev]
      · simp [hev, ih]

/-- **The wait ends with the first event that is wanted**, or with none if the stream was
closed without one. -/
theorem timeoutFuture_ok {secs : ℕ} {reason : String} {delivered : StreamPart}
    {events : List IbcEventWithHeight} :
    (timeoutFuture secs reason wanted delivered : Prog S Error _).Leaf A (.ok events) ↔
      events = (delivered.events.find? fun ev => wanted ev.event).toList ∧
        (events = [] → delivered.closed = true) := by
  rw [timeoutFuture, ← firstEvent_eq]
  split_ifs with hlate
  · constructor
    · intro h
      cases h
    · rintro ⟨rfl, hclosed⟩
      rw [hclosed hlate.1] at hlate
      cases hlate.2
  · rw [Prog.leaf_pure, Outcome.ok.injEq]
    constructor
    · rintro rfl
      exact ⟨rfl, fun hnil => by simpa using mt (And.intro hnil) hlate⟩
    · exact fun h => h.1.symm

/-- A search by a value is one by the test that there is a value. -/
theorem findSome?_eq_bind_find? {α β : Type} {f : α → Option β} (as : List α) :
    as.findSome? f = (as.find? fun a => (f a).isSome).bind f := by
  induction as with
  | nil => rfl
  | cons a as ih => cases hf : f a <;> simp [hf, ih]

/-- Both identifiers have to be there. -/
theorem readIds_ok {ι : Type} {ids : Option (Option ι × Option ι)} {idA idB : ι} :
    (readIds ids : Prog S Error (ι × ι)).Leaf A (.ok (idA, idB)) ↔
      ids = some (some idA, some idB) := by
  cases ids with
  | none => simp [readIds]
  | some ids => simp [readIds, Prod.ext_iff, eq_comm]

variable (A)

/-- A transaction with one message was submitted. -/
def Submitted [SetupCrates] (chain : SetupChain S) (m : SetupMsg) (txId : TransactionId) : Prop :=
  ∃ value, SetupCrates.encodeVec m = .ok value ∧
    (chain.submit [⟨m.typeUrl, value, m⟩]).Leaf A (.ok txId)

/-- The first event with ids that arrives from `chainB` in a quarter of an hour has these. -/
def FirstConfirmed {ι : Type} (chainB : SetupChain S)
    (ids : IbcEvent → Option (Option ι × Option ι)) (idA idB : ι) : Prop :=
  ∃ delivered, (chainB.ibcEvents (some (15 * 60))).Leaf A (.ok delivered) ∧
    delivered.events.findSome? (fun ev => ids ev.event) = some (some idA, some idB)

variable {A} [SetupCrates] {chain chainA chainB : SetupChain S} {m opening : SetupMsg}

/-- A message of the setup is one that is encoded. -/
theorem SetupMsg.toAny_ok {any : SetupAny} : (m.toAny : Prog S Error SetupAny).Leaf A (.ok any) ↔
    ∃ value, SetupCrates.encodeVec m = .ok value ∧ any = ⟨m.typeUrl, value, m⟩ := by
  unfold SetupMsg.toAny
  cases SetupCrates.encodeVec m with
  | ok value => simp [eq_comm]
  | error t => simp

/-- A message is submitted if it is encoded and the chain takes it. -/
theorem submitted_iff {txId : TransactionId} : Submitted A chain m txId ↔
    ∃ any, (m.toAny : Prog S Error SetupAny).Leaf A (.ok any) ∧
      (chain.submit [any]).Leaf A (.ok txId) := by
  simp only [SetupMsg.toAny_ok]
  constructor
  · rintro ⟨value, hvalue, htx⟩
    exact ⟨_, ⟨value, hvalue, rfl⟩, htx⟩
  · rintro ⟨_, ⟨value, hvalue, rfl⟩, htx⟩
    exact ⟨value, hvalue, htx⟩

/-- **An opening is submitted, and the first confirmation gives the ids**, whichever opening
it confirms. -/
theorem openAndConfirm_ok {ι : Type} {eventName : String}
    {ids : IbcEvent → Option (Option ι × Option ι)} {idA idB : ι} :
    (openAndConfirm chainA chainB opening eventName ids).Leaf A (.ok (idA, idB)) ↔
      (∃ txId, Submitted A chainA opening txId) ∧ FirstConfirmed A chainB ids idA idB := by
  simp only [openAndConfirm, Prog.leaf_bind_ok, Prog.leaf_unwrap_ok, timeoutFuture_ok,
    submitted_iff, FirstConfirmed, findSome?_eq_bind_find?]
  constructor
  · rintro ⟨any, hany, txId, htx, delivered, hdelivered, events, ⟨rfl, -⟩, hr⟩
    refine ⟨⟨txId, any, hany, htx⟩, delivered, hdelivered, ?_⟩
    cases hfind : delivered.events.find? fun ev => (ids ev.event).isSome with
    | none =>
        rw [hfind] at hr
        cases hr
    | some ev =>
        rw [hfind] at hr
        exact readIds_ok.mp hr
  · rintro ⟨⟨txId, any, hany, htx⟩, delivered, hdelivered, hfound⟩
    obtain ⟨ev, hfind, hids⟩ := Option.bind_eq_some_iff.mp hfound
    refine ⟨any, hany, txId, htx, delivered, hdelivered, [ev], ⟨?_, ?_⟩, readIds_ok.mpr hids⟩
    · rw [hfind]
      rfl
    · simp

/-- The ids that are returned stand in an event that has arrived. -/
theorem exists_confirmation {ι : Type} {eventName : String}
    {ids : IbcEvent → Option (Option ι × Option ι)} {idA idB : ι}
    (h : (openAndConfirm chainA chainB opening eventName ids).Leaf A (.ok (idA, idB))) :
    ∃ delivered, (chainB.ibcEvents (some (15 * 60))).Leaf A (.ok delivered) ∧
      ∃ ev ∈ delivered.events, ids ev.event = some (some idA, some idB) := by
  obtain ⟨-, delivered, hdelivered, hfound⟩ := openAndConfirm_ok.mp h
  exact ⟨delivered, hdelivered, List.exists_of_findSome?_eq_some hfound⟩

end Confirmed

/-- The wanted event of a connection is a confirmed opening. -/
theorem confirmedConnection_eq_some {event : IbcEvent} {idA idB : Option ConnectionId} :
    confirmedConnection event = some (idA, idB) ↔ ∃ conn, event = .openConfirmConnection conn ∧
      conn.counterpartyConnectionId = idA ∧ conn.connectionId = idB := by
  unfold confirmedConnection
  split <;> simp_all

/-- The wanted event of a channel is a confirmed opening. -/
theorem confirmedChannel_eq_some {event : IbcEvent} {idA idB : Option ChannelId} :
    confirmedChannel event = some (idA, idB) ↔ ∃ chan, event = .openConfirmChannel chan ∧
      chan.counterpartyChannelId = idA ∧ chan.channelId = idB := by
  unfold confirmedChannel
  split <;> simp_all

/-! ### What is confirmed -/

section Mutual

variable {S : Sig} [SetupCrates] [Crates] {A : (o : S.Op) → Except Error (S.Res o) → Prop}

/-- The event is about an open end of the second chain, and names what this end names. -/
def ConfirmsOpen (w : Connections) (conn : ConnectionAttributes) : Prop :=
  ∀ connectionB, conn.connectionId = some connectionB → ∃ e, w.ends (.b, connectionB) = some e ∧
    e.state = .open ∧ e.counterparty.connectionId = conn.counterpartyConnectionId

/-- **A connection that is created joins the two chains.**  Whatever runs beside it: if each
confirmation that arrives from the second chain is about an open end that the handshakes of both
chains have led to, then the two ids returned are those of two ends that name each other. -/
theorem createConnection_mutual (net : ConnectionNet) (w : Connections) (hw : net.Reachable w)
    (chainA chainB : SetupChain S) (delayPeriod : Duration) (ids : ConnectionId × ConnectionId)
    (hevents : ∀ delivered, (chainB.ibcEvents (some (15 * 60))).Leaf A (.ok delivered) →
      ∀ ev ∈ delivered.events, ∀ conn, ev.event = .openConfirmConnection conn →
        ConfirmsOpen w conn)
    (h : (createConnection chainA chainB delayPeriod).Leaf A (.ok ids)) :
    ∃ e e', w.ends (.a, ids.1) = some e ∧ w.ends (.b, ids.2) = some e' ∧
      net.NameEachOther (.b, ids.2) e' (.a, ids.1) e := by
  obtain ⟨delivered, hdelivered, ev, hev, hids⟩ := exists_confirmation h
  obtain ⟨conn, hconn, hA, hB⟩ := confirmedConnection_eq_some.mp hids
  obtain ⟨e', he', hopen, hpeer⟩ := hevents delivered hdelivered ev hev conn hconn ids.2 hB
  obtain ⟨-, ⟨side, connectionA⟩, e, rfl, he, hnames⟩ := hw.open_end he' hopen
  have hid : some connectionA = some ids.1 := by
    rw [← hA, ← hpeer, hnames.first]
  obtain rfl := Option.some.inj hid
  exact ⟨e, e', he, he', hnames⟩

/-- The event is about an open end of the second chain, and names what this end names. -/
def ConfirmsOpenChannel (w : Channels) (chan : ChannelAttributes) : Prop :=
  ∀ channelB, chan.channelId = some channelB → ∃ e, w.ends (.b, chan.portId, channelB) = some e ∧
    e.state = .open ∧ e.counterparty.channelId = chan.counterpartyChannelId

/-- **A channel that is created joins the two chains.**  Whatever runs beside it: if each
confirmation that arrives from the second chain is about an open end that the handshakes over a
connection have led to, then both chains call this connection the same, and the two ids returned
are those of two ends over it that name each other. -/
theorem createChannel_mutual (link : Link) (w : Channels) (hw : link.Reachable w)
    (chainA chainB : SetupChain S) (connectionId : ConnectionId) (portId : PortId)
    (version : String) (order : Order) (ids : ChannelId × ChannelId)
    (hevents : ∀ delivered, (chainB.ibcEvents (some (15 * 60))).Leaf A (.ok delivered) →
      ∀ ev ∈ delivered.events, ∀ chan, ev.event = .openConfirmChannel chan →
        ConfirmsOpenChannel w chan)
    (h : (createChannel chainA chainB connectionId portId version order).Leaf A (.ok ids)) :
    link.connectionId .a = link.connectionId .b ∧ ∃ p p' e e',
      w.ends (.a, p, ids.1) = some e ∧ w.ends (.b, p', ids.2) = some e' ∧
      link.NameEachOther (.b, p', ids.2) e' (.a, p, ids.1) e := by
  obtain ⟨delivered, hdelivered, ev, hev, hids⟩ := exists_confirmation h
  obtain ⟨chan, hchan, hA, hB⟩ := confirmedChannel_eq_some.mp hids
  obtain ⟨e', he', hopen, hpeer⟩ := hevents delivered hdelivered ev hev chan hchan ids.2 hB
  obtain ⟨hid, ⟨side, p, channelA⟩, e, rfl, he, hnames⟩ := hw.open_end he' hopen
  have hchannel : some channelA = some ids.1 := by
    rw [← hA, ← hpeer, hnames.first]
  obtain rfl := Option.some.inj hchannel
  exact ⟨hid, p, chan.portId, e, e', he, he', hnames⟩

end Mutual

/-- A chain that creates nothing. -/
def SetupChain.unavailable (info : ChainInfo) : SetupChain Static where
  name := info.name
  clientId := info.clientId
  accountId := info.accountId
  connectionPrefix := info.connectionPrefix
  latestHeightAndTimestamp := .fail (.rpcError "unavailable")
  queryClients := .fail (.rpcError "unavailable")
  queryConnectionUsingClient _ _ := .fail (.rpcError "unavailable")
  queryConnectionEnd _ _ := .fail (.rpcError "unavailable")
  queryConnectionChannels _ _ := .fail (.rpcError "unavailable")
  queryChannelEnd _ _ _ := .fail (.rpcError "unavailable")
  initializeClientState := .fail (.rpcError "unavailable")
  queryClientIdFromTxHash _ := .fail (.rpcError "unavailable")
  submit _ := .fail (.rpcError "unavailable")
  ibcEvents _ := .fail (.rpcError "unavailable")

/-- A chain that takes every transaction. -/
def submittingChain : SetupChain Static :=
  { SetupChain.unavailable (chainInfo "a") with submit := fun _ => pure 1 }

/-- A chain that confirms the connection of `crossedNet`. -/
def confirmingChain : SetupChain Static :=
  { SetupChain.unavailable (chainInfo "b") with
    ibcEvents := fun _ => pure ⟨[inBlock (.openConfirmConnection
      (ConnectionNet.attributesOf ConnectionNet.crossedKeyB ConnectionNet.answeringEnd))], false⟩ }

/-- The theorem at work: the ids of the two chains differ, and belong together. -/
theorem createConnection_crossed : ∃ e e',
    ConnectionNet.afterConfirm.ends ConnectionNet.crossedKeyA = some e ∧
    ConnectionNet.afterConfirm.ends ConnectionNet.crossedKeyB = some e' ∧
    ConnectionNet.crossedNet.NameEachOther ConnectionNet.crossedKeyB e' ConnectionNet.crossedKeyA
      e := by
  let _ : SetupCrates := ⟨fun m => .ok (utf8 m.typeUrl)⟩
  let _ := Crates.reference
  refine createConnection_mutual (A := fun _ _ => True) ConnectionNet.crossedNet
    ConnectionNet.afterConfirm ConnectionNet.afterConfirm_reachable submittingChain confirmingChain
    5 (ConnectionNet.crossedKeyA.2, ConnectionNet.crossedKeyB.2) ?_ rfl
  intro delivered hdelivered ev hev conn hconn
  obtain rfl := Outcome.ok.inj hdelivered
  obtain rfl := List.mem_singleton.mp hev
  obtain rfl := IbcEvent.openConfirmConnection.inj hconn
  intro connectionB hB
  obtain rfl := Option.some.inj hB
  exact ⟨_, rfl, rfl, rfl⟩

/-- The theorem at work: a channel over `connection-0` of two fresh chains. -/
theorem createChannel_fresh : ∃ (w : Channels) (c : ChannelId),
    freshLink.connectionId .a = freshLink.connectionId .b ∧ ∃ p p' e e',
      w.ends (.a, p, channel0) = some e ∧ w.ends (.b, p', c) = some e' ∧
      freshLink.NameEachOther (.b, p', c) e' (.a, p, channel0) e := by
  let _ : SetupCrates := ⟨fun m => .ok (utf8 m.typeUrl)⟩
  let _ := Crates.reference
  have hinit : freshLink.InitEnd (.a, transferPort, channel0) freshChannel := ⟨rfl, rfl, rfl⟩
  have hreachable := Link.Reachable.start.step (.openInit rfl hinit)
  obtain ⟨w, c, hrun, -, he'⟩ := hreachable.opens (fun _ => ⟨_, rfl⟩) rfl
    Handshake.State.put_ends_self rfl
  have hw := hreachable.run hrun
  let chan : ChannelAttributes := ⟨transferPort, some c, connection0, transferPort, some channel0⟩
  let chainB : SetupChain Static :=
    { SetupChain.unavailable (chainInfo "b") with
      ibcEvents := fun _ => pure ⟨[inBlock (.openConfirmChannel chan)], false⟩ }
  refine ⟨w, c, createChannel_mutual (A := fun _ _ => True) freshLink w hw submittingChain chainB
    connection0 transferPort "ics20-1" .unordered (channel0, c) ?_ rfl⟩
  intro delivered hdelivered ev hev chan' hchan
  obtain rfl := Outcome.ok.inj hdelivered
  obtain rfl := List.mem_singleton.mp hev
  obtain rfl := IbcEvent.openConfirmChannel.inj hchan
  intro channelB hB
  obtain rfl := Option.some.inj hB
  exact ⟨_, he', rfl, rfl⟩

end HyperspaceLight
