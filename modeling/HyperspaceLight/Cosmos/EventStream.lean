/-
# The event stream

`ibc_events` of `src/cosmos/provider.rs`: the relayer subscribes to the node's new blocks and to
the transactions of each of three modules, and turns what arrives into IBC events.  A
transaction that messages of several modules are in arrives once for each of them; the query
that the node echoes, and the predicates `event_is_type_client` and its siblings of
`src/cosmos/events.rs`, decide which of its events a delivery yields.

The predicates part the events that the decoder makes (`decoded_subscription`), so that an event
comes out of the stream once however often its transaction arrives (`ibcEvents_once`).  Among
the events of one module the order is that of the transaction; between modules it is that of
the deliveries (`ibcEvents_follow_deliveries`).
-/

import HyperspaceLight.Cosmos.ScanOrder
import Mathlib.Data.Finset.Basic
import Mathlib.Data.List.Count

namespace HyperspaceLight

open Interaction

/-! ### What arrives -/

/-- `tendermint_rpc::event::TxInfo`.  The index of the transaction in its block is not looked
at; it tells two transactions of one block apart. -/
structure TxInfo where
  height : Int64
  index : ℕ
  events : List AbciEvent
  deriving DecidableEq

/-- `tendermint_rpc::event::EventData`; of a block, the height of its header. -/
inductive EventData where
  | newBlock (height : Option ℕ)
  | tx (txResult : TxInfo)
  | other
  deriving DecidableEq

/-- `tendermint_rpc::event::Event`. -/
structure Event where
  query : String
  data : EventData
  deriving DecidableEq

/-- `Query::from(EventType::NewBlock).to_string()`. -/
def newBlockQuery : String := "tm.event = 'NewBlock'"

/-- `Query::eq("message.module", module).to_string()`. -/
def moduleQuery (name : String) : String := "message.module = '" ++ name ++ "'"

/-- `event_is_type_client`. -/
def eventIsTypeClient : IbcEvent → Bool
  | .createClient _ | .updateClient _ _ | .upgradeClient _ | .clientMisbehaviour _ => true
  | _ => false

/-- `event_is_type_connection`. -/
def eventIsTypeConnection : IbcEvent → Bool
  | .openInitConnection _ | .openTryConnection _ | .openAckConnection _
  | .openConfirmConnection _ => true
  | _ => false

/-- `event_is_type_channel`. -/
def eventIsTypeChannel : IbcEvent → Bool
  | .openInitChannel _ | .openTryChannel _ | .openAckChannel _ | .openConfirmChannel _
  | .closeInitChannel _ | .closeConfirmChannel _ | .sendPacket _ | .receivePacket _
  | .writeAcknowledgement _ _ | .acknowledgePacket _ | .timeoutPacket _
  | .timeoutOnClosePacket _ => true
  | _ => false

/-- The height of the transaction, `tx_result.height as u64`. -/
def TxInfo.blockHeight (tx : TxInfo) : ℕ := tx.height.toUInt64.toNat

/-- What identifies a transaction of a chain: its block and its index. -/
def TxInfo.place (tx : TxInfo) : ℕ × ℕ := (tx.blockHeight, tx.index)

/-- The place of the transaction that an event is from. -/
def IbcEventWithHeight.txPlace (e : IbcEventWithHeight) : ℕ × ℕ :=
  (e.height.revisionHeight, e.pos.tx)

/-! ### The closure of the stream -/

variable [Crates]

/-- One event of a transaction, under the query it was delivered for. -/
def streamTxEvent (query : String) (height : Height) (tx : ℕ)
    (eventsWithHeight : List IbcEventWithHeight) (abciEvent : AbciEvent × ℕ) :
    Decode (List IbcEventWithHeight) := do
  match ← (ibcEventTryFromAbciEvent abciEvent.1).attempt with
  | .error _ => return eventsWithHeight
  | .ok ibcEvent =>
      let pushed := eventsWithHeight ++ [{ event := ibcEvent, height, pos := ⟨tx, abciEvent.2⟩ }]
      if query = moduleQuery "ibc_client" ∧ eventIsTypeClient ibcEvent then return pushed
      else if query = moduleQuery "ibc_connection" ∧ eventIsTypeConnection ibcEvent then
        return pushed
      else if query = moduleQuery "ibc_channel" ∧ eventIsTypeChannel ibcEvent then return pushed
      else return eventsWithHeight

namespace CosmosClient

variable (self : CosmosClient)

/-- What the stream makes of one delivery; the subscription may deliver an error. -/
def streamEvent (event : Except String Event) : Decode (List IbcEventWithHeight) := do
  let ⟨query, data⟩ ← .expect "called `Result::unwrap()` on an `Err` value" event.toOption
  match data with
  | .newBlock block =>
      if query = newBlockQuery then do
        let block ← .expect "called `Result::unwrap()` on an `Err` value" block
        let height ← .expect "called `Result::unwrap()` on an `Err` value"
          (Height.new (Crates.chainVersion self.chainId) block)
        return [{ event := .newBlock height, height, pos := ⟨0, 0⟩ }]
      else return []
  | .tx txResult => do
      let height ← .expect "called `Result::unwrap()` on an `Err` value"
        (Height.new (Crates.chainVersion self.chainId) txResult.blockHeight)
      txResult.events.zipIdx.foldlM (streamTxEvent query height txResult.index) []
  | .other => return []

/-- `ibc_events`, after it has subscribed: the events of the stream.  A panic of the closure
ends it. -/
def ibcEvents : List (Except String Event) → List IbcEventWithHeight
  | [] => []
  | event :: deliveries =>
      match (self.streamEvent event).outcome with
      | .ok events => events ++ ibcEvents deliveries
      | _ => []

/-- The deliveries that the stream comes to, those before a panic. -/
def heard : List (Except String Event) → List Event
  | [] => []
  | event :: deliveries =>
      match (self.streamEvent event).outcome with
      | .ok _ => event.toOption.toList ++ heard deliveries
      | _ => []

end CosmosClient

/-! ### Modules -/

/-- The modules whose transactions the relayer subscribes to. -/
inductive Subscription where
  | client
  | connection
  | channel
  deriving DecidableEq

/-- The query of the subscription. -/
def Subscription.query : Subscription → String
  | client => moduleQuery "ibc_client"
  | connection => moduleQuery "ibc_connection"
  | channel => moduleQuery "ibc_channel"

omit [Crates] in
/-- The three subscriptions have different queries. -/
theorem Subscription.query_inj {m m' : Subscription} : m.query = m'.query ↔ m = m' := by
  cases m <;> cases m' <;> decide

/-- The module that a kind of event belongs to. -/
def IbcEventType.subscription : IbcEventType → Option Subscription
  | newBlock => none
  | createClient | updateClient | upgradeClient | clientMisbehaviour => some .client
  | openInitConnection | openTryConnection | openAckConnection | openConfirmConnection =>
      some .connection
  | openInitChannel | openTryChannel | openAckChannel | openConfirmChannel
  | closeInitChannel | closeConfirmChannel
  | sendPacket | receivePacket | writeAck | ackPacket | timeout | timeoutOnClose =>
      some .channel

/-- The subscription of an event's own kind. -/
def IbcEventWithHeight.subscription (e : IbcEventWithHeight) : Option Subscription :=
  e.event.eventType.subscription

/-- The query of the subscription that an event of the stream is shown for. -/
def IbcEventWithHeight.shownFor (query : String) (e : IbcEventWithHeight) : Bool :=
  e.subscription.map Subscription.query = some query

/-- The events of a transaction that the decoder accepts, in their order, with the height of
the transaction. -/
def TxInfo.accepted (revisionNumber : ℕ) (tx : TxInfo) : List IbcEventWithHeight :=
  tx.events.zipIdx.filterMap (eventAt revisionNumber tx.blockHeight tx.index)

/-- The accepted events of one module. -/
def TxInfo.ofModule (revisionNumber : ℕ) (tx : TxInfo) (m : Subscription) :
    List IbcEventWithHeight :=
  (tx.accepted revisionNumber).filter fun e => e.subscription = some m

/-- The subscription that a delivery of the transaction is for. -/
def Event.reports (tx : TxInfo) (e : Event) : Option Subscription :=
  if e.data = .tx tx then
    [Subscription.client, .connection, .channel].find? fun m => m.query = e.query
  else none

/-- An event of the transaction; new blocks are of none. -/
def IbcEventWithHeight.isOf (tx : TxInfo) (e : IbcEventWithHeight) : Bool :=
  e.txPlace = tx.place ∧ e.subscription.isSome

omit [Crates] in
/-- An event reports a transaction to the subscription whose query it names. -/
theorem Event.reports_eq_some {tx : TxInfo} {e : Event} {m : Subscription} :
    e.reports tx = some m ↔ e.data = .tx tx ∧ m.query = e.query := by
  unfold reports
  split_ifs with hdata
  · rw [and_iff_right hdata]
    constructor
    · intro h
      have hfound := List.find?_some h
      exact of_decide_eq_true hfound
    · intro h
      rw [← h]
      cases m <;> rfl
  · exact iff_of_false nofun fun h => hdata h.1

omit [Crates] in
/-- The filter of the client subscription is its type of event. -/
theorem eventIsTypeClient_iff {ev : IbcEvent} :
    eventIsTypeClient ev = true ↔ ev.eventType.subscription = some .client := by
  cases ev <;> simp [eventIsTypeClient, IbcEvent.eventType, IbcEventType.subscription]

omit [Crates] in
/-- The filter of the connection subscription is its type of event. -/
theorem eventIsTypeConnection_iff {ev : IbcEvent} :
    eventIsTypeConnection ev = true ↔ ev.eventType.subscription = some .connection := by
  cases ev <;> simp [eventIsTypeConnection, IbcEvent.eventType, IbcEventType.subscription]

omit [Crates] in
/-- The filter of the channel subscription is its type of event. -/
theorem eventIsTypeChannel_iff {ev : IbcEvent} :
    eventIsTypeChannel ev = true ↔ ev.eventType.subscription = some .channel := by
  cases ev <;> simp [eventIsTypeChannel, IbcEvent.eventType, IbcEventType.subscription]

omit [Crates] in
/-- The three branches of the closure are one: the query is that of the event's module. -/
theorem ifChain_eq {α : Type} {query : String} {ev : IbcEvent} {m : Subscription}
    (hm : ev.eventType.subscription = some m) (pushed skipped : α) :
    (if query = moduleQuery "ibc_client" ∧ eventIsTypeClient ev then pushed
      else if query = moduleQuery "ibc_connection" ∧ eventIsTypeConnection ev then pushed
      else if query = moduleQuery "ibc_channel" ∧ eventIsTypeChannel ev then pushed
      else skipped) = if m.query = query then pushed else skipped := by
  simp only [eventIsTypeClient_iff, eventIsTypeConnection_iff, eventIsTypeChannel_iff, hm]
  cases m <;> simp [Subscription.query, eq_comm]

/-- **The predicates part the events that the decoder makes.** -/
theorem decoded_subscription {event : AbciEvent} {ev : IbcEvent} (h : decoded event = some ev) :
    ∃ m, ev.eventType.subscription = some m := by
  have hreturns : (ibcEventTryFromAbciEvent event).Returns ev :=
    Prog.returns_iff_outcome.mpr (Outcome.toOption_eq_some.mp h)
  unfold ibcEventTryFromAbciEvent at hreturns
  split at hreturns
  case h_2 | h_13 =>
    obtain ⟨_, -, hreturns⟩ := Prog.leaf_bind_ok.mp hreturns
    obtain ⟨_, -, hreturns⟩ := Prog.leaf_bind_ok.mp hreturns
    obtain rfl := Outcome.ok.inj hreturns
    exact ⟨_, rfl⟩
  case h_16 =>
    obtain ⟨⟨_, _⟩, -, hreturns⟩ := Prog.leaf_bind_ok.mp hreturns
    obtain rfl := Outcome.ok.inj hreturns
    exact ⟨_, rfl⟩
  case h_19 => cases hreturns
  all_goals
    obtain ⟨_, -, rfl⟩ := Prog.leaf_map_ok.mp hreturns
    exact ⟨_, rfl⟩

/-! ### What one delivery yields -/

variable {revisionNumber : ℕ} {tx : TxInfo} {m : Subscription} {e : IbcEventWithHeight}
  {self : CosmosClient} {deliveries : List (Except String Event)}

/-- What is accepted of a transaction has its place and belongs to some subscription. -/
theorem mem_accepted (h : e ∈ tx.accepted revisionNumber) :
    e.txPlace = tx.place ∧ ∃ m, e.subscription = some m := by
  obtain ⟨event, -, h⟩ := List.mem_filterMap.mp h
  obtain ⟨-, hheight, hpos⟩ := eventAt_height h
  refine ⟨by rw [IbcEventWithHeight.txPlace, hheight, hpos]; rfl, ?_⟩
  obtain ⟨ev, hev, h⟩ := Option.bind_eq_some_iff.mp h
  obtain ⟨height, -, h⟩ := Option.bind_eq_some_iff.mp h
  obtain rfl := Option.some.inj h
  exact decoded_subscription hev

/-- No two accepted events stand in one place. -/
theorem accepted_places (revisionNumber : ℕ) (tx : TxInfo) :
    (tx.accepted revisionNumber).Pairwise fun e e' => e.place ≠ e'.place :=
  txEvents_places revisionNumber tx.blockHeight (⟨0, "", tx.events⟩, tx.index)

/-- **An event of a transaction** is pushed if it decodes and the query is that of its own
module. -/
theorem streamTxEvent_returns {query : String} {height : Height} {index : ℕ}
    {A : (o : Sig.none.Op) → Except Error (Sig.none.Res o) → Prop}
    {evs evs' : List IbcEventWithHeight} {event : AbciEvent × ℕ}
    (h : (streamTxEvent query height index evs event).Leaf A (.ok evs')) :
    evs' = evs ++ (eventAt height.revisionNumber height.revisionHeight index event).toList.filter
      (IbcEventWithHeight.shownFor query) := by
  obtain ⟨r, hr, h⟩ := Prog.leaf_bind_ok.mp h
  have hdecoded : decoded event.1 = r.toOption := by
    cases r with
    | ok ev => exact congrArg _ (Prog.leaf_none_iff.mp (Prog.leaf_attempt_ok.mp hr))
    | error text => exact congrArg _ (Prog.leaf_none_iff.mp (Prog.leaf_attempt_error.mp hr))
  have hnew : Height.new height.revisionNumber height.revisionHeight = some height :=
    Height.new_eq_some.mpr ⟨rfl, rfl⟩
  unfold eventAt
  rw [hdecoded, hnew]
  cases r with
  | error text =>
      obtain rfl := Outcome.ok.inj h
      exact (List.append_nil _).symm
  | ok ev =>
      obtain ⟨m, hm⟩ : ∃ m, ev.eventType.subscription = some m :=
        decoded_subscription hdecoded
      have hshown : IbcEventWithHeight.shownFor query ⟨ev, height, ⟨index, event.2⟩⟩ =
          decide (m.query = query) := by
        simp [IbcEventWithHeight.shownFor, IbcEventWithHeight.subscription, hm]
      have hpush : (if m.query = query then pure (evs ++ [⟨ev, height, ⟨index, event.2⟩⟩])
          else pure evs : Decode (List IbcEventWithHeight)).Leaf A (.ok evs') :=
        ifChain_eq hm _ _ ▸ h
      show evs' = evs ++ [(⟨ev, height, ⟨index, event.2⟩⟩ : IbcEventWithHeight)].filter _
      split_ifs at hpush with hquery
      · rw [List.filter_singleton, hshown, decide_eq_true hquery]
        exact (Outcome.ok.inj hpush).symm
      · rw [List.filter_singleton, hshown, decide_eq_false hquery]
        exact (Outcome.ok.inj hpush).symm.trans (List.append_nil _).symm

/-- **A delivered transaction** yields its events of the module that it is delivered for. -/
theorem streamTx_returns {query : String} {height : Height}
    {A : (o : Sig.none.Op) → Except Error (Sig.none.Res o) → Prop}
    {events : List IbcEventWithHeight}
    (hheight : Height.new revisionNumber tx.blockHeight = some height)
    (h : (tx.events.zipIdx.foldlM (streamTxEvent query height tx.index) []).Leaf A (.ok events)) :
    events = (tx.accepted revisionNumber).filter (IbcEventWithHeight.shownFor query) := by
  obtain ⟨rfl, hblock⟩ := Height.new_eq_some.mp hheight
  have hflat := Prog.leaf_foldlM_append (f := streamTxEvent query height tx.index)
    (fun event _ _ _ => streamTxEvent_returns) h
  rw [hflat, List.nil_append, TxInfo.accepted, ← hblock, List.filterMap_eq_flatMap_toList,
    List.filter_flatMap]

/-- The events that are shown for a module's query are those of the module. -/
theorem filter_shownFor (revisionNumber : ℕ) (tx : TxInfo) (e : Event) (hdata : e.data = .tx tx) :
    (tx.accepted revisionNumber).filter (IbcEventWithHeight.shownFor e.query) =
      (e.reports tx).toList.flatMap (tx.ofModule revisionNumber) := by
  cases hm : e.reports tx with
  | some m =>
      obtain ⟨-, hquery⟩ := Event.reports_eq_some.mp hm
      rw [Option.toList_some, List.flatMap_singleton, TxInfo.ofModule]
      refine List.filter_congr fun x hx => ?_
      obtain ⟨-, m', hm'⟩ := mem_accepted hx
      simp [IbcEventWithHeight.shownFor, hm', ← hquery, Subscription.query_inj]
  | none =>
      refine List.filter_eq_nil_iff.mpr fun x hx hshown => ?_
      obtain ⟨-, m', hm'⟩ := mem_accepted hx
      rw [IbcEventWithHeight.shownFor, hm', decide_eq_true_eq] at hshown
      have hsome := Event.reports_eq_some.mpr ⟨hdata, Option.some.inj hshown⟩
      exact nomatch hm.symm.trans hsome

/-- **One delivery** yields events of a transaction only if it delivers it, and then those of
the module that it is for. -/
theorem streamEvent_returns {event : Except String Event} {events : List IbcEventWithHeight}
    (h : (self.streamEvent event).outcome = .ok events) : ∃ e, event = .ok e ∧ ∀ tx : TxInfo,
      (∀ t, e.data = .tx t → t.place = tx.place → t = tx) →
        events.filter (IbcEventWithHeight.isOf tx) =
          (e.reports tx).toList.flatMap (tx.ofModule (Crates.chainVersion self.chainId)) := by
  have hleaf : (self.streamEvent event).Leaf (fun _ _ => True) (.ok events) :=
    Prog.leaf_none_iff.mpr h
  obtain ⟨⟨query, data⟩, he, hleaf⟩ := Prog.leaf_bind_ok.mp hleaf
  refine ⟨⟨query, data⟩, ?_, fun tx hplace => ?_⟩
  · cases event with
    | ok e => exact congrArg _ (Option.some.inj (Prog.leaf_expect_ok.mp he))
    | error text => cases Prog.leaf_expect_ok.mp he
  have hsilent : (∀ t, data ≠ .tx t) → (Event.mk query data).reports tx = none := fun hdata =>
    if_neg (hdata tx)
  cases data with
  | newBlock block =>
      rw [hsilent nofun]
      dsimp only at hleaf
      split_ifs at hleaf
      · obtain ⟨n, -, hleaf⟩ := Prog.leaf_bind_ok.mp hleaf
        obtain ⟨height, -, hleaf⟩ := Prog.leaf_bind_ok.mp hleaf
        obtain rfl := Outcome.ok.inj hleaf
        exact List.filter_eq_nil_iff.mpr fun x hx => by
          rw [List.mem_singleton.mp hx]
          simp [IbcEventWithHeight.isOf, IbcEventWithHeight.subscription, IbcEvent.eventType,
            IbcEventType.subscription]
      · obtain rfl := Outcome.ok.inj hleaf
        rfl
  | other =>
      rw [hsilent nofun]
      obtain rfl := Outcome.ok.inj hleaf
      rfl
  | tx t =>
      obtain ⟨height, hheight, hleaf⟩ := Prog.leaf_bind_ok.mp hleaf
      rw [streamTx_returns (Prog.leaf_expect_ok.mp hheight) hleaf]
      by_cases hp : t.place = tx.place
      · obtain rfl := hplace t rfl hp
        rw [← filter_shownFor _ t ⟨query, .tx t⟩ rfl]
        refine List.filter_eq_self.mpr fun x hx => ?_
        obtain ⟨hx, m, hm⟩ := mem_accepted (List.mem_of_mem_filter hx)
        simp [IbcEventWithHeight.isOf, hx, hm]
      · have hnone : (Event.mk query (.tx t)).reports tx = none :=
          if_neg fun h => hp (congrArg TxInfo.place (EventData.tx.inj h))
        rw [hnone]
        refine List.filter_eq_nil_iff.mpr fun x hx hof => hp ?_
        rw [← (mem_accepted (List.mem_of_mem_filter hx)).1]
        exact (of_decide_eq_true hof).1

/-! ### What the stream yields -/

/-- **The stream follows the deliveries**: each yields the events of its module. -/
theorem ibcEvents_follow_deliveries
    (hplace : ∀ e ∈ self.heard deliveries, ∀ t, e.data = .tx t → t.place = tx.place → t = tx) :
    (self.ibcEvents deliveries).filter (IbcEventWithHeight.isOf tx) =
      ((self.heard deliveries).filterMap (Event.reports tx)).flatMap
        (tx.ofModule (Crates.chainVersion self.chainId)) := by
  induction deliveries with
  | nil => rfl
  | cons event deliveries ih =>
      unfold CosmosClient.ibcEvents
      unfold CosmosClient.heard at hplace ⊢
      cases houtcome : (self.streamEvent event).outcome with
      | ok events =>
          obtain ⟨e, rfl, hevents⟩ := streamEvent_returns houtcome
          rw [houtcome] at hplace
          have hrest := ih fun e' he' => hplace e' (List.mem_cons_of_mem e he')
          show (events ++ self.ibcEvents deliveries).filter _ =
            ((e :: self.heard deliveries).filterMap (Event.reports tx)).flatMap _
          rw [List.filter_append, hevents tx (hplace e List.mem_cons_self), hrest]
          cases hreports : e.reports tx with
          | none => rw [List.filterMap_cons_none hreports]; rfl
          | some m => rw [List.filterMap_cons_some hreports, List.flatMap_cons]; simp
      | err | panic | spin => rfl

/-- An accepted event is the only one in its place. -/
theorem accepted_filter_place (h : e ∈ tx.accepted revisionNumber) :
    (tx.accepted revisionNumber).filter (fun e' => e'.place = e.place) = [e] := by
  have hplaces := accepted_places revisionNumber tx
  obtain ⟨before, after, hlist⟩ := List.append_of_mem h
  rw [hlist] at hplaces ⊢
  obtain ⟨-, hafter, hbefore⟩ := List.pairwise_append.mp hplaces
  have hnone₁ : before.filter (fun e' => e'.place = e.place) = [] :=
    List.filter_eq_nil_iff.mpr fun e' he' heq =>
      hbefore e' he' e List.mem_cons_self (of_decide_eq_true heq)
  have hnone₂ : after.filter (fun e' => e'.place = e.place) = [] :=
    List.filter_eq_nil_iff.mpr fun e' he' heq =>
      (List.pairwise_cons.mp hafter).1 e' he' (of_decide_eq_true heq).symm
  rw [List.filter_append, List.filter_cons, hnone₁, hnone₂, if_pos (decide_eq_true rfl)]
  rfl

omit [Crates] in
/-- A list without repeats holds a value at most once. -/
theorem flatMap_ite_nodup {α β : Type} [DecidableEq α] {l : List α} (h : l.Nodup) {a : α}
    {b : List β} : (l.flatMap fun x => if x = a then b else []) = if a ∈ l then b else [] := by
  induction l with
  | nil => rfl
  | cons x l ih =>
      obtain ⟨hnotMem, hnodup⟩ := List.nodup_cons.mp h
      rw [List.flatMap_cons, ih hnodup]
      by_cases hx : x = a
      · subst hx
        simp [hnotMem]
      · simp [hx, Ne.symm hx]

/-- **Each event once.**  `S` is the subscriptions that deliver the transaction, in the order
of the deliveries; a place of the chain holds one transaction.  An event that the decoder
accepts comes out of the stream once, as it stands in the transaction, if the subscription of
its kind is in `S`, and never otherwise; the events of one subscription come in the order of the
transaction, those of different ones in the order of the deliveries. -/
theorem ibcEvents_once {S : List Subscription}
    (hplace : ∀ e ∈ self.heard deliveries, ∀ t, e.data = .tx t → t.place = tx.place → t = tx)
    (hS : (self.heard deliveries).filterMap (Event.reports tx) = S) (hnodup : S.Nodup) :
    (∀ e ∈ tx.accepted (Crates.chainVersion self.chainId),
      e.height.revisionHeight = tx.blockHeight ∧ ∃ m, e.subscription = some m ∧
        (self.ibcEvents deliveries).filter (fun e' => e'.isOf tx ∧ e'.place = e.place) =
          if m ∈ S then [e] else []) ∧
      (self.ibcEvents deliveries).filter (IbcEventWithHeight.isOf tx) =
        S.flatMap (tx.ofModule (Crates.chainVersion self.chainId)) := by
  have hstream := ibcEvents_follow_deliveries hplace
  rw [hS] at hstream
  refine ⟨fun e he => ?_, hstream⟩
  obtain ⟨hheight, m, hm⟩ := mem_accepted he
  refine ⟨congrArg Prod.fst hheight, m, hm, ?_⟩
  have hmodule : ∀ m', (tx.ofModule (Crates.chainVersion self.chainId) m').filter
      (fun e' => e'.place = e.place) = if m' = m then [e] else [] := by
    intro m'
    rw [TxInfo.ofModule, List.filter_comm, accepted_filter_place he, List.filter_singleton, hm]
    simp [eq_comm]
  have hsplit : (self.ibcEvents deliveries).filter (fun e' => e'.isOf tx ∧ e'.place = e.place) =
      S.flatMap fun m' => if m' = m then [e] else [] := by
    rw [← funext hmodule, ← List.filter_flatMap, ← hstream, List.filter_filter]
    exact List.filter_congr fun e' _ => by simp [Bool.and_comm]
  rw [hsplit, flatMap_ite_nodup hnodup]

/-! ### A transaction of two modules -/

/-- A transaction that creates a client and then opens a channel. -/
def clientThenChannel : TxInfo where
  height := 5
  index := 0
  events := [⟨"create_client", []⟩, ⟨"channel_open_init", []⟩]

/-- It arrives for its channel first. -/
def channelFirst : List (Except String Event) :=
  [.ok ⟨Subscription.channel.query, .tx clientThenChannel⟩,
    .ok ⟨Subscription.client.query, .tx clientThenChannel⟩]

omit [Crates] in
/-- What is heard of the example deliveries. -/
theorem channelFirst_heard : let _ := Crates.reference
    (cosmosClient .a defaultClient).heard channelFirst =
      [⟨Subscription.channel.query, .tx clientThenChannel⟩,
        ⟨Subscription.client.query, .tx clientThenChannel⟩] := by
  decide +kernel

omit [Crates] in
/-- The place of their one transaction. -/
theorem channelFirst_place : let _ := Crates.reference
    ∀ e ∈ (cosmosClient .a defaultClient).heard channelFirst, ∀ t, e.data = .tx t →
      t.place = clientThenChannel.place → t = clientThenChannel := by
  intro _ e he t ht _
  rw [channelFirst_heard] at he
  rcases List.mem_cons.mp he with rfl | he
  · exact (EventData.tx.inj ht).symm
  · obtain rfl := List.mem_singleton.mp he
    exact (EventData.tx.inj ht).symm

omit [Crates] in
/-- What they report, subscription by subscription. -/
theorem channelFirst_reports : let _ := Crates.reference
    ((cosmosClient .a defaultClient).heard channelFirst).filterMap
      (Event.reports clientThenChannel) = [.channel, .client] := by
  intro _
  rw [channelFirst_heard]
  decide +kernel

omit [Crates] in
/-- The creation of the client comes out of the stream once. -/
theorem channelFirst_once : let _ := Crates.reference
    ((cosmosClient .a defaultClient).ibcEvents channelFirst).filter
      (fun e => e.isOf clientThenChannel ∧ e.place = (5, ⟨0, 0⟩)) =
        [⟨.createClient ClientAttributes.default, ⟨0, 5, by decide⟩, ⟨0, 0⟩⟩] := by
  intro _
  obtain ⟨-, m, hm, hevents⟩ := (ibcEvents_once channelFirst_place channelFirst_reports
    (by decide)).1 ⟨.createClient ClientAttributes.default, ⟨0, 5, by decide⟩, ⟨0, 0⟩⟩
    (by decide +kernel)
  obtain rfl : Subscription.client = m := Option.some.inj hm
  exact hevents

omit [Crates] in
/-- **The events of two modules come in the order of the deliveries**, not in that of the
transaction. -/
theorem channelFirst_reorders : let _ := Crates.reference
    ¬∀ (self : CosmosClient) (deliveries : List (Except String Event)) (tx : TxInfo)
      (S : List Subscription),
      (∀ e ∈ self.heard deliveries, ∀ t, e.data = .tx t → t.place = tx.place → t = tx) →
        (self.heard deliveries).filterMap (Event.reports tx) = S → S.Nodup →
          ((self.ibcEvents deliveries).filter (IbcEventWithHeight.isOf tx)).Pairwise
            IbcEventWithHeight.Before := by
  intro _ h
  have hsorted := h (cosmosClient .a defaultClient) channelFirst clientThenChannel
    [.channel, .client] channelFirst_place channelFirst_reports (by decide)
  have hevents : ((cosmosClient .a defaultClient).ibcEvents channelFirst).filter
      (IbcEventWithHeight.isOf clientThenChannel) =
        [⟨.openInitChannel ChannelAttributes.default, ⟨0, 5, by decide⟩, ⟨0, 1⟩⟩,
          ⟨.createClient ClientAttributes.default, ⟨0, 5, by decide⟩, ⟨0, 0⟩⟩] := by
    decide +kernel
  rw [hevents] at hsorted
  rcases (List.pairwise_cons.mp hsorted).1 _ (List.mem_singleton_self _) with hlt | ⟨-, hlt | hlt⟩
  · exact absurd hlt (lt_irrefl 5)
  · exact absurd hlt (lt_irrefl 0)
  · exact absurd hlt.2 (by decide)

end HyperspaceLight
