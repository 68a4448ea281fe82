/-
# What the scan returns

The events of a block as `query_latest_ibc_events` sees them (`blockEvents`), and its
specification: the events it returns are those of the blocks above the height of
one light client on the counterparty up to its own height, and the update it
returns is built from that client's height and the highest light block.
-/

import HyperspaceLight.Cosmos.ProofQueries
import Mathlib.Data.List.Basic

namespace HyperspaceLight

open Interaction

/-- The indices of a list are all different. -/
theorem zipIdx_pairwise {α : Type} (l : List α) : l.zipIdx.Pairwise fun a b => a.2 ≠ b.2 := by
  have h : (l.zipIdx.map Prod.snd).Nodup := by
    rw [List.zipIdx_map_snd]
    exact List.nodup_range'
  exact List.pairwise_map.mp h

section

variable [Crates]

/-- What the scan makes of one event of a transaction. -/
def eventAt (revisionNumber height tx : ℕ) (event : AbciEvent × ℕ) : Option IbcEventWithHeight := do
  let ev ← decoded event.1
  let height ← Height.new revisionNumber height
  return { event := ev, height, pos := ⟨tx, event.2⟩ }

/-- The events of one transaction that decode. -/
def txEvents (revisionNumber height : ℕ) (tx : DeliverTx × ℕ) : List IbcEventWithHeight :=
  tx.1.events.zipIdx.filterMap (eventAt revisionNumber height tx.2)

/-- The events of the transactions of a block that decode, in chain order. -/
def blockEvents (revisionNumber height : ℕ) (results : BlockResults) : List IbcEventWithHeight :=
  (results.txsResults.getD []).zipIdx.flatMap (txEvents revisionNumber height)

/-- An event has the height of its block and its position in the transaction. -/
theorem eventAt_height {revisionNumber height tx : ℕ} {event : AbciEvent × ℕ}
    {e : IbcEventWithHeight} (h : eventAt revisionNumber height tx event = some e) :
    e.height.revisionNumber = revisionNumber ∧ e.height.revisionHeight = height ∧
      e.pos = ⟨tx, event.2⟩ := by
  simp only [eventAt, Option.bind_eq_bind, Option.bind_eq_some_iff, Height.new_eq_some] at h
  obtain ⟨ev, -, height', ⟨h₁, h₂⟩, h⟩ := h
  obtain rfl := Option.some.inj h
  exact ⟨h₁, h₂, rfl⟩

/-- **Every event of a block has the block's height.** -/
theorem blockEvents_height {revisionNumber height : ℕ} {results : BlockResults}
    {e : IbcEventWithHeight} (h : e ∈ blockEvents revisionNumber height results) :
    e.height.revisionNumber = revisionNumber ∧ e.height.revisionHeight = height := by
  obtain ⟨tx, -, h⟩ := List.mem_flatMap.mp h
  obtain ⟨event, -, h⟩ := List.mem_filterMap.mp h
  obtain ⟨h₁, h₂, -⟩ := eventAt_height h
  exact ⟨h₁, h₂⟩

/-- The events of a transaction are at different places. -/
theorem txEvents_places (revisionNumber height : ℕ) (tx : DeliverTx × ℕ) :
    (txEvents revisionNumber height tx).Pairwise fun e e' => e.place ≠ e'.place := by
  refine (zipIdx_pairwise tx.1.events).filterMap (eventAt revisionNumber height tx.2) ?_
  intro a b hne e he e' he' heq
  obtain ⟨-, -, hpos⟩ := eventAt_height he
  obtain ⟨-, -, hpos'⟩ := eventAt_height he'
  have hposeq : e.pos = e'.pos := (Prod.mk.inj heq).2
  rw [hpos, hpos', EventPos.mk.injEq] at hposeq
  exact hne hposeq.2

/-- The events of a block are at different places. -/
theorem blockEvents_places (revisionNumber height : ℕ) (results : BlockResults) :
    (blockEvents revisionNumber height results).Pairwise fun e e' => e.place ≠ e'.place := by
  refine List.pairwise_flatMap.mpr ⟨fun tx _ => txEvents_places revisionNumber height tx, ?_⟩
  refine (zipIdx_pairwise _).imp fun hne e he e' he' heq => ?_
  obtain ⟨event, -, he⟩ := List.mem_filterMap.mp he
  obtain ⟨event', -, he'⟩ := List.mem_filterMap.mp he'
  obtain ⟨-, -, hpos⟩ := eventAt_height he
  obtain ⟨-, -, hpos'⟩ := eventAt_height he'
  have hposeq : e.pos = e'.pos := (Prod.mk.inj heq).2
  rw [hpos, hpos', EventPos.mk.injEq] at hposeq
  exact hne hposeq.1

/-- The events of the blocks above `c` up to `l`. -/
def chainEvents (revisionNumber : ℕ) (blocks : ℕ → BlockResults) (c l : ℕ) :
    List IbcEventWithHeight :=
  (List.range' (c + 1) (l - c)).flatMap fun h => blockEvents revisionNumber h (blocks h)

/-- An event of a range of blocks is one of a block in the range. -/
theorem mem_chainEvents {revisionNumber : ℕ} {blocks : ℕ → BlockResults} {c l : ℕ}
    {e : IbcEventWithHeight} : e ∈ chainEvents revisionNumber blocks c l ↔
      ∃ h, c < h ∧ h ≤ l ∧ e ∈ blockEvents revisionNumber h (blocks h) := by
  simp only [chainEvents, List.mem_flatMap, List.mem_range'_1]
  constructor
  · rintro ⟨h, hh, he⟩
    exact ⟨h, by omega, by omega, he⟩
  · rintro ⟨h, h₁, h₂, he⟩
    exact ⟨h, by omega, he⟩

/-- **No two events of a stretch of blocks stand in one place.** -/
theorem chainEvents_places (revisionNumber : ℕ) (blocks : ℕ → BlockResults) (c l : ℕ) :
    (chainEvents revisionNumber blocks c l).Pairwise fun e e' => e.place ≠ e'.place := by
  refine List.pairwise_flatMap.mpr ⟨fun h _ => blockEvents_places revisionNumber h (blocks h), ?_⟩
  have hnodup : (List.range' (c + 1) (l - c)).Nodup := List.nodup_range'
  refine hnodup.imp fun {h h'} hne e he e' he' heq => hne ?_
  have hheight := (blockEvents_height he).2
  have hheight' := (blockEvents_height he').2
  have : e.height.revisionHeight = e'.height.revisionHeight := (Prod.mk.inj heq).1
  omega

end

/-! ### What the scan of a client returns -/

section

variable {A : (o : Net.Op) → Except Error (Net.Res o) → Prop} [Crates]

/-- One event of the scan is kept if it decodes. -/
theorem scanEvent_returns {revisionNumber height tx : ℕ} {event : AbciEvent × ℕ}
    {evs evs' : List IbcEventWithHeight}
    (h : (CosmosClient.scanEvent revisionNumber height tx evs event).Leaf A (.ok evs')) :
    evs' = evs ++ (eventAt revisionNumber height tx event).toList := by
  obtain ⟨r, hr, h⟩ := Prog.leaf_bind_ok.mp h
  have hdecoded : r.toOption = decoded event.1 := Prog.leaf_lift_attempt hr
  rw [hdecoded] at h
  unfold eventAt
  cases hev : decoded event.1 with
  | none =>
      rw [hev] at h
      simp only [Prog.leaf_pure, Outcome.ok.injEq] at h
      simp [h]
  | some ev =>
      rw [hev] at h
      obtain ⟨height', hheight, h⟩ := Prog.leaf_bind_ok.mp h
      rw [Prog.leaf_expect_ok] at hheight
      simp only [Prog.leaf_pure, Outcome.ok.injEq] at h
      simp [hheight, h]

/-- **One block.** -/
theorem scanBlock_returns {self : CosmosClient} {revisionNumber height : ℕ}
    {evs evs' : List IbcEventWithHeight}
    (h : (self.scanBlock revisionNumber evs height).Leaf A (.ok evs')) :
    ∃ results, A (.node self.side (.blockResults height)) (.ok results) ∧
      evs' = evs ++ blockEvents revisionNumber height results := by
  obtain ⟨tmHeight, htm, h⟩ := Prog.leaf_bind_ok.mp h
  obtain rfl := TmHeight.tryFrom_returns (Prog.leaf_unwrap_ok.mp htm)
  obtain ⟨results, hresults, h⟩ := Prog.leaf_bind_ok.mp h
  refine ⟨results, Side.leaf_ask_ok.mp hresults, ?_⟩
  unfold blockEvents
  cases htxs : results.txsResults with
  | none =>
      rw [htxs] at h
      simp only [Prog.leaf_pure, Outcome.ok.injEq] at h
      simp [h]
  | some txs =>
      rw [htxs] at h
      refine Prog.leaf_foldlM_append (fun tx _ acc acc' htx => ?_) h
      rw [txEvents, List.filterMap_eq_flatMap_toList]
      exact Prog.leaf_foldlM_append (fun event _ _ _ => scanEvent_returns) htx

/-- What `query_latest_ibc_events` has read when it returns an update and events: the
state of a client on the counterparty, its own status, blocks, and two light
blocks. -/
structure ScanReturns (A : (o : Net.Op) → Except Error (Net.Res o) → Prop)
    (chain counterparty : CosmosClient) (update : Any) (events : List IbcEventWithHeight)
    (clientHeight : Height) (status : Status) (highest trusted : LightBlock) : Prop where
  client_answered : ∃ answer cs, A (.node counterparty.side
    (.clientState counterparty.clientId)) (.ok answer) ∧ answer.value = some (.ok cs) ∧
      cs.latestHeight = clientHeight
  status_answered : A (.node chain.side .status) (.ok status)
  scanned : ((List.range' (clientHeight.revisionHeight + 1)
    (status.latestBlockHeight - clientHeight.revisionHeight)).foldlM
      (chain.scanBlock (Crates.chainVersion status.network)) []).Leaf A (.ok events)
  highest_answered : A (.node chain.side (.lightBlock .highest)) (.ok highest)
  trusted_answered : A (.node chain.side
    (.lightBlock (.at (clientHeight.revisionHeight + 1)))) (.ok trusted)
  update_msg : update.msg = .updateClient ⟨chain.clientId, ⟨highest.signedHeader,
    highest.validators, clientHeight, trusted.validators⟩, counterparty.accountId⟩
  update_origin : update.origin = none

/-- The latest height is that of the node's status. -/
theorem latestHeightAndTimestamp_returns {self : CosmosClient} {height : Height} {time : Timestamp}
    (h : self.latestHeightAndTimestamp.Leaf A (.ok (height, time))) :
    ∃ status, A (.node self.side .status) (.ok status) ∧
      height.revisionNumber = Crates.chainVersion status.network ∧
      height.revisionHeight = status.latestBlockHeight := by
  obtain ⟨status, hstatus, h⟩ := Prog.leaf_bind_ok.mp h
  obtain ⟨_, -, h⟩ := Prog.leaf_bind_ok.mp h
  obtain ⟨height', hheight, h⟩ := Prog.leaf_bind_ok.mp h
  rw [Prog.leaf_okOr_ok, Height.new_eq_some] at hheight
  rw [Prog.leaf_pure, Outcome.ok.injEq, Prod.mk.injEq] at h
  obtain ⟨rfl, -⟩ := h
  exact ⟨status, Side.leaf_ask_ok.mp hstatus, hheight⟩

omit [Crates] in
/-- The header is the highest light block's, over the trusted validators. -/
theorem msgUpdateClientHeader_returns {self : CosmosClient} {trustedHeight : Height}
    {header : Header} {updateType : UpdateType}
    (h : (self.msgUpdateClientHeader trustedHeight).Leaf A (.ok (header, updateType))) :
    ∃ highest trusted, A (.node self.side (.lightBlock .highest)) (.ok highest) ∧
      A (.node self.side (.lightBlock (.at (trustedHeight.revisionHeight + 1)))) (.ok trusted) ∧
      header = ⟨highest.signedHeader, highest.validators, trustedHeight, trusted.validators⟩ ∧
      updateType = .optional := by
  obtain ⟨highest, hhighest, h⟩ := Prog.leaf_bind_ok.mp h
  obtain ⟨height, hheight, h⟩ := Prog.leaf_bind_ok.mp h
  obtain rfl := TmHeight.tryFrom_returns (Prog.leaf_mapErr_ok.mp hheight)
  obtain ⟨next, hnext, h⟩ := Prog.leaf_bind_ok.mp h
  obtain rfl := TmHeight.tryFrom_returns (Prog.leaf_unwrap_ok.mp hnext)
  obtain ⟨trusted, htrusted, h⟩ := Prog.leaf_bind_ok.mp h
  rw [Prog.leaf_pure, Outcome.ok.injEq, Prod.mk.injEq, ite_self] at h
  exact ⟨highest, trusted, Side.leaf_ask_ok.mp hhighest, Side.leaf_ask_ok.mp htrusted,
    h.1.symm, h.2.symm⟩

/-- **The specification of `query_latest_ibc_events`.** -/
theorem queryLatestIbcEvents_returns {self counterparty : CosmosClient} {finalityEvent : FinalityEvent}
    {update : Any} {events : List IbcEventWithHeight} {updateType : UpdateType}
    (h : (self.queryLatestIbcEvents finalityEvent counterparty.provider).Leaf A
      (.ok (update, events, updateType))) :
    ∃ clientHeight status highest trusted,
      ScanReturns A self counterparty update events clientHeight status highest trusted ∧
        updateType = .optional := by
  obtain ⟨⟨cpHeight, _⟩, -, h⟩ := Prog.leaf_bind_ok.mp h
  obtain ⟨response, hresponse, h⟩ := Prog.leaf_bind_ok.mp h
  obtain ⟨answer, hanswer, hvalue, -, -⟩ := queryThenProve_returns hresponse
  obtain ⟨raw, hraw, h⟩ := Prog.leaf_bind_ok.mp h
  obtain ⟨cs, hcs, h⟩ := Prog.leaf_bind_ok.mp h
  rw [Prog.leaf_okOr_ok] at hraw
  rw [Prog.leaf_mapErr_ok, Raw.leaf_tryFrom_ok] at hcs
  obtain ⟨⟨height, _⟩, hheight, h⟩ := Prog.leaf_bind_ok.mp h
  obtain ⟨status, hstatus, hrevision, hlatest⟩ := latestHeightAndTimestamp_returns hheight
  obtain ⟨first, hfirst, h⟩ := Prog.leaf_bind_ok.mp h
  obtain ⟨past, hpast, h⟩ := Prog.leaf_bind_ok.mp h
  obtain rfl := u64Add_returns hfirst
  obtain rfl := u64Add_returns hpast
  obtain ⟨events', hevents, h⟩ := Prog.leaf_bind_ok.mp h
  obtain ⟨⟨header, updateType'⟩, hheader, h⟩ := Prog.leaf_bind_ok.mp h
  obtain ⟨highest, trusted, hhighest, htrusted, rfl, rfl⟩ := msgUpdateClientHeader_returns hheader
  obtain ⟨update', hupdate, h⟩ := Prog.leaf_bind_ok.mp h
  obtain ⟨hmsg, horigin⟩ := Msg.toAny_returns hupdate
  rw [Prog.leaf_pure, Outcome.ok.injEq] at h
  simp only [Prod.mk.injEq] at h
  obtain ⟨rfl, rfl, rfl⟩ := h
  rw [hrevision, hlatest, Nat.add_sub_add_right] at hevents
  refine ⟨cs.latestHeight, status, highest, trusted, ?_, rfl⟩
  exact {
    client_answered := ⟨answer, cs, hanswer, by rw [← hcs, ← hraw]; exact hvalue.symm, rfl⟩
    status_answered := hstatus
    scanned := hevents
    highest_answered := hhighest
    trusted_answered := htrusted
    update_msg := hmsg
    update_origin := horigin }

/-! ### What the scan asks -/

/-- The questions of `query_latest_ibc_events`. -/
inductive ScanAsks (chain counterparty : CosmosClient) : Net.Op → Prop
  | counterpartyStatus : ScanAsks chain counterparty (.node counterparty.side .status)
  | connect : ScanAsks chain counterparty (.node counterparty.side .connect)
  | clientState :
      ScanAsks chain counterparty (.node counterparty.side (.clientState counterparty.clientId))
  | abciQuery (key : Bytes) (height : Option ℕ) :
      ScanAsks chain counterparty (.node counterparty.side (.abciQuery key height true))
  | status : ScanAsks chain counterparty (.node chain.side .status)
  | blockResults (height : ℕ) :
      ScanAsks chain counterparty (.node chain.side (.blockResults height))
  | lightBlock (height : AtHeight) :
      ScanAsks chain counterparty (.node chain.side (.lightBlock height))

section Asks

variable {C : Net.Op → Prop} {self : CosmosClient}

/-- A store query asks for its key, with a proof. -/
theorem queryPath_asks {data : Bytes} {height : Height}
    (h : ∀ n, C (.node self.side (.abciQuery data n true))) :
    (self.queryPath data height true).Asks A C := by
  refine TmHeight.tryFrom_asks.mapErr.bind fun n _ => ?_
  refine (Side.ask_asks (h _)).bind fun response _ => ?_
  refine (Prog.asks_require _ _).bind fun _ _ => ?_
  refine (Prog.asks_require _ _).bind fun _ _ => ?_
  refine (Prog.asks_expect _ _).bind fun _ _ => ?_
  refine (Prog.asks_okOr _ _).bind fun _ _ => ?_
  exact CommitmentProofBytes.tryFrom_asks.mapErr.bind fun _ _ => trivial

omit [Crates] in
/-- Raising a proof height asks for nothing. -/
theorem incerementProofHeight_asks {h : Option RawHeight} :
    (incerementProofHeight h : Prog Net Error (Option RawHeight)).Asks A C := by
  cases h with
  | none => trivial
  | some h => exact u64Add_asks.bind fun _ _ => trivial

/-- A proven gRPC query connects, asks and asks for the proof. -/
theorem queryThenProve_asks {α : Type} {op : NodeOp} {response : op.Res → GrpcResponse α}
    {path : Path} {height : Height} (hconnect : C (.node self.side .connect))
    (hop : C (.node self.side op)) (hproof : ∀ n, C (.node self.side (.abciQuery path.key n true))) :
    (self.queryThenProve op response path height).Asks A C := by
  refine (Side.grpc_asks hconnect hop).bind fun answer _ => ?_
  refine Prog.Asks.bind ?_ fun proof _ => incerementProofHeight_asks.bind fun _ _ => trivial
  refine (Prog.asks_expect _ _).bind fun key hkey => ?_
  rw [Prog.leaf_expect_ok, List.head?_cons, Option.some.injEq] at hkey
  subst hkey
  exact (queryPath_asks hproof).bind fun _ _ => trivial

/-- The latest height asks for the status. -/
theorem latestHeightAndTimestamp_asks (h : C (.node self.side .status)) :
    self.latestHeightAndTimestamp.Asks A C := by
  refine (Side.ask_asks h).bind fun _ _ => ?_
  refine (Prog.asks_require _ _).bind fun _ _ => ?_
  exact (Prog.asks_okOr _ _).bind fun _ _ => trivial

/-- Decoding an event asks for nothing. -/
theorem scanEvent_asks {revisionNumber height tx : ℕ} {evs : List IbcEventWithHeight}
    {event : AbciEvent × ℕ} :
    (CosmosClient.scanEvent revisionNumber height tx evs event).Asks A C := by
  refine Prog.Asks.bind (Prog.asks_done _) fun r _ => ?_
  split
  · exact (Prog.asks_expect _ _).bind fun _ _ => trivial
  · trivial

/-- A block is scanned with one question. -/
theorem scanBlock_asks {revisionNumber height : ℕ} {evs : List IbcEventWithHeight}
    (h : ∀ n, C (.node self.side (.blockResults n))) :
    (self.scanBlock revisionNumber evs height).Asks A C := by
  refine TmHeight.tryFrom_asks.unwrap.bind fun n _ => ?_
  refine (Side.ask_asks (h n)).bind fun results _ => ?_
  split
  · trivial
  · exact Prog.Asks.foldlM (fun evs tx _ =>
      Prog.Asks.foldlM (fun evs event _ => scanEvent_asks) evs) evs

omit [Crates] in
/-- The header of an update asks for light blocks. -/
theorem msgUpdateClientHeader_asks {trustedHeight : Height}
    (h : ∀ n, C (.node self.side (.lightBlock n))) :
    (self.msgUpdateClientHeader trustedHeight).Asks A C := by
  refine (Side.ask_asks (h _)).bind fun _ _ => ?_
  refine TmHeight.tryFrom_asks.mapErr.bind fun _ _ => ?_
  refine TmHeight.tryFrom_asks.unwrap.bind fun _ _ => ?_
  exact (Side.ask_asks (h _)).bind fun _ _ => trivial

/-- **The questions of the scan.** -/
theorem queryLatestIbcEvents_asks {counterparty : CosmosClient} {finalityEvent : FinalityEvent} :
    (self.queryLatestIbcEvents finalityEvent counterparty.provider).Asks A
      (ScanAsks self counterparty) := by
  refine (latestHeightAndTimestamp_asks .counterpartyStatus).bind fun height _ => ?_
  refine (queryThenProve_asks .connect .clientState (.abciQuery _)).bind fun response _ => ?_
  refine (Prog.asks_okOr _ _).bind fun raw _ => ?_
  refine Raw.tryFrom_asks.mapErr.bind fun clientState _ => ?_
  refine (latestHeightAndTimestamp_asks .status).bind fun latest _ => ?_
  refine u64Add_asks.bind fun first _ => u64Add_asks.bind fun past _ => ?_
  refine (Prog.Asks.foldlM (fun evs n _ => scanBlock_asks .blockResults) _).bind fun events _ => ?_
  refine (msgUpdateClientHeader_asks .lightBlock).bind fun header _ => ?_
  exact Msg.toAny_asks.bind fun _ _ => trivial

end Asks

variable {self counterparty : CosmosClient} {update : Any} {events : List IbcEventWithHeight}
  {clientHeight : Height} {status : Status} {highest trusted : LightBlock}

/-- **The events are above the height of the client.** -/
theorem ScanReturns.above
    (h : ScanReturns A self counterparty update events clientHeight status highest trusted) :
    ∀ e ∈ events, clientHeight.revisionHeight < e.height.revisionHeight := by
  refine Prog.leaf_foldlM (fun _ evs => ∀ e ∈ evs,
    clientHeight.revisionHeight < e.height.revisionHeight) (by simp) ?_ h.scanned
  intro seen height evs evs' hevs hheight hstep e he
  obtain ⟨results, -, rfl⟩ := scanBlock_returns hstep
  rcases List.mem_append.mp he with he | he
  · exact hevs e he
  · rw [(blockEvents_height he).2]
    exact (List.mem_range'_1.mp hheight).1

/-- **The events are those of the blocks**, where the node's blocks are fixed. -/
theorem ScanReturns.events_eq {blocks : ℕ → BlockResults}
    (h : ScanReturns A self counterparty update events clientHeight status highest trusted)
    (hblocks : ∀ n results, A (.node self.side (.blockResults n)) (.ok results) →
      results = blocks n) :
    events = chainEvents (Crates.chainVersion status.network) blocks clientHeight.revisionHeight
      status.latestBlockHeight := by
  refine (Prog.leaf_foldlM_append (fun height _ evs evs' hstep => ?_) h.scanned).trans
    (List.nil_append _)
  obtain ⟨results, hresults, rfl⟩ := scanBlock_returns hstep
  rw [hblocks height results hresults]

end

end HyperspaceLight
