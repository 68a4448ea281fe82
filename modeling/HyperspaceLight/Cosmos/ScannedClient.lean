/-
# The client that is scanned and the client that is updated

`client_id()` of a chain is the id of that chain's light client on its counterparty.
`query_latest_ibc_events` reads the client named by the counterparty's id and puts
its own id into the update: the two are one client exactly if the two configured
ids are equal.
-/

import HyperspaceLight.Cosmos.Scan
import HyperspaceLight.Cosmos.TrackedClient

namespace HyperspaceLight

open Interaction

/-- The node of a side answers for client states from `clients`. -/
def ClientsAnswered (side : Side) (clients : ClientId → TrackedClient Height) :
    (o : Net.Op) → Except Error (Net.Res o) → Prop
  | .node s (.clientState id), .ok r => s = side → r.value = some (.ok ⟨(clients id).latest⟩)
  | _, _ => True

/-- Any call may fail. -/
theorem clientsAnswered_error {side : Side} {clients : ClientId → TrackedClient Height} {o : Net.Op}
    {e : Error} : ClientsAnswered side clients o (.error e) := by
  unfold ClientsAnswered
  split
  · next h => cases h
  · trivial

/-- The only client state asked for is that of `id`. -/
def ReadsClient (id : ClientId) : Net.Op → Prop
  | .node _ (.clientState id') => id' = id
  | _ => True

/-- **The scan and the update are about the same client**: only the state of the client
that is updated is read, and the trusted height and the lower bound of the scan are
its latest height, where it has a consensus state. -/
structure ScanMatchesUpdate [Crates] (chain counterparty : CosmosClient) : Prop where
  reads : ∀ finalityEvent, (chain.queryLatestIbcEvents finalityEvent counterparty.provider).Asks
    (fun _ _ => True) (ReadsClient chain.clientId)
  updates : ∀ clients finalityEvent update events updateType,
    (chain.queryLatestIbcEvents finalityEvent counterparty.provider).Leaf
      (ClientsAnswered counterparty.side clients) (.ok (update, events, updateType)) →
    ∃ m, update.msg = .updateClient m ∧ m.clientId = chain.clientId ∧
      m.header.trustedHeight = (clients m.clientId).latest ∧
      m.header.trustedHeight ∈ (clients m.clientId).consensus ∧
      ∀ e ∈ events, (clients m.clientId).latest.revisionHeight < e.height.revisionHeight

section Proofs

variable [Crates] {self counterparty : CosmosClient}

/-- The status of a node at height 1. -/
def firstStatus : Status := ⟨"", false, 1, 0⟩

/-- **The client that is read is named by the counterparty.** -/
theorem reads_counterparty_client {finalityEvent : FinalityEvent} {id : ClientId}
    (h : (self.queryLatestIbcEvents finalityEvent counterparty.provider).Asks (fun _ _ => True)
      (ReadsClient id)) : counterparty.clientId = id := by
  -- any status leads to the query of the client state
  have hstatus : counterparty.latestHeightAndTimestamp.Leaf (fun _ _ => True)
      (.ok (⟨Crates.chainVersion "", 1, Nat.one_pos⟩, .ofTime 0)) :=
    ⟨.ok firstStatus, trivial, rfl⟩
  have hquery := h.of_bind hstatus
  exact (hquery.2 (.ok ()) trivial).1

omit [Crates] in
/-- The scan reads one client of the counterparty. -/
theorem scanAsks_readsClient {o : Net.Op} (h : ScanAsks self counterparty o) :
    ReadsClient counterparty.clientId o := by
  cases h <;> first | rfl | trivial

/-- **The scan and the update are about the same client exactly if the two chains are
configured with the same client id.** -/
theorem scanMatchesUpdate_iff (self counterparty : CosmosClient) :
    ScanMatchesUpdate self counterparty ↔ self.clientId = counterparty.clientId := by
  constructor
  · intro h
    exact (reads_counterparty_client (h.reads 0)).symm
  · intro hid
    refine ⟨fun finalityEvent => ?_, fun clients finalityEvent update events updateType h => ?_⟩
    · rw [hid]
      exact queryLatestIbcEvents_asks.mono fun o => scanAsks_readsClient
    · obtain ⟨clientHeight, status, highest, trusted, hscan, -⟩ := queryLatestIbcEvents_returns h
      obtain ⟨answer, cs, hanswer, hvalue, hcs⟩ := hscan.client_answered
      -- the height read is that of the client named by both ids
      have hheight : (clients self.clientId).latest = clientHeight := by
        have hread : answer.value = some (.ok ⟨(clients counterparty.clientId).latest⟩) :=
          hanswer rfl
        rw [hvalue] at hread
        obtain rfl := Except.ok.inj (Option.some.inj hread)
        rw [hid]
        exact hcs
      refine ⟨_, hscan.update_msg, rfl, hheight.symm, ?_, ?_⟩
      · exact hheight ▸ (clients self.clientId).latest_mem
      · exact hheight.symm ▸ hscan.above

end Proofs

/-! ### Two ids that differ -/

def client1 : ClientId := ⟨"07-tendermint-1", by decide⟩

/-- The clients on the counterparty: the one that is scanned is at height 5, the one
that is updated at height 9. -/
def crossedClients (id : ClientId) : TrackedClient Height :=
  if id = client0 then .single (height0 5) else .single (height0 9)

/-- Two nodes at height 9. -/
def crossedAnswer : (o : Net.Op) → Except Error (Net.Res o)
  | .node _ .status => .ok ⟨"chain", false, 9, seconds 9⟩
  | .node _ .connect => .ok ()
  | .node _ (.clientState id) => .ok ⟨some (.ok ⟨(crossedClients id).latest⟩), some ⟨0, 9⟩⟩
  | .node _ (.abciQuery _ _ _) => .ok ⟨0, "", [], some [1]⟩
  | .node _ (.blockResults _) => .ok ⟨none, none, none⟩
  | .node _ (.lightBlock .highest) => .ok ⟨⟨9, seconds 9⟩, [], []⟩
  | .node _ (.lightBlock (.at n)) => .ok ⟨⟨n, seconds n⟩, [], []⟩
  | _ => .error (.external "unavailable")

/-- The example nodes answer from their clients. -/
theorem crossedAnswer_answers (o : Net.Op) :
    ClientsAnswered .b crossedClients o (crossedAnswer o) := by
  unfold crossedAnswer
  split
  all_goals first | exact fun _ => rfl | exact clientsAnswered_error | trivial

/-- **The update of one client is built on the height of another.**  The chain's own
client is `07-tendermint-1`, the counterparty's `07-tendermint-0`: the update is for
the first, and its trusted height is 5, where only the second has a consensus
state. -/
theorem crossedClients_mismatch :
    ¬@ScanMatchesUpdate Crates.reference (cosmosClient .a client1) (cosmosClient .b client0) ∧
    ∃ update m,
      (@CosmosClient.queryLatestIbcEvents (cosmosClient .a client1) Crates.reference 9
        (@CosmosClient.provider (cosmosClient .b client0) Crates.reference)).Leaf
          (ClientsAnswered .b crossedClients) (.ok (update, [], .optional)) ∧
      update.msg = .updateClient m ∧ m.clientId = client1 ∧
      m.header.trustedHeight = height0 5 ∧
      height0 5 ∉ (crossedClients client1).consensus := by
  let _ := Crates.reference
  refine ⟨fun h => ?_, _, _, Prog.leaf_eval crossedAnswer_answers _, rfl, rfl, rfl, by decide⟩
  exact absurd ((scanMatchesUpdate_iff _ _).mp h) (by decide)

end HyperspaceLight
