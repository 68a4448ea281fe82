/-
# All events of a block

A block has events in three places: before its transactions, in their results and
after them (`BlockResults.allEvents`).  The scan only looks at the transactions, so it
returns all IBC events of the blocks it scans exactly where no IBC event is in the
other two places (`scan_complete_iff`).
-/

import HyperspaceLight.Cosmos.Scan

namespace HyperspaceLight

open Interaction

/-- Sublists piece by piece are a sublist of the whole. -/
theorem flatMap_sublist {α β : Type} {f g : α → List β} {l : List α}
    (h : ∀ a ∈ l, (f a).Sublist (g a)) : (l.flatMap f).Sublist (l.flatMap g) := by
  induction l with
  | nil => exact .slnil
  | cons a l ih =>
      rw [List.flatMap_cons, List.flatMap_cons]
      exact (h a (List.mem_cons_self ..)).append (ih fun a' ha' => h a' (List.mem_cons_of_mem _ ha'))

/-- **Two lists made of pieces of which the first are sublists of the second** are the
same exactly if the pieces are. -/
theorem flatMap_eq_iff_of_sublist {α β : Type} {f g : α → List β} {l : List α}
    (h : ∀ a ∈ l, (f a).Sublist (g a)) : l.flatMap f = l.flatMap g ↔ ∀ a ∈ l, f a = g a := by
  refine ⟨fun heq => ?_, List.flatMap_congr⟩
  induction l with
  | nil => exact fun _ ha => nomatch ha
  | cons a l ih =>
      have hrest : ∀ a' ∈ l, (f a').Sublist (g a') := fun a' ha' => h a' (List.mem_cons_of_mem _ ha')
      have hhead : (f a).Sublist (g a) := h a (List.mem_cons_self ..)
      have htail := (flatMap_sublist hrest).length_le
      rw [List.flatMap_cons, List.flatMap_cons] at heq
      have hlength := congrArg List.length heq
      rw [List.length_append, List.length_append] at hlength
      have hsame : f a = g a := hhead.eq_of_length (by have := hhead.length_le; omega)
      rw [hsame] at heq
      intro a' ha'
      rcases List.mem_cons.mp ha' with rfl | ha'
      · exact hsame
      · exact ih hrest (List.append_cancel_left heq) a' ha'

/-- The events of a block in chain order. -/
def BlockResults.allEvents (results : BlockResults) : List AbciEvent :=
  results.beginBlockEvents.getD [] ++ (results.txsResults.getD []).flatMap DeliverTx.events ++
    results.endBlockEvents.getD []

/-- The events outside of transactions. -/
def BlockResults.outside (results : BlockResults) : List AbciEvent :=
  results.beginBlockEvents.getD [] ++ results.endBlockEvents.getD []

section

variable [Crates]

/-- The IBC event of an ABCI event, tagged with the height of its block. -/
def tagged (revisionNumber height : ℕ) (event : AbciEvent) : Option (IbcEvent × RawHeight) :=
  (decoded event).map fun ev => (ev, ⟨revisionNumber, height⟩)

/-- Every IBC event of the blocks above `c` up to `l`, in chain order. -/
def allChainEvents (revisionNumber : ℕ) (blocks : ℕ → BlockResults) (c l : ℕ) :
    List (IbcEvent × RawHeight) :=
  (List.range' (c + 1) (l - c)).flatMap fun h =>
    (blocks h).allEvents.filterMap (tagged revisionNumber h)

/-- An event as the scan returns it: with the height of its block. -/
def IbcEventWithHeight.tag (e : IbcEventWithHeight) : IbcEvent × RawHeight :=
  (e.event, ⟨e.height.revisionNumber, e.height.revisionHeight⟩)

/-- An event of a transaction is what the decoder makes of it at its block. -/
theorem eventAt_tag {revisionNumber height tx : ℕ} (hpos : 0 < height) (event : AbciEvent × ℕ) :
    (eventAt revisionNumber height tx event).map IbcEventWithHeight.tag =
      tagged revisionNumber height event.1 := by
  unfold eventAt tagged
  cases decoded event.1 with
  | none => rfl
  | some ev =>
      have hnew : Height.new revisionNumber height = some ⟨revisionNumber, height, hpos⟩ :=
        dif_pos hpos
      simp only [Option.bind_eq_bind, Option.bind_some, hnew]
      rfl

/-- The scan sees the IBC events of the transactions of a block. -/
theorem blockEvents_tag {revisionNumber height : ℕ} (hpos : 0 < height) (results : BlockResults) :
    (blockEvents revisionNumber height results).map IbcEventWithHeight.tag =
      ((results.txsResults.getD []).flatMap DeliverTx.events).filterMap
        (tagged revisionNumber height) := by
  have htx : ∀ tx : DeliverTx × ℕ,
      (txEvents revisionNumber height tx).map IbcEventWithHeight.tag =
        tx.1.events.filterMap (tagged revisionNumber height) := by
    intro tx
    rw [txEvents, List.map_filterMap]
    simp only [eventAt_tag hpos]
    conv_rhs => rw [← List.zipIdx_map_fst 0 tx.1.events, List.filterMap_map]
    rfl
  rw [blockEvents, List.map_flatMap, List.filterMap_flatMap]
  simp only [htx]
  conv_rhs => rw [← List.zipIdx_map_fst 0 (results.txsResults.getD []), List.flatMap_map]

/-- The events of the transactions among those of the block. -/
theorem allEvents_filterMap {revisionNumber height : ℕ} (hpos : 0 < height)
    (results : BlockResults) :
    results.allEvents.filterMap (tagged revisionNumber height) =
      (results.beginBlockEvents.getD []).filterMap (tagged revisionNumber height) ++
        ((blockEvents revisionNumber height results).map IbcEventWithHeight.tag ++
          (results.endBlockEvents.getD []).filterMap (tagged revisionNumber height)) := by
  rw [BlockResults.allEvents, List.filterMap_append, List.filterMap_append, List.append_assoc,
    blockEvents_tag hpos]

/-- Nothing is missing from a block exactly if nothing decodes outside of its
transactions. -/
theorem blockEvents_complete_iff {revisionNumber height : ℕ} (hpos : 0 < height)
    (results : BlockResults) :
    (blockEvents revisionNumber height results).map IbcEventWithHeight.tag =
      results.allEvents.filterMap (tagged revisionNumber height) ↔
        ∀ event ∈ results.outside, decoded event = none := by
  have hnil : ∀ events : List AbciEvent,
      events.filterMap (tagged revisionNumber height) = [] ↔
        ∀ event ∈ events, decoded event = none := by
    intro events
    simp only [List.filterMap_eq_nil_iff, tagged, Option.map_eq_none_iff]
  rw [allEvents_filterMap hpos, BlockResults.outside, List.forall_mem_append, ← hnil, ← hnil]
  constructor
  · intro h
    have hlength := congrArg List.length h
    rw [List.length_append, List.length_append] at hlength
    exact ⟨List.eq_nil_of_length_eq_zero (by omega), List.eq_nil_of_length_eq_zero (by omega)⟩
  · rintro ⟨hbegin, hend⟩
    rw [hbegin, hend, List.nil_append, List.append_nil]

/-- What the two nodes answer: one the state of the light client, the other its status and
its blocks. -/
def NodesAnswer (self counterparty : CosmosClient) (clientHeight : Height) (status : Status)
    (blocks : ℕ → BlockResults) : (o : Net.Op) → Except Error (Net.Res o) → Prop
  | .node s (.clientState id), .ok r => s = counterparty.side → id = counterparty.clientId →
      r.value = some (.ok ⟨clientHeight⟩)
  | .node s .status, .ok r => s = self.side → r = status
  | .node s (.blockResults n), .ok r => s = self.side → r = blocks n
  | _, _ => True

omit [Crates] in
/-- Any call may fail. -/
theorem nodesAnswer_error {self counterparty : CosmosClient} {clientHeight : Height}
    {status : Status} {blocks : ℕ → BlockResults} {o : Net.Op} {e : Error} :
    NodesAnswer self counterparty clientHeight status blocks o (.error e) := by
  unfold NodesAnswer
  split
  · next h => cases h
  · next h => cases h
  · next h => cases h
  · trivial

end

/-- **The scan returns every IBC event of the blocks it scans, exactly if none is outside
of a transaction.**  For all blocks, every height of the light client and every status of
the node: the events returned, with their heights, are those of the blocks above the
client's height up to the node's, once each and in chain order and no others, if and only
if nothing decodes among the events at the beginning and at the end of these blocks. -/
theorem scan_complete_iff [Crates] (self counterparty : CosmosClient) (clientHeight : Height)
    (status : Status) (blocks : ℕ → BlockResults) (finalityEvent : FinalityEvent) (update : Any)
    (events : List IbcEventWithHeight) (updateType : UpdateType)
    (h : (self.queryLatestIbcEvents finalityEvent counterparty.provider).Leaf
      (NodesAnswer self counterparty clientHeight status blocks)
        (.ok (update, events, updateType))) :
    events.map IbcEventWithHeight.tag = allChainEvents (Crates.chainVersion status.network) blocks
        clientHeight.revisionHeight status.latestBlockHeight ↔
      ∀ n, clientHeight.revisionHeight < n → n ≤ status.latestBlockHeight →
        ∀ event ∈ (blocks n).outside, decoded event = none := by
  obtain ⟨height, status', highest, trusted, hscan, -⟩ := queryLatestIbcEvents_returns h
  obtain rfl : status' = status := hscan.status_answered rfl
  obtain ⟨answer, cs, hanswer, hvalue, hcs⟩ := hscan.client_answered
  have hheight : clientHeight = height := by
    have hread : answer.value = some (.ok ⟨clientHeight⟩) := hanswer rfl rfl
    rw [hvalue] at hread
    obtain rfl := Except.ok.inj (Option.some.inj hread)
    exact hcs
  subst hheight
  rw [hscan.events_eq fun n results hresults => hresults rfl, chainEvents, List.map_flatMap,
    allChainEvents, flatMap_eq_iff_of_sublist]
  · constructor
    · intro hall n hc hl
      have hmem : n ∈ List.range' (clientHeight.revisionHeight + 1)
          (status'.latestBlockHeight - clientHeight.revisionHeight) :=
        List.mem_range'_1.mpr (by omega)
      exact (blockEvents_complete_iff (by omega) (blocks n)).mp (hall n hmem)
    · intro hall n hmem
      have hbounds := List.mem_range'_1.mp hmem
      exact (blockEvents_complete_iff (by omega) (blocks n)).mpr
        (hall n (by omega) (by omega))
  · intro n hmem
    have hbounds := List.mem_range'_1.mp hmem
    rw [allEvents_filterMap (by omega)]
    exact (List.sublist_append_left _ _).trans (List.sublist_append_right _ _)

/-! ### An event at the end of a block -/

/-- A connection handshake that starts at the end of block 6. -/
def endBlockHandshake : ℕ → BlockResults
  | 6 => ⟨none, none, some [⟨"connection_open_init", [("connection_id", "connection-0")]⟩]⟩
  | _ => ⟨none, none, none⟩

def statusAt (n : ℕ) : Status := ⟨"chain", false, n, seconds n⟩

/-- A node at height 6 and a light client at height 5. -/
def endBlockAnswer : (o : Net.Op) → Except Error (Net.Res o)
  | .node _ .status => .ok (statusAt 6)
  | .node _ .connect => .ok ()
  | .node _ (.clientState _) => .ok ⟨some (.ok ⟨height0 5⟩), some ⟨0, 6⟩⟩
  | .node _ (.abciQuery _ _ _) => .ok ⟨0, "", [], some [1]⟩
  | .node _ (.blockResults n) => .ok (endBlockHandshake n)
  | .node _ (.lightBlock .highest) => .ok ⟨⟨6, seconds 6⟩, [], []⟩
  | .node _ (.lightBlock (.at n)) => .ok ⟨⟨n, seconds n⟩, [], []⟩
  | _ => .error (.external "unavailable")

/-- The example nodes answer from their blocks. -/
theorem endBlockAnswer_answers (o : Net.Op) :
    NodesAnswer (cosmosClient .a client0) (cosmosClient .b client0) (height0 5) (statusAt 6)
      endBlockHandshake o (endBlockAnswer o) := by
  unfold endBlockAnswer
  split
  all_goals first | exact fun _ => rfl | exact fun _ _ => rfl | exact nodesAnswer_error | trivial

/-- The scan of the example, which finds nothing. -/
theorem endBlockHandshake_scan : ∃ update,
    (@CosmosClient.queryLatestIbcEvents (cosmosClient .a client0) Crates.reference 6
      (@CosmosClient.provider (cosmosClient .b client0) Crates.reference)).Leaf
        (NodesAnswer (cosmosClient .a client0) (cosmosClient .b client0) (height0 5) (statusAt 6)
          endBlockHandshake) (.ok (update, [], .optional)) :=
  ⟨_, Prog.leaf_eval endBlockAnswer_answers _⟩

/-- The hypothesis of `scan_complete_iff` can be met. -/
theorem endBlockHandshake_iff :
    [] = @allChainEvents Crates.reference 0 endBlockHandshake 5 6 ↔
      ∀ n, 5 < n → n ≤ 6 → ∀ event ∈ (endBlockHandshake n).outside,
        @decoded Crates.reference event = none := by
  obtain ⟨update, h⟩ := endBlockHandshake_scan
  let _ := Crates.reference
  exact scan_complete_iff (cosmosClient .a client0) (cosmosClient .b client0) (height0 5)
    (statusAt 6) endBlockHandshake 6 update [] .optional h

/-- **An event at the end of a block is missed.**  The scan of block 6 returns no events,
and the block has one. -/
theorem endBlockHandshake_missed :
    (∃ update, (@CosmosClient.queryLatestIbcEvents (cosmosClient .a client0) Crates.reference 6
      (@CosmosClient.provider (cosmosClient .b client0) Crates.reference)).Leaf
        (NodesAnswer (cosmosClient .a client0) (cosmosClient .b client0) (height0 5) (statusAt 6)
          endBlockHandshake) (.ok (update, [], .optional))) ∧
    (@allChainEvents Crates.reference 0 endBlockHandshake 5 6).length = 1 := by
  exact ⟨endBlockHandshake_scan, rfl⟩

end HyperspaceLight
