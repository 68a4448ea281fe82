/-
# The stream and the scan

The relayer has two ways to an event.  `ibc_events` hears of it from a subscription
of its module; `query_latest_ibc_events` fetches the results of the blocks above
the height of a light client and goes over them.  A subscription may deliver the
transactions in any order, and one that messages of several modules are in arrives
once for each.

Where every transaction of the blocks is delivered once for each module that it has
an event of, the two agree (`ibcEvents_perm_chainEvents`): the stream has each event of
the blocks once, and the scan is the stream in the order of the chain
(`ScanReturns.streamed`).  What has no event of a module, a coin transfer say, need not
be delivered at all.
-/

import HyperspaceLight.Cosmos.EventStream
import Mathlib.Data.List.Nodup

namespace HyperspaceLight

open Interaction

/-! ### A list and its parts -/

section

variable {α κ : Type} {p : κ → α → Bool}

/-- **A list is its parts**, one after the other: what one of several tests takes that no two
of them share. -/
theorem filter_any_perm (ks : List κ) (l : List α)
    (hks : ks.Pairwise fun k k' => ∀ a, p k a = true → p k' a = false) :
    (l.filter fun a => ks.any fun k => p k a).Perm (ks.flatMap fun k => l.filter (p k)) := by
  induction ks with
  | nil => simp
  | cons k ks ih =>
      obtain ⟨hk, hks⟩ := List.pairwise_cons.mp hks
      have hsplit := List.filter_append_perm (p k)
        (l.filter fun a => (k :: ks).any fun k => p k a)
      have hfirst : (l.filter fun a => (k :: ks).any fun k => p k a).filter (p k)
          = l.filter (p k) := by
        rw [List.filter_filter]
        refine List.filter_congr fun a _ => ?_
        cases hpk : p k a <;> simp [hpk]
      have hrest : (l.filter fun a => (k :: ks).any fun k => p k a).filter (fun a => !p k a)
          = l.filter fun a => ks.any fun k => p k a := by
        rw [List.filter_filter]
        refine List.filter_congr fun a _ => ?_
        cases hpk : p k a
        · simp [hpk]
        · have hnone : ks.any (fun k => p k a) = false :=
            List.any_eq_false.mpr fun k' hk' => by simp [hk k' hk' a hpk]
          simp [hpk, hnone]
      rw [hfirst, hrest] at hsplit
      exact hsplit.symm.trans ((ih hks).append_left _)

/-- What is taken of one element: itself, as often as its key occurs. -/
theorem flatMap_if_key [DecidableEq κ] (ks : List κ) (k : κ) (a : α) :
    (ks.flatMap fun k' => if some k = some k' then [a] else []) =
      List.replicate (ks.count k) a := by
  induction ks with
  | nil => rfl
  | cons k' ks ih =>
      rw [List.flatMap_cons, ih, List.count_cons]
      by_cases hk : k = k'
      · simp [hk, List.replicate_succ]
      · simp [hk, Ne.symm hk]

/-- **A list is its parts by key**, in any order of the keys, if the key of each element occurs
once. -/
theorem flatMap_filter_key_perm [DecidableEq κ] (key : α → Option κ) (ks : List κ) {l : List α}
    (h : ∀ a ∈ l, ∃ k, key a = some k ∧ ks.count k = 1) :
    (ks.flatMap fun k => l.filter fun a => key a = some k).Perm l := by
  induction l with
  | nil => simp
  | cons a l ih =>
      obtain ⟨⟨k, hk, honce⟩, hl⟩ := List.forall_mem_cons.mp h
      have hparts : (ks.flatMap fun k' => (a :: l).filter fun b => key b = some k') =
          ks.flatMap fun k' => (if some k = some k' then [a] else []) ++
            l.filter fun b => key b = some k' := by
        refine List.flatMap_congr fun k' _ => ?_
        rw [List.filter_cons, hk]
        by_cases hkey : some k = some k' <;> simp [hkey]
      rw [hparts]
      refine (List.flatMap_append_perm ks _ _).symm.trans ?_
      rw [flatMap_if_key, honce]
      exact (ih hl).cons a

end

/-! ### The transactions of the blocks -/

/-- The transactions of a block as the subscriptions report them. -/
def blockTxs (height : ℕ) (results : BlockResults) : List TxInfo :=
  (results.txsResults.getD []).zipIdx.map fun tx => ⟨Int64.ofNat height, tx.2, tx.1.events⟩

/-- The transactions of the blocks above `c` up to `l`. -/
def chainTxs (blocks : ℕ → BlockResults) (c l : ℕ) : List TxInfo :=
  (List.range' (c + 1) (l - c)).flatMap fun h => blockTxs h (blocks h)

/-- A height that fits is read back from its `i64`. -/
theorem blockHeight_ofNat {height index : ℕ} {events : List AbciEvent}
    (hheight : height ≤ TmHeight.last) :
    (TxInfo.mk (Int64.ofNat height) index events).blockHeight = height := by
  have hlt : height < 2 ^ 64 := Nat.lt_of_le_of_lt hheight (by decide)
  rw [TxInfo.blockHeight, Int64.toUInt64_ofNat', UInt64.toNat_ofNat_of_lt' hlt]

section

variable {blocks : ℕ → BlockResults} {c l : ℕ} {tx : TxInfo}

/-- A transaction of a block has its height. -/
theorem mem_blockTxs {height : ℕ} {results : BlockResults} (hheight : height ≤ TmHeight.last)
    (h : tx ∈ blockTxs height results) : tx.blockHeight = height := by
  obtain ⟨result, -, rfl⟩ := List.mem_map.mp h
  exact blockHeight_ofNat hheight

/-- A transaction of a range of blocks has a height in the range. -/
theorem mem_chainTxs (hl : l ≤ TmHeight.last) (h : tx ∈ chainTxs blocks c l) :
    c < tx.blockHeight ∧ tx.blockHeight ≤ l := by
  obtain ⟨height, hheight, htx⟩ := List.mem_flatMap.mp h
  rw [List.mem_range'_1] at hheight
  have hblock := mem_blockTxs (by omega) htx
  omega

/-- **No two transactions of the blocks stand in one place.** -/
theorem chainTxs_places (hl : l ≤ TmHeight.last) :
    (chainTxs blocks c l).Pairwise fun tx tx' => tx.place ≠ tx'.place := by
  refine List.pairwise_flatMap.mpr ⟨fun height _ => ?_, ?_⟩
  · refine List.pairwise_map.mpr ((zipIdx_pairwise _).imp fun hne heq => hne ?_)
    exact (Prod.mk.inj heq).2
  · have hnodup : (List.range' (c + 1) (l - c)).Nodup := List.nodup_range'
    refine hnodup.imp_of_mem fun {height height'} hh hh' hne tx htx tx' htx' heq => hne ?_
    rw [List.mem_range'_1] at hh hh'
    rw [← mem_blockTxs (by omega) htx, ← mem_blockTxs (by omega) htx']
    exact (Prod.mk.inj heq).1

variable [Crates]

/-- **The events of the blocks are those of their transactions.** -/
theorem chainEvents_eq (revisionNumber : ℕ) (hl : l ≤ TmHeight.last) :
    chainEvents revisionNumber blocks c l
      = (chainTxs blocks c l).flatMap (TxInfo.accepted revisionNumber) := by
  rw [chainTxs, List.flatMap_assoc, chainEvents]
  refine List.flatMap_congr fun height hheight => ?_
  rw [List.mem_range'_1] at hheight
  have htx : ∀ tx : DeliverTx × ℕ, TxInfo.accepted revisionNumber
      ⟨Int64.ofNat height, tx.2, tx.1.events⟩ = txEvents revisionNumber height tx := by
    intro tx
    rw [TxInfo.accepted, blockHeight_ofNat (by omega), txEvents]
  rw [blockTxs, List.flatMap_map, blockEvents]
  exact List.flatMap_congr fun tx _ => (htx tx).symm

end

/-! ### What the stream holds -/

section

variable [Crates] {self : CosmosClient} {deliveries : List (Except String Event)}
  {e : IbcEventWithHeight} {blocks : ℕ → BlockResults} {c l : ℕ}

/-- An event of a module that one delivery yields is accepted in the transaction it delivers. -/
theorem mem_streamEvent {delivery : Event} {events : List IbcEventWithHeight}
    (h : (self.streamEvent (.ok delivery)).outcome = .ok events) (he : e ∈ events)
    (hmodule : e.subscription.isSome) : ∃ t, delivery.data = .tx t ∧
      e ∈ t.accepted (Crates.chainVersion self.chainId) := by
  have hleaf : (self.streamEvent (.ok delivery)).Leaf (fun _ _ => True) (.ok events) :=
    Prog.leaf_none_iff.mpr h
  obtain ⟨query, data⟩ := delivery
  cases data with
  | newBlock block =>
      unfold CosmosClient.streamEvent at hleaf
      obtain ⟨_, heq, hleaf⟩ := Prog.leaf_bind_ok.mp hleaf
      obtain rfl := Option.some.inj (Prog.leaf_expect_ok.mp heq)
      dsimp only at hleaf
      split_ifs at hleaf
      · obtain ⟨n, -, hleaf⟩ := Prog.leaf_bind_ok.mp hleaf
        obtain ⟨height, -, hleaf⟩ := Prog.leaf_bind_ok.mp hleaf
        obtain rfl := Outcome.ok.inj hleaf
        rw [List.mem_singleton.mp he] at hmodule
        cases hmodule
      · obtain rfl := Outcome.ok.inj hleaf
        cases he
  | other =>
      obtain rfl := Outcome.ok.inj hleaf
      cases he
  | tx t =>
      obtain ⟨_, heq, hleaf⟩ := Prog.leaf_bind_ok.mp hleaf
      obtain rfl := Option.some.inj (Prog.leaf_expect_ok.mp heq)
      obtain ⟨height, hheight, hleaf⟩ := Prog.leaf_bind_ok.mp hleaf
      rw [streamTx_returns (Prog.leaf_expect_ok.mp hheight) hleaf] at he
      exact ⟨t, rfl, List.mem_of_mem_filter he⟩

/-- **An event of a module in the stream is of a transaction that was delivered.** -/
theorem mem_ibcEvents (he : e ∈ self.ibcEvents deliveries) (hmodule : e.subscription.isSome) :
    ∃ d ∈ self.heard deliveries, ∃ t, d.data = .tx t ∧
      e ∈ t.accepted (Crates.chainVersion self.chainId) := by
  induction deliveries with
  | nil => cases he
  | cons event deliveries ih =>
      unfold CosmosClient.ibcEvents at he
      unfold CosmosClient.heard
      cases houtcome : (self.streamEvent event).outcome with
      | ok events =>
          obtain ⟨d, rfl, -⟩ := streamEvent_returns houtcome
          rw [houtcome] at he
          rcases List.mem_append.mp he with he | he
          · obtain ⟨t, ht⟩ := mem_streamEvent houtcome he hmodule
            exact ⟨d, List.mem_cons_self, t, ht⟩
          · obtain ⟨d', hd', ht⟩ := ih he
            exact ⟨d', List.mem_cons_of_mem d hd', ht⟩
      | err | panic | spin =>
          rw [houtcome] at he
          cases he

/-- Each transaction of the blocks is delivered once for each module that it has an accepted
event of, and what is delivered of their heights is a transaction of theirs. -/
structure Delivers (chain : CosmosClient) (deliveries : List (Except String Event))
    (blocks : ℕ → BlockResults) (c l : ℕ) : Prop where
  each : ∀ tx ∈ chainTxs blocks c l, ∀ e ∈ tx.accepted (Crates.chainVersion chain.chainId), ∀ m,
    e.subscription = some m →
      ((chain.heard deliveries).filterMap (Event.reports tx)).count m = 1
  own : ∀ d ∈ chain.heard deliveries, ∀ t, d.data = .tx t → c < t.blockHeight →
    t.blockHeight ≤ l → t ∈ chainTxs blocks c l

/-- An event of a module, of the heights above `c` up to `l`. -/
def IbcEventWithHeight.isWithin (c l : ℕ) (e : IbcEventWithHeight) : Bool :=
  c < e.height.revisionHeight ∧ e.height.revisionHeight ≤ l ∧ e.subscription.isSome

omit [Crates] in
/-- A place of the blocks holds one transaction. -/
theorem eq_of_place (hl : l ≤ TmHeight.last) {tx tx' : TxInfo} (htx : tx ∈ chainTxs blocks c l)
    (htx' : tx' ∈ chainTxs blocks c l) (h : tx.place = tx'.place) : tx = tx' :=
  List.inj_on_of_nodup_map (List.pairwise_map.mpr (chainTxs_places hl)) htx htx' h

/-- **The events of a transaction in the stream**, whatever the order of its deliveries. -/
theorem Delivers.events_perm (h : Delivers self deliveries blocks c l) (hl : l ≤ TmHeight.last)
    {tx : TxInfo} (htx : tx ∈ chainTxs blocks c l) :
    ((self.ibcEvents deliveries).filter (IbcEventWithHeight.isOf tx)).Perm
      (tx.accepted (Crates.chainVersion self.chainId)) := by
  have hplace : ∀ d ∈ self.heard deliveries, ∀ t, d.data = .tx t → t.place = tx.place →
      t = tx := by
    intro d hd t ht hplace
    obtain ⟨hc, hle⟩ := mem_chainTxs hl htx
    have hheight : t.blockHeight = tx.blockHeight := congrArg Prod.fst hplace
    exact eq_of_place hl (h.own d hd t ht (hheight ▸ hc) (hheight ▸ hle)) htx hplace
  rw [ibcEvents_follow_deliveries hplace]
  -- the modules part the events of the transaction
  refine flatMap_filter_key_perm IbcEventWithHeight.subscription _ fun e he => ?_
  obtain ⟨-, m, hm⟩ := mem_accepted he
  exact ⟨m, hm, h.each tx htx e he m hm⟩

/-- **The stream has each event of the blocks once.** -/
theorem ibcEvents_perm_chainEvents (h : Delivers self deliveries blocks c l)
    (hl : l ≤ TmHeight.last) :
    ((self.ibcEvents deliveries).filter (IbcEventWithHeight.isWithin c l)).Perm
      (chainEvents (Crates.chainVersion self.chainId) blocks c l) := by
  rw [chainEvents_eq _ hl]
  -- the events of these heights are those of the transactions of the blocks
  have hwithin : (self.ibcEvents deliveries).filter (IbcEventWithHeight.isWithin c l)
      = (self.ibcEvents deliveries).filter fun e =>
          (chainTxs blocks c l).any fun tx => e.isOf tx := by
    refine List.filter_congr fun e he => Bool.eq_iff_iff.mpr ?_
    simp only [IbcEventWithHeight.isWithin, IbcEventWithHeight.isOf, decide_eq_true_eq,
      List.any_eq_true]
    constructor
    · rintro ⟨hc, hle, hmodule⟩
      obtain ⟨d, hd, t, ht, he⟩ := mem_ibcEvents he hmodule
      have hplace := (mem_accepted he).1
      have hheight : e.height.revisionHeight = t.blockHeight := congrArg Prod.fst hplace
      exact ⟨t, h.own d hd t ht (hheight ▸ hc) (hheight ▸ hle), hplace, hmodule⟩
    · rintro ⟨tx, htx, hplace, hmodule⟩
      obtain ⟨hc, hle⟩ := mem_chainTxs hl htx
      have hheight : e.height.revisionHeight = tx.blockHeight := congrArg Prod.fst hplace
      exact ⟨hheight ▸ hc, hheight ▸ hle, hmodule⟩
  rw [hwithin]
  refine (filter_any_perm _ _ ?_).trans (List.Perm.flatMap_left _ fun tx htx => ?_)
  · refine (chainTxs_places hl).imp fun hne e hof => decide_eq_false fun hof' => hne ?_
    exact (of_decide_eq_true hof).1.symm.trans hof'.1
  · exact h.events_perm hl htx

/-- **The scan is the stream in the order of the chain.** -/
theorem ScanReturns.streamed {A : (o : Net.Op) → Except Error (Net.Res o) → Prop}
    {counterparty : CosmosClient} {update : Any} {events : List IbcEventWithHeight}
    {clientHeight : Height} {status : Status} {highest trusted : LightBlock}
    (h : ScanReturns A self counterparty update events clientHeight status highest trusted)
    (hblocks : ∀ n results, A (.node self.side (.blockResults n)) (.ok results) →
      results = blocks n)
    (hchain : Crates.chainVersion status.network = Crates.chainVersion self.chainId)
    (hlast : status.latestBlockHeight ≤ TmHeight.last)
    (hdelivers : Delivers self deliveries blocks clientHeight.revisionHeight
      status.latestBlockHeight) :
    events.Perm ((self.ibcEvents deliveries).filter
        (IbcEventWithHeight.isWithin clientHeight.revisionHeight status.latestBlockHeight)) ∧
      events.Pairwise IbcEventWithHeight.Before := by
  refine ⟨?_, scanned_sorted h.scanned⟩
  rw [h.events_eq hblocks, hchain]
  exact (ibcEvents_perm_chainEvents hdelivers hlast).symm

end

/-! ### A transaction of two modules and one of none -/

/-- A transaction without an event of a module. -/
def coinTransfer : List AbciEvent := [⟨"transfer", [("recipient", "account")]⟩]

/-- A block with two transactions, above the height of the light client. -/
def clientThenChannelBlocks (height : ℕ) : BlockResults :=
  if height = 5 then
    ⟨none, some [⟨0, "", clientThenChannel.events⟩, ⟨0, "", coinTransfer⟩], none⟩
  else ⟨none, none, none⟩

/-- The first transaction as the scan sees it. -/
def clientThenChannelEvents : List IbcEventWithHeight :=
  [⟨.createClient ClientAttributes.default, height0 5, ⟨0, 0⟩⟩,
    ⟨.openInitChannel ChannelAttributes.default, height0 5, ⟨0, 1⟩⟩]

/-- A node at height 5, and a light client at height 4. -/
def clientThenChannelAnswer : (o : Net.Op) → Except Error (Net.Res o)
  | .node _ .status => .ok ⟨"chain", false, 5, seconds 5⟩
  | .node _ (.clientState _) => .ok ⟨some (.ok ⟨height0 4⟩), some ⟨0, 5⟩⟩
  | .node _ (.blockResults n) => .ok (clientThenChannelBlocks n)
  | .node _ (.lightBlock _) => .ok ⟨⟨5, seconds 5⟩, [], []⟩
  | _ => .error (.external "unavailable")

/-- The two deliveries are all that is needed: the first transaction has no event of a
connection, the second one no event at all. -/
theorem channelFirst_delivers : let _ := Crates.reference
    Delivers (cosmosClient .a defaultClient) channelFirst clientThenChannelBlocks 4 5 := by
  intro _
  have htxs : chainTxs clientThenChannelBlocks 4 5 =
      [clientThenChannel, ⟨5, 1, coinTransfer⟩] := by decide +kernel
  refine ⟨?_, ?_⟩ <;> rw [htxs]
  · intro tx htx e he m hm
    rcases List.mem_pair.mp htx with rfl | rfl
    · rw [channelFirst_reports]
      have hmodules : ∀ e ∈ clientThenChannel.accepted 0,
          e.subscription = some .client ∨ e.subscription = some .channel := by decide +kernel
      rcases hmodules e he with hclient | hchannel
      · obtain rfl := Option.some.inj (hclient.symm.trans hm)
        rfl
      · obtain rfl := Option.some.inj (hchannel.symm.trans hm)
        rfl
    · have hnone : TxInfo.accepted 0 ⟨5, 1, coinTransfer⟩ = [] := by decide +kernel
      have hmem : e ∈ TxInfo.accepted 0 ⟨5, 1, coinTransfer⟩ := he
      rw [hnone] at hmem
      cases hmem
  · intro d hd t ht _ _
    rw [channelFirst_heard] at hd
    have hdata : d.data = .tx clientThenChannel := by
      rcases List.mem_pair.mp hd with rfl | rfl <;> rfl
    rw [hdata] at ht
    exact EventData.tx.inj ht ▸ List.mem_cons_self

/-- The scan has the two events in the order of the transaction. -/
theorem channelFirst_streamed : let _ := Crates.reference
    clientThenChannelEvents.Perm (((cosmosClient .a defaultClient).ibcEvents channelFirst).filter
      (IbcEventWithHeight.isWithin 4 5)) := by
  let _ := Crates.reference
  have heval : ((List.range' 5 1).foldlM ((cosmosClient .a defaultClient).scanBlock 0) []).eval
      clientThenChannelAnswer = .ok clientThenChannelEvents := by decide +kernel
  have hscanned : ((List.range' 5 1).foldlM ((cosmosClient .a defaultClient).scanBlock 0) []).Leaf
      (fun o => Eq (clientThenChannelAnswer o)) (.ok clientThenChannelEvents) := by
    rw [← heval]
    exact Prog.leaf_eval (fun _ => rfl) _
  have hscan : ScanReturns (fun o => Eq (clientThenChannelAnswer o))
      (cosmosClient .a defaultClient) (cosmosClient .b defaultClient)
      { typeUrl := "", value := [], origin := none
        msg := .updateClient ⟨defaultClient, ⟨⟨5, seconds 5⟩, [], height0 4, []⟩, "account"⟩ }
      clientThenChannelEvents (height0 4) ⟨"chain", false, 5, seconds 5⟩
      ⟨⟨5, seconds 5⟩, [], []⟩ ⟨⟨5, seconds 5⟩, [], []⟩ := {
    client_answered := ⟨_, _, rfl, rfl, rfl⟩
    status_answered := rfl
    scanned := hscanned
    highest_answered := rfl
    trusted_answered := rfl
    update_msg := rfl
    update_origin := rfl }
  exact (hscan.streamed (fun _ _ h => (Except.ok.inj h).symm) rfl (by decide)
    channelFirst_delivers).1

end HyperspaceLight
