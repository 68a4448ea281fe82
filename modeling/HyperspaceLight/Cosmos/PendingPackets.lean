/-
# The delayed path between two Cosmos chains

`query_send_packets`, `query_recv_packets` and `query_client_update_time_and_height` of
`CosmosClient` end in `todo!()`.  So between two Cosmos chains nothing ever comes of
the delayed path: `query_ready_and_timed_out_packets` returns exactly if every
whitelisted channel is skipped, and then with two empty lists, and
`query_maximum_height_for_timeout_proofs` has no height to return.  A channel that is
open or closed ends both of them with an error or a panic.
-/

import HyperspaceLight.Core.Packets
import HyperspaceLight.Core.TimeoutSearch
import HyperspaceLight.Cosmos.Chain

namespace HyperspaceLight

open Interaction

section

variable {A : (o : Net.Op) → Except Error (Net.Res o) → Prop} {source sink : CosmosClient}

/-! ### What is unfinished -/

/-- `query_send_packets` never returns. -/
theorem querySendPackets_unfinished {c : ChannelId} {p : PortId} {seqs : List ℕ}
    {infos : List PacketInfo} : ¬(source.querySendPackets c p seqs).Leaf A (.ok infos) := by
  intro h
  obtain ⟨-, -, h⟩ := Prog.leaf_bind_ok.mp h
  cases h

variable [Crates] {fuel fuel' : ℕ} {tips : Tips}

/-! ### The loop over the whitelist -/

/-- The source answers a channel end that is neither open nor closed. -/
def ChannelSkipped (A : (o : Net.Op) → Except Error (Net.Res o) → Prop) (source : CosmosClient)
    (tips : Tips) (channel : ChannelId × PortId) : Prop :=
  ∃ response channelEnd, (source.queryChannelEnd tips.sourceHeight channel.1 channel.2).Leaf A
      (.ok response) ∧ response.value = some (.ok channelEnd) ∧
    ¬(channelEnd.state = .open ∨ channelEnd.state = .closed)

/-- A channel is passed over exactly if its end is neither open nor closed. -/
theorem queryChannelView_none_iff {c : ChannelId} {p : PortId} :
    (queryChannelView (source.chain fuel) (sink.chain fuel') tips c p).Leaf A (.ok none) ↔
      ChannelSkipped A source tips (c, p) := by
  unfold queryChannelView
  simp only [Prog.leaf_bind_ok, Prog.leaf_okOr_ok, Raw.leaf_tryFrom_ok]
  constructor
  · rintro ⟨response, hresponse, raw, hraw, channelEnd, rfl, h⟩
    split_ifs at h with hstate
    · simp at h
    · exact ⟨response, channelEnd, hresponse, hraw, hstate⟩
  · rintro ⟨response, channelEnd, hresponse, hraw, hstate⟩
    refine ⟨response, hresponse, _, hraw, channelEnd, rfl, ?_⟩
    rw [if_pos hstate]
    rfl

/-- **A round over the whitelist** returns exactly if the channel is skipped. -/
theorem channelStep_cosmos_iff {acc acc' : ReadyPackets} {channel : ChannelId × PortId} :
    (channelStep (source.chain fuel) (sink.chain fuel') tips acc channel).Leaf A (.ok acc') ↔
      acc' = acc ∧ ChannelSkipped A source tips channel := by
  obtain ⟨c, p⟩ := channel
  constructor
  · intro h
    obtain ⟨hview, rfl⟩ | ⟨_, _, infos, _, _, -, -, hinfos, -⟩ := channelStep_returns h
    · exact ⟨rfl, queryChannelView_none_iff.mp hview⟩
    · exact absurd hinfos querySendPackets_unfinished
  · rintro ⟨rfl, hskipped⟩
    exact Prog.leaf_bind_ok.mpr ⟨none, queryChannelView_none_iff.mpr hskipped, rfl⟩

/-- **The loop over the channels** returns only if every channel is passed over. -/
theorem channels_cosmos_iff {acc acc' : ReadyPackets} {channels : List (ChannelId × PortId)} :
    (channels.foldlM (channelStep (source.chain fuel) (sink.chain fuel') tips) acc).Leaf A
        (.ok acc') ↔
      acc' = acc ∧ ∀ channel ∈ channels, ChannelSkipped A source tips channel := by
  induction channels with
  | nil => simp [eq_comm]
  | cons channel channels ih =>
      simp only [List.foldlM_cons, Prog.leaf_bind_ok, channelStep_cosmos_iff, and_assoc,
        exists_eq_left, ih, List.forall_mem_cons]
      constructor
      · rintro ⟨hskipped, rfl, hall⟩
        exact ⟨rfl, hskipped, hall⟩
      · rintro ⟨rfl, hskipped, hall⟩
        exact ⟨hskipped, rfl, hall⟩

/-- The loop for the timeout bound returns only over an empty whitelist. -/
theorem maximumHeightForTimeoutProofs_cosmos {height : Option ℕ}
    (h : (maximumHeightForTimeoutProofs source.provider sink.provider).Leaf A (.ok height)) :
    height = none := by
  unfold maximumHeightForTimeoutProofs at h
  obtain ⟨⟨sourceHeight, _⟩, -, h⟩ := Prog.leaf_bind_ok.mp h
  obtain ⟨⟨sinkHeight, _⟩, -, h⟩ := Prog.leaf_bind_ok.mp h
  refine Prog.leaf_foldlM (fun _ height => height = none) rfl ?_ h
  rintro _ ⟨c, p⟩ _ _ - - hstep
  obtain ⟨seqs, -, hstep⟩ := Prog.leaf_bind_ok.mp hstep
  obtain ⟨infos, hinfos, -⟩ := Prog.leaf_bind_ok.mp hstep
  exact absurd hinfos querySendPackets_unfinished

/-- **Between two Cosmos chains no packet is ever reported.**  Whatever the nodes answer,
`query_ready_and_timed_out_packets` returns exactly if every whitelisted channel is skipped,
with nothing for either chain, and `query_maximum_height_for_timeout_proofs` returns no height. -/
theorem pendingPackets_cosmos (A : (o : Net.Op) → Except Error (Net.Res o) → Prop)
    (source sink : CosmosClient) (fuel fuel' : ℕ) :
    (∀ ready, (queryReadyAndTimedOutPackets (source.chain fuel) (sink.chain fuel')).Leaf A
        (.ok ready) ↔
      ready = ⟨[], []⟩ ∧ ∃ tips,
        (queryTips (source.chain fuel) (sink.chain fuel')).Leaf A (.ok tips) ∧
          ∀ channel ∈ source.channelWhitelist, ChannelSkipped A source tips channel) ∧
    ∀ height, (queryMaximumHeightForTimeoutProofs source.provider sink.provider).Leaf A
      (.ok height) → height = none := by
  constructor
  · intro ready
    simp only [queryReadyAndTimedOutPackets, Prog.leaf_bind_ok, channels_cosmos_iff]
    constructor
    · rintro ⟨tips, htips, rfl, hall⟩
      exact ⟨rfl, tips, htips, hall⟩
    · rintro ⟨rfl, tips, htips, hall⟩
      exact ⟨tips, htips, rfl, hall⟩
  · intro height h
    obtain ⟨answer, hanswer, h⟩ := Prog.leaf_bind_ok.mp h
    cases answer with
    | error e => exact (Outcome.ok.inj h).symm
    | ok found =>
        obtain rfl := Outcome.ok.inj h
        exact maximumHeightForTimeoutProofs_cosmos (Prog.leaf_attempt_ok.mp hanswer)

end

end HyperspaceLight
