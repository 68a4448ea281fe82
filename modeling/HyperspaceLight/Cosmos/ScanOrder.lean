/-
# The order of the scanned events

The scan goes over the blocks by height, over a block's transactions by their index,
and over the events of a transaction by theirs: the events it returns stand in this
order, whatever the blocks are (`scanned_sorted`).
-/

import HyperspaceLight.Cosmos.Scan

namespace HyperspaceLight

open Interaction

/-- The first event stands before the second one: by block, transaction and index. -/
def IbcEventWithHeight.Before (e e' : IbcEventWithHeight) : Prop :=
  e.height.revisionHeight < e'.height.revisionHeight ∨
    e.height.revisionHeight = e'.height.revisionHeight ∧
      (e.pos.tx < e'.pos.tx ∨ e.pos.tx = e'.pos.tx ∧ e.pos.index < e'.pos.index)

/-- The indices of a list increase. -/
theorem zipIdx_sorted {α : Type} (l : List α) : l.zipIdx.Pairwise fun a b => a.2 < b.2 := by
  have h : (l.zipIdx.map Prod.snd).Pairwise (· < ·) := by
    rw [List.zipIdx_map_snd]
    exact List.pairwise_lt_range'
  exact List.pairwise_map.mp h

section

variable [Crates]

/-- The events of a transaction are in their order. -/
theorem txEvents_sorted (revisionNumber height : ℕ) (tx : DeliverTx × ℕ) :
    (txEvents revisionNumber height tx).Pairwise IbcEventWithHeight.Before := by
  refine (zipIdx_sorted tx.1.events).filterMap (eventAt revisionNumber height tx.2) ?_
  intro a b hlt e he e' he'
  obtain ⟨-, hheight, hpos⟩ := eventAt_height he
  obtain ⟨-, hheight', hpos'⟩ := eventAt_height he'
  refine .inr ⟨hheight.trans hheight'.symm, .inr ?_⟩
  rw [hpos, hpos']
  exact ⟨rfl, hlt⟩

/-- **The events of a block are in order.** -/
theorem blockEvents_sorted (revisionNumber height : ℕ) (results : BlockResults) :
    (blockEvents revisionNumber height results).Pairwise IbcEventWithHeight.Before := by
  refine List.pairwise_flatMap.mpr ⟨fun tx _ => txEvents_sorted revisionNumber height tx, ?_⟩
  refine (zipIdx_sorted _).imp fun hlt e he e' he' => ?_
  obtain ⟨event, -, he⟩ := List.mem_filterMap.mp he
  obtain ⟨event', -, he'⟩ := List.mem_filterMap.mp he'
  obtain ⟨-, hheight, hpos⟩ := eventAt_height he
  obtain ⟨-, hheight', hpos'⟩ := eventAt_height he'
  refine .inr ⟨hheight.trans hheight'.symm, .inl ?_⟩
  rw [hpos, hpos']
  exact hlt

variable {A : (o : Net.Op) → Except Error (Net.Res o) → Prop} {self : CosmosClient}

/-- **The scanned events are in order**, whatever the blocks are. -/
theorem scanned_sorted {revisionNumber c l : ℕ} {events : List IbcEventWithHeight}
    (h : ((List.range' c l).foldlM (self.scanBlock revisionNumber) []).Leaf A (.ok events)) :
    events.Pairwise IbcEventWithHeight.Before := by
  -- the events so far are of blocks that were scanned, and in order if these were
  suffices hscanned : (∀ e ∈ events, e.height.revisionHeight ∈ List.range' c l) ∧
      ((List.range' c l).Pairwise (· < ·) → events.Pairwise IbcEventWithHeight.Before) from
    hscanned.2 List.pairwise_lt_range'
  refine Prog.leaf_foldlM (fun seen evs => (∀ e ∈ evs, e.height.revisionHeight ∈ seen) ∧
    (seen.Pairwise (· < ·) → evs.Pairwise IbcEventWithHeight.Before))
    ⟨List.forall_mem_nil _, fun _ => .nil⟩ ?_ h
  rintro seen height evs evs' ⟨hmem, hsorted⟩ - hstep
  obtain ⟨results, -, rfl⟩ := scanBlock_returns hstep
  refine ⟨fun e he => ?_, fun hseen => ?_⟩
  · rcases List.mem_append.mp he with he | he
    · exact List.mem_append_left _ (hmem e he)
    · rw [(blockEvents_height he).2]
      exact List.mem_append_right _ (List.mem_singleton_self _)
  · obtain ⟨hold, -, hlt⟩ := List.pairwise_append.mp hseen
    refine List.pairwise_append.mpr ⟨hsorted hold, blockEvents_sorted .., fun e he e' he' => ?_⟩
    refine .inl ?_
    rw [(blockEvents_height he').2]
    exact hlt _ (hmem e he) _ (List.mem_singleton_self _)

end

end HyperspaceLight
