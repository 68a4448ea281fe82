/-
# The height that the relay loop awaits

`parse_events` of `src/core/events.rs` returns the messages with one height, and the relay
loop waits until the source has reached that height.  Each arm replaces it by the proof
height of its message if that has the greater revision height, so what is returned is the
first of those with the greatest revision height (`AwaitedSoFar`).  The loop compares whole
heights, revision numbers first: the returned height dominates the proof heights exactly if
none of them is of a later revision (`parseEvents_awaits_iff`).
-/

import HyperspaceLight.Core.EventMessages
import Mathlib.Data.List.Forall2
import Mathlib.Data.List.MinMax

namespace HyperspaceLight

open Interaction

/-- The height is not below the proof height of any message. -/
def Dominates (proofHeightRef : Height) (messages : List Any) : Prop :=
  ∀ m ∈ messages, ∀ h ∈ m.msg.proofHeight, h ≤ proofHeightRef

instance (proofHeightRef : Height) (messages : List Any) :
    Decidable (Dominates proofHeightRef messages) :=
  inferInstanceAs (Decidable (∀ m ∈ messages, ∀ h ∈ m.msg.proofHeight, h ≤ proofHeightRef))

/-- None of the heights is of a later revision than the first of those with the greatest
revision height; the height that the loop starts with comes before them. -/
def NoneLater (heights : List Height) : Prop :=
  ∀ top ∈ (firstProofHeightRef :: heights).argmax Height.revisionHeight,
    ∀ h ∈ heights, h.revisionNumber ≤ top.revisionNumber

section

variable {S : Sig} {A : (o : S.Op) → Except Error (S.Res o) → Prop} {source sink : IbcProvider S}
  {seen : List IbcEventWithHeight} {acc acc' : ParsedEvents} {ev : IbcEventWithHeight}
  {heights : List Height}

/-- The proof heights of messages, with the events whose answers they come from. -/
def HeightsAnswered (A : (o : S.Op) → Except Error (S.Res o) → Prop) (source : IbcProvider S)
    (events : List IbcEventWithHeight) (heights : List Height) : Prop :=
  ∃ translated : List IbcEventWithHeight, translated.Sublist events ∧
    List.Forall₂ (fun ev h => ProofHeightAnswered A source ev h.raw) translated heights

/-- **What the loop over the events keeps.** -/
structure AwaitedSoFar (A : (o : S.Op) → Except Error (S.Res o) → Prop) (source : IbcProvider S)
    (seen : List IbcEventWithHeight) (acc : ParsedEvents) (heights : List Height) : Prop where
  proofHeights : acc.messages.map (fun m => m.msg.proofHeight) = heights.map some
  answered : HeightsAnswered A source seen heights
  ref : (firstProofHeightRef :: heights).argmax Height.revisionHeight = some acc.proofHeightRef

/-- Before the first event no proof height is awaited. -/
theorem awaitedSoFar_nil : AwaitedSoFar A source [] ⟨[], firstProofHeightRef⟩ [] where
  proofHeights := rfl
  answered := ⟨[], List.Sublist.refl _, .nil⟩
  ref := List.argmax_singleton

/-- An event without a message. -/
theorem AwaitedSoFar.skip (h : AwaitedSoFar A source seen acc heights) :
    AwaitedSoFar A source (seen ++ [ev]) acc heights := by
  obtain ⟨translated, hsub, hanswered⟩ := h.answered
  exact ⟨h.proofHeights, ⟨translated, hsub.trans (List.sublist_append_left _ _), hanswered⟩, h.ref⟩

/-- An event with a message: an arm's comparison is a step of `argmax`. -/
theorem AwaitedSoFar.push (h : AwaitedSoFar A source seen acc heights) {msg : Any}
    {proofHeight : Height} (hmsg : EventMessage A source ev msg proofHeight) :
    AwaitedSoFar A source (seen ++ [ev]) (acc.push msg proofHeight) (heights ++ [proofHeight]) := by
  obtain ⟨translated, hsub, hanswered⟩ := h.answered
  refine ⟨?_, ⟨translated ++ [ev], hsub.append (List.Sublist.refl _), ?_⟩, ?_⟩
  · rw [ParsedEvents.push, List.map_append, List.map_append, h.proofHeights, List.map_singleton,
      List.map_singleton, hmsg.proofHeight_eq]
  · exact List.rel_append hanswered (.cons hmsg.answered .nil)
  · rw [← List.cons_append, List.argmax_concat, h.ref]
    simp only [ParsedEvents.push]
    split_ifs with hlt hle hle
    · exact absurd hlt (not_lt.mpr hle)
    · rfl
    · rfl
    · exact absurd (not_le.mp hle) hlt

/-- The returned height has the greatest revision height, so only revisions decide. -/
theorem AwaitedSoFar.dominates_iff (h : AwaitedSoFar A source seen acc heights) :
    Dominates acc.proofHeightRef acc.messages ↔ NoneLater heights := by
  have hmem : ∀ height, height ∈ heights ↔ ∃ m ∈ acc.messages, m.msg.proofHeight = some height := by
    intro height
    have hmap : some height ∈ acc.messages.map (fun m => m.msg.proofHeight) ↔
        height ∈ heights := by
      rw [h.proofHeights, List.mem_map_of_injective (Option.some_injective _)]
    rw [← hmap, List.mem_map]
  have hheight : ∀ height ∈ heights, height.revisionHeight ≤ acc.proofHeightRef.revisionHeight :=
    fun height hheight => List.le_of_mem_argmax (List.mem_cons_of_mem _ hheight) h.ref
  constructor
  · intro hdom top htop height hmemheight
    obtain rfl : acc.proofHeightRef = top := Option.some.inj (h.ref.symm.trans htop)
    obtain ⟨m, hm, hproof⟩ := (hmem height).mp hmemheight
    rcases Height.le_iff.mp (hdom m hm height hproof) with hlt | ⟨heq, -⟩
    · exact hlt.le
    · exact heq.le
  · intro hnone m hm height hproof
    have hmemheight := (hmem height).mpr ⟨m, hm, hproof⟩
    rcases lt_or_eq_of_le (hnone _ h.ref height hmemheight) with hlt | heq
    · exact Height.le_iff.mpr (.inl hlt)
    · exact Height.le_iff.mpr (.inr ⟨heq, hheight height hmemheight⟩)

variable [Logger S] [Crates]

/-- **One event keeps the awaited height**: its message adds the proof height that it raises. -/
theorem parseEventStep_awaits (h : AwaitedSoFar A source seen acc heights)
    (hstep : (parseEventStep source sink acc ev).Leaf A (.ok acc')) :
    ∃ heights', AwaitedSoFar A source (seen ++ [ev]) acc' heights' := by
  obtain ⟨_, -, hstep⟩ := Prog.leaf_bind_ok.mp hstep
  obtain ⟨_ | ⟨msg, proofHeight⟩, hparsed, hstep⟩ := Prog.leaf_bind_ok.mp hstep
  · simp only [Prog.leaf_pure, Outcome.ok.injEq] at hstep
    exact ⟨heights, hstep ▸ h.skip⟩
  · simp only [Prog.leaf_pure, Outcome.ok.injEq] at hstep
    exact ⟨_, hstep ▸ h.push (parseEvent_message hparsed)⟩

end

/-- **The awaited height dominates every proof height exactly if none is of a later
revision.**  For every list of events and all answers with which `parse_events` returns: the
proof heights of the messages are those that the source answered for the events, and the
returned height is not below any of them if and only if none is of a later revision than the
first of those with the greatest revision height. -/
theorem parseEvents_awaits_iff {S : Sig} [Logger S] [Crates]
    (A : (o : S.Op) → Except Error (S.Res o) → Prop) (source sink : IbcProvider S)
    (events : List IbcEventWithHeight) (messages timeouts : List Any) (proofHeightRef : Height)
    (h : (parseEvents source sink events).Leaf A (.ok (messages, timeouts, proofHeightRef))) :
    ∃ heights : List Height, messages.map (fun m => m.msg.proofHeight) = heights.map some ∧
      HeightsAnswered A source events heights ∧
        (Dominates proofHeightRef messages ↔ NoneLater heights) := by
  obtain ⟨acc, hfold, h⟩ := Prog.leaf_bind_ok.mp h
  simp only [Prog.leaf_pure, Outcome.ok.injEq, Prod.mk.injEq] at h
  obtain ⟨rfl, -, rfl⟩ := h
  obtain ⟨heights, hacc⟩ : ∃ heights, AwaitedSoFar A source events acc heights := by
    refine Prog.leaf_foldlM (fun seen acc => ∃ heights, AwaitedSoFar A source seen acc heights)
      ⟨[], awaitedSoFar_nil⟩ ?_ hfold
    rintro seen ev acc acc' ⟨heights, hacc⟩ - hstep
    exact parseEventStep_awaits hacc hstep
  exact ⟨heights, hacc.proofHeights, hacc.answered, hacc.dominates_iff⟩

/-! ### A chain that starts its heights again -/

/-- A source that answers a proof height of the revision that it is asked about. -/
def revisedSource : Chain Static :=
  { (Chain.unavailable (chainInfo "source") : Chain Static) with
    queryChannelEnd := fun height _ _ =>
      pure ⟨some (.ok (openEnd .unordered)), utf8 "proof",
        some ⟨height.revisionNumber, height.revisionHeight + 1⟩⟩ }

/-- Two channels are opened, one before and one after the chain has gone to revision 2. -/
def revisedEvents : List IbcEventWithHeight :=
  [⟨.openInitChannel ⟨transferPort, some channel0, connection0, transferPort, none⟩,
      ⟨1, 8, by decide⟩, ⟨0, 0⟩⟩,
    ⟨.openInitChannel ⟨transferPort, some channel0, connection0, transferPort, none⟩,
      ⟨2, 2, by decide⟩, ⟨0, 0⟩⟩]

/-- The run of the two events, and what is awaited after it. -/
theorem revisedEvents_parsed : ∃ parsed : List Any × List Any × Height,
    (@parseEvents Static Crates.reference _ revisedSource.toIbcProvider
      revisedSource.toIbcProvider revisedEvents).Returns parsed ∧
        (decide (Dominates parsed.2.2 parsed.1), parsed.1.map fun m => m.msg.proofHeight) =
          (false, [some ⟨1, 9, by decide⟩, some ⟨2, 3, by decide⟩]) :=
  Prog.returns_of_outcome (by decide +kernel)

/-- The theorem at work on these events: the proof heights are 1-9 and 2-3. -/
theorem revisedEvents_awaits_iff : ∃ messages timeouts proofHeightRef,
    (@parseEvents Static Crates.reference _ revisedSource.toIbcProvider
      revisedSource.toIbcProvider revisedEvents).Returns (messages, timeouts, proofHeightRef) ∧
    (Dominates proofHeightRef messages ↔ NoneLater [⟨1, 9, by decide⟩, ⟨2, 3, by decide⟩]) := by
  obtain ⟨⟨messages, timeouts, proofHeightRef⟩, hparsed, hend⟩ := revisedEvents_parsed
  let _ := Crates.reference
  obtain ⟨heights, hheights, -, hiff⟩ := parseEvents_awaits_iff _ _ _ _ messages timeouts
    proofHeightRef hparsed
  have hlist : heights = [⟨1, 9, by decide⟩, ⟨2, 3, by decide⟩] :=
    (Option.some_injective _).list_map (hheights.symm.trans (Prod.mk.inj hend).2)
  exact ⟨messages, timeouts, proofHeightRef, hparsed, hlist ▸ hiff⟩

/-- **A proof height above the awaited one.**  The loop waits for 1-9, and the second message
is proved at 2-3. -/
theorem revisedEvents_not_dominated :
    ¬∀ messages timeouts proofHeightRef,
      (@parseEvents Static Crates.reference _ revisedSource.toIbcProvider
        revisedSource.toIbcProvider revisedEvents).Returns (messages, timeouts, proofHeightRef) →
        Dominates proofHeightRef messages := by
  intro h
  obtain ⟨⟨messages, timeouts, proofHeightRef⟩, hparsed, hend⟩ := revisedEvents_parsed
  exact of_decide_eq_false (Prod.mk.inj hend).1 (h messages timeouts proofHeightRef hparsed)

end HyperspaceLight
