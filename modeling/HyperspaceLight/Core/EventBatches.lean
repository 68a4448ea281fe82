/-
# Events are translated one by one

`parse_events` carries two things from one event to the next: the messages so far, and the
largest proof height so far.  Neither is looked at when an event is translated, so that it
makes no difference how the events of a chain are parted among the iterations: what two lists
give together is what they give one after the other (`parseEvents_append`).
-/

import HyperspaceLight.Core.Events

namespace HyperspaceLight

open Interaction

namespace ParsedEvents

/-- Nothing so far. -/
def start : ParsedEvents := ⟨[], firstProofHeightRef⟩

/-- The one after the other; of two heights with the same number, the first. -/
def append (a b : ParsedEvents) : ParsedEvents where
  messages := a.messages ++ b.messages
  proofHeightRef :=
    if b.proofHeightRef.revisionHeight ≤ a.proofHeightRef.revisionHeight then a.proofHeightRef
    else b.proofHeightRef

/-- No height is below the first one. -/
theorem append_start (a : ParsedEvents) : a.append start = a := by
  have hpos : firstProofHeightRef.revisionHeight ≤ a.proofHeightRef.revisionHeight :=
    a.proofHeightRef.pos
  have href : (a.append start).proofHeightRef = a.proofHeightRef := if_pos hpos
  have hmessages : (a.append start).messages = a.messages := List.append_nil _
  exact congrArg₂ ParsedEvents.mk hmessages href

/-- A message is pushed behind what was there before. -/
theorem push_append (a b : ParsedEvents) (msg : Any) (h : Height) :
    (a.append b).push msg h = a.append (b.push msg h) := by
  obtain ⟨messages, ref⟩ := a
  obtain ⟨messages', ref'⟩ := b
  simp only [append, push, List.append_assoc, ParsedEvents.mk.injEq, true_and]
  split_ifs <;> first | rfl | omega

end ParsedEvents

section Batches

variable {S : Sig} [Logger S] [Crates] {A : (o : S.Op) → Except Error (S.Res o) → Prop}
  {source sink : IbcProvider S}

/-- What came before is carried along. -/
theorem parseEventStep_append (a b : ParsedEvents) (ev : IbcEventWithHeight)
    (acc : ParsedEvents) :
    (parseEventStep source sink (a.append b) ev).Leaf A (.ok acc) ↔
      ∃ b', (parseEventStep source sink b ev).Leaf A (.ok b') ∧ acc = a.append b' := by
  simp only [parseEventStep, Prog.leaf_bind_ok]
  constructor
  · rintro ⟨_, hlog, _ | ⟨msg, h⟩, hparse, hr⟩
    · exact ⟨b, ⟨(), hlog, none, hparse, rfl⟩, (Outcome.ok.inj hr).symm⟩
    · refine ⟨b.push msg h, ⟨(), hlog, some (msg, h), hparse, rfl⟩, ?_⟩
      rw [← ParsedEvents.push_append]
      exact (Outcome.ok.inj hr).symm
  · rintro ⟨b', ⟨_, hlog, _ | ⟨msg, h⟩, hparse, hr⟩, rfl⟩
    · obtain rfl := Outcome.ok.inj hr
      exact ⟨(), hlog, none, hparse, rfl⟩
    · obtain rfl := Outcome.ok.inj hr
      refine ⟨(), hlog, some (msg, h), hparse, ?_⟩
      rw [← ParsedEvents.push_append]
      rfl

/-- **Translating events in two parts.**  `parse_events` returns for two lists of events together
exactly if it returns for each of them; the messages are those of the first and then those
of the second list, and the height to wait for is the larger one. -/
theorem parseEvents_append (events later : List IbcEventWithHeight)
    (messages timeouts : List Any) (proofHeightRef : Height) :
    (parseEvents source sink (events ++ later)).Leaf A (.ok (messages, timeouts, proofHeightRef)) ↔
      ∃ messages₁ height₁ messages₂ height₂,
        (parseEvents source sink events).Leaf A (.ok (messages₁, [], height₁)) ∧
        (parseEvents source sink later).Leaf A (.ok (messages₂, [], height₂)) ∧
        messages = messages₁ ++ messages₂ ∧ timeouts = [] ∧
        proofHeightRef =
          if height₂.revisionHeight ≤ height₁.revisionHeight then height₁ else height₂ := by
  have hlater (acc : ParsedEvents) {acc' : ParsedEvents} :
      (later.foldlM (parseEventStep source sink) acc).Leaf A (.ok acc') ↔
        ∃ b, (later.foldlM (parseEventStep source sink) .start).Leaf A (.ok b) ∧
          acc' = acc.append b := by
    have hmap : (later.foldlM (parseEventStep source sink) (acc.append .start)).Leaf A
        (.ok acc') ↔ ∃ b, (later.foldlM (parseEventStep source sink) .start).Leaf A (.ok b) ∧
          acc' = acc.append b :=
      Prog.leaf_foldlM_map acc.append (parseEventStep_append acc)
    rwa [ParsedEvents.append_start] at hmap
  simp only [parseEvents, Prog.leaf_bind_ok, List.foldlM_append, Prog.leaf_pure,
    Outcome.ok.injEq, Prod.mk.injEq]
  constructor
  · rintro ⟨_, ⟨a, ha, hrest⟩, rfl, rfl, rfl⟩
    obtain ⟨b, hb, rfl⟩ := (hlater a).mp hrest
    exact ⟨a.messages, _, b.messages, _, ⟨a, ha, rfl, trivial, rfl⟩, ⟨b, hb, rfl, trivial, rfl⟩,
      rfl, rfl, rfl⟩
  · rintro ⟨_, _, _, _, ⟨a, ha, rfl, -, rfl⟩, ⟨b, hb, rfl, -, rfl⟩, rfl, rfl, rfl⟩
    exact ⟨a.append b, ⟨a, ha, (hlater a).mpr ⟨b, hb, rfl⟩⟩, rfl, rfl, rfl⟩

end Batches

end HyperspaceLight
