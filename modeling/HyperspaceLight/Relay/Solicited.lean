/-
# No message without an event

What the relay loop submits, in every run: a transaction goes to the counterparty
of the chain whose finality event is processed, and each of its messages is a
client update to a height that this chain has reached, or the answer to an event
that this chain emitted in one of its blocks and that the relayer has processed
(`Solicited`).  In particular no packet is ever timed out: the branch of
`process_finality_event!` that submits timeouts to the source is never taken
(`Solicited.timeoutOf_eq_none`).
-/

import HyperspaceLight.Core.TimeoutBound
import HyperspaceLight.Relay.Driver
import HyperspaceLight.Relay.Submission
import HyperspaceLight.Relay.Translatable

namespace HyperspaceLight

open Interaction

/-- `m` is an update of the client of `s` to a height that this chain has reached, or it answers
an event in a block of this chain, which the relayer has processed. -/
def Solicited [Crates] (X : Chains) (R : Relayer) (w : World) (s : Side) (m : Any) : Prop :=
  (∃ u, m.msg = .updateClient u ∧ u.clientId = (R.client s).clientId ∧
      u.header.signedHeader.height ≤ w.height s) ∨
    ∃ ev c l, m.origin = some ev ∧ Answers ev.event m.msg ∧ ev ∈ X.events s c l ∧
      l ≤ w.height s ∧ (s, ev) ∈ w.processed

/-- Every transaction on record went to the counterparty of its source, and holds messages that
the source has given cause for. -/
def AllSolicited [Crates] (X : Chains) (R : Relayer) (w : World) : Prop :=
  ∀ batch ∈ w.submissions, batch.sink = batch.source.other ∧
    ∀ m ∈ batch.messages, Solicited X R w batch.source m

section

variable [Crates] {X : Chains} {R : Relayer} {foreign : Prop} {s : Side} {w w' : World} {m : Any}
  {messages batch : List Any}

omit [Crates] in
/-- An answer to an event times out no packet. -/
theorem answers_timeoutOf {event : IbcEvent} {m : Msg} (h : Answers event m) :
    m.timeoutOf = none := by
  unfold Answers at h
  split at h
  case h_10 => exact h.elim
  all_goals rfl

/-- **No timeout is solicited.** -/
theorem Solicited.timeoutOf_eq_none (h : Solicited X R w s m) : m.msg.timeoutOf = none := by
  rcases h with ⟨u, hu, -⟩ | ⟨ev, c, l, -, hanswers, -⟩
  · rw [hu]
    rfl
  · exact answers_timeoutOf hanswers

/-! ### What time does not change -/

/-- A solicited message stays so. -/
theorem Solicited.mono (h : Solicited X R w s m) (hheight : w.height s ≤ w'.height s)
    (hprocessed : w.processed ⊆ w'.processed) : Solicited X R w' s m := by
  rcases h with ⟨u, hu, hid, hle⟩ | ⟨ev, c, l, horigin, hanswers, hev, hl, hmem⟩
  · exact .inl ⟨u, hu, hid, hle.trans hheight⟩
  · exact .inr ⟨ev, c, l, horigin, hanswers, hev, hl.trans hheight, hprocessed hmem⟩

/-- A solicited message stays so between submissions. -/
theorem Solicited.later (h : Solicited X R w s m) (hlater : Later w w') :
    Solicited X R w' s m :=
  h.mono (hlater.height_le s) hlater.processed_prefix.subset

/-- The invariant holds later, between submissions. -/
theorem AllSolicited.later (h : AllSolicited X R w) (hlater : Later w w') :
    AllSolicited X R w' := by
  intro batch hbatch
  rw [hlater.submissions_eq] at hbatch
  obtain ⟨hsink, hmessages⟩ := h batch hbatch
  exact ⟨hsink, fun m hm => (hmessages m hm).later hlater⟩

/-- A submission changes nothing about a message. -/
theorem Solicited.broadcast {t : Side} (h : Solicited X R w s m) :
    Solicited X R (w.broadcast t batch) s m :=
  h.mono (World.broadcast_height w t s batch).ge fun _ he => he

/-- **A transaction of messages with a cause.** -/
theorem AllSolicited.broadcast (h : AllSolicited X R w)
    (hbatch : ∀ m ∈ batch, Solicited X R w w.source m) :
    AllSolicited X R (w.broadcast w.source.other batch) := by
  intro b hb
  rcases List.mem_append.mp hb with hb | hb
  · obtain ⟨hsink, hmessages⟩ := h b hb
    exact ⟨hsink, fun m hm => (hmessages m hm).broadcast⟩
  · obtain rfl := List.mem_singleton.mp hb
    exact ⟨rfl, fun m hm => (hbatch m hm).broadcast⟩

/-! ### One iteration -/

/-- The message of an event answers it. -/
theorem parseEvent_answers {A : (o : Net.Op) → Except Error (Net.Res o) → Prop}
    {source : CosmosClient} {sink : IbcProvider Net} {ev : IbcEventWithHeight} {msg : Any}
    {proofHeight : Height}
    (h : (parseEvent source.provider sink ev).Leaf A (.ok (some (msg, proofHeight)))) :
    msg.origin = some ev ∧ Answers ev.event msg.msg := by
  obtain ⟨t, -, hpath⟩ := h.exists_path
  obtain ⟨-, msg', proofHeight', heq, hbuilt⟩ | ⟨-, hnone⟩ := parseEvent_path hpath
  · obtain ⟨rfl, rfl⟩ := Prod.mk.inj (Option.some.inj heq)
    exact hbuilt
  · cases hnone

/-- **The messages that an iteration computes** answer events of the source. -/
theorem iterationMessages_solicited {finalityEvent : FinalityEvent} {timeouts : List Any}
    {proofHeightRef : Height} {eventTypes : List IbcEventType} (hsource : w.source = s)
    (h : (iterationMessages (R.chain s) (R.chain s.other) finalityEvent).Leaf
      ((relayEnv X foreign).Given Passive w w')
      (.ok (some (messages, timeouts, proofHeightRef, eventTypes)))) :
    ∀ m ∈ messages, Solicited X R w' s m := by
  obtain ⟨-, update, events, updateType, hscan, -, hparse⟩ := iterationMessages_returns h
  obtain ⟨c, l, _, hworld⟩ := scan_world hscan
  intro m hm
  obtain ⟨ev, hev, proofHeight, hleaf⟩ :=
    (parseEvents_origin hparse hm).resolve_left List.not_mem_nil
  obtain ⟨horigin, hanswers⟩ := parseEvent_answers hleaf
  have hprocessed := given_processed (parseEvents_logged hparse ev hev)
  rw [hsource] at hprocessed
  rw [hworld.events_eq] at hev
  exact .inr ⟨ev, c, l, horigin, hanswers, hev, hworld.le_height, hprocessed⟩

/-- **One iteration** submits only what the source has given cause for. -/
theorem iteration_solicited {finalityEvent : FinalityEvent} (hw : AllSolicited X R w)
    (hsource : w.source = s) : (relayEnv X foreign).wp (AllSolicited X R) (AllSolicited X R)
      (processFinalityEvent R.fuel (R.chain s) (R.chain s.other) finalityEvent)
      (fun _ => AllSolicited X R) w := by
  refine processFinalityEvent_rule (I := fun w => AllSolicited X R w ∧ w.source = s)
    (kept_of_later fun w w' hlater h => ⟨h.1.later hlater, hlater.source_eq.trans h.2⟩)
    (fun _ h => h.1) (fun _ _ h => h.1) ?_ ⟨hw, hsource⟩
  rintro w₁ w₂ w₃ messages proofHeightRef eventTypes update events updateType hmean₁ hleaf hmean₂
    hmean₃ hread ⟨hw₃, hsource₃⟩
  have hmessages := iterationMessages_solicited hsource hleaf
  obtain ⟨_, _, u, hsecond⟩ := scan_world hread
  have hlater : Later w₁ w₃ := later_of_meanwhile (hmean₂.trans hmean₃)
  have hall : ∀ m ∈ update :: messages, Solicited X R w₃ s m := by
    intro m hm
    rcases List.mem_cons.mp hm with rfl | hm
    · exact .inl ⟨u, hsecond.update_msg, hsecond.update_client, hsecond.header_le_height⟩
    · exact (hmessages m hm).later hlater
  -- in a flush the source stays the same, and its messages keep their cause
  have hkept : (relayEnv X foreign).Kept Passive fun w => AllSolicited X R w ∧ w.source = s ∧
      ∀ m ∈ update :: messages, Solicited X R w s m :=
    kept_of_later fun w w' hlater h => ⟨h.1.later hlater, hlater.source_eq.trans h.2.1,
      fun m hm => (h.2.2 m hm).later hlater⟩
  refine Env.wp_post (fun _ _ h => h.1) (flushMessageBatch_rule (P := AllSolicited X R)
    (K := fun _ w => AllSolicited X R w ∧ w.source = s ∧
      ∀ m ∈ update :: messages, Solicited X R w s m)
    (J := fun _ _ _ w => AllSolicited X R w ∧ w.source = s ∧
      ∀ m ∈ update :: messages, Solicited X R w s m)
    (fun _ => hkept.stable) (fun _ => hkept) (fun _ _ h => h.1) (fun _ _ _ => hkept)
    (fun _ _ _ _ h => h.1) ?_ (fun _ _ _ _ _ _ h hmean _ => hkept.meanwhile hmean h)
    ⟨hw₃, hsource₃, hall⟩)
  rintro seen batch w tx r w' hbatches ⟨hw, hsource, hall⟩ ⟨rfl, -⟩
  have hside : (R.client s.other).side = w.source.other := by rw [R.client_side, hsource]
  have hbatch : ∀ m ∈ batch, Solicited X R w w.source m := by
    intro m hm
    rw [hsource]
    exact hall m (hbatches.subset (List.mem_append_right seen hm))
  have hw' := hw.broadcast hbatch
  rw [← hside] at hw'
  exact ⟨hw', fun _ _ => ⟨hw', hsource, fun m hm => (hall m hm).broadcast⟩⟩

/-- **No message without an event.**  In every state of every run of the relay loop, whatever
others execute and whichever calls fail: each submitted transaction went to the counterparty of
the chain that was processed, and each of its messages is an update of this chain's client to a
height the chain has reached, or answers an event in one of its blocks that the relayer has
processed. -/
theorem relayLoop_solicited (X : Chains) (R : Relayer) (foreign : Prop) (start w : World)
    (ph : Phase Net Error) (hnone : start.submissions = [])
    (h : (relayLoop X R foreign).Runs (start, .idle) (w, ph)) :
    ∀ batch ∈ w.submissions, batch.sink = batch.source.other ∧
      ∀ m ∈ batch.messages, Solicited X R w batch.source m := by
  have hticks : (relayEnv X foreign).Stable (AllSolicited X R) :=
    (kept_of_later fun _ _ hlater h => h.later hlater).stable
  have hstart : AllSolicited X R start := by
    rw [AllSolicited, hnone]
    exact List.forall_mem_nil _
  refine (Loop.invariant hticks hticks (fun _ h => h) ?_ hstart h).1
  rintro w p w' hw ⟨s, finalityEvent, rfl, rfl⟩
  exact iteration_solicited hw rfl

end

/-- The theorem at work: the packet of the schedule is relayed, and was sent. -/
theorem stray_solicited : let _ := Crates.reference
    ∃ w, w.submissions.map (fun batch => batch.messages.length) = [2] ∧
      ∀ batch ∈ w.submissions, batch.sink = batch.source.other ∧
        ∀ m ∈ batch.messages, Solicited strayChains (relayerFor channel7) w batch.source m := by
  intro _
  have hrun : ((relayDriver strayChains (relayerFor channel7) False).exec straySchedule
      (strayStart, .idle)).map (fun c => c.1.submissions.map fun batch => batch.messages.length) =
        some [2] := by decide +kernel
  obtain ⟨⟨w, ph⟩, hexec, hlengths⟩ := Option.map_eq_some_iff.mp hrun
  exact ⟨w, hlengths, relayLoop_solicited strayChains (relayerFor channel7) False strayStart w ph
    rfl (Driver.exec_sound _ hexec)⟩

end HyperspaceLight
