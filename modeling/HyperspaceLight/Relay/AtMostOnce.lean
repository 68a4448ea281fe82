/-
# No event is relayed twice

Between two iterations every event that was relayed is in a block that the light client
knows (`RelayedSoFar`), and an iteration looks only at the blocks above.  An iteration
that ends before its flush has submitted nothing; one whose flush fails is the last.
-/

import HyperspaceLight.Relay.Driver
import HyperspaceLight.Relay.Submission

namespace HyperspaceLight

open Interaction

/-- The places of the events that messages were built from. -/
def placesOf (messages : List Any) : List (ℕ × EventPos) :=
  (messages.filterMap Any.origin).map IbcEventWithHeight.place

/-- The places of two batches are those of both. -/
theorem placesOf_append (messages messages' : List Any) :
    placesOf (messages ++ messages') = placesOf messages ++ placesOf messages' := by
  rw [placesOf, List.filterMap_append, List.map_append]
  rfl

/-- The places of the events of a source whose messages were submitted. -/
def World.relayed (w : World) (s : Side) : List (ℕ × EventPos) :=
  w.submissions.flatMap fun batch => if batch.source = s then placesOf batch.messages else []

/-- **At most once**: no event of either chain was relayed twice. -/
def AtMostOnce (w : World) : Prop := ∀ s, (w.relayed s).Nodup

/-- A batch is relayed for the source of the iteration. -/
theorem World.relayed_broadcast (w : World) (s t : Side) (messages : List Any) :
    (w.broadcast t messages).relayed s =
      w.relayed s ++ if w.source = s then placesOf messages else [] := by
  rw [relayed, broadcast, List.flatMap_append, List.flatMap_singleton]
  rfl

/-- Between submissions nothing more is relayed. -/
theorem Later.relayed_eq {w w' : World} (h : Later w w') (s : Side) :
    w'.relayed s = w.relayed s := by
  rw [World.relayed, h.submissions_eq]
  rfl

/-- What holds between two iterations: nothing was relayed twice, and what was relayed is in
blocks that the light client knows. -/
structure RelayedSoFar (R : Relayer) (w : World) : Prop where
  sound : Sound w
  once : AtMostOnce w
  known : ∀ s, ∀ place ∈ w.relayed s, place.1 ≤ w.clientHeight R s

/-- The invariant holds later, between submissions. -/
theorem RelayedSoFar.later {R : Relayer} {w w' : World} (h : RelayedSoFar R w) (hlater : Later w w')
    (hsound : Sound w') : RelayedSoFar R w' where
  sound := hsound
  once s := by
    rw [hlater.relayed_eq]
    exact h.once s
  known s place hplace := by
    rw [hlater.relayed_eq] at hplace
    exact (h.known s place hplace).trans (hlater.clientHeight_le s)

/-- What was relayed in `base`, and the messages `sent` of events of `s` after it. -/
def RelayedFrom (s : Side) (base : World) (sent : List Any) (w : World) : Prop :=
  ∀ t, w.relayed t = base.relayed t ++ if s = t then placesOf sent else []

/-- A batch is what a flush has relayed more. -/
theorem RelayedFrom.broadcast {s : Side} {base w : World} {sent : List Any}
    (h : RelayedFrom s base sent w) (hsource : w.source = s) (t : Side) (batch : List Any) :
    RelayedFrom s base (sent ++ batch) (w.broadcast t batch) := by
  intro t'
  rw [World.relayed_broadcast, h t', hsource, List.append_assoc]
  split_ifs
  · rw [placesOf_append]
  · rfl

/-- Nothing is relayed twice if the messages are of new events. -/
theorem RelayedFrom.once {s : Side} {base w : World} {messages sent : List Any}
    (h : RelayedFrom s base sent w) (hsent : sent <+: messages) (hbase : AtMostOnce base)
    (hnew : (base.relayed s ++ placesOf messages).Nodup) : AtMostOnce w := by
  intro t
  rw [h t]
  split_ifs with hst
  · subst hst
    obtain ⟨rest, rfl⟩ := hsent
    rw [placesOf_append, ← List.append_assoc] at hnew
    exact (List.nodup_append.mp hnew).1
  · rw [List.append_nil]
    exact hbase t

/-! ### Runs -/

section

variable [Crates] {X : Chains} {R : Relayer} {foreign : Prop} {s : Side} {base w : World}
  {messages : List Any}

/-- The invariant is kept by moves and reads. -/
theorem RelayedSoFar.kept : (relayEnv X foreign).Kept Passive
    fun w => RelayedSoFar R w ∧ w.source = s := by
  rintro w w' ⟨h, hsource⟩ (ht | ⟨o, r, ho, rfl, -⟩)
  · exact ⟨h.later ht.still.toLater (h.sound.tick ht), ht.still.source_eq.trans hsource⟩
  · exact ⟨h.later (later_after ho) (h.sound.after o), (later_after ho).source_eq.trans hsource⟩

/-- The messages of new events are of events that were not relayed. -/
theorem nodup_new (hbase : RelayedSoFar R base) {c l : ℕ}
    (hc : ∀ place ∈ base.relayed s, place.1 ≤ c)
    (horigins : (messages.filterMap Any.origin).Sublist (X.events s c l)) :
    (base.relayed s ++ placesOf messages).Nodup := by
  refine List.nodup_append.mpr ⟨hbase.once s, ?_, fun place hplace place' hplace' heq => ?_⟩
  · exact List.pairwise_map.mpr ((chainEvents_places _ _ c l).sublist horigins)
  · obtain ⟨ev, hev, rfl⟩ := List.mem_map.mp hplace'
    obtain ⟨n, hn, -, hblock⟩ := mem_chainEvents.mp (horigins.subset hev)
    have hle : place.1 ≤ c := hc place hplace
    have hheight : ev.place.1 = n := (blockEvents_height hblock).2
    rw [heq] at hle
    omega

/-- **A flush.**  The messages are of events between `c` and `l`, nothing above `c` was relayed
before, and the update leads to `l` at least. -/
theorem flush_once (hids : ∀ s, (R.client s).clientId = (R.client s.other).clientId)
    {C : World → Prop} (hbase : RelayedSoFar R base) (hsource : base.source = s) {update : Any}
    {u : MsgUpdateClient} {c l : ℕ} (hc : ∀ place ∈ base.relayed s, place.1 ≤ c)
    (horigins : (messages.filterMap Any.origin).Sublist (X.events s c l))
    (hupdate : update.msg = .updateClient u) (horigin : update.origin = none)
    (hid : u.clientId = (R.client s).clientId) (hl : l ≤ u.header.signedHeader.height) :
    ((relayEnv X foreign).within C).wp AtMostOnce AtMostOnce
      (flushMessageBatch (update :: messages) ((R.client s.other).chain R.fuel))
      (fun _ => RelayedSoFar R) base := by
  have hplaces : placesOf (update :: messages) = placesOf messages := by
    rw [placesOf, List.filterMap_cons_none horigin]
    rfl
  have hnew : (base.relayed s ++ placesOf (update :: messages)).Nodup := by
    rw [hplaces]
    exact nodup_new hbase hc horigins
  refine Env.wp_post (fun _ w h => ?_) (flush_rule
    (G := fun sent w => sent <+: update :: messages ∧ RelayedFrom s base sent w)
    (fun sent => (kept_of_later fun w w' hlater hw =>
      ⟨hw.1, fun t => (hlater.relayed_eq t).trans (hw.2 t)⟩).within)
    (fun sent _ w _ h => h.2.once h.1 hbase.once hnew)
    (fun sent batch w hbatches hflush h _ =>
      ⟨hbatches, h.2.broadcast hflush.source_eq s.other batch⟩)
    hsource ⟨List.nil_prefix, fun t => by simp [placesOf]⟩)
  obtain ⟨hflush, hsent, hrelayed⟩ := h
  -- the update is executed, and the light client knows the blocks of all events
  have hknown := hflush.updated hbase.sound update (List.mem_cons_self ..) u hupdate
  rw [hid, hids] at hknown
  have hheight : l ≤ w.clientHeight R s := hl.trans (TrackedClient.le_latest _ _ hknown)
  refine ⟨hflush.sound hbase.sound, hrelayed.once hsent hbase.once hnew, fun t place hplace => ?_⟩
  rw [hrelayed t, hplaces] at hplace
  rcases List.mem_append.mp hplace with hold | hsent
  · exact (hbase.known t place hold).trans (hflush.clientHeight_le t)
  · split_ifs at hsent with hst
    · subst hst
      obtain ⟨ev, hev, rfl⟩ := List.mem_map.mp hsent
      obtain ⟨n, -, hn, hblock⟩ := mem_chainEvents.mp (horigins.subset hev)
      have hplaceHeight : ev.place.1 = n := (blockEvents_height hblock).2
      omega
    · cases hsent

/-- **One iteration.**  It looks at blocks above everything that was relayed before. -/
theorem iteration_once (hids : ∀ s, (R.client s).clientId = (R.client s.other).clientId)
    {C : World → Prop} {finalityEvent : FinalityEvent} (hw : RelayedSoFar R w)
    (hsource : w.source = s) : ((relayEnv X foreign).within C).wp AtMostOnce AtMostOnce
      (processFinalityEvent R.fuel (R.chain s) (R.chain s.other) finalityEvent)
      (fun _ => RelayedSoFar R) w := by
  refine processFinalityEvent_rule (I := fun w => RelayedSoFar R w ∧ w.source = s)
    RelayedSoFar.kept.within (fun _ h => h.1.once) (fun _ _ h => h.1) ?_ ⟨hw, hsource⟩
  rintro w₁ w₂ w₃ messages proofHeightRef eventTypes update events updateType hmean₁ hleaf hmean₂
    hmean₃ hread ⟨hw₃, hsource₃⟩
  obtain ⟨-, update₁, events₁, updateType₁, hscan₁, -, hparse⟩ := iterationMessages_returns hleaf
  obtain ⟨c, l, _, hfirst⟩ := scan_world (hscan₁.mono fun _ _ => Env.Given.of_within)
  obtain ⟨_, _, u, hsecond⟩ := scan_world (hread.mono fun _ _ => Env.Given.of_within)
  have hlater₂ : Later w₁ w₂ := later_of_meanwhile (Env.Meanwhile.of_within hmean₂)
  have hlater : Later w w₃ :=
    later_of_meanwhile (Env.Meanwhile.of_within ((hmean₁.trans hmean₂).trans hmean₃))
  have horigins := parseEvents_origins hparse
  rw [hfirst.events_eq] at horigins
  refine flush_once hids hw₃ hsource₃ (fun place hplace => ?_) horigins hsecond.update_msg
    hsecond.update_origin hsecond.update_client ?_
  · -- what was relayed before is in blocks that the client knew at the first scan
    rw [hlater.relayed_eq] at hplace
    exact (hw.known s place hplace).trans hfirst.clientHeight_le
  · exact (hfirst.le_height.trans (hlater₂.height_le s)).trans hsecond.height_le_header

/-- **No event is relayed twice.**  In every state of every run of the relay loop between two
chains configured with one client id, whatever others execute: no event of either chain was
translated into two submitted messages. -/
theorem relayLoop_atMostOnce (X : Chains) (R : Relayer) (foreign : Prop)
    (hids : ∀ s, (R.client s).clientId = (R.client s.other).clientId) (start w : World)
    (ph : Phase Net Error) (hsound : Sound start) (hnone : start.submissions = [])
    (h : (relayLoop X R foreign).Runs (start, .idle) (w, ph)) : AtMostOnce w := by
  have hrelayed : ∀ s, start.relayed s = [] := fun s => by rw [World.relayed, hnone]; rfl
  have hstart : RelayedSoFar R start := by
    refine ⟨hsound, fun s => ?_, fun s place hplace => ?_⟩
    · rw [hrelayed]
      exact List.nodup_nil
    · rw [hrelayed] at hplace
      cases hplace
  have hrun := h.within (C := fun _ => True) (fun _ _ _ _ => trivial) trivial
  refine (Loop.invariant (L := (relayLoop X R foreign).within fun _ => True)
    (I := RelayedSoFar R) (P := AtMostOnce)
    (fun w w' h ht => h.later ht.1.still.toLater (h.sound.tick ht.1))
    (fun w w' h ht s => by rw [ht.1.still.relayed_eq]; exact h s) (fun _ h => h.once) ?_ hstart
    hrun).1
  rintro w p w' hw ⟨⟨s, finalityEvent, rfl, rfl⟩, -⟩
  exact iteration_once hids ⟨hw.sound.start s, hw.once, hw.known⟩ rfl

end

/-! ### Two iterations -/

/-- The packet of `strayBlocks` is relayed, and a second iteration has nothing to submit. -/
def twiceSchedule : List (Act NodeMove (Side × FinalityEvent)) :=
  [.start (.a, 0), .answers 18, .tick (.block .a), .answers 15, .tick (.commit .b 0), .answers 2,
    .finish, .tick (.block .a), .start (.a, 1), .answers 40, .finish]

def twicePlaces : Option (List (ℕ × EventPos)) :=
  ((@relayDriver Crates.reference strayChains (relayerFor channel7) False).exec twiceSchedule
    (strayStart, .idle)).map fun c => c.1.relayed .a

/-- The hypotheses of `relayLoop_atMostOnce` hold in a run with two iterations that relays the
packet. -/
theorem twice_atMostOnce : ∃ w, AtMostOnce w ∧ w.relayed .a = [(2, ⟨0, 0⟩)] := by
  have hplaces : twicePlaces = some [(2, ⟨0, 0⟩)] := by decide +kernel
  obtain ⟨⟨w, ph⟩, hexec, hrelayed⟩ := Option.map_eq_some_iff.mp hplaces
  have hsound : Sound strayStart :=
    { executed := fun s i tx r htx => by cases htx
      asked_le := fun a ha => by cases ha }
  let _ := Crates.reference
  exact ⟨w, relayLoop_atMostOnce strayChains (relayerFor channel7) False (fun _ => rfl) strayStart w
    ph hsound rfl (Driver.exec_sound _ hexec), hrelayed⟩

end HyperspaceLight
