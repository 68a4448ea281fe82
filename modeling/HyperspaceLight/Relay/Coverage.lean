/-
# Blocks that an update jumps over

The events of an iteration are those of its first scan, the update is that of its second,
and the next iteration scans from the height of the update.  A block that appears between
the two is never scanned.  Where no such block has an event (`Quiet`), every event up to
the height of an update, pending or executed, was processed (`Covering`).
-/

import HyperspaceLight.Relay.Driver
import HyperspaceLight.Relay.Submission
import Mathlib.Order.MinMax

namespace HyperspaceLight

open Interaction

/-! ### Updates that are executed -/

/-- A light client is where it was, or where an update has led it. -/
theorem NodeState.exec_latest (n : NodeState) (now : Time) (m : Msg) (id : ClientId) :
    ((n.exec now m).clients id).latest = (n.clients id).latest ∨
      ∃ u : MsgUpdateClient, m = .updateClient u ∧
        ((n.exec now m).clients id).latest = u.header.signedHeader.height := by
  cases m with
  | updateClient u =>
      by_cases hid : id = u.clientId
      · subst hid
        simp only [exec, Function.update_self, TrackedClient.update_latest]
        exact (max_choice _ _).imp_right fun h => ⟨u, rfl, h⟩
      · left
        simp only [exec, Function.update_of_ne hid]
  | _ => exact .inl rfl

/-- The latest height of a client is its own, or that of an executed update. -/
theorem NodeState.execAll_latest (n : NodeState) (now : Time) (ms : List Msg) (id : ClientId) :
    ((n.execAll now ms).clients id).latest = (n.clients id).latest ∨
      ∃ u : MsgUpdateClient, .updateClient u ∈ ms ∧
        ((n.execAll now ms).clients id).latest = u.header.signedHeader.height := by
  induction ms generalizing n with
  | nil => exact .inl rfl
  | cons m ms ih =>
      rcases ih (n.exec now m) with h | ⟨u, hu, h⟩
      · rcases n.exec_latest now m id with h' | ⟨u, rfl, h'⟩
        · exact .inl (h.trans h')
        · exact .inr ⟨u, List.mem_cons_self .., h.trans h'⟩
      · exact .inr ⟨u, List.mem_cons_of_mem m hu, h⟩

/-- After a transaction the latest height is the client's own, or that of an update in it. -/
theorem NodeState.commit_latest (n : NodeState) (now : Time) (i : ℕ) (tx : Tx) (r : DeliverTx)
    (id : ClientId) : ((n.commit now i tx r).clients id).latest = (n.clients id).latest ∨
      ∃ u : MsgUpdateClient, .updateClient u ∈ tx.messages.map Any.msg ∧
        ((n.commit now i tx r).clients id).latest = u.header.signedHeader.height := by
  unfold commit
  split_ifs
  · exact NodeState.execAll_latest _ now _ id
  · exact .inl rfl

/-! ### What is covered -/

/-- The height that an update leads to. -/
def Msg.updateHeight : Msg → Option ℕ
  | .updateClient u => some u.header.signedHeader.height
  | _ => none

/-- Only an update has the height of one. -/
theorem Msg.updateHeight_eq_some {m : Msg} {n : ℕ} (h : m.updateHeight = some n) :
    ∃ u, m = .updateClient u ∧ u.header.signedHeader.height = n := by
  cases m with
  | updateClient u => exact ⟨u, rfl, Option.some.inj h⟩
  | _ => cases h

/-- The heights that the submitted updates lead to, each with the side whose light client is
updated. -/
def World.updateHeights (w : World) : List (Side × ℕ) :=
  w.submissions.flatMap fun batch => batch.messages.filterMap fun any =>
    any.msg.updateHeight.map fun n => (batch.source, n)

section

variable [Crates] (X : Chains) (R : Relayer) (start w : World)

/-- Every event of a source was processed, from where its light client was at the start up
to `n`. -/
def Covered (s : Side) (n : ℕ) : Prop :=
  ∀ ev ∈ X.events s (start.clientHeight R s) n, (s, ev) ∈ w.processed

/-- **No block is jumped over**: every event up to the height of a submitted update was
processed. -/
def NoneSkipped : Prop := ∀ e ∈ w.updateHeights, Covered X R start w e.1 e.2

omit R start in
/-- **No event appears while an iteration is at work.**  Between the height of the source when
it is asked for its status and its height when it is asked for its highest light block there
is no block with an event, in an iteration that submits. -/
def Quiet : Prop :=
  ∀ batch ∈ w.submissions, ∀ l ∈ statusHeights batch.trace batch.source,
    ∀ n ∈ headerHeights batch.trace batch.source, X.events batch.source l n = []

/-- What holds in a run: everything is covered that a light client knows, that a pending update
leads to, and that an update was submitted for. -/
structure Covering : Prop where
  clients : ∀ s, Covered X R start w s (w.clientHeight R s)
  pending : ∀ s, ∀ tx ∈ (w.nodes s).txs, tx.result = none → ∀ u : MsgUpdateClient,
    .updateClient u ∈ tx.messages.map Any.msg →
      Covered X R start w s.other u.header.signedHeader.height
  noneSkipped : NoneSkipped X R start w

end

section

variable [Crates] {X : Chains} {R : Relayer} {start w w' : World} {s : Side} {n : ℕ}

/-- What was processed stays so. -/
theorem Covered.mono (h : Covered X R start w s n) (hprocessed : w.processed <+: w'.processed) :
    Covered X R start w' s n :=
  fun ev hev => hprocessed.subset (h ev hev)

/-- A step that leaves the nodes and the submissions. -/
theorem Covering.mono (h : Covering X R start w) (hnodes : w'.nodes = w.nodes)
    (hsubmissions : w'.submissions = w.submissions) (hprocessed : w.processed <+: w'.processed) :
    Covering X R start w' where
  clients s := by
    rw [World.clientHeight, hnodes]
    exact (h.clients s).mono hprocessed
  pending s tx htx hnone u hu := by
    rw [hnodes] at htx
    exact (h.pending s tx htx hnone u hu).mono hprocessed
  noneSkipped e he := by
    rw [World.updateHeights, hsubmissions] at he
    exact (h.noneSkipped e he).mono hprocessed

/-- A step of one node. -/
theorem Covering.setNode (h : Covering X R start w) {node : NodeState}
    (hlatest : ∀ id, (node.clients id).latest = ((w.nodes s).clients id).latest ∨
      Covered X R start w s.other (node.clients id).latest)
    (htxs : ∀ tx ∈ node.txs, tx.result = none → tx ∈ (w.nodes s).txs) :
    Covering X R start (w.setNode s node) where
  clients t := by
    by_cases ht : t.other = s
    · subst ht
      rw [World.clientHeight, World.setNode_self]
      rcases hlatest (R.client t.other).clientId with heq | hcovered
      · rw [heq]
        exact h.clients t
      · rw [Side.other_other] at hcovered
        exact hcovered
    · rw [World.clientHeight, World.setNode_of_ne w ht]
      exact h.clients t
  pending t tx htx hnone u hu := by
    by_cases ht : t = s
    · subst ht
      rw [World.setNode_self] at htx
      exact h.pending t tx (htxs tx htx hnone) hnone u hu
    · rw [World.setNode_of_ne w ht] at htx
      exact h.pending t tx htx hnone u hu
  noneSkipped := h.noneSkipped

/-- **What happens between two calls covers nothing less.**  A light client is moved only by a
pending update. -/
theorem Covering.tick (h : Covering X R start w) (ht : Tick False w w') :
    Covering X R start w' := by
  cases ht with
  | time t _ => exact h.mono rfl rfl List.prefix_rfl
  | block s => exact h.setNode (fun _ => .inl rfl) fun _ htx _ => htx
  | commit s i tx r htx hpending =>
      refine h.setNode (fun id => ?_) fun tx' htx' hnone => ?_
      · refine (NodeState.commit_latest _ w.now i tx r id).imp_right fun ⟨u, hu, hlatest⟩ => ?_
        rw [hlatest]
        exact h.pending s tx (List.mem_of_getElem? htx) hpending u hu
      · -- the transaction that was executed is not pending any more
        rw [NodeState.commit_txs] at htx'
        rcases List.mem_or_eq_of_mem_set htx' with hold | rfl
        · exact hold
        · cases hnone
  | others hforeign _ _ => exact hforeign.elim
  | channels s _ _ => exact h.setNode (fun _ => .inl rfl) fun _ htx _ => htx

/-- A read keeps the invariant. -/
theorem Covering.after (h : Covering X R start w) {o : NetOp} (ho : Passive o) :
    Covering X R start (w.after o) := by
  rcases passive_iff.mp ho with hread | ⟨ev, rfl⟩
  · obtain ⟨t, ht⟩ := after_reads (w := w) hread
    rw [ht]
    exact h.mono rfl rfl List.prefix_rfl
  · exact h.mono rfl rfl (List.prefix_append _ _)

/-- A batch is submitted whose updates lead to what is covered. -/
theorem Covering.broadcast (h : Covering X R start w) (hsource : w.source = s)
    {messages : List Any} (hupdates : ∀ m ∈ messages, ∀ u, m.msg = .updateClient u →
      Covered X R start w s u.header.signedHeader.height) :
    Covering X R start (w.broadcast s.other messages) where
  clients t := by
    rw [World.broadcast_clientHeight]
    exact h.clients t
  pending t tx htx hnone u hu := by
    by_cases ht : t = s.other
    · subst ht
      rw [World.broadcast, World.setNode_self] at htx
      rcases List.mem_append.mp htx with hold | hnew
      · exact h.pending _ tx hold hnone u hu
      · obtain rfl := List.mem_singleton.mp hnew
        obtain ⟨m, hm, hmsg⟩ := List.mem_map.mp hu
        rw [Side.other_other]
        exact hupdates m hm u hmsg
    · rw [World.broadcast, World.setNode_of_ne w ht] at htx
      exact h.pending t tx htx hnone u hu
  noneSkipped e he := by
    rw [World.updateHeights, World.broadcast, List.flatMap_append, List.mem_append,
      List.flatMap_singleton, List.mem_filterMap] at he
    rcases he with hold | ⟨m, hm, hheight⟩
    · exact h.noneSkipped e hold
    · obtain ⟨n, hn, rfl⟩ := Option.map_eq_some_iff.mp hheight
      obtain ⟨u, hu, rfl⟩ := Msg.updateHeight_eq_some hn
      rw [hsource]
      exact hupdates m hm u hu

/-! ### Runs -/

/-- Any move of a node keeps the invariant. -/
theorem Covering.kept : (relayEnv X False).Kept Passive (Covering X R start) := by
  rintro w w' h (ht | ⟨o, r, ho, rfl, -⟩)
  · exact h.tick ht
  · exact h.after ho

/-- **What two scans cover.**  Up to the client's height everything was processed before, up to
the status of the first scan its events are processed, and above there are none. -/
theorem Covering.scanned {w₁ : World} {c l n : ℕ} (h : Covering X R start w₁)
    (hc : c ≤ w₁.clientHeight R s)
    (hprocessed : ∀ ev ∈ X.events s c l, (s, ev) ∈ w₁.processed) (hquiet : X.events s l n = []) :
    Covered X R start w₁ s n := by
  intro ev hev
  obtain ⟨k, hstart, hkn, hblock⟩ := mem_chainEvents.mp hev
  rcases Nat.lt_or_ge c k with hck | hkc
  · rcases Nat.lt_or_ge l k with hlk | hkl
    · -- a block that appeared during the iteration
      have hnew : ev ∈ X.events s l n := mem_chainEvents.mpr ⟨k, hlk, hkn, hblock⟩
      rw [hquiet] at hnew
      cases hnew
    · exact hprocessed ev (mem_chainEvents.mpr ⟨k, hck, hkl, hblock⟩)
  · exact h.clients s ev (mem_chainEvents.mpr ⟨k, hstart, hkc.trans hc, hblock⟩)

/-- The invariant holds at the start, where no transaction is under way. -/
theorem Covering.initial (hnone : start.submissions = [])
    (hpending : ∀ s, ∀ tx ∈ (start.nodes s).txs, tx.result ≠ none) : Covering X R start start where
  clients s ev hev := by
    obtain ⟨k, hlt, hle, -⟩ := mem_chainEvents.mp hev
    exact absurd hle (Nat.not_le.mpr hlt)
  pending s tx htx hresult := absurd hresult (hpending s tx htx)
  noneSkipped e he := by
    rw [World.updateHeights, hnone] at he
    cases he

/-- **One iteration.**  The update leads to what the two scans cover. -/
theorem iteration_covering {finalityEvent : FinalityEvent} (hw : Covering X R start w)
    (hsource : w.source = s) : ((relayEnv X False).within (Quiet X)).wp (Covering X R start)
      (Covering X R start)
      (processFinalityEvent R.fuel (R.chain s) (R.chain s.other) finalityEvent)
      (fun _ => Covering X R start) w := by
  have hkept : ((relayEnv X False).within (Quiet X)).Kept Passive
      fun w => Covering X R start w ∧ w.source = s := fun w w' h hstep =>
    ⟨Covering.kept.within w w' h.1 hstep,
      (later_of_meanwhile (Env.Meanwhile.of_within (.single hstep))).source_eq.trans h.2⟩
  refine processFinalityEvent_rule hkept (fun _ h => h.1) (fun _ _ h => h.1) ?_ ⟨hw, hsource⟩
  rintro w₁ w₂ w₃ messages proofHeightRef eventTypes update events updateType hmean₁ hleaf hmean₂
    hmean₃ hread ⟨hw₃, hsource₃⟩
  obtain ⟨-, update₁, events₁, updateType₁, hscan₁, -, hparse⟩ := iterationMessages_returns hleaf
  obtain ⟨c, l, _, hfirst⟩ := scan_world (hscan₁.mono fun _ _ => Env.Given.of_within)
  obtain ⟨_, _, u, hsecond⟩ := scan_world (hread.mono fun _ _ => Env.Given.of_within)
  obtain rfl := hfirst.events_eq
  have hprocessed : ∀ ev ∈ X.events s c l, (s, ev) ∈ w₁.processed := fun ev hev =>
    hsource ▸ given_processed (parseEvents_logged hparse ev hev).of_within
  have hw₁ : Covering X R start w₁ := Covering.kept.within.meanwhile hmean₁ hw
  have hlater : Later w₁ w₃ :=
    later_of_meanwhile (Env.Meanwhile.of_within (hmean₂.trans hmean₃))
  refine Env.wp_post (fun _ _ h => h.2) (flush_rule (G := fun _ => Covering X R start)
    (fun _ => Covering.kept.within) (fun _ _ _ _ h => h) ?_ hsource₃ hw₃)
  intro sent batch w hbatches hflush h hquiet
  refine h.broadcast hflush.source_eq fun m hm u' hu' => ?_
  rcases List.mem_cons.mp (hbatches.subset (List.mem_append_right sent hm)) with rfl | hm
  · -- the update of the second scan
    obtain rfl : u = u' := Msg.updateClient.inj (hsecond.update_msg.symm.trans hu')
    have htrace := hlater.trace_prefix.trans hflush.trace_grows
    have hgrows := hlater.processed_prefix.trans hflush.processed_grows
    refine (hw₁.scanned hfirst.le_clientHeight hprocessed ?_).mono hgrows
    have hbatch : ⟨w.source, s.other, batch, fun id => ((w.nodes s.other).clients id).consensus,
        w.trace⟩ ∈ (w.broadcast s.other batch).submissions :=
      List.mem_append_right _ (List.mem_singleton_self _)
    have hevents := hquiet _ hbatch
    rw [hflush.source_eq] at hevents
    exact hevents l (statusHeights_subset htrace s hfirst.status_asked) _
      (headerHeights_subset hflush.trace_grows s hsecond.header_asked)
  · obtain ⟨ev, -, _, hleaf'⟩ := (parseEvents_origin hparse hm).resolve_left List.not_mem_nil
    exact absurd hu' ((parseEvent_translation hleaf').not_update u')

/-- **No block is jumped over where none with an event appears during an iteration.**  For all
chains and relayers, in every state of every run of the relay loop that starts with no pending
transaction, without other parties, and is quiet throughout: when an update is submitted, every
event up to its height, from where the light client was at the start, has been processed. -/
theorem relayLoop_noneSkipped (X : Chains) (R : Relayer) (start w : World) (ph : Phase Net Error)
    (hnone : start.submissions = [])
    (hpending : ∀ s, ∀ tx ∈ (start.nodes s).txs, tx.result ≠ none)
    (h : ((relayLoop X R False).within (Quiet X)).Runs (start, .idle) (w, ph)) :
    NoneSkipped X R start w := by
  have htick : ((relayEnv X False).within (Quiet X)).Stable (Covering X R start) :=
    Covering.kept.within.stable
  refine (Loop.invariant (L := (relayLoop X R False).within (Quiet X)) htick htick (fun _ h => h)
    ?_ (Covering.initial hnone hpending) h).1.noneSkipped
  rintro w p w' hw ⟨⟨s, finalityEvent, rfl, rfl⟩, -⟩
  exact iteration_covering (hw.mono rfl rfl List.prefix_rfl) rfl

end

/-! ### A block that appears between two scans -/

instance [Crates] (X : Chains) (w : World) : Decidable (Quiet X w) :=
  inferInstanceAs (Decidable (∀ batch ∈ w.submissions,
    ∀ l ∈ statusHeights batch.trace batch.source, ∀ n ∈ headerHeights batch.trace batch.source,
      X.events batch.source l n = []))

/-- In block 3 of the first chain a second packet is sent. -/
def lateBlocks : Side → ℕ → BlockResults
  | .a, 3 => ⟨none, some [⟨0, "", [⟨"send_packet", [("packet_sequence", "2"),
      ("packet_src_port", "transfer"), ("packet_src_channel", "channel-7"),
      ("packet_dst_port", "transfer"), ("packet_dst_channel", "channel-0")]⟩]⟩], none⟩
  | s, n => strayBlocks s n

def lateChains : Chains := { strayChains with blocks := lateBlocks }

/-- What the schedule covers, in which block 3 appears after the first scan: whether it is
quiet, where its updates lead, and the places of the events it has processed. -/
def coverage (X : Chains) : Option (Bool × List (Side × ℕ) × List (ℕ × EventPos)) :=
  ((@relayDriver Crates.reference X (relayerFor channel7) False).exec straySchedule
    (strayStart, .idle)).map fun c => (decide (@Quiet Crates.reference X c.1), c.1.updateHeights,
      c.1.processed.map fun e => e.2.place)

/-- The hypotheses of `relayLoop_noneSkipped` hold where block 3 is empty. -/
theorem stray_noneSkipped : ∃ w,
    @NoneSkipped Crates.reference strayChains (relayerFor channel7) strayStart w ∧
      w.updateHeights = [(.a, 3)] := by
  have hcoverage : coverage strayChains = some (true, [(.a, 3)], [(2, ⟨0, 0⟩)]) := by
    decide +kernel
  let _ := Crates.reference
  obtain ⟨⟨w, ph⟩, hexec, hend⟩ := Option.map_eq_some_iff.mp hcoverage
  simp only [Prod.mk.injEq, decide_eq_true_eq] at hend
  have hrun := (Driver.exec_sound _ hexec).within (C := Quiet strayChains)
    (fun _ _ hstep hquiet batch hbatch => hquiet batch ((submissions_grow hstep).subset hbatch))
    hend.1
  exact ⟨w, relayLoop_noneSkipped strayChains (relayerFor channel7) strayStart w ph rfl
    (fun _ _ htx => by cases htx) hrun, hend.2.1⟩

/-- **A block is jumped over.**  The update leads to height 3, and the packet of block 3 was not
processed. -/
theorem late_skipped : ¬∀ w ph, (@relayLoop Crates.reference lateChains (relayerFor channel7)
    False).Runs (strayStart, .idle) (w, ph) →
      @NoneSkipped Crates.reference lateChains (relayerFor channel7) strayStart w := by
  intro h
  have hcoverage : coverage lateChains = some (false, [(.a, 3)], [(2, ⟨0, 0⟩)]) := by
    decide +kernel
  let _ := Crates.reference
  obtain ⟨⟨w, ph⟩, hexec, hend⟩ := Option.map_eq_some_iff.mp hcoverage
  simp only [Prod.mk.injEq] at hend
  obtain ⟨-, hheights, hplaces⟩ := hend
  have hskipped := h w ph (Driver.exec_sound _ hexec) (.a, 3) (by rw [hheights]; simp)
  -- the event of block 3 is among those up to height 3
  have hevents : (3, ⟨0, 0⟩) ∈ (lateChains.events .a 1 3).map IbcEventWithHeight.place := by
    decide +kernel
  obtain ⟨ev, hev, hplace⟩ := List.mem_map.mp hevents
  have hprocessed : ev.place ∈ w.processed.map fun e => e.2.place :=
    List.mem_map_of_mem (hskipped ev hev)
  rw [hplaces, hplace] at hprocessed
  revert hprocessed
  decide

end HyperspaceLight
