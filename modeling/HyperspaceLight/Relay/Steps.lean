/-
# What one step of the world can change

Between two submissions the world only moves forward: heights and light clients
grow, and the record is extended (`Later`).  A read leaves the processed events and
the current one as they are (`Still`).  `Sound` is what every reachable state
satisfies: a transaction that succeeded has stored the consensus states of its
updates, and no recorded height is above the node's.
-/

import HyperspaceLight.Relay.World
import HyperspaceLight.Relay.Reads

namespace HyperspaceLight

open Interaction

/-! ### Forward moves -/

/-- `w'` comes after `w`, with no submission in between. -/
structure Later (w w' : World) : Prop where
  height_le : ∀ s, w.height s ≤ w'.height s
  clients_extend : ∀ s id, ((w'.nodes s).clients id).Extends ((w.nodes s).clients id)
  trace_prefix : w.trace <+: w'.trace
  processed_prefix : w.processed <+: w'.processed
  submissions_eq : w'.submissions = w.submissions
  source_eq : w'.source = w.source

namespace Later

/-- `Later` is reflexive. -/
theorem refl (w : World) : Later w w :=
  ⟨fun _ => le_rfl, fun _ _ => .rfl, List.prefix_rfl, List.prefix_rfl, rfl, rfl⟩

/-- `Later` is transitive. -/
theorem trans {w w' w'' : World} (h : Later w w') (h' : Later w' w'') : Later w w'' where
  height_le s := (h.height_le s).trans (h'.height_le s)
  clients_extend s id := (h'.clients_extend s id).trans (h.clients_extend s id)
  trace_prefix := h.trace_prefix.trans h'.trace_prefix
  processed_prefix := h.processed_prefix.trans h'.processed_prefix
  submissions_eq := h'.submissions_eq.trans h.submissions_eq
  source_eq := h'.source_eq.trans h.source_eq

/-- A processed event stays on record. -/
theorem processed {w w' : World} (h : Later w w') {e : Side × IbcEventWithHeight}
    (he : e ∈ w.processed) : e ∈ w'.processed :=
  h.processed_prefix.subset he

/-- A question stays on record. -/
theorem trace {w w' : World} (h : Later w w') {a : Asked} (ha : a ∈ w.trace) : a ∈ w'.trace :=
  h.trace_prefix.subset ha

end Later

/-- `w'` comes after `w`, and no event was processed in between. -/
structure Still (w w' : World) : Prop extends Later w w' where
  processed_eq : w'.processed = w.processed
  current_eq : w'.current = w.current

/-- `Still` is reflexive. -/
theorem Still.refl (w : World) : Still w w := ⟨Later.refl w, rfl, rfl⟩

/-- `Still` is transitive. -/
theorem Still.trans {w w' w'' : World} (h : Still w w') (h' : Still w' w'') : Still w w'' :=
  ⟨h.toLater.trans h'.toLater, h'.processed_eq.trans h.processed_eq,
    h'.current_eq.trans h.current_eq⟩

/-- A node that grows. -/
theorem still_setNode {w : World} {s : Side} {n : NodeState} (hheight : (w.nodes s).height ≤ n.height)
    (hclients : ∀ id, (n.clients id).Extends ((w.nodes s).clients id)) :
    Still w (w.setNode s n) := by
  refine ⟨⟨fun t => ?_, fun t id => ?_, List.prefix_rfl, List.prefix_rfl, rfl, rfl⟩, rfl, rfl⟩
  · by_cases ht : t = s
    · subst ht
      simpa [World.height, World.setNode] using hheight
    · simp [World.height, World.setNode, Function.update_of_ne ht]
  · by_cases ht : t = s
    · subst ht
      simpa [World.setNode] using hclients id
    · simp only [World.setNode, Function.update_of_ne ht]
      exact .rfl

/-- A move of a node changes nothing the relayer did. -/
theorem Tick.still {foreign : Prop} {w w' : World} (h : Tick foreign w w') : Still w w' := by
  cases h with
  | time t _ =>
      exact ⟨⟨fun _ => le_rfl, fun _ _ => .rfl, List.prefix_rfl, List.prefix_rfl, rfl, rfl⟩,
        rfl, rfl⟩
  | block s => exact still_setNode (Nat.le_succ _) fun _ => .rfl
  | commit s i tx r htx hpending =>
      exact still_setNode (NodeState.commit_height ..).ge fun id =>
        NodeState.commit_clients_extend ..
  | others _ s ms =>
      exact still_setNode (NodeState.execAll_height ..).ge fun id =>
        NodeState.execAll_clients_extend ..
  | channels s channels connections => exact still_setNode le_rfl fun _ => .rfl

/-- What a read leaves behind: a line of the trace, at most. -/
theorem after_reads {w : World} {o : NetOp} (h : Reads o) :
    ∃ t, w.after o = { w with trace := w.trace ++ t } := by
  cases o with
  | node s op =>
      cases op with
      | broadcastTxSync tx messages => exact h.elim
      | _ => exact ⟨_, rfl⟩
  | now => exact ⟨[], by simp [World.after]⟩
  | sleep d => exact ⟨[], by simp [World.after]⟩
  | log line => exact h.elim

/-- A read changes nothing the relayer did. -/
theorem still_after {w : World} {o : NetOp} (h : Reads o) : Still w (w.after o) := by
  obtain ⟨t, ht⟩ := after_reads (w := w) h
  rw [ht]
  exact ⟨⟨fun _ => le_rfl, fun _ _ => .rfl, List.prefix_append _ _, List.prefix_rfl, rfl, rfl⟩,
    rfl, rfl⟩

/-- Turning to an event goes on. -/
theorem later_after_log {w : World} {ev : IbcEventWithHeight} :
    Later w (w.after (.log (.processing ev))) :=
  ⟨fun _ => le_rfl, fun _ _ => .rfl, List.prefix_rfl, List.prefix_append _ _, rfl, rfl⟩

/-- Any call that submits nothing goes on. -/
theorem later_after {w : World} {o : NetOp} (h : Passive o) : Later w (w.after o) := by
  rcases passive_iff.mp h with h | ⟨ev, rfl⟩
  · exact (still_after h).toLater
  · exact later_after_log

section

variable [Crates] {X : Chains} {foreign : Prop} {w w' : World}

/-- While the relayer reads, nothing it did changes. -/
theorem still_of_meanwhile (h : (relayEnv X foreign).Meanwhile Reads w w') : Still w w' := by
  induction h with
  | refl => exact Still.refl w
  | tail _ hstep ih =>
      rcases hstep with ht | ⟨o, r, ho, rfl, -⟩
      · exact ih.trans ht.still
      · exact ih.trans (still_after ho)

/-- While it submits nothing, it only goes on. -/
theorem later_of_meanwhile (h : (relayEnv X foreign).Meanwhile Passive w w') : Later w w' := by
  induction h with
  | refl => exact Later.refl w
  | tail _ hstep ih =>
      rcases hstep with ht | ⟨o, r, ho, rfl, -⟩
      · exact ih.trans ht.still.toLater
      · exact ih.trans (later_after ho)

end

/-- A run of the relay loop only adds submissions. -/
theorem submissions_grow [Crates] {X : Chains} {R : Relayer} {foreign : Prop}
    {c c' : World × Phase Net Error} (h : (relayLoop X R foreign).Step c c') :
    c.1.submissions <+: c'.1.submissions := by
  cases h with
  | tick ht => exact (Tick.still ht).submissions_eq ▸ List.prefix_rfl
  | start hst =>
      obtain ⟨s, _, rfl, -⟩ := hst
      exact List.prefix_rfl
  | @call w w' o k r ha =>
      obtain ⟨rfl, -⟩ := ha
      cases o with
      | node s op =>
          cases op with
          | broadcastTxSync tx messages => exact List.prefix_append _ _
          | _ => exact List.prefix_rfl
      | log line =>
          cases line
          exact List.prefix_rfl
      | _ => exact List.prefix_rfl
  | _ => exact List.prefix_rfl

/-! ### What every state satisfies -/

/-- Every update of a transaction that succeeded has its consensus state. -/
def NodeState.TxsExecuted (n : NodeState) : Prop :=
  ∀ (i : ℕ) (tx : Tx) (r : DeliverTx), n.txs[i]? = some tx → tx.result = some r → r.code = 0 →
    ∀ u : MsgUpdateClient, .updateClient u ∈ tx.messages.map Any.msg →
      u.header.signedHeader.height ∈ (n.clients u.clientId).consensus

/-- **The record is true**: a transaction that succeeded has stored the consensus
states of its updates, and no height on record is above the height of its node. -/
structure Sound (w : World) : Prop where
  executed : ∀ s, (w.nodes s).TxsExecuted
  asked_le : ∀ a ∈ w.trace, a.height ≤ w.height a.side

/-- The record is true of a changed node, if what it executed is on record. -/
theorem Sound.setNode {w : World} (h : Sound w) {s : Side} {n : NodeState}
    (hstill : Still w (w.setNode s n)) (hexecuted : n.TxsExecuted) : Sound (w.setNode s n) := by
  refine ⟨fun t => ?_, fun a ha => (h.asked_le a ha).trans (hstill.height_le _)⟩
  by_cases ht : t = s
  · subst ht
    simpa [World.setNode] using hexecuted
  · simpa [World.setNode, Function.update_of_ne ht] using h.executed t

/-- **A move of a node keeps the record true.** -/
theorem Sound.tick {foreign : Prop} {w w' : World} (h : Sound w) (ht : Tick foreign w w') :
    Sound w' := by
  cases ht with
  | time t hle => exact ⟨h.executed, h.asked_le⟩
  | block s => exact h.setNode (show Tick foreign w _ from .block s).still (h.executed s)
  | commit s i tx r htx hpending =>
      refine h.setNode (show Tick foreign w _ from .commit s i tx r htx hpending).still ?_
      intro j tx' r' htx' hr' hcode u hu
      rw [NodeState.commit_txs, List.getElem?_set] at htx'
      split_ifs at htx' with hij hlen
      · -- the transaction that was just executed
        obtain rfl := Option.some.inj htx'
        obtain rfl := Option.some.inj hr'
        simp only [NodeState.commit, if_pos hcode]
        exact NodeState.execAll_consensus _ _ hu
      · exact (NodeState.commit_clients_extend ..).consensus_subset
          (h.executed s j tx' r' htx' hr' hcode u hu)
  | others hf s ms =>
      refine h.setNode (show Tick foreign w _ from .others hf s ms).still ?_
      intro j tx r htx hr hcode u hu
      rw [NodeState.execAll_txs] at htx
      exact (NodeState.execAll_clients_extend ..).consensus_subset
        (h.executed s j tx r htx hr hcode u hu)
  | channels s channels connections =>
      exact h.setNode (show Tick foreign w _ from .channels s channels connections).still
        (h.executed s)

/-- A submission keeps the record true. -/
theorem Sound.broadcast {w : World} (h : Sound w) (s : Side) (messages : List Any) :
    Sound (w.broadcast s messages) := by
  have hset : Sound (w.setNode s { w.nodes s with
      txs := (w.nodes s).txs ++ [⟨messages, none⟩] }) := by
    refine h.setNode (still_setNode le_rfl fun _ => .rfl) ?_
    intro i tx r htx hr hcode u hu
    rw [List.getElem?_append] at htx
    split_ifs at htx
    · exact h.executed s i tx r htx hr hcode u hu
    · -- the new transaction has no result
      obtain ⟨_, htx⟩ := List.getElem?_eq_some_iff.mp htx
      simp only [List.getElem_singleton] at htx
      subst htx
      cases hr
  exact ⟨hset.executed, hset.asked_le⟩

/-- Any call keeps the record true. -/
theorem Sound.after {w : World} (h : Sound w) (o : NetOp) : Sound (w.after o) := by
  cases o with
  | log line => exact ⟨h.executed, h.asked_le⟩
  | now => exact h
  | sleep d => exact h
  | node s op =>
      have hread : ∀ op', Sound { w with trace := w.trace ++ [⟨w.current, s, op', w.height s⟩] } := by
        refine fun op' => ⟨h.executed, fun a ha => ?_⟩
        rcases List.mem_append.mp ha with ha | ha
        · exact h.asked_le a ha
        · rw [List.mem_singleton.mp ha]
          exact le_rfl
      cases op with
      | broadcastTxSync tx messages => exact h.broadcast s messages
      | _ => exact hread _

/-- The start of an iteration keeps the record true. -/
theorem Sound.start {w : World} (h : Sound w) (s : Side) : Sound (w.start s) :=
  ⟨h.executed, fun _ ha => by cases ha⟩

/-- Any interval keeps the record true. -/
theorem Sound.meanwhile [Crates] {X : Chains} {foreign : Prop} {C : NetOp → Prop} {w w' : World}
    (h : Sound w) (hw : (relayEnv X foreign).Meanwhile C w w') : Sound w' := by
  induction hw with
  | refl => exact h
  | tail _ hstep ih =>
      rcases hstep with ht | ⟨o, r, -, rfl, -⟩
      · exact ih.tick ht
      · exact ih.after o

end HyperspaceLight
