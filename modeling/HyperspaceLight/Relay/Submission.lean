/-
# What a submission leaves behind

A node receives a batch under a hash (`World.Sent`); once the transaction is found with its
success, the updates of the batch are executed.  `flush_rule` is the rule of a flush: a
property of the batches that were sent is shown where one is submitted, and in between the
updates that were confirmed are on record (`InFlush`).
-/

import HyperspaceLight.Relay.Answers
import HyperspaceLight.Relay.Flush

namespace HyperspaceLight

open Interaction

/-! ### A submission -/

/-- A broadcast executes nothing. -/
@[simp] theorem World.broadcast_clients (w : World) (s t : Side) (messages : List Any) :
    ((w.broadcast s messages).nodes t).clients = (w.nodes t).clients := by
  by_cases ht : t = s
  · subst ht
    simp [broadcast, setNode]
  · simp [broadcast, setNode, Function.update_of_ne ht]

/-- A broadcast makes no block. -/
@[simp] theorem World.broadcast_height (w : World) (s t : Side) (messages : List Any) :
    (w.broadcast s messages).height t = w.height t := by
  by_cases ht : t = s
  · subst ht
    simp [broadcast, setNode, height]
  · simp [broadcast, setNode, height, Function.update_of_ne ht]

/-- A broadcast updates no client. -/
@[simp] theorem World.broadcast_clientHeight (R : Relayer) (w : World) (s t : Side)
    (messages : List Any) : (w.broadcast s messages).clientHeight R t = w.clientHeight R t := by
  simp [clientHeight]

/-- The node has received the batch under this hash. -/
def World.Sent (w : World) (s : Side) (hash : TransactionId) (batch : List Any) : Prop :=
  ∃ tx, (w.nodes s).txs[hash]? = some tx ∧ tx.messages = batch

/-- **A broadcast is received**, under the next hash. -/
theorem World.sent_broadcast (w : World) (s : Side) (batch : List Any) :
    (w.broadcast s batch).Sent s (w.nodes s).txs.length batch :=
  ⟨⟨batch, none⟩, by simp [broadcast, setNode], rfl⟩

/-- A node that keeps its transactions has received the batch. -/
theorem World.Sent.setNode {w : World} {s t : Side} {hash : TransactionId} {batch : List Any}
    {n : NodeState} (h : w.Sent s hash batch)
    (hn : ∀ tx, (w.nodes t).txs[hash]? = some tx →
      ∃ tx', n.txs[hash]? = some tx' ∧ tx'.messages = tx.messages) :
    (w.setNode t n).Sent s hash batch := by
  obtain ⟨tx, htx, rfl⟩ := h
  by_cases hs : s = t
  · subst hs
    obtain ⟨tx', htx', hmessages⟩ := hn tx htx
    exact ⟨tx', by simpa [World.setNode] using htx', hmessages⟩
  · exact ⟨tx, by simpa [World.setNode, Function.update_of_ne hs] using htx, rfl⟩

/-- A transaction keeps its messages. -/
theorem World.Sent.tick {foreign : Prop} {w w' : World} {s : Side} {hash : TransactionId}
    {batch : List Any} (h : w.Sent s hash batch) (ht : Tick foreign w w') : w'.Sent s hash batch := by
  cases ht with
  | time t _ => exact h
  | block t => exact h.setNode fun tx htx => ⟨tx, htx, rfl⟩
  | commit t i tx r htx _ =>
      refine h.setNode fun tx' htx' => ?_
      rw [NodeState.commit_txs, List.getElem?_set]
      split_ifs with hi hlen
      · -- the transaction that gets its result
        subst hi
        rw [htx] at htx'
        obtain rfl := Option.some.inj htx'
        exact ⟨_, rfl, rfl⟩
      · exact absurd (List.getElem?_eq_some_iff.mp htx).1 hlen
      · exact ⟨tx', htx', rfl⟩
  | others _ t ms =>
      refine h.setNode fun tx htx => ⟨tx, ?_, rfl⟩
      rw [NodeState.execAll_txs]
      exact htx
  | channels t channels connections => exact h.setNode fun tx htx => ⟨tx, htx, rfl⟩

/-- A read leaves what was received. -/
theorem World.Sent.after {w : World} {s : Side} {hash : TransactionId} {batch : List Any}
    (h : w.Sent s hash batch) {o : NetOp} (ho : Passive o) : (w.after o).Sent s hash batch := by
  rcases passive_iff.mp ho with ho | ⟨ev, rfl⟩
  · obtain ⟨t, ht⟩ := after_reads (w := w) ho
    rw [ht]
    exact h
  · exact h

section

variable [Crates] {X : Chains} {R : Relayer} {foreign : Prop} {w w' : World}

/-! ### A confirmed transaction -/

/-- Moves and reads leave what was received. -/
theorem World.Sent.kept {s : Side} {hash : TransactionId} {batch : List Any} :
    (relayEnv X foreign).Kept Passive fun w => w.Sent s hash batch := by
  rintro w w' hw (ht | ⟨o, r, ho, rfl, -⟩)
  · exact hw.tick ht
  · exact hw.after ho

/-- **A confirmed batch has been executed**: its updates are on record. -/
theorem World.Sent.confirmed {s : Side} {hash hash' : TransactionId} {batch : List Any} {fuel : ℕ}
    (h : w.Sent s hash batch) (hsound : Sound w)
    (hleaf : (confirmTx fuel s hash).Leaf ((relayEnv X foreign).Given Passive w w') (.ok hash'))
    {m : Any} (hm : m ∈ batch) {u : MsgUpdateClient} (hu : m.msg = .updateClient u) :
    u.header.signedHeader.height ∈ ((w'.nodes s).clients u.clientId).consensus := by
  obtain ⟨since, -, hleaf⟩ := Prog.leaf_bind_ok.mp hleaf
  obtain ⟨response, hresponse, hleaf⟩ := Prog.leaf_bind_ok.mp hleaf
  obtain ⟨_, hcode, -⟩ := Prog.leaf_bind_ok.mp hleaf
  obtain ⟨txs, htxs, hmem⟩ := confirmTxStep_found (Prog.leaf_repeatUntil hresponse)
  -- the moment at which the node found the transaction
  obtain ⟨w₁, w₂, h₁, ⟨rfl, hhonest⟩, h₂⟩ := htxs
  have hfound := hhonest txs rfl response hmem
  obtain ⟨hhash, tx, htx, hresult⟩ := hfound
  obtain ⟨tx', htx', rfl⟩ := World.Sent.kept.meanwhile h₁ h
  obtain rfl : tx = tx' := Option.some.inj (htx.symm.trans htx')
  have hcodes : response.txResult.code = 0 := Prog.leaf_require_ok.mp hcode
  have hexecuted := (hsound.meanwhile h₁).executed s hash tx response.txResult htx hresult hcodes u
    (hu ▸ List.mem_map_of_mem hm)
  have hpassive : Passive (.node s (.txSearch hash)) := trivial
  have hlater : Later w₁ w' := (later_after hpassive).trans (later_of_meanwhile h₂)
  exact (hlater.clients_extend s u.clientId).consensus_subset hexecuted

/-! ### A flush -/

/-- A property that survives what others do and what the relayer reads. -/
theorem kept_of_later {J : World → Prop} (h : ∀ w w', Later w w' → J w → J w') :
    (relayEnv X foreign).Kept Passive J := by
  rintro w w' hw (ht | ⟨o, r, ho, rfl, -⟩)
  · exact h w w' ht.still.toLater hw
  · exact h w _ (later_after ho) hw

/-- What holds in a flush that began in `base`: the updates in `confirmed` are executed, if the
record was true. -/
structure InFlush (s : Side) (base : World) (confirmed : List Any) (w : World) : Prop where
  sound : Sound base → Sound w
  source_eq : w.source = s
  trace_grows : base.trace <+: w.trace
  processed_grows : base.processed <+: w.processed
  clients_extend : ∀ t id, ((w.nodes t).clients id).Extends ((base.nodes t).clients id)
  updated : Sound base → ∀ m ∈ confirmed, ∀ u, m.msg = .updateClient u →
    u.header.signedHeader.height ∈ ((w.nodes s.other).clients u.clientId).consensus

namespace InFlush

variable {s : Side} {base : World} {confirmed : List Any}

omit [Crates] in
/-- What holds in a flush holds later on. -/
theorem later (h : InFlush s base confirmed w) (hlater : Later w w')
    (hsound : Sound w → Sound w') : InFlush s base confirmed w' where
  sound hbase := hsound (h.sound hbase)
  source_eq := hlater.source_eq.trans h.source_eq
  trace_grows := h.trace_grows.trans hlater.trace_prefix
  processed_grows := h.processed_grows.trans hlater.processed_prefix
  clients_extend t id := (hlater.clients_extend t id).trans (h.clients_extend t id)
  updated hbase m hm u hu := (hlater.clients_extend s.other u.clientId).consensus_subset
    (h.updated hbase m hm u hu)

omit [Crates] in
/-- What holds in a flush holds after another batch. -/
theorem broadcast (h : InFlush s base confirmed w) (t : Side) (batch : List Any) :
    InFlush s base confirmed (w.broadcast t batch) where
  sound hbase := (h.sound hbase).broadcast t batch
  source_eq := h.source_eq
  trace_grows := h.trace_grows
  processed_grows := h.processed_grows
  clients_extend t' id := by
    rw [World.broadcast_clients]
    exact h.clients_extend t' id
  updated hbase m hm u hu := by
    rw [World.broadcast_clients]
    exact h.updated hbase m hm u hu

/-- What holds in a flush is kept by moves and reads. -/
theorem kept : (relayEnv X foreign).Kept Passive (InFlush s base confirmed) := by
  rintro w w' h (ht | ⟨o, r, ho, rfl, -⟩)
  · exact h.later ht.still.toLater fun hsound => hsound.tick ht
  · exact h.later (later_after ho) fun hsound => hsound.after o

omit [Crates] in
/-- No client is set back in a flush. -/
theorem clientHeight_le (h : InFlush s base confirmed w) (t : Side) :
    base.clientHeight R t ≤ w.clientHeight R t :=
  (h.clients_extend t.other _).latest_le

end InFlush

/-- **The rule of a flush.**  `G sent` is to be kept by moves and reads, and by a submission that
stays in `C`. -/
theorem flush_rule {C P : World → Prop} {G : List Any → World → Prop} {s : Side} {base : World}
    {messages : List Any}
    (hG : ∀ sent, ((relayEnv X foreign).within C).Kept Passive (G sent))
    (hP : ∀ sent confirmed w, InFlush s base confirmed w → G sent w → P w)
    (hsubmit : ∀ sent batch w, sent ++ batch <+: messages → InFlush s base sent w → G sent w →
      C (w.broadcast s.other batch) → G (sent ++ batch) (w.broadcast s.other batch))
    (hsource : base.source = s) (hw : G [] base) :
    ((relayEnv X foreign).within C).wp P P
      (flushMessageBatch messages ((R.client s.other).chain R.fuel))
      (fun _ w => InFlush s base messages w ∧ G messages w) base := by
  have hflush : ∀ confirmed,
      ((relayEnv X foreign).within C).Kept Passive (InFlush s base confirmed) :=
    fun _ => InFlush.kept.within
  have hsent : ∀ hash batch,
      ((relayEnv X foreign).within C).Kept Passive fun w => w.Sent s.other hash batch :=
    fun _ _ => World.Sent.kept.within
  refine flushMessageBatch_rule (K := fun sent w => InFlush s base sent w ∧ G sent w)
    (J := fun sent batch hash w => InFlush s base sent w ∧ G (sent ++ batch) w ∧
      w.Sent s.other hash batch)
    (fun sent w w' h ht => ⟨(hflush sent).stable w w' h.1 ht, (hG sent).stable w w' h.2 ht⟩)
    (fun sent w w' h hstep => ⟨hflush sent w w' h.1 hstep, hG sent w w' h.2 hstep⟩)
    (fun sent w h => hP sent sent w h.1 h.2)
    (fun sent batch hash w w' h hstep => ⟨hflush sent w w' h.1 hstep,
      hG (sent ++ batch) w w' h.2.1 hstep, hsent hash batch w w' h.2.2 hstep⟩)
    (fun sent batch _ w h => hP (sent ++ batch) sent w h.1 h.2.1) ?_ ?_ ⟨?_, hw⟩
  · -- a batch is submitted
    rintro sent batch w tx r w' hbatches ⟨h, hGw⟩ ⟨⟨rfl, hhonest⟩, hC⟩
    rw [World.after, R.client_side] at hC ⊢
    have hGw' := hsubmit sent batch w hbatches h hGw hC
    have h' := h.broadcast s.other batch
    refine ⟨hP (sent ++ batch) sent _ h' hGw', fun hash hr => ⟨h', hGw', ?_⟩⟩
    have hhash : hash = (w.nodes (R.client s.other).side).txs.length := hhonest hash hr
    rw [hhash, R.client_side]
    exact World.sent_broadcast w _ batch
  · -- it is confirmed, so its updates are executed
    rintro sent batch hash hash' w w' ⟨h, hGw, hsentw⟩ hmean hleaf
    have h' := (hflush sent).meanwhile hmean h
    refine ⟨{ h' with updated := fun hbase m hm u hu => ?_ }, (hG _).meanwhile hmean hGw⟩
    rcases List.mem_append.mp hm with hm | hm
    · exact h'.updated hbase m hm u hu
    · rw [R.client_side] at hleaf
      exact hsentw.confirmed (h.sound hbase) (hleaf.mono fun _ _ => Env.Given.of_within) hm hu
  · exact ⟨id, hsource, List.prefix_rfl, List.prefix_rfl, fun _ _ => .rfl,
      fun _ => List.forall_mem_nil _⟩

end

end HyperspaceLight
