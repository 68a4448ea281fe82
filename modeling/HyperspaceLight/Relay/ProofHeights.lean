/-
# Proof heights and the header of the update

The proof height of a message is one more than the height of the node when it answered the
query that bears the proof; the update carries the header of the then highest block, which
is not below any proof height (`Dated`).  A message can be verified where the two are the
same, or where the light client already had a consensus state at the proof height
(`Aligned`).
-/

import HyperspaceLight.Relay.Cleared
import HyperspaceLight.Relay.Submission

namespace HyperspaceLight

open Interaction

/-! ### What the client has once a batch is executed -/

/-- The height at which a message stores a consensus state of a client. -/
def Msg.updateOf (id : ClientId) : Msg → Option ℕ
  | .updateClient u => if u.clientId = id then some u.header.signedHeader.height else none
  | _ => none

/-- **What the messages store**, and nothing else is added to the consensus states. -/
theorem NodeState.mem_execAll_consensus (n : NodeState) (now : Time) (ms : List Msg)
    (id : ClientId) {h : ℕ} : h ∈ ((n.execAll now ms).clients id).consensus ↔
      h ∈ ms.filterMap (Msg.updateOf id) ∨ h ∈ (n.clients id).consensus := by
  have hexec : ∀ (n : NodeState) (m : Msg), h ∈ ((n.exec now m).clients id).consensus ↔
      m.updateOf id = some h ∨ h ∈ (n.clients id).consensus := by
    intro n m
    cases m with
    | updateClient u =>
        by_cases hid : u.clientId = id
        · subst hid
          simp only [exec, Function.update_self, TrackedClient.update_consensus, List.mem_cons,
            Msg.updateOf, if_pos, Option.some.injEq]
          rw [eq_comm]
        · simp only [exec, Function.update_of_ne (Ne.symm hid), Msg.updateOf, if_neg hid]
          simp
    | _ => simp [exec, Msg.updateOf]
  induction ms generalizing n with
  | nil => simp [execAll]
  | cons m ms ih =>
      refine (ih (n.exec now m)).trans ?_
      rw [hexec, List.mem_filterMap, List.mem_filterMap]
      simp only [List.mem_cons, exists_eq_or_imp]
      rw [or_left_comm, ← or_assoc]

/-- The heights at which a client has consensus states once a batch is executed. -/
def Submission.consensus (batch : Submission) (id : ClientId) : List ℕ :=
  batch.messages.filterMap (fun any => any.msg.updateOf id) ++ batch.known id

/-- **They are those the node stores**: what a committed batch leaves in a client is what its
messages store and what was there before. -/
theorem NodeState.mem_commit_consensus (n : NodeState) (now : Time) (i : ℕ) (messages : List Any)
    {r : DeliverTx} (hr : r.code = 0) (source sink : Side) (trace : List Asked) (id : ClientId)
    {h : ℕ} : h ∈ ((n.commit now i ⟨messages, none⟩ r).clients id).consensus ↔
      h ∈ Submission.consensus
        ⟨source, sink, messages, fun id => (n.clients id).consensus, trace⟩ id := by
  rw [commit, if_pos hr, mem_execAll_consensus, List.filterMap_map, Submission.consensus,
    List.mem_append]
  rfl

/-! ### What is verifiable -/

/-- The question bears the proof of the event that the relayer was at. -/
def Asked.Bears (asked : Asked) (s : Side) : Prop :=
  asked.side = s ∧ ∃ ev, asked.event = some ev ∧ bearing ev.event = some asked.op

/-- **Every submitted message can be verified**: once its batch is executed, the client has a
consensus state at its proof height. -/
def Verifiable [Crates] (X : Chains) (R : Relayer) (w : World) : Prop :=
  ∀ batch ∈ w.submissions, ∀ m ∈ batch.messages, ∀ h ∈ m.msg.proofHeight,
    h.revisionNumber = X.revision batch.source ∧
      h.revisionHeight ∈ batch.consensus (R.client batch.source).clientId

/-- **What a verifiable message finds.**  Wherever its batch is committed, by a node that has at
least the consensus states on record, the client has one at the message's proof height. -/
theorem Verifiable.committed [Crates] {X : Chains} {R : Relayer} {w : World}
    (h : Verifiable X R w) {batch : Submission} (hbatch : batch ∈ w.submissions) {n : NodeState}
    (hknown : ∀ id, batch.known id ⊆ (n.clients id).consensus) {m : Any} (hm : m ∈ batch.messages)
    {proofHeight : Height} (hproof : m.msg.proofHeight = some proofHeight) (now : Time) (i : ℕ)
    {r : DeliverTx} (hr : r.code = 0) :
    proofHeight.revisionHeight ∈ ((n.commit now i ⟨batch.messages, none⟩ r).clients
      (R.client batch.source).clientId).consensus := by
  have hconsensus := (h batch hbatch m hm proofHeight hproof).2
  rw [n.mem_commit_consensus now i batch.messages hr batch.source batch.sink batch.trace]
  rcases List.mem_append.mp hconsensus with hstored | hbefore
  · exact List.mem_append_left _ hstored
  · exact List.mem_append_right _ (hknown _ hbefore)

/-- **One block after each proof.**  Where an iteration that submits fetches the highest light
block above the height at which a node answered with the proof of an event, that is one block
later; or the client already had a consensus state there. -/
def Aligned (R : Relayer) (w : World) : Prop :=
  ∀ batch ∈ w.submissions, ∀ asked ∈ batch.trace, asked.Bears batch.source →
    asked.height + 1 ∈ batch.known (R.client batch.source).clientId ∨
      ∀ n ∈ headerHeights batch.trace batch.source, asked.height < n → n = asked.height + 1

/-! ### The messages of an iteration -/

/-- **What is known of a message**: a question on record bears its proof height, which is not above
the reference height. -/
def Dated [Crates] (X : Chains) (s : Side) (trace : List Asked) (ref : Height) (m : Any) : Prop :=
  ∃ asked ∈ trace, asked.Bears s ∧ ∃ h : Height, m.msg.proofHeight = some h ∧
    h.revisionNumber = X.revision s ∧ h.revisionHeight = asked.height + 1 ∧
    h.revisionHeight ≤ ref.revisionHeight

/-- What holds in the loop over the events. -/
structure DatedSoFar [Crates] (X : Chains) (s : Side) (acc : ParsedEvents) (w : World) : Prop where
  messages : ∀ m ∈ acc.messages, Dated X s w.trace acc.proofHeightRef m
  revision : acc.proofHeightRef = firstProofHeightRef ∨
    acc.proofHeightRef.revisionNumber = X.revision s

section

variable [Crates] {X : Chains} {R : Relayer} {foreign : Prop} {s : Side} {w w' : World}
  {acc : ParsedEvents} {ev : IbcEventWithHeight}

/-- A dated message stays so, as the record and the reference height grow. -/
theorem Dated.mono {trace trace' : List Asked} {ref ref' : Height} {m : Any}
    (h : Dated X s trace ref m) (htrace : trace <+: trace')
    (href : ref.revisionHeight ≤ ref'.revisionHeight) : Dated X s trace' ref' m := by
  obtain ⟨asked, hasked, hbears, height, hmsg, hrevision, hheight, hle⟩ := h
  exact ⟨asked, htrace.subset hasked, hbears, height, hmsg, hrevision, hheight, hle.trans href⟩

/-- The messages so far are dated later on. -/
theorem DatedSoFar.later (h : DatedSoFar X s acc w) (hlater : Later w w') :
    DatedSoFar X s acc w' :=
  ⟨fun m hm => (h.messages m hm).mono hlater.trace_prefix le_rfl, h.revision⟩

/-- **A message is dated by the question that bears its proof.** -/
theorem DatedSoFar.push (h : DatedSoFar X s acc w) {msg : Any} {proofHeight : Height}
    {asked : Asked} (hasked : asked ∈ w.trace) (hbears : asked.Bears s)
    (hmsg : msg.msg.proofHeight = some proofHeight)
    (hrevision : proofHeight.revisionNumber = X.revision s)
    (hheight : proofHeight.revisionHeight = asked.height + 1) :
    DatedSoFar X s (acc.push msg proofHeight) w := by
  have hold : acc.proofHeightRef.revisionHeight ≤
      (acc.push msg proofHeight).proofHeightRef.revisionHeight := by
    rw [ParsedEvents.push]
    split_ifs with hle
    · exact le_rfl
    · exact (Nat.lt_of_not_le hle).le
  have hnew : proofHeight.revisionHeight ≤
      (acc.push msg proofHeight).proofHeightRef.revisionHeight := by
    rw [ParsedEvents.push]
    split_ifs with hle
    · exact hle
    · exact le_rfl
  refine ⟨fun m hm => ?_, ?_⟩
  · rcases List.mem_append.mp hm with hm | hm
    · exact (h.messages m hm).mono List.prefix_rfl hold
    · rw [List.mem_singleton.mp hm]
      exact ⟨asked, hasked, hbears, proofHeight, hmsg, hrevision, hheight, hnew⟩
  · rw [ParsedEvents.push]
    split_ifs
    · exact h.revision
    · exact .inr hrevision

omit [Crates] in
/-- The queries that bear a proof are reads. -/
theorem bearing_reads {e : IbcEvent} {op : NodeOp} (h : bearing e = some op) :
    Reads (.node s op) := by
  unfold bearing at h
  split at h
  all_goals first
    | (obtain ⟨_, -, rfl⟩ := Option.map_eq_some_iff.mp h; trivial)
    | (obtain rfl := Option.some.inj h; trivial)
    | cases h

/-- The proof height of an answer is the height of the node. -/
theorem honest_answerHeight {op : NodeOp} {answer : op.Res} {h : RawHeight}
    (hhonest : w.Honest X (.node s op) answer) (hanswer : op.answerHeight answer = some h) :
    h = ⟨X.revision s, w.height s⟩ := by
  cases op with
  | connection id => exact Option.some.inj (hanswer.symm.trans hhonest.1)
  | channel p c => exact Option.some.inj (hanswer.symm.trans hhonest.1)
  | packetCommitment p c seq => exact Option.some.inj (hanswer.symm.trans hhonest)
  | packetAcknowledgement p c seq => exact Option.some.inj (hanswer.symm.trans hhonest)
  | _ => cases hanswer

/-- A node's answer to a read is on record, with the event the relayer is at. -/
theorem given_current {op : NodeOp} {a : op.Res} (hop : Reads (.node s op))
    (h : (relayEnv X foreign).Given Reads w w' (.node s op) (.ok a)) :
    ∃ w₁ : World, w₁.Honest X (.node s op) a ∧
      ⟨w.current, s, op, w₁.height s⟩ ∈ w'.trace := by
  obtain ⟨w₁, w₂, h₁, ⟨rfl, hhonest⟩, h₂⟩ := h
  refine ⟨w₁, hhonest a rfl, (still_of_meanwhile h₂).trace ?_⟩
  rw [← (still_of_meanwhile h₁).current_eq]
  cases op with
  | broadcastTxSync tx messages => exact hop.elim
  | _ => exact List.mem_append_right _ (List.mem_singleton_self _)

/-- **One event.** -/
theorem DatedSoFar.translated (h : DatedSoFar X s acc w) (hcurrent : w.current = some ev)
    (hmean : (relayEnv X foreign).Meanwhile Reads w w') {sink : IbcProvider Net} {msg : Any}
    {proofHeight : Height}
    (hleaf : (parseEvent (R.client s).provider sink ev).Leaf
      ((relayEnv X foreign).Given Reads w w') (.ok (some (msg, proofHeight)))) :
    DatedSoFar X s (acc.push msg proofHeight) w' := by
  have htranslation := parseEvent_translation hleaf
  obtain ⟨op, hbearing, answer, height, hgiven, hanswer, hrevision, hheight⟩ := htranslation.borne
  rw [R.client_side] at hgiven
  obtain ⟨w₁, hhonest, hasked⟩ := given_current (bearing_reads hbearing) hgiven
  obtain rfl := honest_answerHeight hhonest hanswer
  exact (h.later (still_of_meanwhile hmean).toLater).push hasked ⟨rfl, ev, hcurrent, hbearing⟩
    htranslation.proofHeight_eq hrevision hheight

/-! ### Runs -/

variable {C P I : World → Prop}

/-- **The step of the loop over the events.** -/
theorem parseEventStep_dated (hI : ((relayEnv X foreign).within C).Kept Passive I)
    (hIP : ∀ w, I w → P w) {sink : IbcProvider Net} (hw : I w) (hacc : DatedSoFar X s acc w) :
    ((relayEnv X foreign).within C).wp P P (parseEventStep (R.client s).provider sink acc ev)
      (fun acc' w' => I w' ∧ DatedSoFar X s acc' w') w := by
  have hboth : ((relayEnv X foreign).within C).Kept Passive
      fun w => I w ∧ DatedSoFar X s acc w := fun w w' h hstep =>
    ⟨hI w w' h.1 hstep, (kept_of_later fun _ _ hlater h => h.later hlater).within w w' h.2 hstep⟩
  refine Env.wp_bind.mpr (Env.wp_ask (S := Net) (fun w => I w ∧ DatedSoFar X s acc w) hboth.stable
    ⟨hw, hacc⟩ (fun w h => hIP w h.1) ?_ ?_)
  · -- the event is the current one until it is translated
    intro w₁ a w₂ h₁ ha
    obtain ⟨hI₂, hacc₂⟩ := hboth w₁ w₂ h₁ (.inr ⟨.log (.processing ev), .ok a, trivial, ha⟩)
    have hcurrent : w₂.current = some ev := by
      obtain ⟨⟨rfl, -⟩, -⟩ := ha
      rfl
    have hreads : (parseEvent (R.client s).provider sink ev).Asks (fun _ _ => True) Reads :=
      parseEvent_reads
    have hmean : ∀ w', ((relayEnv X foreign).within C).Meanwhile Reads w₂ w' → I w' := fun w' h =>
      hI.meanwhile (h.mono fun _ ho => passive_iff.mpr (.inl ho)) hI₂
    refine Env.wp_bind.mpr (Env.wp_post (fun r w' h => ?_) (Env.wp_given hreads
      (fun w' h => hIP w' (hmean w' h)) fun w' h => hIP w' (hmean w' h)))
    cases r with
    | none => exact ⟨hmean w' h.1, hacc₂.later (still_of_meanwhile h.1.of_within).toLater⟩
    | some r =>
        exact ⟨hmean w' h.1, hacc₂.translated hcurrent h.1.of_within
          (h.2.mono fun _ _ => Env.Given.of_within)⟩
  · intro w₁ e w₂ h₁ ha
    exact hIP w₂ (hboth w₁ w₂ h₁ (.inr ⟨.log (.processing ev), .error e, trivial, ha⟩)).1

/-- **The messages of an iteration.** -/
theorem iterationMessages_dated (hI : ((relayEnv X foreign).within C).Kept Passive I)
    (hIP : ∀ w, I w → P w) {finalityEvent : FinalityEvent} (hw : I w) :
    ((relayEnv X foreign).within C).wp P P
      (iterationMessages (R.chain s) (R.chain s.other) finalityEvent)
      (fun r w' => I w' ∧ ∀ messages timeouts proofHeightRef eventTypes,
        r = some (messages, timeouts, proofHeightRef, eventTypes) →
          timeouts = [] ∧ DatedSoFar X s ⟨messages, proofHeightRef⟩ w') w := by
  have hscan : ((R.client s).queryLatestIbcEvents finalityEvent (R.client s.other).provider).Asks
      (fun _ _ => True) Passive :=
    queryLatestIbcEvents_reads.mono fun _ h => passive_iff.mpr (.inl h)
  refine Env.wp_bind.mpr (Env.wp_post (fun r w₁ h₁ => ?_) (wp_passive hscan.attempt hI hIP hw))
  cases r with
  | error e => exact ⟨h₁.1, fun _ _ _ _ h => by cases h⟩
  | ok r =>
      obtain ⟨update, events, updateType⟩ := r
      refine Env.wp_bind.mpr (Env.wp_bind.mpr (Env.wp_post (fun acc w₂ h₂ => ?_)
        (Env.wp_foldlM (fun _ acc w => I w ∧ DatedSoFar X s acc w)
          ⟨h₁.1, List.forall_mem_nil _, .inl rfl⟩
          fun seen ev rest acc w _ h => parseEventStep_dated hI hIP h.1 h.2)))
      refine ⟨h₂.1, fun messages timeouts proofHeightRef eventTypes h => ?_⟩
      simp only [Option.some.injEq, Prod.mk.injEq] at h
      obtain ⟨rfl, rfl, rfl, -⟩ := h
      exact ⟨rfl, h₂.2⟩

/-- **The wait.**  When it is over, the node is at the height of every proof at least. -/
theorem wait_height {fuel : ℕ} (hacc : DatedSoFar X s acc w)
    (h : (Prog.repeatUntil (waitStep (R.chain s) acc.proofHeightRef) fuel).Leaf
      ((relayEnv X foreign).Given Passive w w') (.ok ())) :
    acc.proofHeightRef.revisionHeight ≤ w'.height s := by
  obtain ⟨⟨height, time⟩, hlatest, hdone⟩ := Prog.leaf_bind_ok.mp (Prog.leaf_repeatUntil h)
  dsimp only at hdone
  split_ifs at hdone with hlt
  · obtain ⟨_, -, hdone⟩ := Prog.leaf_bind_ok.mp hdone
    cases hdone
  · obtain ⟨status, hstatus, hrevision, hheight⟩ := latestHeightAndTimestamp_returns hlatest
    rw [R.client_side] at hstatus
    obtain ⟨w₁, -, hlater, hnetwork, hnode⟩ := given_honest hstatus trivial
    have hle : height.revisionHeight ≤ w'.height s :=
      (hheight.trans hnode).le.trans (hlater.height_le s)
    rcases hacc.revision with hfirst | hsame
    · -- nothing was translated, and every height is positive
      rw [hfirst]
      exact height.pos.trans_le hle
    · have hrevisions : height.revisionNumber = acc.proofHeightRef.revisionNumber := by
        rw [hsame, hrevision, hnetwork]
        rfl
      rw [Height.lt_iff] at hlt
      omega

omit [Crates] in
/-- The update of a flush is in the first batch, and executed before the next ones. -/
theorem InFlush.stores {base : World} {sent batch messages : List Any} {update m : Any}
    {u : MsgUpdateClient} (hflush : InFlush s base sent w) (hbase : Sound base)
    (hbatches : sent ++ batch <+: update :: messages) (hm : m ∈ batch)
    (hupdate : update.msg = .updateClient u) {source : Side} {trace : List Asked} :
    u.header.signedHeader.height ∈ Submission.consensus ⟨source, s.other, batch,
      fun id => ((w.nodes s.other).clients id).consensus, trace⟩ u.clientId := by
  obtain ⟨rest, hrest⟩ := hbatches
  cases sent with
  | nil =>
      cases batch with
      | nil => cases hm
      | cons first batch =>
          obtain ⟨rfl, -⟩ := List.cons.inj hrest
          refine List.mem_append_left _ (List.mem_filterMap.mpr ⟨first, List.mem_cons_self .., ?_⟩)
          rw [hupdate]
          exact if_pos rfl
  | cons first sent =>
      obtain ⟨rfl, -⟩ := List.cons.inj hrest
      exact List.mem_append_right _ (hflush.updated hbase first (List.mem_cons_self ..) u hupdate)

/-- **A batch of an iteration.**  Its messages are dated, and its update is not below any proof. -/
theorem Verifiable.broadcast {base : World} {sent batch messages : List Any} {update : Any}
    {u : MsgUpdateClient} {ref : Height} (h : Verifiable X R w) (hbase : Sound base)
    (hflush : InFlush s base sent w) (hbatches : sent ++ batch <+: update :: messages)
    (haligned : Aligned R (w.broadcast s.other batch))
    (hmessages : ∀ m ∈ messages, Dated X s base.trace ref m)
    (hupdate : update.msg = .updateClient u) (hid : u.clientId = (R.client s).clientId)
    (hheader : u.header.signedHeader.height ∈ headerHeights base.trace s)
    (hle : ref.revisionHeight ≤ u.header.signedHeader.height) :
    Verifiable X R (w.broadcast s.other batch) := by
  intro b hb m hm height hheight
  rcases List.mem_append.mp hb with hold | hnew
  · exact h b hold m hm height hheight
  have haligned' := haligned b hb
  obtain rfl := List.mem_singleton.mp hnew
  dsimp only at hm haligned' ⊢
  rw [hflush.source_eq] at haligned' ⊢
  rcases List.mem_cons.mp (hbatches.subset (List.mem_append_right sent hm)) with rfl | hmem
  · rw [hupdate] at hheight
    cases hheight
  obtain ⟨asked, hasked, hbears, height', hheight', hrevision, hdate, href⟩ := hmessages m hmem
  obtain rfl : height = height' := Option.some.inj (hheight.symm.trans hheight')
  refine ⟨hrevision, ?_⟩
  rcases haligned' asked (hflush.trace_grows.subset hasked) hbears with hknown | hnext
  · rw [hdate]
    exact List.mem_append_right _ hknown
  · -- the header of the update is one block after the proof
    have hnew := hnext _ (headerHeights_subset hflush.trace_grows s hheader) (by omega)
    rw [hdate, ← hnew, ← hid]
    exact hflush.stores hbase hbatches hm hupdate

/-- What is verifiable stays so between submissions. -/
theorem Verifiable.later (h : Verifiable X R w) (hlater : Later w w') : Verifiable X R w' := by
  rw [Verifiable, hlater.submissions_eq]
  exact h

/-- **One iteration.**  The messages are dated, the source is waited for, and the update has a
header that is not below any proof. -/
theorem iteration_verifiable {finalityEvent : FinalityEvent} (hsound : Sound w)
    (hw : Verifiable X R w) (hsource : w.source = s) :
    ((relayEnv X foreign).within (Aligned R)).wp (Verifiable X R) (Verifiable X R)
      (processFinalityEvent R.fuel (R.chain s) (R.chain s.other) finalityEvent)
      (fun _ w => Sound w ∧ Verifiable X R w) w := by
  -- what holds up to the flush
  let J : World → Prop := fun w => Sound w ∧ Verifiable X R w ∧ w.source = s
  have hJ : ((relayEnv X foreign).within (Aligned R)).Kept Passive J := by
    rintro w w' ⟨hs, hv, hsource⟩ (⟨ht, -⟩ | ⟨o, r, ho, ⟨rfl, -⟩, -⟩)
    · exact ⟨hs.tick ht, hv.later ht.still.toLater, ht.still.source_eq.trans hsource⟩
    · exact ⟨hs.after o, hv.later (later_after ho), (later_after ho).source_eq.trans hsource⟩
  refine Env.wp_bind.mpr (Env.wp_post (fun r w₁ h₁ => ?_)
    (iterationMessages_dated hJ (fun _ h => h.2.1) ⟨hsound, hw, hsource⟩))
  cases r with
  | none => exact ⟨h₁.1.1, h₁.1.2.1⟩
  | some r =>
      obtain ⟨messages, timeouts, proofHeightRef, eventTypes⟩ := r
      obtain ⟨rfl, hdated⟩ := h₁.2 messages timeouts proofHeightRef eventTypes rfl
      refine deliverMessages_rule hJ (fun _ h => h.2.1) (fun _ _ h => ⟨h.1, h.2.1⟩) ?_ h₁.1
      rintro w₂ w₃ update events updateType hmean₂ hwait hmean₃ hread ⟨hs₃, hv₃, hsource₃⟩
      obtain ⟨_, _, u, hscanned⟩ := scan_world (hread.mono fun _ _ => Env.Given.of_within)
      have href := wait_height hdated (hwait.mono fun _ _ => Env.Given.of_within)
      have hlater : Later w₁ w₃ :=
        later_of_meanwhile (Env.Meanwhile.of_within (hmean₂.trans hmean₃))
      have htrace := hlater.trace_prefix
      refine Env.wp_post (fun _ w h => ⟨h.1.sound hs₃, h.2⟩) (flush_rule
        (G := fun _ => Verifiable X R) (fun _ => (kept_of_later fun _ _ hl h => h.later hl).within)
        (fun _ _ _ _ h => h) ?_ hsource₃ hv₃)
      intro sent batch w hbatches hflush hv haligned
      exact hv.broadcast hs₃ hflush hbatches haligned
        (fun m hm => (hdated.messages m hm).mono htrace le_rfl) hscanned.update_msg
        hscanned.update_client hscanned.header_asked (href.trans hscanned.height_le_header)

/-- **Every message can be verified where the update is one block after each proof.**  For all
chains and relayers, in every state of every run of the relay loop, whatever others execute,
that is aligned throughout: each submitted message has a proof height at which the light client
has a consensus state once the batch is executed, as the node executes it
(`Verifiable.committed`, by `NodeState.mem_commit_consensus`). -/
theorem relayLoop_verifiable (X : Chains) (R : Relayer) (foreign : Prop) (start w : World)
    (ph : Phase Net Error) (hsound : Sound start) (hnone : start.submissions = [])
    (h : ((relayLoop X R foreign).within (Aligned R)).Runs (start, .idle) (w, ph)) :
    Verifiable X R w := by
  have hstart : Sound start ∧ Verifiable X R start :=
    ⟨hsound, by rw [Verifiable, hnone]; exact List.forall_mem_nil _⟩
  refine (Loop.invariant (L := (relayLoop X R foreign).within (Aligned R))
    (I := fun w => Sound w ∧ Verifiable X R w) (P := Verifiable X R)
    (fun w w' hw ht => ⟨hw.1.tick ht.1, hw.2.later ht.1.still.toLater⟩)
    (fun w w' hw ht => hw.later ht.1.still.toLater) (fun _ h => h.2) ?_ hstart h).1
  rintro w p w' hw ⟨⟨s, finalityEvent, rfl, rfl⟩, -⟩
  exact iteration_verifiable (hw.1.start s) hw.2 rfl

end

/-! ### One block more -/

instance [Crates] (X : Chains) (R : Relayer) (w : World) : Decidable (Verifiable X R w) :=
  inferInstanceAs (Decidable (∀ batch ∈ w.submissions, ∀ m ∈ batch.messages,
    ∀ h ∈ m.msg.proofHeight, h.revisionNumber = X.revision batch.source ∧
      h.revisionHeight ∈ batch.consensus (R.client batch.source).clientId))

/-- The packet is translated at height 2, and the batch is submitted after these moves. -/
def packetAfter (moves : List NodeMove) : Option World :=
  ((@relayDriver Crates.reference strayChains (relayerFor channel7) False).exec
    ([.start (.a, 0), .answers 18] ++ moves.map .tick ++ [.answers 16]) (strayStart, .idle)).map
    Prod.fst

/-- The driver's run is one of the relay loop. -/
theorem packetAfter_runs {moves : List NodeMove} {w : World} (h : packetAfter moves = some w) :
    ∃ ph, (@relayLoop Crates.reference strayChains (relayerFor channel7) False).Runs
      (strayStart, .idle) (w, ph) := by
  obtain ⟨⟨_, ph⟩, hexec, rfl⟩ := Option.map_eq_some_iff.mp h
  exact ⟨ph, Driver.exec_sound _ hexec⟩

/-- Each header above a height at which the source was asked is one block higher. -/
def OneBlockLater (w : World) : Prop :=
  ∀ batch ∈ w.submissions, ∀ asked ∈ batch.trace, asked.side = batch.source →
    ∀ n ∈ headerHeights batch.trace batch.source, asked.height < n → n = asked.height + 1

instance (w : World) : Decidable (OneBlockLater w) :=
  inferInstanceAs (Decidable (∀ batch ∈ w.submissions, ∀ asked ∈ batch.trace,
    asked.side = batch.source → ∀ n ∈ headerHeights batch.trace batch.source,
      asked.height < n → n = asked.height + 1))

/-- The hypotheses of `relayLoop_verifiable` hold where one block is made between the
translation and the submission. -/
theorem oneBlock_verifiable : ∃ w,
    @Verifiable Crates.reference strayChains (relayerFor channel7) w ∧
      w.relayedEnds = [(.a, channel7, transferPort)] := by
  have hcheck : (packetAfter [.block .a]).map (fun w => (decide (OneBlockLater w), w.relayedEnds)) =
      some (true, [(.a, channel7, transferPort)]) := by decide +kernel
  let _ := Crates.reference
  obtain ⟨w, hw, hend⟩ := Option.map_eq_some_iff.mp hcheck
  simp only [Prod.mk.injEq, decide_eq_true_eq] at hend
  obtain ⟨ph, hrun⟩ := packetAfter_runs hw
  have haligned : Aligned (relayerFor channel7) w := fun batch hbatch asked hasked hbears =>
    .inr (hend.1 batch hbatch asked hasked hbears.1)
  have hsound : Sound strayStart :=
    { executed := fun s i tx r htx => by cases htx
      asked_le := fun a ha => by cases ha }
  exact ⟨w, relayLoop_verifiable strayChains (relayerFor channel7) False strayStart w ph hsound rfl
    (hrun.within (fun _ _ hstep h batch hbatch => h batch ((submissions_grow hstep).subset hbatch))
      haligned), hend.2⟩

/-- **A message that cannot be verified.**  Two blocks are made: the proof height is 3, and the
update stores a consensus state at height 4. -/
theorem twoBlocks_not_verifiable :
    ¬∀ w ph, (@relayLoop Crates.reference strayChains (relayerFor channel7) False).Runs
      (strayStart, .idle) (w, ph) →
        @Verifiable Crates.reference strayChains (relayerFor channel7) w := by
  intro h
  have hcheck : (packetAfter [.block .a, .block .a]).map (fun w =>
      decide (@Verifiable Crates.reference strayChains (relayerFor channel7) w)) = some false := by
    decide +kernel
  obtain ⟨w, hw, hend⟩ := Option.map_eq_some_iff.mp hcheck
  obtain ⟨ph, hrun⟩ := packetAfter_runs hw
  exact of_decide_eq_false hend (h w ph hrun)

end HyperspaceLight
