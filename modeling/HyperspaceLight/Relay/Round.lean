/-
# One iteration of the relay loop

Rules for an iteration in any environment.  A property of the states that survives
what others do and what the relayer reads has to be shown again only where a batch is
submitted (`processFinalityEvent_wp`), and what a batch consists of is read off the answers that
were given on the way.
-/

import HyperspaceLight.Interaction.Interleaving
import HyperspaceLight.Relay.Reads
import HyperspaceLight.Relay.Translation

namespace HyperspaceLight

open Interaction

section

variable [Crates] {A : (o : Net.Op) → Except Error (Net.Res o) → Prop} {source sink : CosmosClient}
  {fuel fuel' : ℕ} {finalityEvent : FinalityEvent}

/-- **What an iteration has computed**: the messages of the events of a scan, and no
timeouts. -/
theorem iterationMessages_returns {messages timeouts : List Any} {proofHeightRef : Height}
    {eventTypes : List IbcEventType}
    (h : (iterationMessages (source.chain fuel) (sink.chain fuel') finalityEvent).Leaf A
      (.ok (some (messages, timeouts, proofHeightRef, eventTypes)))) :
    timeouts = [] ∧ ∃ update events updateType,
      (source.queryLatestIbcEvents finalityEvent sink.provider).Leaf A
        (.ok (update, events, updateType)) ∧
      eventTypes = events.map (fun ev => ev.event.eventType) ∧
      (events.foldlM (parseEventStep source.provider sink.provider) ⟨[], firstProofHeightRef⟩).Leaf A
        (.ok ⟨messages, proofHeightRef⟩) := by
  obtain ⟨r, hr, h⟩ := Prog.leaf_bind_ok.mp h
  cases r with
  | error e => cases h
  | ok r =>
      obtain ⟨update, events, updateType⟩ := r
      obtain ⟨⟨ms, ts, ref⟩, hparse, h⟩ := Prog.leaf_bind_ok.mp h
      obtain ⟨parsed, hparsed, hret⟩ := Prog.leaf_bind_ok.mp hparse
      simp only [Prog.leaf_pure, Outcome.ok.injEq, Option.some.injEq, Prod.mk.injEq] at h hret
      obtain ⟨rfl, rfl, rfl, rfl⟩ := h
      obtain ⟨rfl, rfl, rfl⟩ := hret
      exact ⟨rfl, update, events, updateType, Prog.leaf_attempt_ok.mp hr, rfl, hparsed⟩

/-- **Every message of the loop over the events comes from one of them.** -/
theorem parseEvents_origin {events : List IbcEventWithHeight} {parsed parsed' : ParsedEvents}
    (h : (events.foldlM (parseEventStep source.provider sink.provider) parsed).Leaf A (.ok parsed'))
    {m : Any} (hm : m ∈ parsed'.messages) :
    m ∈ parsed.messages ∨ ∃ ev ∈ events, ∃ proofHeight,
      (parseEvent source.provider sink.provider ev).Leaf A (.ok (some (m, proofHeight))) := by
  refine Prog.leaf_foldlM (fun seen acc => ∀ m ∈ acc.messages, m ∈ parsed.messages ∨ ∃ ev ∈ seen,
    ∃ proofHeight, (parseEvent source.provider sink.provider ev).Leaf A
      (.ok (some (m, proofHeight)))) (fun m hm => .inl hm) ?_ h m hm
  intro seen ev acc acc' hacc _ hstep m hm
  have hold : m ∈ acc.messages → m ∈ parsed.messages ∨ ∃ ev' ∈ seen ++ [ev], ∃ proofHeight,
      (parseEvent source.provider sink.provider ev').Leaf A (.ok (some (m, proofHeight))) :=
    fun hm => (hacc m hm).imp_right fun ⟨ev', hev', hrest⟩ =>
      ⟨ev', List.mem_append_left _ hev', hrest⟩
  obtain ⟨_, -, hstep⟩ := Prog.leaf_bind_ok.mp hstep
  obtain ⟨r, hr, hstep⟩ := Prog.leaf_bind_ok.mp hstep
  cases r with
  | none =>
      obtain rfl := Outcome.ok.inj hstep
      exact hold hm
  | some r =>
      obtain ⟨msg, proofHeight⟩ := r
      obtain rfl := Outcome.ok.inj hstep
      rcases List.mem_append.mp hm with hm | hm
      · exact hold hm
      · rw [List.mem_singleton.mp hm]
        exact .inr ⟨ev, by simp, proofHeight, hr⟩

/-- **Each event has one message at most**, and the messages are in the order of the events. -/
theorem parseEvents_origins {events : List IbcEventWithHeight} {parsed : ParsedEvents}
    {proofHeightRef : Height} (h : (events.foldlM (parseEventStep source.provider sink.provider)
      ⟨[], proofHeightRef⟩).Leaf A (.ok parsed)) :
    (parsed.messages.filterMap Any.origin).Sublist events := by
  refine Prog.leaf_foldlM (fun seen acc => (acc.messages.filterMap Any.origin).Sublist seen)
    (List.Sublist.refl []) ?_ h
  intro seen ev acc acc' hacc _ hstep
  obtain ⟨_, -, hstep⟩ := Prog.leaf_bind_ok.mp hstep
  obtain ⟨r, hr, hstep⟩ := Prog.leaf_bind_ok.mp hstep
  cases r with
  | none =>
      obtain rfl := Outcome.ok.inj hstep
      exact hacc.trans (List.sublist_append_left seen [ev])
  | some r =>
      obtain ⟨msg, proofHeight⟩ := r
      obtain rfl := Outcome.ok.inj hstep
      rw [ParsedEvents.push, List.filterMap_append,
        List.filterMap_cons_some (parseEvent_translation hr).origin]
      exact hacc.append (List.Sublist.refl [ev])

/-- **Every event of the loop is processed.** -/
theorem parseEvents_logged {events : List IbcEventWithHeight} {parsed parsed' : ParsedEvents}
    (h : (events.foldlM (parseEventStep source.provider sink.provider) parsed).Leaf A (.ok parsed')) :
    ∀ ev ∈ events, A (.log (.processing ev)) (.ok ()) := by
  refine Prog.leaf_foldlM (fun seen _ => ∀ ev ∈ seen, A (.log (.processing ev)) (.ok ()))
    (List.forall_mem_nil _) ?_ h
  intro seen ev acc acc' hseen _ hstep ev' hev'
  obtain ⟨_, hlog, -⟩ := Prog.leaf_bind_ok.mp hstep
  rcases List.mem_append.mp hev' with hev' | hev'
  · exact hseen ev' hev'
  · rw [List.mem_singleton.mp hev']
    exact (Prog.leaf_ask_ok (S := Net)).mp hlog

end

section

variable [Crates] {W : Type} {E : Env Net Error W} {P : W → Prop} {w : W}
  {source sink : CosmosClient} {fuel fuel' : ℕ} {finalityEvent : FinalityEvent} {messages : List Any}

omit [Crates] in
/-- A program that submits nothing. -/
theorem wp_passive {α : Type} {I : W → Prop} {p : Prog Net Error α}
    (hp : p.Asks (fun _ _ => True) Passive) (hI : E.Kept Passive I) (hIP : ∀ w, I w → P w)
    (hw : I w) : E.wp P P p (fun a w' => I w' ∧ E.Meanwhile Passive w w' ∧
      p.Leaf (E.Given Passive w w') (.ok a)) w :=
  Env.wp_post (fun _ _ h => ⟨hI.meanwhile h.1 hw, h⟩)
    (Env.wp_given hp (fun w' h => hIP w' (hI.meanwhile h hw)) fun w' h =>
      hIP w' (hI.meanwhile h hw))

/-- **A submission.**  `K` is kept up to it, `J` holds of its hash until it is confirmed. -/
theorem submitCall_rule {K Q : W → Prop} {J : TransactionId → W → Prop} (hticks : E.Stable K)
    (hK : E.Kept Passive K) (hKP : ∀ w, K w → P w) (hJ : ∀ hash, E.Kept Passive (J hash))
    (hJP : ∀ hash w, J hash w → P w)
    (hsubmit : ∀ w tx r w', K w → E.answer w (.node sink.side (.broadcastTxSync tx messages)) r w' →
      P w' ∧ ∀ hash, r = .ok hash → J hash w')
    (hconfirm : ∀ hash hash' w w', J hash w → E.Meanwhile Passive w w' →
      (confirmTx fuel sink.side hash).Leaf (E.Given Passive w w') (.ok hash') → Q w') (hw : K w) :
    E.wp P P (sink.submitCall fuel messages) (fun _ => Q) w := by
  have hreads : ∀ {α : Type} {p : Prog Net Error α}, p.Asks (fun _ _ => True) Reads →
      p.Asks (fun _ _ => True) Passive := fun hp => hp.mono fun _ h => passive_iff.mpr (.inl h)
  unfold CosmosClient.submitCall
  refine Env.wp_bind.mpr (Env.wp_post (fun info w₁ h₁ => ?_)
    (wp_passive (hreads queryAccount_reads) hK hKP hw))
  refine Env.wp_bind.mpr (Env.wp_post (fun tx w₂ h₂ => ?_) (wp_passive signTx_asks hK hKP h₁.1))
  refine Env.wp_bind.mpr (Env.wp_mapErr (Env.wp_ask K hticks h₂.1 hKP
    (fun w₃ hash w₄ h₃ ha => ?_) fun w₃ e w₄ h₃ ha => (hsubmit w₃ _ _ w₄ h₃ ha).1))
  have hJ₄ : J hash w₄ := (hsubmit w₃ _ _ w₄ h₃ ha).2 hash rfl
  exact Env.wp_post (fun hash' w' h => hconfirm hash hash' w₄ w' hJ₄ h.2.1 h.2.2)
    (wp_passive (hreads confirmTx_reads) (hJ hash) (hJP hash) hJ₄)

/-- **A flush.**  `K seen` holds where the messages `seen` are submitted and confirmed, and
`J seen batch hash` from then on until the next batch is confirmed. -/
theorem flushMessageBatch_rule {K : List Any → W → Prop}
    {J : List Any → List Any → TransactionId → W → Prop} (hticks : ∀ seen, E.Stable (K seen))
    (hK : ∀ seen, E.Kept Passive (K seen)) (hKP : ∀ seen w, K seen w → P w)
    (hJ : ∀ seen batch hash, E.Kept Passive (J seen batch hash))
    (hJP : ∀ seen batch hash w, J seen batch hash w → P w)
    (hsubmit : ∀ seen batch w tx r w', seen ++ batch <+: messages → K seen w →
      E.answer w (.node sink.side (.broadcastTxSync tx batch)) r w' →
        P w' ∧ ∀ hash, r = .ok hash → J seen batch hash w')
    (hconfirm : ∀ seen batch hash hash' w w', J seen batch hash w → E.Meanwhile Passive w w' →
      (confirmTx fuel sink.side hash).Leaf (E.Given Passive w w') (.ok hash') →
        K (seen ++ batch) w') (hw : K [] w) :
    E.wp P P (flushMessageBatch messages (sink.chain fuel)) (fun _ => K messages) w := by
  have hbatch : ∀ seen batch w, seen ++ batch <+: messages → K seen w →
      E.wp P P (submitBatch (sink.chain fuel) batch) (fun _ => K (seen ++ batch)) w :=
    fun seen batch w hbatches hw => Env.wp_bind.mpr (Env.wp_post (fun _ _ h => h)
      (submitCall_rule (hticks seen) (hK seen) (hKP seen) (hJ seen batch) (hJP seen batch)
        (fun w tx r w' h ha => hsubmit seen batch w tx r w' hbatches h ha)
        (fun hash hash' w w' => hconfirm seen batch hash hash' w w') hw))
  refine Env.wp_bind.mpr (Env.wp_post (fun weight w₁ h₁ => ?_)
    (wp_passive (estimateWeight_reads.mono fun _ h => passive_iff.mpr (.inl h)) (hK []) (hKP [])
      hw))
  refine Env.wp_bind.mpr ?_
  unfold u64Div
  split_ifs
  · show E.wp P P (if _ then _ else _) _ w₁
    split_ifs
    · exact hbatch [] messages w₁ List.prefix_rfl h₁.1
    · refine Env.wp_bind.mpr ?_
      rw [chunkSize_eq]
      split_ifs
      · show E.wp P P ((chunks _ messages).foldlM _ ()) _ w₁
        -- the pieces together are the batch
        have hflatten := chunks_flatten
          (pieceSize_pos (weight / (sink.chain fuel).blockMaxWeight)) messages
        refine Env.wp_post (fun _ w h => ?_) (Env.wp_foldlM (fun seen _ => K seen.flatten) h₁.1
          fun seen batch rest _ w hrest hw => ?_)
        · rw [← hflatten]
          exact h
        · rw [List.flatten_append, List.flatten_singleton]
          refine hbatch seen.flatten batch w ⟨rest.flatten, ?_⟩ hw
          rw [← hflatten, ← hrest, List.flatten_append, List.flatten_cons, List.append_assoc]
      · exact hKP [] w₁ h₁.1
  · exact hKP [] w₁ h₁.1

/-- **What an iteration does with its messages**: it waits for the source, a second scan is made
for the update, and both are flushed.  Before the flush it moves on by moves and reads. -/
theorem deliverMessages_rule {I Q : W → Prop} {proofHeightRef : Height}
    {eventTypes : List IbcEventType} (hI : E.Kept Passive I) (hIP : ∀ w, I w → P w)
    (hQ : ∀ w', E.Meanwhile Passive w w' → I w' → Q w')
    (hflush : ∀ w₂ w₃ update events updateType, E.Meanwhile Passive w w₂ →
      (Prog.repeatUntil (waitStep (source.chain fuel) proofHeightRef) fuel).Leaf
        (E.Given Passive w w₂) (.ok ()) →
      E.Meanwhile Passive w₂ w₃ →
      (source.queryLatestIbcEvents finalityEvent sink.provider).Leaf (E.Given Passive w₂ w₃)
        (.ok (update, events, updateType)) → I w₃ →
      E.wp P P (flushMessageBatch (update :: messages) (sink.chain fuel')) (fun _ => Q) w₃)
    (hw : I w) :
    E.wp P P (deliverMessages fuel (source.chain fuel) (sink.chain fuel') finalityEvent messages []
      proofHeightRef eventTypes) (fun _ => Q) w := by
  have hreads : ∀ {α : Type} {p : Prog Net Error α}, p.Asks (fun _ _ => True) Reads →
      p.Asks (fun _ _ => True) Passive := fun hp => hp.mono fun _ h => passive_iff.mpr (.inl h)
  show E.wp P P (Prog.repeatUntil _ fuel >>= fun _ => _) _ w
  refine Env.wp_bind.mpr (Env.wp_post (fun _ w₂ h₂ => ?_)
    (wp_passive (hreads (Prog.Asks.repeatUntil waitStep_reads fuel)) hI hIP hw))
  obtain ⟨hw₂, hmean₂, hwait⟩ := h₂
  have hscan : (source.queryLatestIbcEvents finalityEvent sink.provider).Asks
      (fun _ _ => True) Reads := queryLatestIbcEvents_reads
  refine Env.wp_bind.mpr (Env.wp_post (fun r w₃ h₃ => ?_)
    (wp_passive (hreads hscan.attempt) hI hIP hw₂))
  obtain ⟨hw₃, hmean₃, hread⟩ := h₃
  have hmean : E.Meanwhile Passive w w₃ := hmean₂.trans hmean₃
  cases r with
  | error e => exact hQ w₃ hmean hw₃
  | ok r =>
      obtain ⟨update, events, updateType⟩ := r
      dsimp only
      split
      · exact hQ w₃ hmean hw₃
      · exact hflush w₂ w₃ update events updateType hmean₂ hwait hmean₃
          (Prog.leaf_attempt_ok.mp hread) hw₃

/-- **One iteration**, in three parts up to its flush: the messages of a first scan are
computed, the source is waited for, and a second scan is made for its update.  An iteration
that ends before its flush has moved on from `w` by moves and reads. -/
theorem processFinalityEvent_rule {I Q : W → Prop} (hI : E.Kept Passive I)
    (hIP : ∀ w, I w → P w) (hQ : ∀ w', E.Meanwhile Passive w w' → I w' → Q w')
    (hflush : ∀ w₁ w₂ w₃ messages proofHeightRef eventTypes update events updateType,
      E.Meanwhile Passive w w₁ →
      (iterationMessages (source.chain fuel) (sink.chain fuel') finalityEvent).Leaf
        (E.Given Passive w w₁) (.ok (some (messages, [], proofHeightRef, eventTypes))) →
      E.Meanwhile Passive w₁ w₂ → E.Meanwhile Passive w₂ w₃ →
      (source.queryLatestIbcEvents finalityEvent sink.provider).Leaf (E.Given Passive w₂ w₃)
        (.ok (update, events, updateType)) → I w₃ →
      E.wp P P (flushMessageBatch (update :: messages) (sink.chain fuel')) (fun _ => Q) w₃)
    (hw : I w) :
    E.wp P P (processFinalityEvent fuel (source.chain fuel) (sink.chain fuel') finalityEvent)
      (fun _ => Q) w := by
  refine Env.wp_bind.mpr (Env.wp_post (fun r w₁ h₁ => ?_)
    (wp_passive iterationMessages_passive hI hIP hw))
  obtain ⟨hw₁, hmean₁, hleaf⟩ := h₁
  cases r with
  | none => exact hQ w₁ hmean₁ hw₁
  | some r =>
      obtain ⟨messages, timeouts, proofHeightRef, eventTypes⟩ := r
      obtain ⟨rfl, -⟩ := iterationMessages_returns hleaf
      refine deliverMessages_rule hI hIP (fun w' hmean => hQ w' (hmean₁.trans hmean)) ?_ hw₁
      intro w₂ w₃ update events updateType hmean₂ _ hmean₃ hread hw₃
      exact hflush w₁ w₂ w₃ messages proofHeightRef eventTypes update events updateType hmean₁ hleaf
        hmean₂ hmean₃ hread hw₃

/-- **One iteration that submits only what `M` holds of.**  A property that survives moves and
reads holds throughout, if it survives each batch of messages that `M` holds of, and `M` holds
of what the iteration computes and of the client update. -/
theorem processFinalityEvent_wp {M : Any → Prop} (hP : E.Kept Passive P) (hticks : E.Stable P)
    (hmessages : ∀ w' messages timeouts proofHeightRef eventTypes, E.Meanwhile Passive w w' →
      (iterationMessages (source.chain fuel) (sink.chain fuel') finalityEvent).Leaf
        (E.Given Passive w w') (.ok (some (messages, timeouts, proofHeightRef, eventTypes))) →
      ∀ m ∈ messages, M m)
    (hupdate : ∀ update u, update.msg = .updateClient u → M update)
    (hsubmit : ∀ w batch tx r w', P w → (∀ m ∈ batch, M m) →
      E.answer w (.node sink.side (.broadcastTxSync tx batch)) r w' → P w') (hw : P w) :
    E.wp P P (processFinalityEvent fuel (source.chain fuel) (sink.chain fuel') finalityEvent)
      (fun _ => P) w := by
  refine processFinalityEvent_rule hP (fun _ h => h) (fun _ _ h => h) ?_ hw
  intro w₁ w₂ w₃ messages proofHeightRef eventTypes update events updateType hmean₁ hleaf hmean₂
    hmean₃ hread hw₃
  obtain ⟨_, _, _, _, hreturns, -⟩ := queryLatestIbcEvents_returns hread
  have hall : ∀ m ∈ update :: messages, M m := fun m hm => by
    rcases List.mem_cons.mp hm with rfl | hm
    · exact hupdate _ _ hreturns.update_msg
    · exact hmessages w₁ messages [] proofHeightRef eventTypes hmean₁ hleaf m hm
  refine flushMessageBatch_rule (K := fun _ => P) (J := fun _ _ _ => P) (fun _ => hticks)
    (fun _ => hP) (fun _ _ h => h) (fun _ _ _ => hP) (fun _ _ _ _ h => h) ?_
    (fun _ _ _ _ _ _ h hmean _ => hP.meanwhile hmean h) hw₃
  intro seen batch w tx r w' hbatches h ha
  have hsub : batch ⊆ update :: messages := fun m hm =>
    hbatches.subset (List.mem_append_right seen hm)
  have hw' : P w' := hsubmit w batch tx r w' h (fun m hm => hall m (hsub hm)) ha
  exact ⟨hw', fun _ _ => hw'⟩

end

end HyperspaceLight
