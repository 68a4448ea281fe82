/-
# What reaches a node is what was meant

The record of the relay loop speaks of messages, but a node gets bytes.  Here the two are
joined: in every run, the bytes of every transaction that the relayer broadcasts decode to
the messages on record, and carry a signature of them by the key of the client they were
sent through (`relayLoop_faithful`).  A flush that completes has therefore put the messages
it was given on the wire, once each and in their order (`flushMessageBatch_wire`).

That does not depend on how the sink estimates a batch and what it allows.  A client refuses
a batch over its limit before it is split; with another estimate the pieces are sent one
after the other.
-/

import HyperspaceLight.Cosmos.TxFormat
import HyperspaceLight.Relay.Delivery
import HyperspaceLight.Relay.Driver

namespace HyperspaceLight

open Interaction

/-- The messages in the bytes of a transaction. -/
def txMessages (bytes : Bytes) : Option (List WireAny) := do
  let raw ← TxRaw.decode bytes
  let body ← WireBody.decode raw.bodyBytes
  return body.messages

/-- **The bytes are a transaction of the client with these messages**: they have the memo of
the relayer and no other options, and one signature, of the document that binds them to
the chain and to an account. -/
def TxOf [Crates] (self : CosmosClient) (tx : Bytes) (messages : List Any) : Prop :=
  ∃ raw info signature, TxRaw.decode tx = some raw ∧
    WireBody.decode raw.bodyBytes = some ⟨messages.map Any.wire, "ibc", 0, [], []⟩ ∧
    (info.sequence < u64Bound →
      WireAuthInfo.decode raw.authInfoBytes
        = some (authInfoOf self.keybase info.sequence txFee)) ∧
    raw.signatures = [signature] ∧
    Crates.sign self.keybase.privateKey
      (signedDocument self.keybase self.chainId info messages txFee).encode = .ok signature

/-- A question in which bytes and messages agree; there are less than `2 ^ 64` bytes. -/
def Faithful [Crates] (client : Side → CosmosClient) : NetOp → Prop
  | .node s (.broadcastTxSync tx messages) =>
      tx.length < u64Bound → TxOf (client s) tx messages
  | _ => True

/-- A transaction of messages has their encodings. -/
theorem TxOf.txMessages [Crates] {self : CosmosClient} {tx : Bytes} {messages : List Any}
    (h : TxOf self tx messages) : txMessages tx = some (messages.map Any.wire) := by
  obtain ⟨raw, info, signature, hraw, hbody, -⟩ := h
  simp [HyperspaceLight.txMessages, hraw, hbody]

section

variable [Crates] {client : Side → CosmosClient}
  {A : (o : Net.Op) → Except Error (Net.Res o) → Prop}

/-- A call that submits nothing is faithful. -/
theorem Passive.faithful {o : NetOp} (h : Passive o) : Faithful client o := by
  cases o with
  | node s op =>
      cases op with
      | broadcastTxSync tx messages => exact h.elim
      | _ => trivial
  | _ => trivial

/-- A read is faithful. -/
theorem Reads.faithful {o : NetOp} (h : Reads o) : Faithful client o :=
  (passive_iff.mpr (.inl h)).faithful

/-- **A client submits what it is given.** -/
theorem submitCall_faithful {s : Side} (hside : (client s).side = s) {fuel : ℕ}
    {messages : List Any} : ((client s).submitCall fuel messages).Asks A (Faithful client) := by
  refine (queryAccount_reads.mono fun _ => Reads.faithful).bind fun info _ => ?_
  refine signTx_asks.bind fun tx htx => ?_
  obtain ⟨raw, bytes⟩ := tx
  refine Prog.Asks.bind ?_ fun hash _ => confirmTx_reads.mono fun _ => Reads.faithful
  refine Side.ask_asks fun hlen => ?_
  rw [hside]
  obtain ⟨signature, hsign, rfl, rfl⟩ := signTx_returns htx
  refine ⟨_, info, signature, TxRaw.decode_encode hlen,
    encodeTxBody_decode (TxRaw.body_length_lt hlen), fun hsequence => ?_, rfl, hsign⟩
  exact encodeAuthInfo_decode hsequence (by decide) (TxRaw.authInfo_length_lt hlen)

/-- **So does a flush**, for any limit and any estimate of the weight. -/
theorem flushMessageBatch_faithful {s : Side} (hside : (client s).side = s) {fuel : ℕ}
    {blockMaxWeight : ℕ} {estimateWeight : List Any → Prog Net Error ℕ}
    (hestimate : ∀ msgs, (estimateWeight msgs).Asks A Reads) {messages : List Any} :
    (flushMessageBatch messages { (client s).chain fuel with blockMaxWeight, estimateWeight }).Asks A
      (Faithful client) := by
  have hsubmit : ∀ batch,
      (submitBatch { (client s).chain fuel with blockMaxWeight, estimateWeight } batch).Asks A
        (Faithful client) :=
    fun batch => (submitCall_faithful hside).bind fun _ _ => trivial
  refine ((hestimate messages).mono fun _ => Reads.faithful).bind fun weight _ => ?_
  refine Prog.Asks.bind ?_ fun ratio _ => ?_
  · unfold u64Div
    split_ifs <;> trivial
  · change (if ratio = 0 then submitBatch _ messages
      else chunkSize ratio >>= fun chunk => (chunks chunk messages).foldlM
        (fun _ batch => submitBatch _ batch) ()).Asks A _
    rw [chunkSize_eq]
    split_ifs
    · exact hsubmit messages
    · exact Prog.Asks.foldlM (fun _ batch _ => hsubmit batch) ()
    · trivial

/-- A client as it estimates itself. -/
theorem flushMessageBatch_chain_faithful {s : Side} (hside : (client s).side = s) {fuel : ℕ}
    {messages : List Any} :
    (flushMessageBatch messages ((client s).chain fuel)).Asks A (Faithful client) :=
  flushMessageBatch_faithful hside fun _ => estimateWeight_reads

omit [Crates] in
/-- The timeouts are submitted first, the rest is done as without them. -/
theorem deliverMessages_timeouts {S : Sig} [Timer S] {fuel : ℕ} {source sink : Chain S}
    {finalityEvent : FinalityEvent} {messages timeouts : List Any} {proofHeightRef : Height}
    {eventTypes : List IbcEventType} (htimeouts : timeouts ≠ []) :
    deliverMessages fuel source sink finalityEvent messages timeouts proofHeightRef eventTypes =
      flushMessageBatch timeouts source >>= fun _ =>
        deliverMessages fuel source sink finalityEvent messages [] proofHeightRef eventTypes := by
  unfold deliverMessages
  rw [if_pos htimeouts]
  rfl

/-- **The delivery of an iteration is faithful**: each broadcast is a transaction of its
messages. -/
theorem deliverMessages_faithful (hside : ∀ s, (client s).side = s) {s : Side}
    {fuel fuel' : ℕ} {finalityEvent : FinalityEvent} {messages timeouts : List Any}
    {proofHeightRef : Height} {eventTypes : List IbcEventType} :
    (deliverMessages fuel ((client s).chain fuel') ((client s.other).chain fuel') finalityEvent
      messages timeouts proofHeightRef eventTypes).Asks A (Faithful client) := by
  have hscan : ((client s).queryLatestIbcEvents finalityEvent (client s.other).provider).Asks A
      (Faithful client) := queryLatestIbcEvents_reads.mono fun _ => Reads.faithful
  have hrest : (deliverMessages fuel ((client s).chain fuel') ((client s.other).chain fuel')
      finalityEvent messages [] proofHeightRef eventTypes).Asks A (Faithful client) := by
    refine ((Prog.Asks.repeatUntil waitStep_reads fuel).mono fun _ => Reads.faithful).bind
      fun _ _ => hscan.attempt.bind fun r _ => ?_
    split
    · trivial
    · split
      · trivial
      · exact flushMessageBatch_chain_faithful (hside s.other)
  rcases eq_or_ne timeouts [] with rfl | htimeouts
  · exact hrest
  · rw [deliverMessages_timeouts htimeouts]
    exact (flushMessageBatch_chain_faithful (hside s)).bind fun _ _ => hrest

/-- One iteration of the relay loop. -/
theorem processFinalityEvent_faithful (hside : ∀ s, (client s).side = s) {s : Side}
    {fuel fuel' : ℕ} {finalityEvent : FinalityEvent} :
    (processFinalityEvent fuel ((client s).chain fuel') ((client s.other).chain fuel')
      finalityEvent).Asks A (Faithful client) := by
  refine (iterationMessages_passive.mono fun _ => Passive.faithful).bind fun r _ => ?_
  cases r with
  | none => trivial
  | some r =>
      obtain ⟨messages, timeouts, proofHeightRef, eventTypes⟩ := r
      exact deliverMessages_faithful hside

end

/-- **What reaches a node is what was meant.**  In every run of the relay loop, whatever the
nodes do and answer: the bytes of each transaction that the relayer broadcasts decode to the
messages on record, under a signature by the key of the client they are sent through. -/
theorem relayLoop_faithful [Crates] (X : Chains) (R : Relayer) (foreign : Prop) (w w' : World)
    (s : Side) (tx : Bytes) (messages : List Any)
    (k : Except Error TransactionId → Prog Net Error Unit)
    (hr : (relayLoop X R foreign).Runs (w, .idle)
      (w', .busy (.call (.node s (.broadcastTxSync tx messages)) k)))
    (hlen : tx.length < u64Bound) : TxOf (R.client s) tx messages := by
  have hround : ∀ w p w', (relayLoop X R foreign).start w p w' →
      p.Asks (fun _ _ => True) (Faithful R.client) := by
    rintro w p w' ⟨s, finalityEvent, -, rfl⟩
    exact processFinalityEvent_faithful R.client_side
  exact (Loop.asks hround hr _ rfl).1 hlen

/-- The transaction that the relayer is about to broadcast. -/
def broadcasting : Phase Net Error → Option (Side × Bytes × List Any)
  | .busy (.call (.node s (.broadcastTxSync tx messages)) _) => some (s, tx, messages)
  | _ => none

/-- A broadcast is under way where the next call is one. -/
theorem broadcasting_eq_some {ph : Phase Net Error} {s : Side} {tx : Bytes} {messages : List Any}
    (h : broadcasting ph = some (s, tx, messages)) :
    ∃ k, ph = .busy (.call (.node s (.broadcastTxSync tx messages)) k) := by
  unfold broadcasting at h
  split at h
  · rename_i s' tx' messages' k
    obtain ⟨rfl, rfl, rfl⟩ := Option.some.inj h
    exact ⟨k, rfl⟩
  · cases h

/-- Whether the transaction of the schedule is short, and how many messages it has. -/
def strayTx : Option (Bool × ℕ) :=
  ((@relayDriver Crates.reference strayChains (relayerFor channel7) False).exec
    [.start (.a, 0), .answers 18, .tick (.block .a), .answers 14] (strayStart, .idle)).bind
      fun c => (broadcasting c.2).map fun tx => (decide (tx.2.1.length < u64Bound), tx.2.2.length)

/-- The example run broadcasts two messages. -/
theorem stray_faithful : ∃ s tx messages, messages.length = 2 ∧
    @TxOf Crates.reference ((relayerFor channel7).client s) tx messages := by
  let _ := Crates.reference
  have hrun : strayTx = some (true, 2) := by decide +kernel
  obtain ⟨⟨w, ph⟩, hexec, hph⟩ := Option.bind_eq_some_iff.mp hrun
  obtain ⟨⟨s, tx, messages⟩, hpending, hvalues⟩ := Option.map_eq_some_iff.mp hph
  obtain ⟨k, rfl⟩ := broadcasting_eq_some hpending
  obtain ⟨hlen, hcount⟩ := Prod.mk.inj hvalues
  exact ⟨s, tx, messages, hcount, relayLoop_faithful strayChains (relayerFor channel7) False
    strayStart w s tx messages k (Driver.exec_sound _ hexec) (of_decide_eq_true hlen)⟩

/-- **The batch is on the wire.**  The messages in the bytes of the transactions that a
completed flush has submitted are the messages of the batch, in their order, for any limit and any
estimate of the weight. -/
theorem flushMessageBatch_wire [Crates] (self : CosmosClient) (fuel blockMaxWeight : ℕ)
    (estimateWeight : List Any → Prog Net Error ℕ) (messages : List Any)
    (t : List (Exchange Net Error))
    (hestimate : ∀ msgs, (estimateWeight msgs).Asks (fun _ _ => True) Reads)
    (h : (flushMessageBatch messages
      { self.chain fuel with blockMaxWeight, estimateWeight }).Path t (.ok ()))
    (hlen : ∀ tx ∈ submitted t, tx.1.length < u64Bound) :
    ∃ groups, ((submitted t).map fun tx => tx.1).mapM txMessages = some groups ∧
      groups.flatten = messages.map Any.wire := by
  -- the client, and one of the same key for the other side
  let client : Side → CosmosClient := fun s => { self with side := s }
  have hbatch : (flushMessageBatch messages
      { self.chain fuel with blockMaxWeight, estimateWeight }).Asks (fun _ _ => True)
        (Faithful client) := flushMessageBatch_faithful (s := self.side) rfl hestimate
  have hfaithful : ∀ x ∈ t, Faithful client x.1 := h.asks hbatch
  have hdecode : ∀ tx ∈ submitted t, txMessages tx.1 = some (tx.2.map Any.wire) := by
    intro tx htx
    obtain ⟨⟨o, r⟩, hx, haccepted⟩ := List.mem_filterMap.mp htx
    unfold accepted at haccepted
    split at haccepted
    · rename_i heq
      obtain ⟨rfl, -⟩ := Sigma.mk.inj heq
      obtain rfl := Option.some.inj haccepted
      exact (hfaithful _ hx (hlen _ htx)).txMessages
    · cases haccepted
  refine ⟨(submitted t).map fun tx => tx.2.map Any.wire, Wire.mapM_written hdecode, ?_⟩
  have hbatches : batches t = messages := flushMessageBatch_batches
    (self.sinkContract fuel blockMaxWeight estimateWeight hestimate) h
  rw [← hbatches, batches, ← List.flatMap_def, List.map_flatMap]

/-- A flush of three messages to nodes that serve, by a sink where they are too heavy. -/
def narrowFlush : Prog Net Error Unit :=
  flushMessageBatch (smallMessage :: twoMessages) narrowSink

/-- The theorem at work: three messages are on the wire, in two transactions. -/
theorem twoMessages_wire : let t := narrowFlush.exchanges (promptAnswer ⟨1, 1⟩ 0)
    (submitted t).length = 2 ∧ ∃ groups, ((submitted t).map fun tx => tx.1).mapM txMessages =
        some groups ∧ groups.flatten = (smallMessage :: twoMessages).map Any.wire := by
  intro t
  let _ := Crates.reference
  have hok : narrowFlush.eval (promptAnswer ⟨1, 1⟩ 0) = .ok () := by decide +kernel
  have hlength : (submitted t).length = 2 := by decide +kernel
  have hshort : ((submitted t).all fun tx => decide (tx.1.length < u64Bound)) = true := by
    decide +kernel
  exact ⟨hlength, flushMessageBatch_wire (cosmosClient .b client0) 1 10 (fun _ => pure 15)
    (smallMessage :: twoMessages) t (fun _ => trivial) (hok ▸ Prog.path_eval _ _)
    fun tx htx => of_decide_eq_true (List.all_eq_true.mp hshort tx htx)⟩

end HyperspaceLight
