/-
# Which iterations update the client

A notification may be skipped where nothing calls for a client update, and a change of the
validator set should call for one.  `msg_update_client_header` of `src/cosmos/client.rs`
compares the two validator sets and returns `UpdateType::Optional` either way, so that
`process_finality_event!` never sees a mandatory update: it submits the update exactly if an
event of its first scan calls for it (`Iteration.submits_iff`).
-/

import HyperspaceLight.Relay.Delivery

namespace HyperspaceLight

open Interaction

variable [Crates]

/-- **An iteration whose scans succeed**, with what its parts ask: the first scan, the
translation of its events, the wait, the second scan, and what comes after. -/
structure Iteration (fuel fuel' : ℕ) (source sink : CosmosClient) (finalityEvent : FinalityEvent)
    where
  scan : List (Exchange Net Error)
  parse : List (Exchange Net Error)
  wait : List (Exchange Net Error)
  rescan : List (Exchange Net Error)
  rest : List (Exchange Net Error)
  events : List IbcEventWithHeight
  messages : List Any
  timeouts : List Any
  proofHeightRef : Height
  update : Any
  /-- The light block that the header of the update is made of. -/
  block : LightBlock
  scanned : ∃ update' updateType,
    (source.queryLatestIbcEvents finalityEvent sink.provider).Path scan
      (.ok (update', events, updateType))
  parsed : (parseEvents source.provider sink.provider events).Path parse
    (.ok (messages, timeouts, proofHeightRef))
  waited : (Prog.repeatUntil (waitStep (source.chain fuel') proofHeightRef) fuel).Path wait (.ok ())
  rescanned : ∃ events' updateType,
    (source.queryLatestIbcEvents finalityEvent sink.provider).Path rescan
      (.ok (update, events', updateType))
  fetched : ⟨.node source.side (.lightBlock .highest), .ok block⟩ ∈ rescan
  header : ∃ trustedHeight trustedValidators, update.msg = .updateClient ⟨source.clientId,
    ⟨block.signedHeader, block.validators, trustedHeight, trustedValidators⟩, sink.accountId⟩
  completed : (processFinalityEvent fuel (source.chain fuel') (sink.chain fuel') finalityEvent).Path
    (scan ++ parse ++ (wait ++ (rescan ++ rest))) (.ok ())

/-- An event that calls for an update: a packet is sent or acknowledged, or a step of a
handshake is translated into a message. -/
def Notable : IbcEvent → Prop
  | .sendPacket _ | .writeAcknowledgement _ _ => True
  | .openInitConnection a | .openTryConnection a | .openAckConnection a => a.connectionId.isSome
  | .openInitChannel a | .openTryChannel a | .openAckChannel a => a.channelId.isSome
  | .closeInitChannel _ => True
  | _ => False

/-- The translation of events makes no timeout messages. -/
theorem parseEvents_timeouts {source sink : IbcProvider Net} {events : List IbcEventWithHeight}
    {messages timeouts : List Any} {proofHeightRef : Height} {t : List (Exchange Net Error)}
    (h : (parseEvents source sink events).Path t (.ok (messages, timeouts, proofHeightRef))) :
    timeouts = [] := by
  obtain ⟨_, _, _, -, -, hreturn⟩ := Prog.path_bind_ok.mp h
  have hresult := Outcome.ok.inj (Prog.path_pure.mp hreturn).2
  exact (Prod.mk.inj (Prod.mk.inj hresult).2).1.symm

namespace Iteration

variable {fuel fuel' : ℕ} {source sink : CosmosClient} {finalityEvent : FinalityEvent}
  (it : Iteration fuel fuel' source sink finalityEvent)

/-- All that the iteration asks. -/
def trace : List (Exchange Net Error) := it.scan ++ it.parse ++ (it.wait ++ (it.rescan ++ it.rest))

/-- The sink has accepted a transaction with the update. -/
def Submits : Prop := it.update ∈ batches it.trace

/-- The types of the events of the first scan. -/
def eventTypes : List IbcEventType := it.events.map fun ev => ev.event.eventType

/-- The iteration fetches the highest light block. -/
theorem fetched_mem : ⟨.node source.side (.lightBlock .highest), .ok it.block⟩ ∈ it.trace :=
  List.mem_append_right _ (List.mem_append_right _ (List.mem_append_left _ it.fetched))

/-- **The decision.**  The iteration ends where there is neither a packet event nor a message,
and flushes the update with the messages elsewhere. -/
theorem decides :
    (if hasPacketEvents it.eventTypes = false ∧ it.messages = [] then pure ()
      else flushMessageBatch (it.update :: it.messages) (sink.chain fuel')).Path it.rest (.ok ()) := by
  obtain ⟨update', updateType', hscan⟩ := it.scanned
  obtain ⟨events', updateType, hrescan⟩ := it.rescanned
  obtain ⟨-, -, -, -, -, rfl⟩ := queryLatestIbcEvents_returns hrescan.leaf
  have hmessages : (iterationMessages (source.chain fuel') (sink.chain fuel') finalityEvent).Path
      (it.scan ++ it.parse)
      (.ok (some (it.messages, it.timeouts, it.proofHeightRef, it.eventTypes))) := by
    refine (Prog.Path.bind_iff (Prog.path_attempt_ok.mpr hscan)).mpr ?_
    rw [← List.append_nil it.parse]
    exact (Prog.Path.bind_iff it.parsed).mpr ⟨rfl, rfl⟩
  have hdeliver := (Prog.Path.bind_iff hmessages).mp it.completed
  change (deliverMessages fuel _ _ _ it.messages it.timeouts it.proofHeightRef it.eventTypes).Path
    _ _ at hdeliver
  rw [parseEvents_timeouts it.parsed] at hdeliver
  have hafterWait := (Prog.Path.bind_iff it.waited).mp hdeliver
  have hend := (Prog.Path.bind_iff (Prog.path_attempt_ok.mpr hrescan)).mp hafterWait
  dsimp only [UpdateType.isOptional] at hend
  cases hpacket : hasPacketEvents it.eventTypes with
  | true =>
      rw [hpacket] at hend
      rw [if_neg fun h => Bool.noConfusion h.1]
      exact hend
  | false =>
      rw [hpacket] at hend
      cases hnone : it.messages with
      | nil =>
          rw [hnone] at hend
          exact hend
      | cons m ms =>
          rw [hnone] at hend
          exact hend

/-- **What the iteration submits.** -/
theorem batches_trace : batches it.trace =
    if hasPacketEvents it.eventTypes = false ∧ it.messages = [] then []
      else it.update :: it.messages := by
  have hsink : SinkContract (sink.chain fuel') :=
    sink.sinkContract fuel' sink.maxTxSize sink.estimateWeight fun _ => estimateWeight_reads
  obtain ⟨update', updateType', hscan⟩ := it.scanned
  obtain ⟨events', updateType, hrescan⟩ := it.rescanned
  obtain ⟨parse, t, parsed, hparse, hparsed, hreturn⟩ := Prog.path_bind_ok.mp it.parsed
  obtain ⟨rfl, -⟩ := Prog.path_pure.mp hreturn
  rw [List.append_nil] at hparse
  have hparseNone : batches it.parse = [] := hparse ▸ batches_nil hparsed
    (Prog.Asks.foldlM (fun _ _ _ => parseEventStep_passive) _)
  have hwaitNone : batches it.wait = [] := batches_nil it.waited
    ((Prog.Asks.repeatUntil waitStep_reads fuel).mono fun _ h => passive_iff.mpr (.inl h))
  have hbefore : batches it.trace = batches it.rest := by
    rw [trace, batches_append, batches_append, batches_append, batches_append,
      (scan_path hsink finalityEvent hscan).1, hparseNone, hwaitNone,
      (scan_path hsink finalityEvent hrescan).1]
    rfl
  have hrest := it.decides
  rw [hbefore]
  split_ifs at hrest ⊢
  · obtain ⟨hnil, -⟩ := Prog.path_pure.mp hrest
    rw [hnil]
    rfl
  · exact flushMessageBatch_batches hsink hrest

/-- **An event that calls for an update is a packet event or has a message.** -/
theorem quiet_iff : (hasPacketEvents it.eventTypes = false ∧ it.messages = []) ↔
    ∀ e ∈ it.events, ¬Notable e.event := by
  obtain ⟨parse, t, parsed, -, hparsed, hreturn⟩ := Prog.path_bind_ok.mp it.parsed
  have hmessages : parsed.messages = it.messages :=
    (Prod.mk.inj (Outcome.ok.inj (Prog.path_pure.mp hreturn).2)).1
  obtain ⟨parts, hparts⟩ := parseEvents_path hparsed
  rw [← hmessages, hparts.messages, eventTypes, ← hparts.events, List.filterMap_eq_nil_iff,
    hasPacketEvents, List.any_eq_false]
  simp only [List.map_map, List.forall_mem_map, Function.comp_apply, ← forall_and]
  refine forall₂_congr fun part hpart => ?_
  have htranslated := (hparts.sound part hpart).translated
  rw [← Option.not_isSome_iff_eq_none, htranslated]
  cases part.event.event <;> simp [IbcEvent.eventType, Translated, Notable]

/-- **The update is submitted exactly if an event calls for it.** -/
theorem submits_iff : it.Submits ↔ ∃ e ∈ it.events, Notable e.event := by
  rw [Submits, it.batches_trace]
  by_cases hquiet : hasPacketEvents it.eventTypes = false ∧ it.messages = []
  · rw [if_pos hquiet]
    refine iff_of_false List.not_mem_nil fun ⟨e, he, hnotable⟩ => ?_
    exact it.quiet_iff.mp hquiet e he hnotable
  · rw [if_neg hquiet]
    refine iff_of_true List.mem_cons_self ?_
    rw [it.quiet_iff] at hquiet
    by_contra hnone
    exact hquiet fun e he hnotable => hnone ⟨e, he, hnotable⟩

end Iteration

/-- **A completed run is such an iteration**, unless it ends with a scan that failed. -/
theorem processFinalityEvent_iterates {fuel fuel' : ℕ} {source sink : CosmosClient}
    {finalityEvent : FinalityEvent} {t : List (Exchange Net Error)}
    (h : (processFinalityEvent fuel (source.chain fuel') (sink.chain fuel') finalityEvent).Path t
      (.ok ())) :
    (∃ t₁ t₂ e, t = t₁ ++ t₂ ∧
        (source.queryLatestIbcEvents finalityEvent sink.provider).Path t₂ (.err e)) ∨
      ∃ it : Iteration fuel fuel' source sink finalityEvent, it.trace = t := by
  have hrun := h
  obtain ⟨t₁, t₂, r, rfl, hmessages, h⟩ := Prog.path_bind_ok.mp h
  obtain ⟨scan, parse, scanResult, rfl, hscan, hparse⟩ := Prog.path_bind_ok.mp hmessages
  cases scanResult with
  | error e =>
      obtain ⟨rfl, hr⟩ := Prog.path_pure.mp hparse
      obtain rfl := Outcome.ok.inj hr
      obtain ⟨rfl, -⟩ := Prog.path_pure.mp h
      exact .inl ⟨[], _, e, by simp, Prog.path_attempt_error.mp hscan⟩
  | ok scanResult =>
  obtain ⟨update', events, updateType'⟩ := scanResult
  obtain ⟨parse, t₃, ⟨messages, timeouts, ref⟩, rfl, hparsed, hreturn⟩ :=
    Prog.path_bind_ok.mp hparse
  obtain ⟨rfl, hr⟩ := Prog.path_pure.mp hreturn
  obtain rfl := Outcome.ok.inj hr
  obtain rfl := parseEvents_timeouts hparsed
  change ((Prog.repeatUntil (waitStep (source.chain fuel') ref) fuel >>= fun _ => _) :
    Prog Net Error Unit).Path t₂ _ at h
  obtain ⟨wait, t₄, _, rfl, hwait, h⟩ := Prog.path_bind_ok.mp h
  obtain ⟨rescan, rest, rescanResult, rfl, hrescan, h⟩ := Prog.path_bind_ok.mp h
  cases rescanResult with
  | error e =>
      obtain ⟨rfl, -⟩ := Prog.path_pure.mp h
      refine .inl ⟨scan ++ (parse ++ []) ++ wait, rescan, e, by simp, ?_⟩
      exact Prog.path_attempt_error.mp hrescan
  | ok rescanResult =>
  obtain ⟨update, events', updateType⟩ := rescanResult
  have hscanned : (source.queryLatestIbcEvents finalityEvent sink.provider).Path rescan
      (.ok (update, events', updateType)) := Prog.path_attempt_ok.mp hrescan
  obtain ⟨clientHeight, status, highest, trusted, hreturns, -⟩ :=
    queryLatestIbcEvents_returns hscanned.leaf
  rw [List.append_nil] at hrun ⊢
  exact .inr ⟨{
    scan, parse, wait, rescan, rest, events, messages, update
    timeouts := []
    proofHeightRef := ref
    block := highest
    scanned := ⟨update', updateType', Prog.path_attempt_ok.mp hscan⟩
    parsed := hparsed
    waited := hwait
    rescanned := ⟨events', updateType, hscanned⟩
    fetched := hreturns.highest_answered
    header := ⟨clientHeight, trusted.validators, hreturns.update_msg⟩
    completed := hrun }, rfl⟩

/-- **When a change of the validator set is not skipped.**  For every two Cosmos chains, every
finality event, all events, and every iteration whose queries succeed: the iteration submits the
update wherever the validator sets differ, and skips the notification only where they are equal
and there is no packet event and no message, if and only if the sets are equal or an event of the
first scan calls for an update. -/
theorem validatorChange_submitted_iff (fuel fuel' : ℕ) (source sink : CosmosClient)
    (finalityEvent : FinalityEvent) (it : Iteration fuel fuel' source sink finalityEvent) :
    ((it.block.validators ≠ it.block.nextValidators → it.Submits) ∧
        (¬it.Submits → it.block.validators = it.block.nextValidators ∧
          hasPacketEvents it.eventTypes = false ∧ it.messages = [])) ↔
      it.block.validators = it.block.nextValidators ∨ ∃ e ∈ it.events, Notable e.event := by
  rw [← it.submits_iff]
  constructor
  · rintro ⟨hchange, -⟩
    exact or_iff_not_imp_left.mpr hchange
  · rintro (hequal | hsubmits)
    · refine ⟨fun hne => absurd hequal hne, fun hskip => ⟨hequal, ?_⟩⟩
      rw [it.quiet_iff]
      rw [it.submits_iff] at hskip
      exact fun e he hnotable => hskip ⟨e, he, hnotable⟩
    · exact ⟨fun _ => hsubmits, fun hskip => absurd hsubmits hskip⟩

omit [Crates]

/-! ### A change of the set -/

/-- Two nodes at height 9 with these blocks, and clients at height 5; the validator set changes
after block 9. -/
def rotationAnswer (blocks : ℕ → BlockResults) : (o : Net.Op) → Except Error (Net.Res o)
  | .node _ (.lightBlock .highest) => .ok ⟨⟨9, seconds 9⟩, [("validator", 1)], [("validator", 2)]⟩
  | o => deliveryAnswer blocks o

/-- Blocks without events. -/
def noBlocks (_ : ℕ) : BlockResults := ⟨none, none, none⟩

/-- One iteration between them. -/
def rotationRun : Prog Net Error Unit :=
  let _ := Crates.reference
  processFinalityEvent 1 ((cosmosClient .a client0).chain 1) ((cosmosClient .b client0).chain 1) 9

/-- Whether a scan returns an event of a packet, if it succeeds. -/
def rotationPackets (blocks : ℕ → BlockResults) : Option Bool :=
  let _ := Crates.reference
  (((cosmosClient .a client0).queryLatestIbcEvents 9 (cosmosClient .b client0).provider).eval
    (rotationAnswer blocks)).toOption.map fun r =>
      hasPacketEvents (r.2.1.map fun ev => ev.event.eventType)

/-- A run that returns is an iteration with a change of the set. -/
theorem rotation_iterates {blocks : ℕ → BlockResults} {packets : Bool}
    (hreturns : rotationRun.eval (rotationAnswer blocks) = .ok ())
    (hpackets : rotationPackets blocks = some packets) :
    let _ := Crates.reference
    ∃ it : Iteration 1 1 (cosmosClient .a client0) (cosmosClient .b client0) 9,
      it.trace = rotationRun.exchanges (rotationAnswer blocks) ∧
        it.block.validators ≠ it.block.nextValidators ∧ hasPacketEvents it.eventTypes = packets := by
  intro _
  obtain ⟨⟨update, events, updateType⟩, hscan, rfl⟩ := Option.map_eq_some_iff.mp hpackets
  have hscan := Outcome.toOption_eq_some.mp hscan
  have hpath := rotationRun.path_eval (rotationAnswer blocks)
  rw [hreturns] at hpath
  rcases processFinalityEvent_iterates hpath with ⟨t₁, t₂, e, ht, hfailed⟩ | ⟨it, ht⟩
  · have hend := hfailed.eval_eq fun x hx =>
      Prog.exchanges_answer x (ht ▸ List.mem_append_right t₁ hx)
    exact nomatch hscan.symm.trans hend
  · have hasked : ∀ x ∈ it.trace, x.2 = rotationAnswer blocks x.1 := fun x hx =>
      Prog.exchanges_answer x (ht ▸ hx)
    have hblock := Except.ok.inj (hasked _ it.fetched_mem)
    obtain ⟨update', updateType', hscanned⟩ := it.scanned
    have hevents := hscanned.eval_eq fun x hx =>
      hasked x (List.mem_append_left _ (List.mem_append_left _ hx))
    obtain rfl : events = it.events :=
      (Prod.mk.inj (Prod.mk.inj (Outcome.ok.inj (hscan.symm.trans hevents))).2).1
    exact ⟨it, ht, by rw [hblock]; decide, rfl⟩

/-- The change is not skipped where packets are sent. -/
theorem rotation_submitted : let _ := Crates.reference
    ∃ it : Iteration 1 1 (cosmosClient .a client0) (cosmosClient .b client0) 9,
      it.block.validators ≠ it.block.nextValidators ∧ it.Submits := by
  intro _
  have hreturns : rotationRun.eval (rotationAnswer fourPackets) = .ok () := by decide +kernel
  have hpackets : rotationPackets fourPackets = some true := by decide +kernel
  obtain ⟨it, -, hchange, hpacket⟩ := rotation_iterates hreturns hpackets
  refine ⟨it, hchange, ((validatorChange_submitted_iff 1 1 _ _ 9 it).mpr (.inr ?_)).1 hchange⟩
  by_contra hnone
  have hquiet := it.quiet_iff.mpr fun ev hev hnotable => hnone ⟨ev, hev, hnotable⟩
  exact Bool.false_ne_true (hquiet.1.symm.trans hpacket)

/-- **A change of the validator set is skipped** where nothing else calls for an update. -/
theorem rotation_skipped : let _ := Crates.reference
    ¬∀ (fuel fuel' : ℕ) (source sink : CosmosClient) (finalityEvent : FinalityEvent)
      (it : Iteration fuel fuel' source sink finalityEvent),
      it.block.validators ≠ it.block.nextValidators → it.Submits := by
  intro _ h
  have hreturns : rotationRun.eval (rotationAnswer noBlocks) = .ok () := by decide +kernel
  have hpackets : rotationPackets noBlocks = some false := by decide +kernel
  obtain ⟨it, ht, hchange, -⟩ := rotation_iterates hreturns hpackets
  have hsubmits := h 1 1 _ _ 9 it hchange
  have hnone : (batches (rotationRun.exchanges (rotationAnswer noBlocks))).isEmpty = true := by
    decide +kernel
  rw [Iteration.Submits, ht, List.isEmpty_iff.mp hnone] at hsubmits
  exact List.not_mem_nil hsubmits

end HyperspaceLight
