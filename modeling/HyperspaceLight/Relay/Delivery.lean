/-
# What an iteration delivers

An iteration that reaches its flush and completes has submitted the client update and
then one message for each event of its first scan that is looked up to have no delay, in
the order of the events (`iteration_lookedUp`).  These are the events that are translatable,
for an acknowledgement only where both identifiers of its packet name connections that agree
about that (`iteration_delivers_iff`).  The sink is any chain of which `submit` submits its
batch and nothing else submits (`SinkContract`); how heavy a batch is there, and what a
block holds, does not matter.
-/

import HyperspaceLight.Cosmos.ScanOrder
import HyperspaceLight.Relay.Flush
import HyperspaceLight.Relay.Round
import HyperspaceLight.Relay.Translatable

namespace HyperspaceLight

open Interaction

/-! ### Up to the flush -/

section

variable {S : Sig} [Logger S] [Timer S] [Crates]

/-- An iteration up to its flush: the batch to flush, or nothing where it ends before. -/
def iterationBatch (fuel : ℕ) (source sink : Chain S) (finalityEvent : FinalityEvent) :
    Prog S Error (Option (List Any)) := do
  match ← iterationMessages source sink finalityEvent with
  | none => return none
  | some (messages, timeouts, proofHeightRef, eventTypes) => do
      if timeouts ≠ [] then
        flushMessageBatch timeouts source
      .repeatUntil (waitStep source proofHeightRef) fuel
      match ← (source.queryLatestIbcEvents finalityEvent sink.toIbcProvider).attempt with
      | .error _ => return none
      | .ok (msgUpdateClient, _, updateType) =>
          match updateType.isOptional, hasPacketEvents eventTypes, messages.isEmpty with
          | true, false, true => return none
          | _, _, _ => return some (msgUpdateClient :: messages)

/-- **An iteration is its part up to the flush, and the flush.** -/
theorem processFinalityEvent_eq (fuel : ℕ) (source sink : Chain S) (finalityEvent : FinalityEvent) :
    processFinalityEvent fuel source sink finalityEvent =
      iterationBatch fuel source sink finalityEvent >>= fun
        | none => pure ()
        | some batch => flushMessageBatch batch sink := by
  unfold processFinalityEvent iterationBatch
  rw [bind_assoc]
  refine congrArg (_ >>= ·) (funext fun r => ?_)
  cases r with
  | none => rfl
  | some r =>
      obtain ⟨messages, timeouts, proofHeightRef, eventTypes⟩ := r
      have hend : ∀ r : Except Error (Any × List IbcEventWithHeight × UpdateType),
          (match r with
            | .error _ => pure ()
            | .ok (msgUpdateClient, _, updateType) =>
                match updateType.isOptional, hasPacketEvents eventTypes, messages.isEmpty with
                | true, false, true => pure ()
                | _, _, _ => flushMessageBatch (msgUpdateClient :: messages) sink) =
          (match r with
            | .error _ => pure none
            | .ok (msgUpdateClient, _, updateType) =>
                match updateType.isOptional, hasPacketEvents eventTypes, messages.isEmpty with
                | true, false, true => pure none
                | _, _, _ => pure (some (msgUpdateClient :: messages)) : Prog S Error _) >>= fun
            | none => pure ()
            | some batch => flushMessageBatch batch sink := fun r => by
        cases r with
        | error e => rfl
        | ok r =>
            obtain ⟨msgUpdateClient, _, updateType⟩ := r
            dsimp only
            split <;> rfl
      show deliverMessages fuel source sink finalityEvent messages timeouts proofHeightRef
        eventTypes = _
      unfold deliverMessages
      dsimp only
      split_ifs with htimeouts
      · simp only [bind_assoc]
        exact bind_congr fun _ => bind_congr fun _ => bind_congr hend
      · simp only [bind_assoc]
        exact bind_congr fun _ => bind_congr hend

end

/-- **The iteration reaches its flush**: some part of the run is its part up to there. -/
def ReachesFlush [Crates] (fuel : ℕ) (source sink : Chain Net) (finalityEvent : FinalityEvent)
    (t : List (Exchange Net Error)) : Prop :=
  ∃ t₁ t₂ batch, t = t₁ ++ t₂ ∧
    (iterationBatch fuel source sink finalityEvent).Path t₁ (.ok (some batch))

/-! ### Sinks -/

/-- The messages that a run has submitted, batch after batch. -/
def batches (t : List (Exchange Net Error)) : List Any := (submitted t).flatMap fun tx => tx.2

/-- The messages of two parts of a run are those of both. -/
theorem batches_append (t t' : List (Exchange Net Error)) :
    batches (t ++ t') = batches t ++ batches t' := by
  rw [batches, submitted_append, List.flatMap_append]
  rfl

/-- A part that submits nothing has no messages. -/
theorem batches_nil {α : Type} {p : Prog Net Error α} {t : List (Exchange Net Error)}
    {o : Outcome Error α} (h : p.Path t o) (hp : p.Asks (fun _ _ => True) Passive) :
    batches t = [] := by
  rw [batches, submitted_of_reads (h.asks hp)]
  rfl

/-- **What a sink does for its callers**: `submit` submits its batch when it succeeds, and the
other methods that an iteration calls submit nothing. -/
structure SinkContract (sink : Chain Net) : Prop where
  submit : ∀ batch t hash, (sink.submit batch).Path t (.ok hash) → batches t = batch
  estimateWeight : ∀ msgs t weight,
    (sink.estimateWeight msgs).Path t (.ok weight) → batches t = []
  latestHeight : ∀ t r, sink.latestHeightAndTimestamp.Path t (.ok r) → batches t = []
  clientState : ∀ height id t r, (sink.queryClientState height id).Path t (.ok r) → batches t = []

section

variable [Crates] {self : CosmosClient}

/-- A submission is of its batch. -/
theorem submitCall_batches {fuel : ℕ} {batch : List Any} {t : List (Exchange Net Error)}
    {hash : TransactionId} (h : (self.submitCall fuel batch).Path t (.ok hash)) :
    batches t = batch := by
  obtain ⟨t₁, t₂, account, rfl, haccount, h⟩ := Prog.path_bind_ok.mp h
  obtain ⟨t₂, t₃, tx, rfl, hsign, h⟩ := Prog.path_bind_ok.mp h
  obtain ⟨t₃, t₄, hash', rfl, hbroadcast, h⟩ := Prog.path_bind_ok.mp h
  rw [batches, submitted_append, submitted_append, submitted_append,
    submitted_nil haccount queryAccount_reads, submitted_nil hsign signTx_asks,
    submitted_nil h confirmTx_reads]
  have hasked := Side.path_ask_ok.mp hbroadcast
  rw [hasked]
  exact List.append_nil batch

/-- **A Cosmos chain is such a sink**, for any weights and any limit. -/
theorem CosmosClient.sinkContract (self : CosmosClient) (fuel blockMaxWeight : ℕ)
    (estimateWeight : List Any → Prog Net Error ℕ)
    (hestimate : ∀ msgs, (estimateWeight msgs).Asks (fun _ _ => True) Reads) :
    SinkContract { self.chain fuel with blockMaxWeight, estimateWeight } where
  submit _ _ _ h := submitCall_batches h
  estimateWeight msgs _ _ h :=
    batches_nil h ((hestimate msgs).mono fun _ h => passive_iff.mpr (.inl h))
  latestHeight _ _ h :=
    batches_nil h (latestHeightAndTimestamp_reads.mono fun _ h => passive_iff.mpr (.inl h))
  clientState _ _ _ _ h :=
    batches_nil h (queryClientState_reads.mono fun _ h => passive_iff.mpr (.inl h))

end

/-! ### The flush -/

/-- **A flush submits its messages**, in one batch or in many. -/
theorem flushMessageBatch_batches {sink : Chain Net} (hsink : SinkContract sink)
    {msgs : List Any} {t : List (Exchange Net Error)}
    (h : (flushMessageBatch msgs sink).Path t (.ok ())) : batches t = msgs := by
  have hbatch : ∀ batch t, (submitBatch sink batch).Path t (.ok ()) → batches t = batch := by
    intro batch t h
    obtain ⟨t₁, t₂, hash, rfl, hsubmit, h⟩ := Prog.path_bind_ok.mp h
    obtain ⟨rfl, -⟩ := Prog.path_pure.mp h
    rw [List.append_nil]
    exact hsink.submit batch t₁ hash hsubmit
  obtain ⟨t₁, t₂, weight, rfl, hweight, h⟩ := Prog.path_bind_ok.mp h
  obtain ⟨t₂, t₃, ratio, rfl, hratio, h⟩ := Prog.path_bind_ok.mp h
  rw [batches_append, batches_append, hsink.estimateWeight _ _ _ hweight]
  have hdiv : batches t₂ = [] := by
    unfold u64Div at hratio
    split_ifs at hratio
    · obtain ⟨rfl, -⟩ := Prog.path_pure.mp hratio
      rfl
    · exact nomatch hratio.2
  rw [hdiv, List.nil_append, List.nil_append]
  change (if ratio = 0 then submitBatch sink msgs
    else chunkSize ratio >>= fun chunk =>
      (chunks chunk msgs).foldlM (fun _ batch => submitBatch sink batch) ()).Path t₃ (.ok ()) at h
  rw [chunkSize_eq] at h
  split_ifs at h
  · exact hbatch msgs t₃ h
  · rw [Prog.pure_bind'] at h
    rw [← chunks_flatten (pieceSize_pos ratio) msgs]
    refine Prog.path_foldlM (fun seen _ t => batches t = seen.flatten) rfl ?_ h
    intro seen batch _ _ t t' ht _ hstep
    rw [batches_append, ht, hbatch batch t' hstep, List.flatten_append, List.flatten_singleton]
  · exact nomatch h.2

/-! ### The loop over the events -/

/-- What the loop has done for one event: what it asked, and the message it built. -/
structure Part where
  event : IbcEventWithHeight
  asked : List (Exchange Net Error)
  message : Option Any

/-- **The event has its message**, one if it is translated and none otherwise; and what is looked
up on the side decides. -/
structure Part.Sound (s : Side) (part : Part) : Prop where
  translated : part.message.isSome ↔ Translated part.asked part.event.event
  answers : ∀ m, part.message = some m →
    m.origin = some part.event ∧ Answers part.event.event m.msg
  looks_up : ∀ links : Links, (∀ x ∈ part.asked, links.AnsweredFrom s x) →
    (Translated part.asked part.event.event ↔ links.lookedUp part.event.event = true)

section

variable [Crates] {source : CosmosClient} {t : List (Exchange Net Error)}

/-- **One round over the events** is one part: sound, and with its message at the end. -/
theorem parseEventStep_path {sink : IbcProvider Net} {ev : IbcEventWithHeight}
    {acc acc' : ParsedEvents}
    (h : (parseEventStep source.provider sink acc ev).Path t (.ok acc')) :
    ∃ part : Part, part.event = ev ∧ part.asked = t ∧ part.Sound source.side ∧
      acc'.messages = acc.messages ++ part.message.toList := by
  obtain ⟨t₁, t₂, _, rfl, hlog, h⟩ := Prog.path_bind_ok.mp h
  obtain ⟨t₂, t₃, r, rfl, hparse, h⟩ := Prog.path_bind_ok.mp h
  have hasked := (Prog.path_ask_ok (S := Net)).mp hlog
  -- the line in the log looks up no connection
  have hdelays : delays (t₁ ++ (t₂ ++ [])) = delays t₂ := by
    rw [hasked, List.append_nil]
    rfl
  have hlooks : ∀ links : Links, (∀ x ∈ t₁ ++ (t₂ ++ []), links.AnsweredFrom source.side x) →
      (Translated (t₁ ++ (t₂ ++ [])) ev.event ↔ links.lookedUp ev.event = true) := by
    intro links hlinks
    rw [translated_congr hdelays]
    refine parseEvent_lookedUp (fun x hx => hlinks x ?_) hparse
    exact List.mem_append_right _ (List.mem_append_left _ hx)
  rcases parseEvent_path hparse with ⟨htranslated, any, proofHeight, rfl, horigin, hanswers⟩ |
    ⟨htranslated, rfl⟩
  · obtain ⟨rfl, hreturn⟩ := Prog.path_pure.mp h
    obtain rfl := Outcome.ok.inj hreturn
    refine ⟨⟨ev, t₁ ++ (t₂ ++ []), some any⟩, rfl, rfl, ⟨?_, fun m hm => ?_, hlooks⟩, rfl⟩
    · exact iff_of_true rfl ((translated_congr hdelays _).mpr htranslated)
    · obtain rfl := Option.some.inj hm
      exact ⟨horigin, hanswers⟩
  · obtain ⟨rfl, hreturn⟩ := Prog.path_pure.mp h
    obtain rfl := Outcome.ok.inj hreturn
    refine ⟨⟨ev, t₁ ++ (t₂ ++ []), none⟩, rfl, rfl, ⟨?_, fun m hm => ?_, hlooks⟩,
      (List.append_nil _).symm⟩
    · exact iff_of_false Bool.false_ne_true fun h =>
        htranslated ((translated_congr hdelays _).mp h)
    · cases hm

/-- The parts deal with the events in `seen`, ask `t` and build the messages. -/
structure Deals (s : Side) (parts : List Part) (seen : List IbcEventWithHeight) (messages : List Any)
    (t : List (Exchange Net Error)) : Prop where
  events : parts.map Part.event = seen
  asked : parts.flatMap Part.asked = t
  sound : ∀ part ∈ parts, part.Sound s
  messages : messages = parts.filterMap Part.message

/-- **The loop deals with the events one after the other.** -/
theorem parseEvents_path {sink : IbcProvider Net} {events : List IbcEventWithHeight}
    {parsed : ParsedEvents} (h : (events.foldlM (parseEventStep source.provider sink)
      ⟨[], firstProofHeightRef⟩).Path t (.ok parsed)) :
    ∃ parts, Deals source.side parts events parsed.messages t := by
  refine Prog.path_foldlM (fun seen acc t => ∃ parts, Deals source.side parts seen acc.messages t)
    ⟨[], rfl, rfl, List.forall_mem_nil _, rfl⟩ ?_ h
  rintro seen ev acc acc' t t' ⟨parts, hparts⟩ - hstep
  obtain ⟨part, rfl, rfl, hpart, hmessage⟩ := parseEventStep_path hstep
  refine ⟨parts ++ [part], ?_, ?_, fun part' hmem => ?_, ?_⟩
  · rw [List.map_append, hparts.events]
    rfl
  · rw [List.flatMap_append, hparts.asked, List.flatMap_singleton]
  · rcases List.mem_append.mp hmem with hmem | hmem
    · exact hparts.sound part' hmem
    · rw [List.mem_singleton.mp hmem]
      exact hpart
  · rw [hmessage, hparts.messages, List.filterMap_append]
    cases hm : part.message <;> simp [hm]

/-! ### The scan -/

/-- **A scan** submits nothing, returns its events in order, and an update of the source's
client. -/
theorem scan_path {sink : Chain Net} (hsink : SinkContract sink) (finalityEvent : FinalityEvent)
    {update : Any} {events : List IbcEventWithHeight} {updateType : UpdateType}
    (h : (source.queryLatestIbcEvents finalityEvent sink.toIbcProvider).Path t
      (.ok (update, events, updateType))) :
    batches t = [] ∧ events.Pairwise IbcEventWithHeight.Before ∧
      ∃ u, update.msg = .updateClient u ∧ u.clientId = source.clientId := by
  obtain ⟨t₁, t₂, ⟨height, timestamp⟩, rfl, hheight, h⟩ := Prog.path_bind_ok.mp h
  obtain ⟨t₂, t₃, response, rfl, hresponse, h⟩ := Prog.path_bind_ok.mp h
  have hrest : batches t₃ = [] := by
    refine batches_nil h ?_
    refine (Prog.asks_okOr _ _).bind fun raw _ => Raw.tryFrom_asks.mapErr.bind fun clientState _ => ?_
    refine (latestHeightAndTimestamp_asks trivial).bind fun latest _ => ?_
    refine u64Add_asks.bind fun first _ => u64Add_asks.bind fun past _ => ?_
    refine (Prog.Asks.foldlM (fun evs n _ => scanBlock_asks fun _ => trivial) _).bind fun _ _ => ?_
    refine (msgUpdateClientHeader_asks fun _ => trivial).bind fun header _ => ?_
    exact Msg.toAny_asks.bind fun _ _ => trivial
  refine ⟨?_, ?_⟩
  · rw [batches_append, batches_append, hsink.latestHeight _ _ hheight,
      hsink.clientState _ _ _ _ hresponse, hrest]
    rfl
  obtain ⟨_, -, hleaf⟩ := Prog.leaf_bind_ok.mp h.leaf
  obtain ⟨_, -, hleaf⟩ := Prog.leaf_bind_ok.mp hleaf
  obtain ⟨⟨latest, _⟩, -, hleaf⟩ := Prog.leaf_bind_ok.mp hleaf
  obtain ⟨_, -, hleaf⟩ := Prog.leaf_bind_ok.mp hleaf
  obtain ⟨_, -, hleaf⟩ := Prog.leaf_bind_ok.mp hleaf
  obtain ⟨events', hevents, hleaf⟩ := Prog.leaf_bind_ok.mp hleaf
  obtain ⟨⟨header, _⟩, -, hleaf⟩ := Prog.leaf_bind_ok.mp hleaf
  obtain ⟨update', hupdate, hleaf⟩ := Prog.leaf_bind_ok.mp hleaf
  obtain ⟨hmsg, -⟩ := Msg.toAny_returns hupdate
  have hreturn := Outcome.ok.inj hleaf
  simp only [Prod.mk.injEq] at hreturn
  obtain ⟨rfl, rfl, -⟩ := hreturn
  exact ⟨scanned_sorted hevents, _, hmsg, rfl⟩

/-! ### Messages of events -/

/-- The message answers the event, and is built from it. -/
def IsMessageOf (ev : IbcEventWithHeight) (m : Any) : Prop :=
  m.origin = some ev ∧ Answers ev.event m.msg

/-- The packet of a message that receives it, if it was sent over this channel. -/
def recvPacketOn (c : ChannelId) (p : PortId) (any : Any) : Option Packet :=
  match any.msg with
  | .recvPacket m =>
      if m.packet.sourceChannel = c ∧ m.packet.sourcePort = p then some m.packet else none
  | _ => none

/-- The packet of an event that sends it over this channel. -/
def sentPacketOn (c : ChannelId) (p : PortId) (ev : IbcEventWithHeight) : Option Packet :=
  match ev.event with
  | .sendPacket packet =>
      if packet.sourceChannel = c ∧ packet.sourcePort = p then some packet else none
  | _ => none

omit [Crates] in
/-- The message of an event receives the packet that the event sends, and no other. -/
theorem IsMessageOf.packet {ev : IbcEventWithHeight} {m : Any} (h : IsMessageOf ev m)
    (c : ChannelId) (p : PortId) : recvPacketOn c p m = sentPacketOn c p ev := by
  have hanswers := h.2
  unfold sentPacketOn
  split
  · next packet hev =>
      rw [hev] at hanswers
      obtain ⟨r, hr, rfl⟩ := hanswers.of_sendPacket
      rw [recvPacketOn, hr]
  · next hev =>
      unfold recvPacketOn
      split
      · next r hr =>
          rw [hr] at hanswers
          exact absurd (answers_recvPacket.mp hanswers) (hev _)
      · rfl

omit [Crates] in
/-- The messages say which events they are built from. -/
theorem origins_eq {events : List IbcEventWithHeight} {messages : List Any}
    (h : List.Forall₂ IsMessageOf events messages) :
    messages.map Any.origin = events.map some := by
  induction h with
  | nil => rfl
  | cons hhead _ ih => rw [List.map_cons, List.map_cons, hhead.1, ih]

omit [Crates] in
/-- The packets received are the packets sent, in their order. -/
theorem packets_eq {events : List IbcEventWithHeight} {messages : List Any}
    (h : List.Forall₂ IsMessageOf events messages) (c : ChannelId) (p : PortId) :
    messages.filterMap (recvPacketOn c p) = events.filterMap (sentPacketOn c p) := by
  induction h with
  | nil => rfl
  | cons hhead _ ih => rw [List.filterMap_cons, List.filterMap_cons, hhead.packet, ih]

omit [Crates] in
/-- **The parts give each event its message**, where the node answers from what it stores. -/
theorem messages_of_parts {s : Side} {links : Links} {parts : List Part}
    (hsound : ∀ part ∈ parts, part.Sound s)
    (hlinks : ∀ x ∈ parts.flatMap Part.asked, links.AnsweredFrom s x) :
    List.Forall₂ IsMessageOf
      ((parts.map Part.event).filter fun ev => links.lookedUp ev.event)
      (parts.filterMap Part.message) := by
  induction parts with
  | nil => exact .nil
  | cons part parts ih =>
      obtain ⟨hpart, hparts⟩ := List.forall_mem_cons.mp hsound
      rw [List.flatMap_cons] at hlinks
      obtain ⟨hasked, hlinks⟩ := List.forall_mem_append.mp hlinks
      have hiff := hpart.translated.trans (hpart.looks_up links hasked)
      cases hmessage : part.message with
      | none =>
          rw [hmessage] at hiff
          have hnot : ¬links.lookedUp part.event.event = true := fun h => nomatch hiff.mpr h
          rw [List.map_cons, List.filter_cons, if_neg hnot, List.filterMap_cons_none hmessage]
          exact ih hparts hlinks
      | some m =>
          rw [hmessage] at hiff
          rw [List.map_cons, List.filter_cons, if_pos (hiff.mp rfl),
            List.filterMap_cons_some hmessage]
          exact .cons (hpart.answers m hmessage) (ih hparts hlinks)

/-! ### The iteration -/

/-- **The batch is prepared**: an update of the source's client, and the parts of the run that
deal with the events of the first scan, in their order. -/
structure Prepared (source : CosmosClient) (sink : Chain Net) (finalityEvent : FinalityEvent)
    (t : List (Exchange Net Error)) (update : Any) (parts : List Part) : Prop where
  scanned : ∃ t₁ t₂ update' updateType, t = t₁ ++ parts.flatMap Part.asked ++ t₂ ∧
    (source.queryLatestIbcEvents finalityEvent sink.toIbcProvider).Path t₁
      (.ok (update', parts.map Part.event, updateType))
  ordered : (parts.map Part.event).Pairwise IbcEventWithHeight.Before
  sound : ∀ part ∈ parts, part.Sound source.side
  is_update : ∃ u, update.msg = .updateClient u ∧ u.clientId = source.clientId

/-- **The messages of an iteration**, from its two parts: the scan and the loop over the
events. -/
theorem iterationMessages_path {sink : Chain Net} {fuel : ℕ} {finalityEvent : FinalityEvent}
    {messages timeouts : List Any} {proofHeightRef : Height} {eventTypes : List IbcEventType}
    (h : (iterationMessages (source.chain fuel) sink finalityEvent).Path t
      (.ok (some (messages, timeouts, proofHeightRef, eventTypes)))) :
    timeouts = [] ∧ ∃ t₁ t₂ update events updateType parts, t = t₁ ++ t₂ ∧
      (source.queryLatestIbcEvents finalityEvent sink.toIbcProvider).Path t₁
          (.ok (update, events, updateType)) ∧
        Deals source.side parts events messages t₂ ∧ batches t₂ = [] := by
  obtain ⟨t₁, t₂, r, rfl, hscan, h⟩ := Prog.path_bind_ok.mp h
  cases r with
  | error e => exact nomatch h.2
  | ok r =>
      obtain ⟨update, events, updateType⟩ := r
      obtain ⟨t₂, t₃, ⟨messages', timeouts', ref'⟩, rfl, hparse, hend⟩ := Prog.path_bind_ok.mp h
      obtain ⟨t₂, t₄, parsed, rfl, hparsed, hend'⟩ := Prog.path_bind_ok.mp hparse
      obtain ⟨rfl, hreturn⟩ := Prog.path_pure.mp hend
      obtain ⟨rfl, hreturn'⟩ := Prog.path_pure.mp hend'
      simp only [Outcome.ok.injEq, Option.some.injEq, Prod.mk.injEq] at hreturn hreturn'
      obtain ⟨rfl, rfl, rfl, rfl⟩ := hreturn
      obtain ⟨rfl, rfl, rfl⟩ := hreturn'
      obtain ⟨parts, hparts⟩ := parseEvents_path hparsed
      rw [List.append_nil, List.append_nil]
      exact ⟨rfl, t₁, t₂, update, events, updateType, parts, rfl,
        Prog.path_attempt_ok.mp hscan, hparts,
        batches_nil hparsed (Prog.Asks.foldlM (fun _ _ _ => parseEventStep_passive) _)⟩

/-- **What an iteration has done up to its flush.** -/
theorem iterationBatch_path {fuel fuel' : ℕ} {sink : Chain Net} (hsink : SinkContract sink)
    {finalityEvent : FinalityEvent} {batch : List Any}
    (h : (iterationBatch fuel (source.chain fuel') sink finalityEvent).Path t (.ok (some batch))) :
    ∃ update parts, Prepared source sink finalityEvent t update parts ∧ batches t = [] ∧
      batch = update :: parts.filterMap Part.message := by
  obtain ⟨t₁, t₂, r, rfl, hmessages, hrest⟩ := Prog.path_bind_ok.mp h
  cases r with
  | none => exact nomatch hrest.2
  | some r =>
      obtain ⟨messages, timeouts, proofHeightRef, eventTypes⟩ := r
      obtain ⟨rfl, s₁, s₂, update₁, events, updateType₁, parts, rfl, hscan₁, hparts, hloop⟩ :=
        iterationMessages_path hmessages
      change ((Prog.repeatUntil (waitStep (source.chain fuel') proofHeightRef) fuel >>= fun _ => _) :
        Prog Net Error (Option (List Any))).Path t₂ _ at hrest
      obtain ⟨t₂, t₃, _, rfl, hwait, hrest⟩ := Prog.path_bind_ok.mp hrest
      obtain ⟨t₃, t₄, r, rfl, hscan₂, hrest'⟩ := Prog.path_bind_ok.mp hrest
      cases r with
      | error e => exact nomatch hrest'.2
      | ok r =>
          obtain ⟨update, events', updateType⟩ := r
          have hend : t₄ = [] ∧ batch = update :: messages := by
            dsimp only at hrest'
            split at hrest'
            · exact nomatch hrest'.2
            · obtain ⟨rfl, hreturn⟩ := Prog.path_pure.mp hrest'
              exact ⟨rfl, (Option.some.inj (Outcome.ok.inj hreturn)).symm⟩
          obtain ⟨rfl, rfl⟩ := hend
          obtain ⟨hnone₁, hordered, -⟩ := scan_path hsink finalityEvent hscan₁
          obtain ⟨hnone₂, -, hupdate⟩ :=
            scan_path hsink finalityEvent (Prog.path_attempt_ok.mp hscan₂)
          have hwaited : batches t₂ = [] := batches_nil hwait
            ((Prog.Asks.repeatUntil waitStep_reads fuel).mono fun _ h => passive_iff.mpr (.inl h))
          refine ⟨update, parts, ⟨⟨s₁, t₂ ++ (t₃ ++ []), update₁, updateType₁, ?_, ?_⟩, ?_,
            hparts.sound, hupdate⟩, ?_, by rw [hparts.messages]⟩
          · rw [hparts.asked]
          · rw [hparts.events]
            exact hscan₁
          · rw [hparts.events]
            exact hordered
          · rw [batches_append, batches_append, batches_append, batches_append, hnone₁, hloop,
              hwaited, hnone₂]
            rfl

/-- The events that the first scan of an iteration returns. -/
def FirstScan (source : CosmosClient) (sink : Chain Net) (finalityEvent : FinalityEvent)
    (t : List (Exchange Net Error)) (events : List IbcEventWithHeight) : Prop :=
  ∃ t₁ t₂ update updateType, t = t₁ ++ t₂ ∧
    (source.queryLatestIbcEvents finalityEvent sink.toIbcProvider).Path t₁
      (.ok (update, events, updateType))

/-- A run has one first scan. -/
theorem FirstScan.unique {sink : Chain Net} {finalityEvent : FinalityEvent}
    {events events' : List IbcEventWithHeight} (h : FirstScan source sink finalityEvent t events)
    (h' : FirstScan source sink finalityEvent t events') : events = events' := by
  obtain ⟨t₁, t₂, update, updateType, rfl, hscan⟩ := h
  obtain ⟨t₁', t₂', update', updateType', ht, hscan'⟩ := h'
  obtain ⟨-, hreturn⟩ := hscan.prefix_unique hscan' ht
  exact (Prod.mk.inj (Prod.mk.inj (Outcome.ok.inj hreturn)).2).1

/-- **The iteration has delivered**: it has submitted the update and one message for each event
that `P` holds of, in the order of the blocks, transactions and events; and the packets that a
channel sent have been submitted in the order they were sent. -/
structure Delivered (P : IbcEvent → Bool) (source : CosmosClient)
    (events : List IbcEventWithHeight) (t : List (Exchange Net Error)) (update : Any)
    (messages : List Any) : Prop where
  submitted : batches t = update :: messages
  is_update : ∃ u, update.msg = .updateClient u ∧ u.clientId = source.clientId
  ordered : events.Pairwise IbcEventWithHeight.Before
  each : List.Forall₂ IsMessageOf (events.filter fun ev => P ev.event) messages
  packets : ∀ c p, (batches t).filterMap (recvPacketOn c p) =
    (events.filter fun ev => P ev.event).filterMap (sentPacketOn c p)

omit [Crates] in
/-- What is delivered decides which events have a message. -/
theorem Delivered.eq_of {P Q : IbcEvent → Bool} {events : List IbcEventWithHeight}
    {update update' : Any} {messages messages' : List Any}
    (h : Delivered P source events t update messages)
    (h' : Delivered Q source events t update' messages') {ev : IbcEventWithHeight}
    (hev : ev ∈ events) : P ev.event = Q ev.event := by
  obtain ⟨-, rfl⟩ := List.cons.inj (h.submitted.symm.trans h'.submitted)
  have hfilter : (events.filter fun ev => P ev.event) = events.filter fun ev => Q ev.event :=
    List.map_injective_iff.mpr (fun _ _ => Option.some.inj)
      ((origins_eq h.each).symm.trans (origins_eq h'.each))
  have hmem : ev ∈ (events.filter fun ev => P ev.event) ↔
      ev ∈ events.filter fun ev => Q ev.event := by rw [hfilter]
  rw [List.mem_filter, List.mem_filter, and_iff_right hev, and_iff_right hev] at hmem
  exact Bool.eq_iff_iff.mpr hmem

omit [Crates] in
/-- What is delivered depends on the choice of the scanned events only. -/
theorem Delivered.congr {P Q : IbcEvent → Bool} {events : List IbcEventWithHeight} {update : Any}
    {messages : List Any} (h : Delivered P source events t update messages)
    (hevents : ∀ ev ∈ events, P ev.event = Q ev.event) :
    Delivered Q source events t update messages := by
  have hfilter : (events.filter fun ev => P ev.event) = events.filter fun ev => Q ev.event :=
    List.filter_congr hevents
  exact ⟨h.submitted, h.is_update, h.ordered, hfilter ▸ h.each, hfilter ▸ h.packets⟩

/-- **What an iteration delivers.**  An iteration that reaches its flush and completes has
delivered the messages of the events of its first scan that are looked up to have no delay. -/
theorem iteration_lookedUp {fuel fuel' : ℕ} {sink : Chain Net} {finalityEvent : FinalityEvent}
    {links : Links} (hsink : SinkContract sink)
    (hlinks : ∀ x ∈ t, links.AnsweredFrom source.side x)
    (reached : ReachesFlush fuel (source.chain fuel') sink finalityEvent t)
    (h : (processFinalityEvent fuel (source.chain fuel') sink finalityEvent).Path t (.ok ())) :
    ∃ events, FirstScan source sink finalityEvent t events ∧
      ∃ update messages, Delivered links.lookedUp source events t update messages := by
  rw [processFinalityEvent_eq] at h
  obtain ⟨t₁, t₂, r, rfl, hbatch, hflush⟩ := Prog.path_bind_ok.mp h
  obtain ⟨t₁', t₂', batch, ht, hbatch'⟩ := reached
  obtain ⟨rfl, hr⟩ := hbatch.prefix_unique hbatch' ht
  obtain rfl := Outcome.ok.inj hr
  obtain ⟨update, parts, hprepared, hnone, rfl⟩ := iterationBatch_path hsink hbatch
  have hsubmitted : batches (t₁ ++ t₂) = update :: parts.filterMap Part.message := by
    rw [batches_append, hnone, flushMessageBatch_batches hsink hflush]
    rfl
  obtain ⟨s₁, s₂, update', updateType, rfl, hscan⟩ := hprepared.scanned
  have hasked : ∀ x ∈ parts.flatMap Part.asked, links.AnsweredFrom source.side x := fun x hx =>
    hlinks x (List.mem_append_left _ (List.mem_append_left _ (List.mem_append_right _ hx)))
  have heach := messages_of_parts hprepared.sound hasked
  refine ⟨parts.map Part.event, ⟨s₁, parts.flatMap Part.asked ++ s₂ ++ t₂, update', updateType,
    by simp only [List.append_assoc], hscan⟩, update, parts.filterMap Part.message, hsubmitted,
    hprepared.is_update, hprepared.ordered, heach, fun c p => ?_⟩
  obtain ⟨u, hu, -⟩ := hprepared.is_update
  have hupdate : recvPacketOn c p update = none := by rw [recvPacketOn, hu]
  rw [hsubmitted, List.filterMap_cons_none hupdate, packets_eq heach]

end

/-- **When one iteration loses, duplicates and reorders nothing.**  For every Cosmos chain, all
contents of its blocks, every sink that submits what it is given, and every run in which the
source answers from the connections it stores: an iteration that reaches its flush and completes
has delivered one message for each translatable event of its first scan, if and only if the two
identifiers of each packet that was received agree about the delay. -/
theorem iteration_delivers_iff [Crates] (fuel fuel' : ℕ) (source : CosmosClient) (sink : Chain Net)
    (finalityEvent : FinalityEvent) (links : Links) (t : List (Exchange Net Error))
    (hsink : SinkContract sink) (hlinks : ∀ x ∈ t, links.AnsweredFrom source.side x)
    (reached : ReachesFlush fuel (source.chain fuel') sink finalityEvent t)
    (h : (processFinalityEvent fuel (source.chain fuel') sink finalityEvent).Path t (.ok ())) :
    ∃ events, FirstScan source sink finalityEvent t events ∧
      ((∃ update messages, Delivered links.translatable source events t update messages) ↔
        ∀ ev ∈ events, links.SameDelay ev.event) := by
  obtain ⟨events, hscan, update, messages, hdelivered⟩ :=
    iteration_lookedUp hsink hlinks reached h
  refine ⟨events, hscan, ?_, fun hsame => ?_⟩
  · rintro ⟨update', messages', hdelivered'⟩ ev hev
    exact Links.translatable_eq_lookedUp_iff.mp (hdelivered'.eq_of hdelivered hev)
  · refine ⟨update, messages, hdelivered.congr fun ev hev => ?_⟩
    exact (Links.translatable_eq_lookedUp_iff.mpr (hsame ev hev)).symm

/-! ### Two connections -/

/-- A packet event from one channel to another. -/
def packetEvent (kind sequence sourceChannel destinationChannel : String) : AbciEvent :=
  ⟨kind, [("packet_sequence", sequence), ("packet_src_port", "transfer"),
    ("packet_src_channel", sourceChannel), ("packet_dst_port", "transfer"),
    ("packet_dst_channel", destinationChannel)]⟩

/-- The chain has `channel-0` on a connection without delay, and all others on one that has a
minute. -/
def twoConnections : Links where
  connectionId _ c := if c = channel0 then connection0 else ⟨"connection-1", by decide⟩
  delayPeriod id := if id = connection0 then 0 else seconds 60

/-- Two nodes at height 9 with these blocks and connections, and clients at height 5. -/
def deliveryAnswer (blocks : ℕ → BlockResults) : (o : Net.Op) → Except Error (Net.Res o)
  | .node _ .status => .ok ⟨"chain", false, 9, seconds 9⟩
  | .node _ .connect => .ok ()
  | .node _ (.clientState _) => .ok ⟨some (.ok ⟨height0 5⟩), some ⟨0, 8⟩⟩
  | .node _ (.channel p c) => .ok ⟨some (.ok
      { openEnd .unordered with connectionHops := [twoConnections.connectionId p c] }),
      some ⟨0, 8⟩⟩
  | .node _ (.connection id) =>
      .ok ⟨some (.ok (openConnection (twoConnections.delayPeriod id))), some ⟨0, 8⟩⟩
  | .node _ (.packetCommitment _ _ _) => .ok (⟨[1], some ⟨0, 8⟩⟩ : GrpcResponse Bytes)
  | .node _ (.packetAcknowledgement _ _ _) => .ok (⟨[1], some ⟨0, 8⟩⟩ : GrpcResponse Bytes)
  | .node _ (.abciQuery _ _ _) => .ok ⟨0, "", [], some [1]⟩
  | .node _ (.blockResults n) => .ok (blocks n)
  | .node _ (.lightBlock .highest) => .ok ⟨⟨9, seconds 9⟩, [], []⟩
  | .node _ (.lightBlock (.at n)) => .ok ⟨⟨n, seconds n⟩, [], []⟩
  | .log _ => .ok ()
  | o => promptAnswer ⟨1, 1⟩ 0 o

/-- The node answers from the two connections. -/
theorem deliveryAnswer_links (blocks : ℕ → BlockResults) (s : Side) (o : Net.Op) :
    twoConnections.AnsweredFrom s ⟨o, deliveryAnswer blocks o⟩ := by
  cases o with
  | node s' op =>
      cases op with
      | channel p c =>
          rintro - channelEnd h
          obtain rfl := Except.ok.inj (Option.some.inj h)
          rfl
      | connection id =>
          rintro - connectionEnd h
          obtain rfl := Except.ok.inj (Option.some.inj h)
          rfl
      | _ => trivial
  | _ => trivial

/-- A sink where a batch weighs more than a block holds. -/
def narrowSink : Chain Net :=
  { @CosmosClient.chain (cosmosClient .b client0) Crates.reference 1 with
    blockMaxWeight := 10
    estimateWeight := fun _ => pure 15 }

/-- The example sink answers as a sink does. -/
theorem narrowSink_contract : SinkContract narrowSink :=
  let _ := Crates.reference
  (cosmosClient .b client0).sinkContract 1 10 (fun _ => pure 15) fun _ => trivial

/-- The batch that reaches the flush. -/
def deliveryBatch : Prog Net Error (Option (List Any)) :=
  @iterationBatch Net _ _ Crates.reference 1
    (@CosmosClient.chain (cosmosClient .a client0) Crates.reference 1) narrowSink 9

/-- The events of the first scan. -/
def deliveryScan : Prog Net Error (Any × List IbcEventWithHeight × UpdateType) :=
  let _ := Crates.reference
  (cosmosClient .a client0).queryLatestIbcEvents 9 narrowSink.toIbcProvider

/-- What the iteration asks, if its batch is `batch`. -/
def deliveryRun (blocks : ℕ → BlockResults) (batch : List Any) : List (Exchange Net Error) :=
  deliveryBatch.exchanges (deliveryAnswer blocks) ++
    (flushMessageBatch batch narrowSink).exchanges (deliveryAnswer blocks)

/-- The events of which it matters what is looked up. -/
def crossed (events : List IbcEventWithHeight) : List IbcEventWithHeight :=
  events.filter fun ev => twoConnections.translatable ev.event ≠ twoConnections.lookedUp ev.event

/-- How many batches and how many messages the iteration submits, and how many events of its
first scan are crossed. -/
def deliveryCounts (blocks : ℕ → BlockResults) : Option (ℕ × ℕ × ℕ) :=
  match deliveryScan.eval (deliveryAnswer blocks), deliveryBatch.eval (deliveryAnswer blocks) with
  | .ok (_, events, _), .ok (some batch) =>
      match (flushMessageBatch batch narrowSink).eval (deliveryAnswer blocks) with
      | .ok () => some ((submitted (deliveryRun blocks batch)).length,
          (batches (deliveryRun blocks batch)).length, (crossed events).length)
      | _ => none
  | _, _ => none

/-- A run that goes as it is counted. -/
theorem deliveryCounts_run {blocks : ℕ → BlockResults} {n k l : ℕ}
    (hcounts : deliveryCounts blocks = some (n, k, l)) :
    let _ := Crates.reference
    ∃ t events, ReachesFlush 1 ((cosmosClient .a client0).chain 1) narrowSink 9 t ∧
      (processFinalityEvent 1 ((cosmosClient .a client0).chain 1) narrowSink 9).Path t (.ok ()) ∧
      (∀ x ∈ t, twoConnections.AnsweredFrom .a x) ∧
      FirstScan (cosmosClient .a client0) narrowSink 9 t events ∧ (submitted t).length = n ∧
      (batches t).length = k ∧ (crossed events).length = l := by
  let _ := Crates.reference
  unfold deliveryCounts at hcounts
  split at hcounts
  · next update events updateType batch hscan hbatch =>
      split at hcounts
      · next hflush =>
          obtain ⟨rfl, rfl, rfl⟩ : _ ∧ _ ∧ _ := by simpa using hcounts
          have hbatchPath := deliveryBatch.path_eval (deliveryAnswer blocks)
          have hflushPath :=
            (flushMessageBatch batch narrowSink).path_eval (deliveryAnswer blocks)
          rw [hbatch] at hbatchPath
          rw [hflush] at hflushPath
          refine ⟨deliveryRun blocks batch, events, ⟨_, _, batch, rfl, hbatchPath⟩, ?_, ?_, ?_,
            rfl, rfl, rfl⟩
          · rw [processFinalityEvent_eq]
            exact Prog.path_bind_ok.mpr ⟨_, _, some batch, rfl, hbatchPath, hflushPath⟩
          · intro x hx
            have hanswer : x.2 = deliveryAnswer blocks x.1 := by
              rcases List.mem_append.mp hx with hx | hx
              · exact Prog.exchanges_answer x hx
              · exact Prog.exchanges_answer x hx
            obtain ⟨o, answer⟩ := x
            obtain rfl : answer = deliveryAnswer blocks o := hanswer
            exact deliveryAnswer_links blocks .a o
          · -- the scan is the first thing that is asked
            obtain ⟨t₁, t₂, _, ht, hmessages, -⟩ := Prog.path_bind_ok.mp hbatchPath
            obtain ⟨s₁, s₂, scanned, rfl, hattempt, -⟩ := Prog.path_bind_ok.mp hmessages
            have hasked : ∀ x ∈ s₁, x.2 = deliveryAnswer blocks x.1 := fun x hx =>
              Prog.exchanges_answer (p := deliveryBatch) x
                (ht ▸ List.mem_append_left _ (List.mem_append_left _ hx))
            cases scanned with
            | error e =>
                have hend := (Prog.path_attempt_error.mp hattempt).eval_eq hasked
                exact nomatch hscan.symm.trans hend
            | ok scanned =>
                have hpath := Prog.path_attempt_ok.mp hattempt
                obtain rfl := Outcome.ok.inj (hscan.symm.trans (hpath.eval_eq hasked))
                refine ⟨s₁, s₂ ++ t₂ ++ (flushMessageBatch batch narrowSink).exchanges
                  (deliveryAnswer blocks), update, updateType, ?_, hpath⟩
                simp only [deliveryRun, ht, List.append_assoc]
      · cases hcounts
  · cases hcounts

/-- A chain that has received a packet on `channel-0`, over a connection without delay.  On the
chain that sent it the channel is `channel-1`, which is here another one. -/
def crossedBlocks : ℕ → BlockResults
  | 6 => ⟨none, some [⟨0, "",
      [packetEvent "write_acknowledgement" "1" "channel-1" "channel-0"]⟩], none⟩
  | _ => ⟨none, none, none⟩

/-- **A translatable event is lost**: the update is submitted without the acknowledgement. -/
theorem crossedBlocks_lost :
    let _ := Crates.reference
    ∃ t events, ReachesFlush 1 ((cosmosClient .a client0).chain 1) narrowSink 9 t ∧
      (processFinalityEvent 1 ((cosmosClient .a client0).chain 1) narrowSink 9).Path t (.ok ()) ∧
      SinkContract narrowSink ∧ (∀ x ∈ t, twoConnections.AnsweredFrom .a x) ∧
      FirstScan (cosmosClient .a client0) narrowSink 9 t events ∧
      ¬∃ update messages, Delivered twoConnections.translatable (cosmosClient .a client0) events t
        update messages := by
  have hcounts : deliveryCounts crossedBlocks = some (1, 1, 1) := by decide +kernel
  let _ := Crates.reference
  obtain ⟨t, events, reached, h, hlinks, hscan, -, -, hcrossed⟩ := deliveryCounts_run hcounts
  refine ⟨t, events, reached, h, narrowSink_contract, hlinks, hscan, ?_⟩
  rintro ⟨update, messages, hdelivered⟩
  obtain ⟨events', hscan', update', messages', hlookedUp⟩ :=
    iteration_lookedUp narrowSink_contract hlinks reached h
  obtain rfl := hscan.unique hscan'
  obtain ⟨ev, hev⟩ := List.exists_mem_of_length_pos (hcrossed.symm ▸ Nat.one_pos)
  obtain ⟨hev, hne⟩ := List.mem_filter.mp hev
  exact of_decide_eq_true hne (hdelivered.eq_of hlookedUp hev)

/-- A chain that sends packets over both connections and has received one over the first. -/
def fourPackets : ℕ → BlockResults
  | 6 => ⟨none, some [
      ⟨0, "", [packetEvent "send_packet" "1" "channel-0" "channel-0",
        packetEvent "send_packet" "1" "channel-1" "channel-0"]⟩,
      ⟨0, "", [packetEvent "write_acknowledgement" "1" "channel-0" "channel-0"]⟩], none⟩
  | 7 => ⟨none, some [⟨0, "", [packetEvent "send_packet" "2" "channel-0" "channel-0"]⟩], none⟩
  | _ => ⟨none, none, none⟩

/-- The hypotheses of `iteration_delivers_iff` hold in a run that splits its batch, and there
everything is delivered: three messages, in two batches. -/
theorem fourPackets_delivered :
    let _ := Crates.reference
    ∃ t events update messages, FirstScan (cosmosClient .a client0) narrowSink 9 t events ∧
      Delivered twoConnections.translatable (cosmosClient .a client0) events t update messages ∧
      messages.length = 3 ∧ (submitted t).length = 2 := by
  have hcounts : deliveryCounts fourPackets = some (2, 4, 0) := by decide +kernel
  let _ := Crates.reference
  obtain ⟨t, events, reached, h, hlinks, hscan, hsubmitted, hbatches, hcrossed⟩ :=
    deliveryCounts_run hcounts
  obtain ⟨events', hscan', hiff⟩ := iteration_delivers_iff 1 1 (cosmosClient .a client0) narrowSink
    9 twoConnections t narrowSink_contract hlinks reached h
  obtain rfl := hscan.unique hscan'
  obtain ⟨update, messages, hdelivered⟩ := hiff.mpr fun ev hev =>
    Links.translatable_eq_lookedUp_iff.mp (of_not_not fun hne =>
      List.filter_eq_nil_iff.mp (List.eq_nil_of_length_eq_zero hcrossed) ev hev
        (decide_eq_true hne))
  refine ⟨t, events, update, messages, hscan, hdelivered, ?_, hsubmitted⟩
  rw [hdelivered.submitted, List.length_cons] at hbatches
  omega

end HyperspaceLight
