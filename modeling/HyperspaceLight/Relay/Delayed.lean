/-
# Packets that wait for a connection delay

An event whose connection has a delay is skipped, and the query for the packets that can
be sent later is commented out.  Once the light client knows the event's height, no scan
reaches the event again: its message is never computed.
-/

import HyperspaceLight.Relay.Cleared

namespace HyperspaceLight

open Interaction

/-- The message relays the packet, or the acknowledgement, of the event. -/
def IbcEvent.RelayedBy (e : IbcEvent) (m : Msg) : Prop :=
  match e, m with
  | .sendPacket p, .recvPacket m => m.packet = p
  | .writeAcknowledgement p _, .acknowledgement m => m.packet = p
  | _, _ => False

instance (e : IbcEvent) (m : Msg) : Decidable (e.RelayedBy m) := by
  unfold IbcEvent.RelayedBy
  split <;> infer_instance

/-- No packet is sent twice, and none is acknowledged twice. -/
def Chains.SentOnce [Crates] (X : Chains) (s : Side) : Prop :=
  ∀ l, ∀ ev ∈ X.events s 0 l, ∀ ev' ∈ X.events s 0 l, ∀ m,
    ev.event.RelayedBy m → ev'.event.RelayedBy m → ev = ev'

/-- The delay period of the connection that an event is about. -/
def World.delayPeriod (w : World) (s : Side) (ev : IbcEventWithHeight) : Option Duration := do
  let (channelId, portId) ← ev.event.sourceEnd
  let channelEnd ← (w.nodes s).channels portId channelId
  let connectionId ← channelEnd.connectionHops.head?
  let connectionEnd ← (w.nodes s).connections connectionId
  return connectionEnd.delayPeriod

/-- The execution has updated a client to the height `n` at least. -/
def Executed.Updates (x : Executed) (clientId : ClientId) (n : ℕ) : Prop :=
  match x.msg with
  | .updateClient u => u.clientId = clientId ∧ n ≤ u.header.signedHeader.height
  | _ => False

/-- The packet of an event is not timed out at `height`. -/
def IbcEvent.InTime (e : IbcEvent) (now : Time) (height : Option Height) : Prop :=
  match e, height with
  | .sendPacket p, some height => p.timedOut (.ofTime now) height = false
  | _, _ => True

/-- **A packet that was postponed and is due.**  Its event was scanned, its connection has a
delay, the delay has elapsed since the client was updated to the event's height, and the
packet is undelivered and in time. -/
structure Postponed [Crates] (X : Chains) (R : Relayer) (w : World) (s : Side)
    (ev : IbcEventWithHeight) : Prop where
  event_mem : ev ∈ X.events s 0 (w.height s)
  scanned : (s, ev) ∈ w.processed
  elapsed : ∃ delay ∈ w.delayPeriod s ev, delay ≠ 0 ∧ ∃ x ∈ (w.nodes s.other).executed,
    x.Updates (R.client s.other).clientId ev.height.revisionHeight ∧ x.time + delay ≤ w.now
  undelivered : ∀ x ∈ (w.nodes s.other).executed, ¬ev.event.RelayedBy x.msg
  inTime : ev.event.InTime w.now (Height.new (X.revision s.other) (w.height s.other))
  known : ∃ n ∈ ((w.nodes s.other).clients (R.client s.other).clientId).consensus,
    ev.height.revisionHeight ≤ n

section

variable [Crates] {X : Chains} {R : Relayer} {foreign : Prop} {w w' : World} {s : Side}

/-- **The messages of an iteration are of events that the light client did not know.** -/
theorem iterationMessages_above {finalityEvent : FinalityEvent} {messages timeouts : List Any}
    {proofHeightRef : Height} {eventTypes : List IbcEventType}
    (h : (relayEnv X foreign).Runs
      (w, iterationMessages (R.chain s) (R.chain s.other) finalityEvent)
      (w', .done (.ok (some (messages, timeouts, proofHeightRef, eventTypes))))) :
    ∀ m ∈ messages, ∃ c l, w.clientHeight R s ≤ c ∧ ∃ ev ∈ X.events s c l,
      m.origin = some ev ∧ ∀ e : IbcEvent, e.RelayedBy m.msg → ev.event.RelayedBy m.msg := by
  have hpassive : (iterationMessages (R.chain s) (R.chain s.other) finalityEvent).Asks
      (fun _ _ => True) Passive := iterationMessages_passive
  have hwp := Env.wp_given (E := relayEnv X foreign) (P := fun _ => True) (F := fun _ => True)
    (w := w) hpassive (fun _ _ => trivial) fun _ _ => trivial
  obtain ⟨w₀, -, -, hleaf⟩ := Env.wp_returns hwp h
  obtain ⟨-, update, events, updateType, hscan, -, hparse⟩ := iterationMessages_returns hleaf
  obtain ⟨c, l, _, hscanned⟩ := scan_world hscan
  obtain rfl := hscanned.events_eq
  intro m hm
  obtain ⟨ev, hev, proofHeight, htranslated⟩ :=
    (parseEvents_origin hparse hm).resolve_left List.not_mem_nil
  have htranslation := parseEvent_translation htranslated
  refine ⟨c, l, hscanned.clientHeight_le, ev, hev, htranslation.origin, fun e he => ?_⟩
  unfold IbcEvent.RelayedBy at he
  split at he
  · next m' hm' => rw [htranslation.recvPacket m' hm', hm']; rfl
  · next m' hm' =>
      obtain ⟨ack, hack⟩ := htranslation.acknowledgement m' hm'
      rw [hack, hm']
      rfl
  · exact he.elim

/-- The light client knows the height of a postponed packet. -/
theorem Postponed.not_above {ev : IbcEventWithHeight} (h : Postponed X R w s ev) {c l : ℕ}
    (hc : w.clientHeight R s ≤ c) : ev ∉ X.events s c l := by
  intro hev
  obtain ⟨n, hcn, -, hblock⟩ := mem_chainEvents.mp hev
  have hheight : ev.height.revisionHeight = n := (blockEvents_height hblock).2
  obtain ⟨k, hconsensus, hle⟩ := h.known
  have hknown : k ≤ w.clientHeight R s :=
    ((w.nodes s.other).clients (R.client s.other).clientId).le_latest _ hconsensus
  omega

/-- **A postponed packet is lost.**  For all chains, relayers and states, whatever others do: the
next iteration never computes a message for the event of a postponed packet that is due; nor
does it compute the message of the packet for another event, if the chain sends and
acknowledges each packet once. -/
theorem postponed_lost (X : Chains) (R : Relayer) (foreign : Prop) (w w' : World) (s : Side)
    (ev : IbcEventWithHeight) (hpostponed : Postponed X R w s ev)
    (finalityEvent : FinalityEvent) (messages timeouts : List Any) (proofHeightRef : Height)
    (eventTypes : List IbcEventType)
    (h : (relayEnv X foreign).Runs
      (w.start s, iterationMessages (R.chain s) (R.chain s.other) finalityEvent)
      (w', .done (.ok (some (messages, timeouts, proofHeightRef, eventTypes))))) :
    (∀ m ∈ messages, m.origin ≠ some ev) ∧
      (X.SentOnce s → ∀ m ∈ messages, ¬ev.event.RelayedBy m.msg) := by
  refine ⟨fun m hm horigin => ?_, fun honce m hm hrelayed => ?_⟩
  · obtain ⟨c, l, hc, ev', hev', horigin', -⟩ := iterationMessages_above h m hm
    obtain rfl := Option.some.inj (horigin.symm.trans horigin')
    exact hpostponed.not_above hc hev'
  · obtain ⟨c, l, hc, ev', hev', -, hrelays⟩ := iterationMessages_above h m hm
    -- both events are in blocks up to a common height
    obtain ⟨n, hn, hnl, hblock⟩ := mem_chainEvents.mp hpostponed.event_mem
    obtain ⟨n', hcn, hnl', hblock'⟩ := mem_chainEvents.mp hev'
    have hmem : ev ∈ X.events s 0 (max l (w.height s)) :=
      mem_chainEvents.mpr ⟨n, hn, hnl.trans (le_max_right _ _), hblock⟩
    have hmem' : ev' ∈ X.events s 0 (max l (w.height s)) :=
      mem_chainEvents.mpr ⟨n', by omega, hnl'.trans (le_max_left _ _), hblock'⟩
    obtain rfl : ev = ev' := honce _ ev hmem ev' hmem' m.msg hrelayed (hrelays _ hrelayed)
    exact hpostponed.not_above hc hev'

end

/-! ### A connection with a delay -/

instance (x : Executed) (clientId : ClientId) (n : ℕ) : Decidable (x.Updates clientId n) := by
  unfold Executed.Updates
  split <;> infer_instance

instance (e : IbcEvent) (now : Time) (height : Option Height) :
    Decidable (e.InTime now height) := by
  unfold IbcEvent.InTime
  split <;> infer_instance

instance [Crates] (X : Chains) (R : Relayer) (w : World) (s : Side) (ev : IbcEventWithHeight) :
    Decidable (Postponed X R w s ev) :=
  decidable_of_iff
    (ev ∈ X.events s 0 (w.height s) ∧ (s, ev) ∈ w.processed ∧
      (∃ delay ∈ w.delayPeriod s ev, delay ≠ 0 ∧ ∃ x ∈ (w.nodes s.other).executed,
        x.Updates (R.client s.other).clientId ev.height.revisionHeight ∧
          x.time + delay ≤ w.now) ∧
      (∀ x ∈ (w.nodes s.other).executed, ¬ev.event.RelayedBy x.msg) ∧
      ev.event.InTime w.now (Height.new (X.revision s.other) (w.height s.other)) ∧
      ∃ n ∈ ((w.nodes s.other).clients (R.client s.other).clientId).consensus,
        ev.height.revisionHeight ≤ n)
    ⟨fun ⟨h₁, h₂, h₃, h₄, h₅, h₆⟩ => ⟨h₁, h₂, h₃, h₄, h₅, h₆⟩,
      fun h => ⟨h.event_mem, h.scanned, h.elapsed, h.undelivered, h.inTime, h.known⟩⟩

/-- As in `strayStart`, with a connection delay of ten seconds. -/
def delayedStart : World :=
  { strayStart with nodes := fun _ =>
      { strayNode with connections := fun _ => some (openConnection (seconds 10)) } }

/-- An iteration submits the update only, which is executed; then a block is made. -/
def delayedSchedule : List (Act NodeMove (Side × FinalityEvent)) :=
  [.start (.a, 0), .answers 29, .tick (.commit .b 0), .answers 2, .finish, .tick (.block .a)]

/-- Twenty seconds later. -/
def World.dueAt (w : World) : World := { w with now := seconds 20 }

/-- The first part of the next iteration. -/
def dueMessages : Prog Net Error (Option (List Any × List Any × Height × List IbcEventType)) :=
  @iterationMessages Net _ Crates.reference
    (@Relayer.chain Crates.reference (relayerFor channel7) .a)
    (@Relayer.chain Crates.reference (relayerFor channel7) .b) 1

def delayedDriver := @relayDriver Crates.reference strayChains (relayerFor channel7) False

/-- After the schedule the packet is postponed and due, and the next iteration computes no
message. -/
def delayedCheck : Option Bool :=
  (delayedDriver.exec delayedSchedule (delayedStart, .idle)).map fun c =>
    (match c.2 with | .idle => true | _ => false) && decide (c.1.now ≤ seconds 20) &&
    decide (∀ ev ∈ @Chains.events Crates.reference strayChains .a 0 2,
      @Postponed Crates.reference strayChains (relayerFor channel7) c.1.dueAt .a ev) &&
    (match (delayedDriver.answers 8 (c.1.dueAt.start .a) dueMessages).2 with
      | .done (.ok (some ([], _))) => true
      | _ => false)

/-- The run in which a packet is postponed and not emitted when it is due. -/
theorem delayed_scenario : ∃ w w' ev timeouts proofHeightRef eventTypes,
    (@relayLoop Crates.reference strayChains (relayerFor channel7) False).Runs
      (delayedStart, .idle) (w, .idle) ∧
    @Postponed Crates.reference strayChains (relayerFor channel7) w .a ev ∧
    (@relayEnv Crates.reference strayChains False).Runs (w.start .a, dueMessages)
      (w', .done (.ok (some ([], timeouts, proofHeightRef, eventTypes)))) := by
  have hcheck : delayedCheck = some true := by decide +kernel
  obtain ⟨⟨w, ph⟩, hexec, hend⟩ := Option.map_eq_some_iff.mp hcheck
  simp only [Bool.and_eq_true, decide_eq_true_eq] at hend
  obtain ⟨⟨⟨hidle, hnow⟩, hpostponed⟩, hmessages⟩ := hend
  -- the run, and ten seconds later
  have hrun := Driver.exec_sound _ hexec
  obtain rfl : ph = .idle := by
    cases ph with
    | idle => rfl
    | _ => cases hidle
  have hevents : (@Chains.events Crates.reference strayChains .a 0 2).length = 1 := by
    decide +kernel
  obtain ⟨ev, hev⟩ := List.length_eq_one_iff.mp hevents
  have hnext := delayedDriver.answers_runs 8 (w.dueAt.start .a) dueMessages
  split at hmessages
  · next r hr =>
      obtain ⟨timeouts, proofHeightRef, eventTypes⟩ := r
      refine ⟨w.dueAt, (delayedDriver.answers 8 (w.dueAt.start .a) dueMessages).1, ev, timeouts,
        proofHeightRef, eventTypes, hrun.tail (.tick (.time (seconds 20) hnow)),
        hpostponed ev (by rw [hev]; exact List.mem_singleton_self _), ?_⟩
      rw [← hr]
      exact hnext
  · cases hmessages

/-- The example chain sends its packet once. -/
theorem stray_sentOnce : @Chains.SentOnce Crates.reference strayChains .a := by
  intro l ev hev ev' hev' m _ _
  exact List.singleton_inj.mp ((stray_events hev).symm.trans (stray_events hev'))

/-- The hypotheses of `postponed_lost` hold in a run. -/
theorem delayed_lost : ∃ (w w' : World) (ev : IbcEventWithHeight) (messages timeouts : List Any)
    (proofHeightRef : Height) (eventTypes : List IbcEventType),
    (@relayLoop Crates.reference strayChains (relayerFor channel7) False).Runs
      (delayedStart, .idle) (w, .idle) ∧
    (@relayEnv Crates.reference strayChains False).Runs (w.start .a, dueMessages)
      (w', .done (.ok (some (messages, timeouts, proofHeightRef, eventTypes)))) ∧
    ev.event.sourceEnd = some (channel7, transferPort) ∧
    ∀ m ∈ messages, ¬ev.event.RelayedBy m.msg := by
  obtain ⟨w, w', ev, timeouts, proofHeightRef, eventTypes, hrun, hpostponed, hnext⟩ :=
    delayed_scenario
  let _ := Crates.reference
  exact ⟨w, w', ev, [], timeouts, proofHeightRef, eventTypes, hrun, hnext,
    stray_sourceEnd hpostponed.event_mem, (postponed_lost strayChains (relayerFor channel7) False w
      w' .a ev hpostponed 1 [] timeouts proofHeightRef eventTypes hnext).2 stray_sentOnce⟩

/-- **A postponed packet does not come back.** -/
theorem delayed_not_relayed :
    ¬∀ (w w' : World) (ev : IbcEventWithHeight) (messages timeouts : List Any)
      (proofHeightRef : Height) (eventTypes : List IbcEventType),
      (@relayLoop Crates.reference strayChains (relayerFor channel7) False).Runs
        (delayedStart, .idle) (w, .idle) →
      @Postponed Crates.reference strayChains (relayerFor channel7) w .a ev →
      (@relayEnv Crates.reference strayChains False).Runs (w.start .a, dueMessages)
        (w', .done (.ok (some (messages, timeouts, proofHeightRef, eventTypes)))) →
      ∃ m ∈ messages, ev.event.RelayedBy m.msg := by
  intro h
  obtain ⟨w, w', ev, timeouts, proofHeightRef, eventTypes, hrun, hpostponed, hnext⟩ :=
    delayed_scenario
  obtain ⟨m, hm, -⟩ := h w w' ev [] timeouts proofHeightRef eventTypes hrun hpostponed hnext
  cases hm

end HyperspaceLight
