/-
# Which channels are relayed

The relay loop never looks at the whitelist of a chain.  Only cleared channels are
relayed as long as every packet event of another channel is held back by a connection
with a delay (`HeldBack`), where the loop goes on to the next event.
-/

import HyperspaceLight.Relay.Driver
import HyperspaceLight.Relay.Submission
import HyperspaceLight.Relay.Translation

namespace HyperspaceLight

open Interaction

/-- The end on the source that a packet message is about: it sent the packet, or it
received the packet that is acknowledged. -/
def Msg.sourceEnd : Msg → Option (ChannelId × PortId)
  | .recvPacket m => some (m.packet.sourceChannel, m.packet.sourcePort)
  | .acknowledgement m => some (m.packet.destinationChannel, m.packet.destinationPort)
  | _ => none

/-- The end that a packet event is about. -/
def IbcEvent.sourceEnd : IbcEvent → Option (ChannelId × PortId)
  | .sendPacket p => some (p.sourceChannel, p.sourcePort)
  | .writeAcknowledgement p _ => some (p.destinationChannel, p.destinationPort)
  | _ => none

/-- The end whose connection `parse_events` asks for a delay. -/
def IbcEvent.delayEnd : IbcEvent → Option (ChannelId × PortId)
  | .sendPacket p => some (p.sourceChannel, p.sourcePort)
  | .writeAcknowledgement p _ => some (p.sourceChannel, p.sourcePort)
  | _ => none

/-- The ends that the submitted packet messages are about, each with its side. -/
def World.relayedEnds (w : World) : List (Side × ChannelId × PortId) :=
  w.submissions.flatMap fun batch => batch.messages.filterMap fun any =>
    any.msg.sourceEnd.map fun e => (batch.source, e)

/-- **Only cleared channels are relayed.**  Every submitted packet message is about an end in
the whitelist of its source. -/
def OnlyCleared (R : Relayer) (w : World) : Prop :=
  ∀ e ∈ w.relayedEnds, e.2 ∈ (R.client e.1).channelWhitelist

/-- Ends and connections that are slow. -/
structure Slow where
  ends : Side → ChannelId × PortId → Prop
  connections : Side → ConnectionId → Prop

/-- **The other channels are slow.**  Every packet event in the blocks that the light client
did not know in `start` is about a cleared end or asks a slow one for its delay; slow ends
are on slow connections, and these have a delay. -/
structure HeldBack [Crates] (X : Chains) (R : Relayer) (slow : Slow) (start w : World) : Prop where
  events : ∀ s, ∀ ev ∈ X.events s (start.clientHeight R s) (w.height s), ∀ e e',
    ev.event.sourceEnd = some e → e ∉ (R.client s).channelWhitelist →
      ev.event.delayEnd = some e' → slow.ends s e'
  ends : ∀ s c p channel id, slow.ends s (c, p) → (w.nodes s).channels p c = some channel →
    channel.connectionHops.head? = some id → slow.connections s id
  connections : ∀ s id connection, slow.connections s id →
    (w.nodes s).connections id = some connection → connection.delayPeriod ≠ 0

section

variable [Crates] {A : (o : Net.Op) → Except Error (Net.Res o) → Prop} {source sink : CosmosClient}
  {ev : IbcEventWithHeight} {msg : Any} {proofHeight : Height}

/-- The two answers that a delay is read from. -/
theorem channelDelay_answers {height : Height} {c : ChannelId} {p : PortId} {delay : Duration}
    (h : (channelDelay source.provider height c p).Leaf A (.ok delay)) :
    ∃ (answer : GrpcResponse (Option (Raw ChannelEnd))) (channel : ChannelEnd) (id : ConnectionId)
      (answer' : GrpcResponse (Option (Raw ConnectionEnd))) (connection : ConnectionEnd),
      A (.node source.side (.channel p c)) (.ok answer) ∧ answer.value = some (.ok channel) ∧
      channel.connectionHops.head? = some id ∧
      A (.node source.side (.connection id)) (.ok answer') ∧
      answer'.value = some (.ok connection) ∧ connection.delayPeriod = delay := by
  obtain ⟨response, hresponse, h⟩ := Prog.leaf_bind_ok.mp h
  obtain ⟨answer, hanswer, hvalue, -, -⟩ := queryThenProve_returns hresponse
  obtain ⟨raw, hraw, h⟩ := Prog.leaf_bind_ok.mp h
  obtain ⟨channel, hchannel, h⟩ := Prog.leaf_bind_ok.mp h
  obtain ⟨id, hid, h⟩ := Prog.leaf_bind_ok.mp h
  obtain ⟨response', hresponse', h⟩ := Prog.leaf_bind_ok.mp h
  obtain ⟨answer', hanswer', hvalue', -, -⟩ := queryThenProve_returns hresponse'
  obtain ⟨raw', hraw', h⟩ := Prog.leaf_bind_ok.mp h
  obtain ⟨connection, hconnection, h⟩ := Prog.leaf_bind_ok.mp h
  rw [Prog.leaf_okOr_ok] at hraw hraw' hid
  rw [Raw.leaf_tryFrom_ok] at hchannel hconnection
  refine ⟨answer, channel, id, answer', connection, hanswer, ?_, hid, hanswer', ?_,
    Outcome.ok.inj h⟩
  · exact hvalue.symm.trans (hraw.trans (by rw [hchannel]))
  · exact hvalue'.symm.trans (hraw'.trans (by rw [hconnection]))

/-- **A packet event is translated only where its connection has no delay.** -/
theorem parseEvent_delay (h : (parseEvent source.provider sink.provider ev).Leaf A
    (.ok (some (msg, proofHeight)))) {e : ChannelId × PortId} (he : ev.event.delayEnd = some e) :
    (channelDelay source.provider ev.height e.1 e.2).Leaf A (.ok 0) := by
  unfold IbcEvent.delayEnd at he
  unfold parseEvent at h
  split at he
  · next hev =>
      rw [hev] at h
      obtain rfl := Option.some.inj he
      obtain ⟨delay, hdelay, h⟩ := Prog.leaf_bind_ok.mp h
      by_cases hzero : delay = 0
      · exact hzero ▸ hdelay
      · dsimp only at h
        rw [if_pos hzero] at h
        cases h
  · next hev =>
      rw [hev] at h
      obtain rfl := Option.some.inj he
      obtain ⟨delay, hdelay, h⟩ := Prog.leaf_bind_ok.mp h
      by_cases hzero : delay = 0
      · exact hzero ▸ hdelay
      · dsimp only at h
        rw [if_pos hzero] at h
        cases h
  · cases he

omit [Crates] in
/-- The message of an event is about the end that the event is about. -/
theorem Translation.sourceEnd (h : Translation A source.side ev msg proofHeight)
    {e : ChannelId × PortId} (he : msg.msg.sourceEnd = some e) :
    ev.event.sourceEnd = some e ∧ ∃ e', ev.event.delayEnd = some e' := by
  cases hmsg : msg.msg with
  | recvPacket m =>
      rw [hmsg] at he
      rw [h.recvPacket m hmsg]
      exact ⟨he, _, rfl⟩
  | acknowledgement m =>
      rw [hmsg] at he
      obtain ⟨ack, hev⟩ := h.acknowledgement m hmsg
      rw [hev]
      exact ⟨he, _, rfl⟩
  | _ => rw [hmsg] at he; cases he

end

/-! ### Runs -/

section

variable [Crates] {X : Chains} {R : Relayer} {foreign : Prop} {slow : Slow} {start w w' : World}

/-- What holds in a run: the light clients are not behind the start, the other channels are
slow, and only cleared channels were relayed. -/
structure ClearedSoFar (X : Chains) (R : Relayer) (slow : Slow) (start w : World) : Prop where
  clientHeight_le : ∀ s, start.clientHeight R s ≤ w.clientHeight R s
  heldBack : HeldBack X R slow start w
  onlyCleared : OnlyCleared R w

/-- The invariant holds later, between submissions. -/
theorem ClearedSoFar.later (h : ClearedSoFar X R slow start w) (hlater : Later w w')
    (hheld : HeldBack X R slow start w') : ClearedSoFar X R slow start w' where
  clientHeight_le s := (h.clientHeight_le s).trans (hlater.clientHeight_le s)
  heldBack := hheld
  onlyCleared := by
    rw [OnlyCleared, World.relayedEnds, hlater.submissions_eq]
    exact h.onlyCleared

/-- It survives moves and reads. -/
theorem ClearedSoFar.kept {s : Side} :
    ((relayEnv X foreign).within (HeldBack X R slow start)).Kept Passive
      (fun w => ClearedSoFar X R slow start w ∧ w.source = s) := by
  rintro w w' ⟨h, hsource⟩ (⟨ht, hheld⟩ | ⟨o, r, ho, ⟨rfl, -⟩, hheld⟩)
  · exact ⟨h.later ht.still.toLater hheld, ht.still.source_eq.trans hsource⟩
  · exact ⟨h.later (later_after ho) hheld, (later_after ho).source_eq.trans hsource⟩

/-- A batch about cleared ends is submitted. -/
theorem ClearedSoFar.broadcast {s : Side} {messages : List Any} (h : ClearedSoFar X R slow start w)
    (hheld : HeldBack X R slow start (w.broadcast s messages))
    (hmessages : ∀ m ∈ messages, ∀ e, m.msg.sourceEnd = some e →
      e ∈ (R.client w.source).channelWhitelist) :
    ClearedSoFar X R slow start (w.broadcast s messages) where
  clientHeight_le t := (h.clientHeight_le t).trans_eq (World.broadcast_clientHeight ..).symm
  heldBack := hheld
  onlyCleared e he := by
    rw [World.relayedEnds, World.broadcast, List.flatMap_append, List.mem_append] at he
    rcases he with he | he
    · exact h.onlyCleared e he
    · rw [List.flatMap_singleton, List.mem_filterMap] at he
      obtain ⟨any, hany, he⟩ := he
      obtain ⟨e', he', rfl⟩ := Option.map_eq_some_iff.mp he
      exact hmessages any hany e' he'

/-- **The messages of an iteration are about cleared ends.** -/
theorem iterationMessages_cleared {s : Side} {finalityEvent : FinalityEvent}
    {messages timeouts : List Any} {proofHeightRef : Height} {eventTypes : List IbcEventType}
    (hw : ClearedSoFar X R slow start w)
    (hmean : ((relayEnv X foreign).within (HeldBack X R slow start)).Meanwhile Passive w w')
    (h : (iterationMessages (R.chain s) (R.chain s.other) finalityEvent).Leaf
      (((relayEnv X foreign).within (HeldBack X R slow start)).Given Passive w w')
      (.ok (some (messages, timeouts, proofHeightRef, eventTypes)))) :
    ∀ m ∈ messages, ∀ e, m.msg.sourceEnd = some e → e ∈ (R.client s).channelWhitelist := by
  obtain ⟨-, update, events, updateType, hscan, -, hparse⟩ := iterationMessages_returns h
  obtain ⟨c, l, _, hworld⟩ := scan_world (hscan.mono fun _ _ => Env.Given.of_within)
  obtain rfl := hworld.events_eq
  intro m hm e he
  obtain ⟨ev, hev, proofHeight, hleaf⟩ :=
    (parseEvents_origin hparse hm).resolve_left (List.not_mem_nil)
  obtain ⟨hend, e', hdelayEnd⟩ := (parseEvent_translation hleaf).sourceEnd he
  by_contra hother
  -- the event is in a block that the light client did not know at the start
  have hevents : ev ∈ X.events s (start.clientHeight R s) (w'.height s) := by
    obtain ⟨n, hcn, hnl, hn⟩ := mem_chainEvents.mp hev
    exact mem_chainEvents.mpr
      ⟨n, ((hw.clientHeight_le s).trans hworld.clientHeight_le).trans_lt hcn,
        hnl.trans hworld.le_height, hn⟩
  have hslow := (hmean.stays hw.heldBack).events s ev hevents e e' hend hother hdelayEnd
  obtain ⟨answer, channel, id, answer', connection, hanswer, hvalue, hid, hanswer', hvalue',
    hzero⟩ := channelDelay_answers (parseEvent_delay hleaf hdelayEnd)
  -- the answers were true when they were given
  obtain ⟨w₁, w₂, h₁, ⟨⟨-, honest⟩, -⟩, -⟩ := hanswer
  obtain ⟨w₁', w₂', h₁', ⟨⟨-, honest'⟩, -⟩, -⟩ := hanswer'
  obtain ⟨channel', hchannel, hsome⟩ :=
    Option.map_eq_some_iff.mp ((honest _ rfl).2.symm.trans hvalue)
  obtain ⟨connection', hconnection, hsome'⟩ :=
    Option.map_eq_some_iff.mp ((honest' _ rfl).2.symm.trans hvalue')
  obtain rfl := Except.ok.inj hsome
  obtain rfl := Except.ok.inj hsome'
  rw [R.client_side] at hchannel hconnection
  have hslowConnection := (h₁.stays hw.heldBack).ends s e'.1 e'.2 channel' id hslow hchannel hid
  exact (h₁'.stays hw.heldBack).connections s id connection' hslowConnection hconnection hzero

/-- **Where the other channels are slow, only cleared channels are relayed.**  For all chains,
whitelists and slow ends, in every state of every run of the relay loop from a state without
submissions in which the packet events of other channels are held back throughout. -/
theorem relayLoop_onlyCleared (X : Chains) (R : Relayer) (foreign : Prop) (slow : Slow)
    (start w : World) (ph : Phase Net Error) (hstart : start.submissions = [])
    (hheld : HeldBack X R slow start start)
    (h : ((relayLoop X R foreign).within (HeldBack X R slow start)).Runs (start, .idle) (w, ph)) :
    OnlyCleared R w := by
  have hkept : ∀ w w', ClearedSoFar X R slow start w →
      ((relayEnv X foreign).within (HeldBack X R slow start)).tick w w' →
        ClearedSoFar X R slow start w' := fun w w' hw ht => hw.later ht.1.still.toLater ht.2
  have hw₀ : ClearedSoFar X R slow start start :=
    ⟨fun _ => le_rfl, hheld, by rw [OnlyCleared, World.relayedEnds, hstart]; exact nofun⟩
  refine (Loop.invariant (L := (relayLoop X R foreign).within (HeldBack X R slow start))
    hkept hkept (fun _ h => h) ?_ hw₀ h).1.onlyCleared
  rintro w p w' hw ⟨⟨s, finalityEvent, rfl, rfl⟩, hheld'⟩
  have hstarted : ClearedSoFar X R slow start (w.start s) :=
    ⟨hw.clientHeight_le, hheld', hw.onlyCleared⟩
  refine Env.wp_safety (fun _ h => h.1) (Env.wp_mono (fun _ h => h.1) (fun _ _ h => h.1)
    (processFinalityEvent_wp (M := fun m => ∀ e, m.msg.sourceEnd = some e →
      e ∈ (R.client s).channelWhitelist) ClearedSoFar.kept
      (fun w w' h ht => ClearedSoFar.kept w w' h (.inl ht))
      (fun w' messages timeouts proofHeightRef eventTypes hmean hleaf =>
        iterationMessages_cleared hstarted hmean hleaf)
      (fun update u hu e he => by rw [hu] at he; cases he) ?_ ⟨hstarted, rfl⟩))
  rintro w batch tx r w' ⟨hw, hsource⟩ hbatch ⟨⟨rfl, -⟩, hheld⟩
  exact ⟨hw.broadcast hheld (hsource ▸ hbatch), hsource⟩

end

/-! ### A packet of another channel -/

/-- What is relayed in the schedule. -/
def strayEnds (channel : ChannelId) : Option (List (Side × ChannelId × PortId)) :=
  ((@relayDriver Crates.reference strayChains (relayerFor channel) False).exec straySchedule
    (strayStart, .idle)).map fun c => c.1.relayedEnds

/-- A packet of a channel that was not cleared is relayed. -/
theorem stray_relayed {channel : ChannelId}
    (h : strayEnds channel = some [(.a, channel7, transferPort)]) : ∃ w ph,
      (@relayLoop Crates.reference strayChains (relayerFor channel) False).Runs (strayStart, .idle)
        (w, ph) ∧ w.relayedEnds = [(.a, channel7, transferPort)] := by
  obtain ⟨⟨w, ph⟩, hrun, hends⟩ := Option.map_eq_some_iff.mp h
  exact ⟨w, ph, Driver.exec_sound _ hrun, hends⟩

/-- The one event of the example is of that channel. -/
theorem stray_sourceEnd {s : Side} {c l : ℕ} {ev : IbcEventWithHeight}
    (h : ev ∈ @Chains.events Crates.reference strayChains s c l) :
    ev.event.sourceEnd = some (channel7, transferPort) := by
  let _ := Crates.reference
  have hsent : (blockEvents 0 2 (strayBlocks .a 2)).map (fun ev => ev.event.sourceEnd) =
      [some (channel7, transferPort)] := by decide +kernel
  rw [stray_events h] at hsent
  exact List.singleton_inj.mp hsent

/-- The hypotheses of `relayLoop_onlyCleared` hold where the relayer is configured for
`channel-7`, and the packet is relayed. -/
theorem stray_cleared : ∃ w, OnlyCleared (relayerFor channel7) w ∧
    w.relayedEnds = [(.a, channel7, transferPort)] := by
  have hrelayed : strayEnds channel7 = some [(.a, channel7, transferPort)] := by decide +kernel
  obtain ⟨w, ph, hrun, hends⟩ := stray_relayed hrelayed
  let _ := Crates.reference
  -- no end is slow, since no event is about another end
  let slow : Slow := ⟨fun _ _ => False, fun _ _ => False⟩
  have hheld : ∀ w, HeldBack strayChains (relayerFor channel7) slow strayStart w := fun w =>
    { events := fun s ev hev e e' he hother _ => hother (by
        obtain rfl := Option.some.inj ((stray_sourceEnd hev).symm.trans he)
        exact List.mem_singleton_self _)
      ends := fun _ _ _ _ _ h => h.elim
      connections := fun _ _ _ h => h.elim }
  exact ⟨w, relayLoop_onlyCleared strayChains (relayerFor channel7) False slow strayStart w ph rfl
    (hheld _) (hrun.within (fun _ _ _ _ => hheld _) (hheld w)), hends⟩

/-- **A packet of another channel is relayed.**  The relayer is configured for `channel-0` only,
and submits the packet of `channel-7`. -/
theorem stray_not_cleared :
    ¬∀ w ph, (@relayLoop Crates.reference strayChains (relayerFor channel0) False).Runs
      (strayStart, .idle) (w, ph) → OnlyCleared (relayerFor channel0) w := by
  intro h
  have hrelayed : strayEnds channel0 = some [(.a, channel7, transferPort)] := by decide +kernel
  obtain ⟨w, ph, hrun, hends⟩ := stray_relayed hrelayed
  have hcleared := h w ph hrun (.a, channel7, transferPort) (by rw [hends]; simp)
  revert hcleared
  decide

end HyperspaceLight
