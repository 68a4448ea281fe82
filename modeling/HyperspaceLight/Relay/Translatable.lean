/-
# Which events are translated

`parse_events` translates an event that opens a connection or a channel if its id was
decoded, an event that closes a channel always, and a packet event if the connection that
is looked up has no delay (`Translated`).  The message is then the one that answers the
event (`Answers`), and there is none otherwise (`parseEvent_path`).

Which connection that is, is another question.  An event of a packet belongs to the
channel end of this chain, the source end where the packet is sent and the destination end
where it is received (`Links.translatable`); the source end is looked up for both
(`Links.lookedUp`, `parseEvent_lookedUp`).
-/

import HyperspaceLight.Relay.Translation

namespace HyperspaceLight

open Interaction

/-- The message that answers an event. -/
def Answers : IbcEvent → Msg → Prop
  | .openInitConnection _, .connectionOpenTry _ => True
  | .openTryConnection _, .connectionOpenAck _ => True
  | .openAckConnection _, .connectionOpenConfirm _ => True
  | .openInitChannel _, .channelOpenTry _ => True
  | .openTryChannel _, .channelOpenAck _ => True
  | .openAckChannel _, .channelOpenConfirm _ => True
  | .closeInitChannel _, .channelCloseConfirm _ => True
  | .sendPacket p, .recvPacket m => m.packet = p
  | .writeAcknowledgement p ack, .acknowledgement m => m.packet = p ∧ m.acknowledgement = ack
  | _, _ => False

/-- A received packet answers the event that sent it. -/
theorem answers_recvPacket {event : IbcEvent} {m : MsgRecvPacket} :
    Answers event (.recvPacket m) ↔ event = .sendPacket m.packet := by
  cases event with
  | sendPacket p => simp [Answers, eq_comm]
  | _ => simp [Answers]

/-- A packet that was sent is answered by its receipt. -/
theorem Answers.of_sendPacket {p : Packet} {m : Msg} (h : Answers (.sendPacket p) m) :
    ∃ r, m = .recvPacket r ∧ r.packet = p := by
  cases m with
  | recvPacket r => exact ⟨r, rfl, h⟩
  | _ => exact h.elim

/-- The delay of a connection end that was answered. -/
def connectionDelay : Option (Raw ConnectionEnd) → Option Duration
  | some (.ok connection) => some connection.delayPeriod
  | _ => none

def delayAnswered : Exchange Net Error → Option Duration
  | ⟨.node _ (.connection _), .ok answer⟩ => connectionDelay (GrpcResponse.value answer)
  | _ => none

/-- The delays of the connections that a run has looked up. -/
def delays (t : List (Exchange Net Error)) : List Duration := t.filterMap delayAnswered

/-- The delays of two parts of a run are those of both. -/
theorem delays_append (t t' : List (Exchange Net Error)) :
    delays (t ++ t') = delays t ++ delays t' :=
  List.filterMap_append

/-- No connection is looked up. -/
def NoConnection : NetOp → Prop
  | .node _ (.connection _) => False
  | _ => True

/-- A part that asks for no connection reads no delay. -/
theorem delays_nil {α : Type} {p : Prog Net Error α} {t : List (Exchange Net Error)}
    {o : Outcome Error α} (h : p.Path t o) (hp : p.Asks (fun _ _ => True) NoConnection) :
    delays t = [] := by
  refine List.filterMap_eq_nil_iff.mpr fun x hx => ?_
  have hno := h.asks hp x hx
  unfold delayAnswered
  split
  · exact hno.elim
  · rfl

/-- **The event is translated**, where `t` is what is asked for it: of a packet event, a
connection without delay is looked up. -/
def Translated (t : List (Exchange Net Error)) : IbcEvent → Prop
  | .openInitConnection a => a.connectionId.isSome
  | .openTryConnection a => a.connectionId.isSome
  | .openAckConnection a => a.connectionId.isSome
  | .openInitChannel a => a.channelId.isSome
  | .openTryChannel a => a.channelId.isSome
  | .openAckChannel a => a.channelId.isSome
  | .closeInitChannel _ => True
  | .sendPacket _ => 0 ∈ delays t
  | .writeAcknowledgement _ _ => 0 ∈ delays t
  | _ => False

/-- Whether an event is translated depends on the delays read. -/
theorem translated_congr {t t' : List (Exchange Net Error)} (h : delays t = delays t')
    (event : IbcEvent) : Translated t event ↔ Translated t' event := by
  cases event <;> simp [Translated, h]

/-! ### The delay of an event -/

/-- What the source stores of its channels and connections: the connection of a channel, and the
delay of a connection.  Neither changes. -/
structure Links where
  connectionId : PortId → ChannelId → ConnectionId
  delayPeriod : ConnectionId → Duration

namespace Links

/-- The delay of the connection under a channel. -/
def delay (links : Links) (p : PortId) (c : ChannelId) : Duration :=
  links.delayPeriod (links.connectionId p c)

/-- What the node of the side answers about channels and connections is what is stored. -/
def AnsweredFrom (links : Links) (s : Side) : Exchange Net Error → Prop
  | ⟨.node s' (.channel p c), .ok answer⟩ => s' = s → ∀ channelEnd : ChannelEnd,
      GrpcResponse.value answer = some (.ok channelEnd) →
        channelEnd.connectionHops.head? = some (links.connectionId p c)
  | ⟨.node s' (.connection id), .ok answer⟩ => s' = s → ∀ connectionEnd : ConnectionEnd,
      GrpcResponse.value answer = some (.ok connectionEnd) →
        connectionEnd.delayPeriod = links.delayPeriod id
  | _ => True

/-- **The event is translatable**: an opening whose id was decoded, a closing, and a packet that
was sent or received over a connection without delay. -/
def translatable (links : Links) : IbcEvent → Bool
  | .openInitConnection a | .openTryConnection a | .openAckConnection a => a.connectionId.isSome
  | .openInitChannel a | .openTryChannel a | .openAckChannel a => a.channelId.isSome
  | .closeInitChannel _ => true
  | .sendPacket p => links.delay p.sourcePort p.sourceChannel = 0
  | .writeAcknowledgement p _ => links.delay p.destinationPort p.destinationChannel = 0
  | _ => false

/-- What is looked up instead: the source end of the packet also where it was received. -/
def lookedUp (links : Links) : IbcEvent → Bool
  | .writeAcknowledgement p _ => links.delay p.sourcePort p.sourceChannel = 0
  | e => links.translatable e

/-- **The two ends agree**: of a packet that was received, both identifiers name connections
without delay, or both name connections with one. -/
def SameDelay (links : Links) : IbcEvent → Prop
  | .writeAcknowledgement p _ =>
      links.delay p.destinationPort p.destinationChannel = 0 ↔
        links.delay p.sourcePort p.sourceChannel = 0
  | _ => True

/-- It does not matter what is looked up exactly where the two ends agree. -/
theorem translatable_eq_lookedUp_iff {links : Links} {e : IbcEvent} :
    links.translatable e = links.lookedUp e ↔ links.SameDelay e := by
  cases e with
  | writeAcknowledgement p ack => simp [translatable, lookedUp, SameDelay]
  | _ => exact iff_of_true rfl trivial

end Links

/-- The event has got its message. -/
def Built (ev : IbcEventWithHeight) (r : Option (Any × Height)) : Prop :=
  ∃ any proofHeight, r = some (any, proofHeight) ∧ any.origin = some ev ∧
    Answers ev.event any.msg

section

variable [Crates] {source : CosmosClient} {sink : IbcProvider Net} {ev : IbcEventWithHeight}

/-- An answering message is what an arm has to build. -/
theorem toAny_built {m : Msg} {context : String} {height : Height} (hm : Answers ev.event m) :
    (m.toAny context (some ev) >>= fun any => pure (some (any, height)) :
      Prog Net Error (Option (Any × Height))).Ensures (Built ev) := by
  intro r h
  obtain ⟨any, hany, hr⟩ := Prog.leaf_bind_ok.mp h
  obtain ⟨rfl, horigin⟩ := Msg.toAny_returns hany
  exact ⟨any, height, (Outcome.ok.inj hr).symm, horigin, hm⟩

/-! ### Connections and channels -/

/-- The arm of a connection init builds an answering message. -/
theorem openInitConnectionArm_built {a : ConnectionAttributes} {id : ConnectionId}
    (hev : ev.event = .openInitConnection a) (hid : a.connectionId = some id) :
    (openInitConnectionArm source.provider sink ev a).Ensures (Built ev) := by
  unfold openInitConnectionArm
  rw [hid]
  refine .bind fun _ => .bind fun _ => .bind fun _ => .bind fun _ => .bind fun _ => .bind fun _ => ?_
  exact toAny_built (by rw [hev]; trivial)

/-- The arm of a connection try builds an answering message. -/
theorem openTryConnectionArm_built {a : ConnectionAttributes} {id : ConnectionId}
    (hev : ev.event = .openTryConnection a) (hid : a.connectionId = some id) :
    (openTryConnectionArm source.provider sink ev a).Ensures (Built ev) := by
  unfold openTryConnectionArm
  rw [hid]
  refine .bind fun _ => .bind fun _ => .bind fun _ => .bind fun _ => .bind fun _ => .bind fun _ => ?_
  refine .bind fun _ => .bind fun _ => ?_
  exact toAny_built (by rw [hev]; trivial)

/-- The arm of a connection acknowledgement builds an answering message. -/
theorem openAckConnectionArm_built {a : ConnectionAttributes} {id : ConnectionId}
    (hev : ev.event = .openAckConnection a) (hid : a.connectionId = some id) :
    (openAckConnectionArm source.provider sink ev a).Ensures (Built ev) := by
  unfold openAckConnectionArm
  rw [hid]
  exact .bind fun _ => .bind fun _ => .bind fun _ => toAny_built (by rw [hev]; trivial)

/-- The arm of a channel init builds an answering message. -/
theorem openInitChannelArm_built {a : ChannelAttributes} {id : ChannelId}
    (hev : ev.event = .openInitChannel a) (hid : a.channelId = some id) :
    (openInitChannelArm source.provider sink ev a).Ensures (Built ev) := by
  unfold openInitChannelArm
  rw [hid]
  exact .bind fun _ => toAny_built (by rw [hev]; trivial)

/-- The arm of a channel try builds an answering message. -/
theorem openTryChannelArm_built {a : ChannelAttributes} {id : ChannelId}
    (hev : ev.event = .openTryChannel a) (hid : a.channelId = some id) :
    (openTryChannelArm source.provider sink ev a).Ensures (Built ev) := by
  unfold openTryChannelArm
  rw [hid]
  exact .bind fun _ => .bind fun _ => toAny_built (by rw [hev]; trivial)

/-- The arm of a channel acknowledgement builds an answering message. -/
theorem openAckChannelArm_built {a : ChannelAttributes} {id : ChannelId}
    (hev : ev.event = .openAckChannel a) (hid : a.channelId = some id) :
    (openAckChannelArm source.provider sink ev a).Ensures (Built ev) := by
  unfold openAckChannelArm
  rw [hid]
  exact .bind fun _ => .bind fun _ => toAny_built (by rw [hev]; trivial)

/-- The arm of a closing builds an answering message. -/
theorem closeInitChannelArm_built {a : CloseInitAttributes} (hev : ev.event = .closeInitChannel a) :
    (closeInitChannelArm source.provider sink ev a).Ensures (Built ev) :=
  .bind fun _ => .bind fun _ => toAny_built (by rw [hev]; trivial)

/-! ### Packets -/

/-- The proof of a packet asks for no connection. -/
theorem queryProof_noConnection {height : Height} {key : Bytes} :
    (source.queryProof height [key]).Asks (fun _ _ => True) NoConnection := by
  refine (Prog.asks_expect _ _).bind fun key _ => ?_
  exact (queryPath_asks fun _ => trivial).bind fun _ _ => trivial

/-- The value of a query with a proof is that of an answer. -/
theorem queryThenProve_answer {α : Type} {op : NodeOp} {response : op.Res → GrpcResponse α}
    {path : Path} {height : Height} {result : WithProof α} {t : List (Exchange Net Error)}
    (h : (source.queryThenProve op response path height).Path t (.ok result)) :
    ∃ answer, ⟨.node source.side op, .ok answer⟩ ∈ t ∧ result.value = (response answer).value := by
  obtain ⟨t₁, t₂, answer, rfl, hanswer, h⟩ := Prog.path_bind_ok.mp h
  obtain ⟨_, _, _, -, -, h⟩ := Prog.path_bind_ok.mp h
  obtain ⟨_, _, _, -, -, h⟩ := Prog.path_bind_ok.mp h
  obtain rfl := Outcome.ok.inj (Prog.path_pure.mp h).2
  obtain ⟨t₃, t₄, _, rfl, -, hop⟩ := Prog.path_bind_ok.mp hanswer
  refine ⟨answer, List.mem_append_left _ (List.mem_append_right _ ?_), rfl⟩
  rw [Side.path_ask_ok.mp hop]
  exact List.mem_singleton.mpr rfl

/-- The query for a connection answers one delay. -/
theorem queryConnectionEnd_delays {height : Height} {id : ConnectionId}
    {response : QueryConnectionResponse} {t : List (Exchange Net Error)}
    (h : (source.queryConnectionEnd height id).Path t (.ok response)) :
    delays t = (connectionDelay response.value).toList := by
  obtain ⟨t₁, t₂, answer, rfl, hanswer, h⟩ := Prog.path_bind_ok.mp h
  obtain ⟨t₂, t₃, proof, rfl, hproof, h⟩ := Prog.path_bind_ok.mp h
  obtain ⟨t₃, t₄, proofHeight, rfl, hheight, h⟩ := Prog.path_bind_ok.mp h
  obtain ⟨rfl, hreturn⟩ := Prog.path_pure.mp h
  obtain ⟨t₁, t₅, _, rfl, hconnect, hop⟩ := Prog.path_bind_ok.mp hanswer
  obtain rfl := Outcome.ok.inj hreturn
  simp only [delays_append, delays_nil hproof queryProof_noConnection,
    delays_nil hheight incerementProofHeight_asks, Side.path_ask_ok.mp hop,
    Side.path_ask_ok.mp hconnect]
  exact List.append_nil _

/-- The delay that is looked up is the one that was answered. -/
theorem channelDelay_delays {height : Height} {c : ChannelId} {p : PortId} {delay : Duration}
    {t : List (Exchange Net Error)}
    (h : (channelDelay source.provider height c p).Path t (.ok delay)) : delays t = [delay] := by
  obtain ⟨t₁, t₂, response, rfl, hchannel, h⟩ := Prog.path_bind_ok.mp h
  obtain ⟨t₂, t₃, raw, rfl, hraw, h⟩ := Prog.path_bind_ok.mp h
  obtain ⟨t₃, t₄, channel, rfl, hdecoded, h⟩ := Prog.path_bind_ok.mp h
  obtain ⟨t₄, t₅, id, rfl, hid, h⟩ := Prog.path_bind_ok.mp h
  obtain ⟨t₅, t₆, response', rfl, hconnection, h⟩ := Prog.path_bind_ok.mp h
  obtain ⟨t₆, t₇, raw', rfl, hraw', h⟩ := Prog.path_bind_ok.mp h
  obtain ⟨t₇, t₈, connection, rfl, hdecoded', h⟩ := Prog.path_bind_ok.mp h
  obtain ⟨rfl, hreturn⟩ := Prog.path_pure.mp h
  obtain rfl := Outcome.ok.inj hreturn
  have hchannelAsks : (source.queryChannelEnd height c p).Asks (fun _ _ => True) NoConnection :=
    queryThenProve_asks trivial trivial fun _ => trivial
  have hvalue : response'.value = some (.ok connection) := by
    have hsome := Prog.leaf_okOr_ok.mp hraw'.leaf
    rw [hsome, Raw.leaf_tryFrom_ok.mp hdecoded'.leaf]
  simp only [delays_append, delays_nil hchannel hchannelAsks, delays_nil hraw (Prog.asks_okOr _ _),
    delays_nil hdecoded Raw.tryFrom_asks, delays_nil hid (Prog.asks_okOr _ _),
    queryConnectionEnd_delays hconnection, delays_nil hraw' (Prog.asks_okOr _ _),
    delays_nil hdecoded' Raw.tryFrom_asks, hvalue]
  rfl

/-- **The delay that is looked up is the one that is stored.** -/
theorem channelDelay_links {links : Links} {height : Height} {c : ChannelId} {p : PortId}
    {delay : Duration} {t : List (Exchange Net Error)}
    (hlinks : ∀ x ∈ t, links.AnsweredFrom source.side x)
    (h : (channelDelay source.provider height c p).Path t (.ok delay)) : delay = links.delay p c := by
  obtain ⟨t₁, t₂, response, rfl, hchannel, h⟩ := Prog.path_bind_ok.mp h
  obtain ⟨hlinks₁, hlinks⟩ := List.forall_mem_append.mp hlinks
  obtain ⟨_, t₃, raw, rfl, hraw, h⟩ := Prog.path_bind_ok.mp h
  obtain ⟨-, hlinks⟩ := List.forall_mem_append.mp hlinks
  obtain ⟨_, t₄, channelEnd, rfl, hdecoded, h⟩ := Prog.path_bind_ok.mp h
  obtain ⟨-, hlinks⟩ := List.forall_mem_append.mp hlinks
  obtain ⟨_, t₅, id, rfl, hid, h⟩ := Prog.path_bind_ok.mp h
  obtain ⟨-, hlinks⟩ := List.forall_mem_append.mp hlinks
  obtain ⟨t₆, t₇, response', rfl, hconnection, h⟩ := Prog.path_bind_ok.mp h
  obtain ⟨hlinks₂, -⟩ := List.forall_mem_append.mp hlinks
  obtain ⟨_, _, raw', -, hraw', h⟩ := Prog.path_bind_ok.mp h
  obtain ⟨_, _, connectionEnd, -, hdecoded', h⟩ := Prog.path_bind_ok.mp h
  obtain rfl := Outcome.ok.inj (Prog.path_pure.mp h).2
  -- the hop of the channel, then the delay of that connection
  have hend : response.value = some (.ok channelEnd) := by
    rw [Prog.leaf_okOr_ok.mp hraw.leaf, Raw.leaf_tryFrom_ok.mp hdecoded.leaf]
  have hend' : response'.value = some (.ok connectionEnd) := by
    rw [Prog.leaf_okOr_ok.mp hraw'.leaf, Raw.leaf_tryFrom_ok.mp hdecoded'.leaf]
  obtain ⟨answer, hanswer, hvalue⟩ := queryThenProve_answer hchannel
  obtain ⟨answer', hanswer', hvalue'⟩ := queryThenProve_answer hconnection
  have hhop := hlinks₁ _ hanswer rfl channelEnd (hvalue.symm.trans hend)
  obtain rfl := Option.some.inj ((Prog.leaf_okOr_ok.mp hid.leaf).symm.trans hhop)
  exact hlinks₂ _ hanswer' rfl connectionEnd (hvalue'.symm.trans hend')

/-- A packet arm goes on exactly where the delay that is stored is zero. -/
theorem packetArm_links {links : Links} {height : Height} {c : ChannelId} {p : PortId}
    {rest : Prog Net Error (Option (Any × Height))} {t : List (Exchange Net Error)}
    {r : Option (Any × Height)} (hlinks : ∀ x ∈ t, links.AnsweredFrom source.side x)
    (h : (channelDelay source.provider height c p >>= fun delay =>
      if delay ≠ 0 then pure none else rest).Path t (.ok r)) :
    0 ∈ delays t ↔ links.delay p c = 0 := by
  obtain ⟨t₁, t₂, delay, rfl, hdelay, h⟩ := Prog.path_bind_ok.mp h
  have hstored := channelDelay_links (List.forall_mem_append.mp hlinks).1 hdelay
  rw [delays_append, channelDelay_delays hdelay, ← hstored]
  split_ifs at h with hzero
  · obtain ⟨rfl, -⟩ := Prog.path_pure.mp h
    exact List.mem_singleton.trans eq_comm
  · rw [not_not] at hzero
    exact iff_of_true (by rw [hzero]; exact List.mem_cons_self ..) hzero

omit [Crates] in
/-- **A packet arm**: it looks up the delay, and goes on only where that is zero. -/
theorem packetArm_path {p : Prog Net Error Duration} {rest : Prog Net Error (Option (Any × Height))}
    {t : List (Exchange Net Error)} {r : Option (Any × Height)}
    (hdelay : ∀ t delay, p.Path t (.ok delay) → delays t = [delay])
    (hrest : rest.Ensures (Built ev))
    (h : (p >>= fun delay => if delay ≠ 0 then pure none else rest).Path t (.ok r)) :
    0 ∈ delays t ∧ Built ev r ∨ 0 ∉ delays t ∧ r = none := by
  obtain ⟨t₁, t₂, delay, rfl, hp, h⟩ := Prog.path_bind_ok.mp h
  rw [delays_append, hdelay t₁ delay hp]
  split_ifs at h with hzero
  · obtain ⟨rfl, hreturn⟩ := Prog.path_pure.mp h
    refine .inr ⟨fun hmem => ?_, (Outcome.ok.inj hreturn).symm⟩
    exact hzero (List.mem_singleton.mp hmem).symm
  · rw [not_not] at hzero
    exact .inl ⟨by rw [hzero]; exact List.mem_cons_self ..,
      hrest r (h.leaf.mono fun _ _ _ => trivial)⟩

omit [Crates] in
/-- **An arm that needs an id**: it goes on only where that was decoded. -/
theorem idArm_path {ι : Type} {id : Option ι} {p : Prog Net Error (Option (Any × Height))}
    {t : List (Exchange Net Error)} {r : Option (Any × Height)}
    (hnone : id = none → p = pure none) (hsome : ∀ i, id = some i → p.Ensures (Built ev))
    (h : p.Path t (.ok r)) : id.isSome ∧ Built ev r ∨ ¬id.isSome ∧ r = none := by
  cases hid : id with
  | none =>
      rw [hnone hid] at h
      exact .inr ⟨nofun, (Outcome.ok.inj h.2).symm⟩
  | some i => exact .inl ⟨rfl, hsome i hid r (h.leaf.mono fun _ _ _ => trivial)⟩

/-- **The specification of the `match`, with what is asked.**  An event has got its message
where it is translatable, and has none otherwise. -/
theorem parseEvent_path {t : List (Exchange Net Error)} {r : Option (Any × Height)}
    (h : (parseEvent source.provider sink ev).Path t (.ok r)) :
    Translated t ev.event ∧ Built ev r ∨ ¬Translated t ev.event ∧ r = none := by
  unfold parseEvent at h
  split at h
  · next a hev =>
      rw [hev]
      exact idArm_path (fun hid => by rw [openInitConnectionArm, hid])
        (fun _ => openInitConnectionArm_built hev) h
  · next a hev =>
      rw [hev]
      exact idArm_path (fun hid => by rw [openTryConnectionArm, hid])
        (fun _ => openTryConnectionArm_built hev) h
  · next a hev =>
      rw [hev]
      exact idArm_path (fun hid => by rw [openAckConnectionArm, hid])
        (fun _ => openAckConnectionArm_built hev) h
  · next a hev =>
      rw [hev]
      exact idArm_path (fun hid => by rw [openInitChannelArm, hid])
        (fun _ => openInitChannelArm_built hev) h
  · next a hev =>
      rw [hev]
      exact idArm_path (fun hid => by rw [openTryChannelArm, hid])
        (fun _ => openTryChannelArm_built hev) h
  · next a hev =>
      rw [hev]
      exact idArm_path (fun hid => by rw [openAckChannelArm, hid])
        (fun _ => openAckChannelArm_built hev) h
  · next a hev =>
      rw [hev]
      exact .inl ⟨trivial, closeInitChannelArm_built hev r (h.leaf.mono fun _ _ _ => trivial)⟩
  · next p hev =>
      rw [hev]
      refine packetArm_path (fun t delay h => channelDelay_delays h) ?_ h
      refine .bind fun _ => .bind fun _ => toAny_built ?_
      rw [hev]
      rfl
  · next p ack hev =>
      rw [hev]
      refine packetArm_path (fun t delay h => channelDelay_delays h) ?_ h
      refine .bind fun _ => .bind fun _ => toAny_built ?_
      rw [hev]
      exact ⟨rfl, rfl⟩
  · next hevent =>
      -- the events without an arm
      refine .inr ⟨fun ht => ?_, (Outcome.ok.inj h.2).symm⟩
      unfold Translated at ht
      split at ht <;> simp_all

/-- **What is looked up decides**, where the source answers from what it stores. -/
theorem parseEvent_lookedUp {links : Links} {t : List (Exchange Net Error)}
    {r : Option (Any × Height)} (hlinks : ∀ x ∈ t, links.AnsweredFrom source.side x)
    (h : (parseEvent source.provider sink ev).Path t (.ok r)) :
    Translated t ev.event ↔ links.lookedUp ev.event = true := by
  unfold parseEvent at h
  split at h
  case h_8 p hev =>
    rw [hev]
    exact (packetArm_links hlinks h).trans decide_eq_true_iff.symm
  case h_9 p ack hev =>
    rw [hev]
    exact (packetArm_links hlinks h).trans decide_eq_true_iff.symm
  case h_10 hnone =>
    cases hev : ev.event with
    | sendPacket p => exact absurd hev (by simp_all)
    | writeAcknowledgement p ack => exact absurd hev (by simp_all)
    | _ => first | exact Iff.rfl | simp_all [Translated, Links.lookedUp, Links.translatable]
  all_goals
    rename_i hev
    rw [hev]
    simp [Translated, Links.lookedUp, Links.translatable]

end

end HyperspaceLight
