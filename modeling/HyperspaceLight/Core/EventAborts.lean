/-
# Which answers abort `parse_events`

`parse_events` of `src/core/events.rs` asks the source about each event and takes parts out
of the answers.  Most missing parts are errors (`ok_or_else`).  The channel and packet arms
`expect` some of them: a channel end that decodes, a proof height, the channel id of the
counterparty (`FatalChannelAnswer`, `AbortAnswered`).  The function aborts exactly if such an
answer comes for an event, after those before it were translated
(`parseEvents_aborts_iff`).
-/

import HyperspaceLight.Core.Events
import HyperspaceLight.Primitives.Answering

namespace HyperspaceLight

open Interaction

variable {S : Sig} {A : (o : S.Op) → Except Error (S.Res o) → Prop}

/-- **A channel answer that an arm cannot take.**  `mode` is how the arm treats a channel end
that does not decode, and `needsId` whether it needs the id of the counterparty's channel. -/
inductive FatalChannelAnswer (mode : DecodeMode) (needsId : Prop) (response : QueryChannelResponse) :
    Prop
  | undecodable {t : String} (hmode : mode = .expect) (hvalue : response.value = some (.error t))
  | noProofHeight {e : ChannelEnd} (hvalue : response.value = some (.ok e))
      (hproof : response.proof ≠ []) (hheight : response.proofHeight = none)
  | noChannelId {e : ChannelEnd} {h : RawHeight} (hneeds : needsId)
      (hvalue : response.value = some (.ok e)) (hproof : response.proof ≠ [])
      (hheight : response.proofHeight = some h) (hpos : 0 < h.revisionHeight)
      (hid : e.counterparty.channelId = none)

/-- A packet answer that an arm cannot take: it has a proof, and no proof height. -/
def FatalPacketAnswer {α : Type} (response : WithProof α) : Prop :=
  response.proof ≠ [] ∧ response.proofHeight = none

/-- **An answer of the source that aborts the translation of the event.**  The packet arms
first look up the delay of the connection and only go on if there is none. -/
def AbortAnswered (A : (o : S.Op) → Except Error (S.Res o) → Prop) (source : IbcProvider S)
    (ev : IbcEventWithHeight) : Prop :=
  match ev.event with
  | .openInitChannel a =>
      ∃ id response, a.channelId = some id ∧
        (source.queryChannelEnd ev.height id a.portId).Leaf A (.ok response) ∧
        FatalChannelAnswer .expect False response
  | .openTryChannel a =>
      ∃ id response, a.channelId = some id ∧
        (source.queryChannelEnd ev.height id a.portId).Leaf A (.ok response) ∧
        FatalChannelAnswer .expect True response
  | .openAckChannel a =>
      ∃ id response, a.channelId = some id ∧
        (source.queryChannelEnd ev.height id a.portId).Leaf A (.ok response) ∧
        FatalChannelAnswer .question True response
  | .closeInitChannel a =>
      ∃ response, (source.queryChannelEnd ev.height a.channelId a.portId).Leaf A (.ok response) ∧
        FatalChannelAnswer .question True response
  | .sendPacket p =>
      (channelDelay source ev.height p.sourceChannel p.sourcePort).Leaf A (.ok 0) ∧
        ∃ response, (source.queryPacketCommitment ev.height p.sourcePort p.sourceChannel
          p.sequence).Leaf A (.ok response) ∧ FatalPacketAnswer response
  | .writeAcknowledgement p _ =>
      (channelDelay source ev.height p.sourceChannel p.sourcePort).Leaf A (.ok 0) ∧
        ∃ response, (source.queryPacketAcknowledgement ev.height p.sourcePort p.sourceChannel
          p.sequence).Leaf A (.ok response) ∧ FatalPacketAnswer response
  | _ => False

/-! ### The parts of an arm -/

section Parts

variable {source : IbcProvider S} {arm : String}

/-- A proof height is refused with an error, never a panic. -/
theorem newProofHeight_aborts (h : RawHeight) :
    ¬(newProofHeight arm h : Prog S Error Height).Aborts A :=
  Prog.aborts_okOr _ _

/-- A proof height is accepted unless the height is zero. -/
theorem newProofHeight_ok_iff {h : RawHeight} :
    (∃ height, (newProofHeight arm h : Prog S Error Height).Leaf A (.ok height)) ↔
      0 < h.revisionHeight := by
  simp only [newProofHeight, Prog.leaf_okOr_ok, Height.new_eq_some]
  constructor
  · rintro ⟨height, -, hheight⟩
    exact hheight ▸ height.pos
  · exact fun hpos => ⟨⟨h.revisionNumber, h.revisionHeight, hpos⟩, rfl, rfl⟩

/-- Reading a connection end with its proof does not panic. -/
theorem connectionEndWithProof_aborts (hsource : Answering A source) {height : Height}
    {id : ConnectionId} : ¬(connectionEndWithProof arm source height id).Aborts A := by
  simp [connectionEndWithProof, hsource.queryConnectionEnd]

/-- Reading the proof height of a connection does not panic. -/
theorem connectionProofHeight_aborts {response : QueryConnectionResponse} :
    ¬(connectionProofHeight arm response : Prog S Error Height).Aborts A := by
  simp [connectionProofHeight, newProofHeight_aborts]

/-- Reading a client state with its proof does not panic. -/
theorem clientStateWithProof_aborts {response : QueryClientStateResponse} :
    ¬(clientStateWithProof response : Prog S Error _).Aborts A := by
  simp [clientStateWithProof]

/-- A channel end that does not decode is fatal where it is expected. -/
theorem DecodeMode.decode_aborts_iff {mode : DecodeMode} {raw : Raw ChannelEnd} :
    (mode.decode raw : Prog S Error ChannelEnd).Aborts A ↔
      mode = .expect ∧ ∃ t, raw = .error t := by
  cases mode <;> cases raw <;> simp [DecodeMode.decode, Raw.tryFrom]

/-- What it decodes to, in either mode. -/
theorem DecodeMode.decode_ok_iff {mode : DecodeMode} {raw : Raw ChannelEnd} {e : ChannelEnd} :
    (mode.decode raw : Prog S Error ChannelEnd).Leaf A (.ok e) ↔ raw = .ok e := by
  cases mode <;> simp [DecodeMode.decode]

variable {mode : DecodeMode} {missingHeight : String} {height : Height} {c : ChannelId} {p : PortId}

/-- **The channel end with its proof**: where reading it aborts. -/
theorem channelEndWithProof_aborts_iff (hsource : Answering A source) :
    (channelEndWithProof arm mode missingHeight source height c p).Aborts A ↔
      ∃ response, (source.queryChannelEnd height c p).Leaf A (.ok response) ∧
        FatalChannelAnswer mode False response := by
  rw [channelEndWithProof, Prog.aborts_bind, or_iff_right (hsource.queryChannelEnd height c p)]
  refine exists_congr fun response => and_congr_right fun _ => ?_
  simp only [Prog.aborts_bind, Prog.aborts_okOr, Prog.leaf_okOr_ok, false_or,
    DecodeMode.decode_aborts_iff, DecodeMode.decode_ok_iff, CommitmentProofBytes.aborts_tryFrom,
    Prog.aborts_expect, newProofHeight_aborts, Prog.aborts_pure, and_false, exists_false, or_false]
  constructor
  · rintro ⟨raw, hraw, ⟨hmode, t, rfl⟩ | ⟨e, rfl, proof, hproof, hheight⟩⟩
    · exact .undecodable hmode hraw
    · exact .noProofHeight hraw (CommitmentProofBytes.tryFrom_ok_iff.mp ⟨proof, hproof⟩) hheight
  · rintro (⟨hmode, hvalue⟩ | ⟨hvalue, hproof, hheight⟩ | ⟨hfalse⟩)
    · exact ⟨_, hvalue, .inl ⟨hmode, _, rfl⟩⟩
    · obtain ⟨proof, hproof⟩ := CommitmentProofBytes.tryFrom_ok_iff.mpr hproof
      exact ⟨_, hvalue, .inr ⟨_, rfl, proof, hproof, hheight⟩⟩
    · exact hfalse.elim

/-- The answers with which reading the channel end returns it. -/
theorem channelEndWithProof_ok_iff {e : ChannelEnd} :
    (∃ proof proofHeight, (channelEndWithProof arm mode missingHeight source height c p).Leaf A
        (.ok (e, proof, proofHeight))) ↔
      ∃ response h, (source.queryChannelEnd height c p).Leaf A (.ok response) ∧
        response.value = some (.ok e) ∧ response.proof ≠ [] ∧ response.proofHeight = some h ∧
          0 < h.revisionHeight := by
  simp only [channelEndWithProof, Prog.leaf_bind_ok, Prog.leaf_okOr_ok, Prog.leaf_expect_ok,
    DecodeMode.decode_ok_iff, Prog.leaf_pure, Outcome.ok.injEq, Prod.mk.injEq]
  constructor
  · rintro ⟨_, _, response, hresponse, raw, hraw, e', rfl, proof, hproof, h, hheight, newHeight,
      hnew, rfl, -⟩
    exact ⟨response, h, hresponse, hraw, CommitmentProofBytes.tryFrom_ok_iff.mp ⟨proof, hproof⟩,
      hheight, newProofHeight_ok_iff.mp ⟨newHeight, hnew⟩⟩
  · rintro ⟨response, h, hresponse, hvalue, hproof, hheight, hpos⟩
    obtain ⟨proof, hproof⟩ := CommitmentProofBytes.tryFrom_ok_iff.mpr hproof
    obtain ⟨newHeight, hnew⟩ := newProofHeight_ok_iff.mpr hpos
    exact ⟨proof, newHeight, response, hresponse, _, hvalue, e, rfl, proof, hproof, h, hheight,
      newHeight, hnew, rfl, rfl, rfl⟩

/-- **An arm that needs the counterparty's channel id**: what it does after it has read the
channel end aborts only where that id is not set. -/
theorem channelEnd_then_aborts_iff (hsource : Answering A source) {α : Type}
    {k : ChannelEnd × CommitmentProofBytes × Height → Prog S Error α}
    (hk : ∀ e proof proofHeight, (k (e, proof, proofHeight)).Aborts A ↔
      e.counterparty.channelId = none) :
    (channelEndWithProof arm mode missingHeight source height c p >>= k).Aborts A ↔
      ∃ response, (source.queryChannelEnd height c p).Leaf A (.ok response) ∧
        FatalChannelAnswer mode True response := by
  rw [Prog.aborts_bind, channelEndWithProof_aborts_iff hsource]
  constructor
  · rintro (⟨response, hresponse, hfatal⟩ | ⟨⟨e, proof, proofHeight⟩, hleaf, habort⟩)
    · refine ⟨response, hresponse, ?_⟩
      cases hfatal with
      | undecodable hmode hvalue => exact .undecodable hmode hvalue
      | noProofHeight hvalue hproof hheight => exact .noProofHeight hvalue hproof hheight
      | noChannelId hneeds => exact hneeds.elim
    · obtain ⟨response, h, hresponse, hvalue, hproof, hheight, hpos⟩ :=
        channelEndWithProof_ok_iff.mp ⟨proof, proofHeight, hleaf⟩
      exact ⟨response, hresponse,
        .noChannelId trivial hvalue hproof hheight hpos ((hk _ _ _).mp habort)⟩
  · rintro ⟨response, hresponse, hfatal⟩
    cases hfatal with
    | undecodable hmode hvalue => exact .inl ⟨response, hresponse, .undecodable hmode hvalue⟩
    | noProofHeight hvalue hproof hheight =>
        exact .inl ⟨response, hresponse, .noProofHeight hvalue hproof hheight⟩
    | noChannelId _ hvalue hproof hheight hpos hid =>
        obtain ⟨proof, proofHeight, hleaf⟩ := channelEndWithProof_ok_iff.mpr
          ⟨response, _, hresponse, hvalue, hproof, hheight, hpos⟩
        exact .inr ⟨_, hleaf, (hk _ _ _).mpr hid⟩

/-- The delay of a channel is read without a panic. -/
theorem channelDelay_aborts (hsource : Answering A source) :
    ¬(channelDelay source height c p).Aborts A := by
  simp [channelDelay, hsource.queryChannelEnd, hsource.queryConnectionEnd]

/-- **The proof of a packet** panics on the answers of `FatalPacketAnswer`. -/
theorem packetProof_aborts_iff {α : Type} {response : WithProof α} :
    (packetProof arm response : Prog S Error _).Aborts A ↔ FatalPacketAnswer response := by
  simp only [packetProof, Prog.aborts_bind, CommitmentProofBytes.aborts_tryFrom, false_or,
    Prog.aborts_expect, newProofHeight_aborts, Prog.aborts_pure, and_false, exists_false, or_false,
    exists_and_right, CommitmentProofBytes.tryFrom_ok_iff, FatalPacketAnswer]

end Parts

/-! ### The arms -/

section Arms

variable [Crates] {source sink : IbcProvider S} {ev : IbcEventWithHeight}

/-- The arm of a connection init does not panic. -/
theorem openInitConnectionArm_aborts (hsource : Answering A source) {a : ConnectionAttributes} :
    ¬(openInitConnectionArm source sink ev a).Aborts A := by
  unfold openInitConnectionArm
  split
  · exact Prog.aborts_pure _
  · simp [connectionEndWithProof_aborts hsource, hsource.queryClientState,
      connectionProofHeight_aborts, clientStateWithProof_aborts, hsource.queryClientConsensus]

/-- The arm of a connection try does not panic. -/
theorem openTryConnectionArm_aborts (hsource : Answering A source) {a : ConnectionAttributes} :
    ¬(openTryConnectionArm source sink ev a).Aborts A := by
  unfold openTryConnectionArm
  split
  · exact Prog.aborts_pure _
  · simp [connectionEndWithProof_aborts hsource, hsource.queryClientState,
      connectionProofHeight_aborts, clientStateWithProof_aborts, hsource.queryClientConsensus]

/-- The arm of a connection acknowledgement does not panic. -/
theorem openAckConnectionArm_aborts (hsource : Answering A source) {a : ConnectionAttributes} :
    ¬(openAckConnectionArm source sink ev a).Aborts A := by
  unfold openAckConnectionArm
  split
  · exact Prog.aborts_pure _
  · simp [connectionEndWithProof_aborts hsource, connectionProofHeight_aborts]

/-- **A channel init** panics on a fatal answer about its channel; it does not look at the
counterparty's identifier. -/
theorem openInitChannelArm_aborts_iff (hsource : Answering A source) {a : ChannelAttributes} :
    (openInitChannelArm source sink ev a).Aborts A ↔
      ∃ id response, a.channelId = some id ∧
        (source.queryChannelEnd ev.height id a.portId).Leaf A (.ok response) ∧
        FatalChannelAnswer .expect False response := by
  unfold openInitChannelArm
  split
  · next hid => simp [hid]
  · next id hid =>
      simp [hid, channelEndWithProof_aborts_iff hsource]

/-- **A channel try** panics on a fatal answer, a missing identifier included. -/
theorem openTryChannelArm_aborts_iff (hsource : Answering A source) {a : ChannelAttributes} :
    (openTryChannelArm source sink ev a).Aborts A ↔
      ∃ id response, a.channelId = some id ∧
        (source.queryChannelEnd ev.height id a.portId).Leaf A (.ok response) ∧
        FatalChannelAnswer .expect True response := by
  unfold openTryChannelArm
  split
  · next hid => simp [hid]
  · next id hid =>
      rw [channelEnd_then_aborts_iff hsource (fun e proof proofHeight => by simp)]
      simp [hid]

/-- **A channel acknowledgement** likewise, but an end that does not decode is an error. -/
theorem openAckChannelArm_aborts_iff (hsource : Answering A source) {a : ChannelAttributes} :
    (openAckChannelArm source sink ev a).Aborts A ↔
      ∃ id response, a.channelId = some id ∧
        (source.queryChannelEnd ev.height id a.portId).Leaf A (.ok response) ∧
        FatalChannelAnswer .question True response := by
  unfold openAckChannelArm
  split
  · next hid => simp [hid]
  · next id hid =>
      rw [channelEnd_then_aborts_iff hsource (fun e proof proofHeight => by simp)]
      simp [hid]

/-- **A closing** panics on the answers on which an acknowledgement does. -/
theorem closeInitChannelArm_aborts_iff (hsource : Answering A source) {a : CloseInitAttributes} :
    (closeInitChannelArm source sink ev a).Aborts A ↔
      ∃ response, (source.queryChannelEnd ev.height a.channelId a.portId).Leaf A (.ok response) ∧
        FatalChannelAnswer .question True response :=
  channelEnd_then_aborts_iff hsource fun e proof proofHeight => by simp

omit [Crates] in
/-- **A packet arm** aborts only after it has found no delay and has an answer about the
packet. -/
theorem packetArm_aborts_iff {α β : Type} {arm : String} {delay : Prog S Error Duration}
    {query : Prog S Error (WithProof α)} {k : CommitmentProofBytes × Height → Prog S Error β}
    {skipped : β} (hdelay : ¬delay.Aborts A) (hquery : ¬query.Aborts A)
    (hk : ∀ x, ¬(k x).Aborts A) :
    (do
      let delayPeriod ← delay
      if delayPeriod ≠ 0 then
        return skipped
      let response ← query
      let x ← packetProof arm response
      k x).Aborts A ↔
      delay.Leaf A (.ok 0) ∧ ∃ response, query.Leaf A (.ok response) ∧
        FatalPacketAnswer response := by
  rw [Prog.aborts_bind, or_iff_right hdelay]
  constructor
  · rintro ⟨d, hd, h⟩
    split_ifs at h with hzero
    · exact absurd h (Prog.aborts_pure _)
    · obtain rfl := not_not.mp hzero
      refine ⟨hd, ?_⟩
      simpa [hquery, hk, packetProof_aborts_iff] using h
  · rintro ⟨hd, response, hresponse, hfatal⟩
    refine ⟨0, hd, ?_⟩
    rw [if_neg (not_not.mpr rfl), Prog.aborts_bind]
    exact .inr ⟨response, hresponse, Prog.aborts_bind.mpr (.inl (packetProof_aborts_iff.mpr hfatal))⟩

/-- **Where the translation of an event aborts.** -/
theorem parseEvent_aborts_iff (hsource : Answering A source) :
    (parseEvent source sink ev).Aborts A ↔ AbortAnswered A source ev := by
  unfold parseEvent AbortAnswered
  cases ev.event with
  | openInitConnection a => exact iff_of_false (openInitConnectionArm_aborts hsource) not_false
  | openTryConnection a => exact iff_of_false (openTryConnectionArm_aborts hsource) not_false
  | openAckConnection a => exact iff_of_false (openAckConnectionArm_aborts hsource) not_false
  | openInitChannel a => exact openInitChannelArm_aborts_iff hsource
  | openTryChannel a => exact openTryChannelArm_aborts_iff hsource
  | openAckChannel a => exact openAckChannelArm_aborts_iff hsource
  | closeInitChannel a => exact closeInitChannelArm_aborts_iff hsource
  | sendPacket p =>
      exact packetArm_aborts_iff (channelDelay_aborts hsource)
        (hsource.queryPacketCommitment _ _ _ _) fun x => by simp
  | writeAcknowledgement p ack =>
      exact packetArm_aborts_iff (channelDelay_aborts hsource)
        (hsource.queryPacketAcknowledgement _ _ _ _) fun x => by simp
  | _ => exact iff_of_false (Prog.aborts_pure _) not_false

end Arms

/-! ### The loop -/

section Trait

variable [Crates] {A : (o : TraitSig.Op) → Except Error (TraitSig.Res o) → Prop}
  {source sink : IbcProvider TraitSig} {acc : ParsedEvents} {ev : IbcEventWithHeight}

/-- A round of the loop aborts where the translation of its event does. -/
theorem parseEventStep_aborts_iff (hsource : Answering A source) :
    (parseEventStep source sink acc ev).Aborts A ↔ AbortAnswered A source ev := by
  have hparse : (parseEvent source sink ev).Aborts A ↔ AbortAnswered A source ev :=
    parseEvent_aborts_iff hsource
  have hlog : ¬(Logger.info (.processing ev) : Prog TraitSig Error Unit).Aborts A :=
    Prog.aborts_pure ()
  rw [← hparse, parseEventStep, Prog.aborts_bind, or_iff_right hlog]
  constructor
  · rintro ⟨_, -, h⟩
    refine (Prog.aborts_bind.mp h).resolve_right ?_
    rintro ⟨_ | ⟨msg, proofHeight⟩, -, h⟩
    · exact Prog.aborts_pure _ h
    · exact Prog.aborts_pure _ h
  · exact fun h => ⟨(), rfl, Prog.aborts_bind.mpr (.inl h)⟩

/-- A round of the loop is passed where the event is translated. -/
theorem parseEventStep_ok_iff :
    (∃ acc', (parseEventStep source sink acc ev).Leaf A (.ok acc')) ↔
      ∃ r, (parseEvent source sink ev).Leaf A (.ok r) := by
  constructor
  · rintro ⟨acc', h⟩
    obtain ⟨_, -, h⟩ := Prog.leaf_bind_ok.mp h
    obtain ⟨r, hr, -⟩ := Prog.leaf_bind_ok.mp h
    exact ⟨r, hr⟩
  · rintro ⟨_ | ⟨msg, proofHeight⟩, hr⟩
    · exact ⟨acc, Prog.leaf_bind_ok.mpr ⟨(), rfl, Prog.leaf_bind_ok.mpr ⟨_, hr, rfl⟩⟩⟩
    · exact ⟨acc.push msg proofHeight,
        Prog.leaf_bind_ok.mpr ⟨(), rfl, Prog.leaf_bind_ok.mpr ⟨_, hr, rfl⟩⟩⟩

/-- **When `parse_events` returns a value or an error.**  For every list of events and
whatever both chains may answer: it aborts only at an event that is reached, those before it
having been translated, and for which the source gives an answer that its arm cannot take. -/
theorem parseEvents_aborts_iff (sourceInfo sinkInfo : ChainInfo) (events : List IbcEventWithHeight) :
    ¬(parseEvents (Chain.trait sourceInfo .source).toIbcProvider
        (Chain.trait sinkInfo .sink).toIbcProvider events).Aborts A ↔
      ∀ seen ev rest, events = seen ++ ev :: rest →
        (∀ e ∈ seen, ∃ r, (parseEvent (Chain.trait sourceInfo .source).toIbcProvider
          (Chain.trait sinkInfo .sink).toIbcProvider e).Leaf A (.ok r)) →
          ¬AbortAnswered A (Chain.trait sourceInfo .source).toIbcProvider ev := by
  have hfold : (events.foldlM (parseEventStep (Chain.trait sourceInfo .source).toIbcProvider
      (Chain.trait sinkInfo .sink).toIbcProvider) ⟨[], firstProofHeightRef⟩).Aborts A ↔ _ :=
    Prog.aborts_foldlM_iff (P := fun ev => ∃ r, (parseEvent _ _ ev).Leaf A (.ok r))
      (Q := AbortAnswered A _) (fun _ _ => parseEventStep_ok_iff)
      (fun _ _ => parseEventStep_aborts_iff (Chain.trait_answering sourceInfo .source)) _
  rw [parseEvents, Prog.aborts_bind, hfold]
  simp only [Prog.aborts_pure, and_false, exists_false, or_false]
  push Not
  rfl

end Trait

/-! ### A channel closed before it was opened -/

/-- The source stores a channel whose counterparty has no id yet. -/
def closedInInitAnswer : (o : TraitSig.Op) → Except Error (TraitSig.Res o)
  | (_, .queryChannelEnd ..) =>
      .ok (proven (some (.ok { openEnd .unordered with
        state := .closed, counterparty := ⟨transferPort, none⟩ })))
  | _ => .error (.rpcError "unavailable")

/-- The channel was in `Init` when it was closed. -/
def closedInInit : IbcEventWithHeight :=
  ⟨.closeInitChannel ⟨transferPort, channel0, connection0, transferPort, none⟩, height0 5, ⟨0, 0⟩⟩

/-- **A panic on a channel closed in `Init`.** -/
theorem closedInInit_aborts : ¬∀ (B : (o : TraitSig.Op) → Except Error (TraitSig.Res o) → Prop)
    (sourceInfo sinkInfo : ChainInfo) (events : List IbcEventWithHeight),
    ¬(@parseEvents TraitSig Crates.reference _ (Chain.trait sourceInfo .source).toIbcProvider
      (Chain.trait sinkInfo .sink).toIbcProvider events).Aborts B := by
  intro h
  let _ := Crates.reference
  have hanswered : AbortAnswered (fun o r => r = closedInInitAnswer o)
      (Chain.trait (chainInfo "source") .source).toIbcProvider closedInInit :=
    ⟨_, Prog.leaf_ask_ok.mpr rfl, .noChannelId trivial rfl (by decide) rfl Nat.one_pos rfl⟩
  refine h (fun o r => r = closedInInitAnswer o) (chainInfo "source") (chainInfo "sink")
    [closedInInit] (Prog.aborts_bind.mpr (.inl (Prog.aborts_foldlM.mpr
      ⟨[], closedInInit, [], ⟨[], firstProofHeightRef⟩, rfl, rfl, ?_⟩)))
  exact (parseEventStep_aborts_iff (Chain.trait_answering _ _)).mpr hanswered

end HyperspaceLight
