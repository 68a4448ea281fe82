/-
# The message of an event, for any source

What the `match` of `parse_events` returns for one event (`EventMessage`): a message that
stands for this event, with the proof height that the source answered.  Each arm takes its
proof height from one answer, that of a connection end, of a channel end, or of a packet
commitment or acknowledgement (`ProofHeightAnswered`).
-/

import HyperspaceLight.Core.Events

namespace HyperspaceLight

open Interaction

variable {S : Sig} {A : (o : S.Op) → Except Error (S.Res o) → Prop}

/-- The two numbers of a height. -/
def Height.raw (h : Height) : RawHeight := ⟨h.revisionNumber, h.revisionHeight⟩

/-- `h` is the proof height in an answer of the source: in the one that the message of `ev`
takes its proof from. -/
def ProofHeightAnswered (A : (o : S.Op) → Except Error (S.Res o) → Prop) (source : IbcProvider S)
    (ev : IbcEventWithHeight) (h : RawHeight) : Prop :=
  match ev.event with
  | .openInitConnection a | .openTryConnection a | .openAckConnection a =>
      ∃ id response, a.connectionId = some id ∧
        (source.queryConnectionEnd ev.height id).Leaf A (.ok response) ∧
        response.proofHeight = some h
  | .openInitChannel a | .openTryChannel a | .openAckChannel a =>
      ∃ id response, a.channelId = some id ∧
        (source.queryChannelEnd ev.height id a.portId).Leaf A (.ok response) ∧
        response.proofHeight = some h
  | .closeInitChannel a =>
      ∃ response, (source.queryChannelEnd ev.height a.channelId a.portId).Leaf A (.ok response) ∧
        response.proofHeight = some h
  | .sendPacket p =>
      ∃ response, (source.queryPacketCommitment ev.height p.sourcePort p.sourceChannel
        p.sequence).Leaf A (.ok response) ∧ response.proofHeight = some h
  | .writeAcknowledgement p _ =>
      ∃ response, (source.queryPacketAcknowledgement ev.height p.sourcePort p.sourceChannel
        p.sequence).Leaf A (.ok response) ∧ response.proofHeight = some h
  | _ => False

/-- **The message of an event.** -/
structure EventMessage (A : (o : S.Op) → Except Error (S.Res o) → Prop) (source : IbcProvider S)
    (ev : IbcEventWithHeight) (msg : Any) (proofHeight : Height) : Prop where
  origin : msg.origin = some ev
  proofHeight_eq : msg.msg.proofHeight = some proofHeight
  recvPacket : ∀ m, msg.msg = .recvPacket m → ev.event = .sendPacket m.packet
  acknowledgement : ∀ m, msg.msg = .acknowledgement m →
    ∃ ack, ev.event = .writeAcknowledgement m.packet ack
  answered : ProofHeightAnswered A source ev proofHeight.raw

/-! ### The parts of an arm -/

section Parts

variable {source : IbcProvider S} {arm : String} {proofHeight : Height}

/-- An accepted proof height is the raw one. -/
theorem newProofHeight_raw {h : RawHeight}
    (hr : (newProofHeight arm h : Prog S Error Height).Leaf A (.ok proofHeight)) :
    h = proofHeight.raw := by
  rw [newProofHeight, Prog.leaf_okOr_ok, Height.new_eq_some] at hr
  cases h
  rw [Height.raw, hr.1, hr.2]

/-- A connection end with its proof comes from an answer that bears the proof height. -/
theorem connectionEndWithProof_answered {height : Height} {id : ConnectionId}
    {response : QueryConnectionResponse} {e : ConnectionEnd} {proof : CommitmentProofBytes}
    (h : (connectionEndWithProof arm source height id).Leaf A (.ok (response, e, proof)))
    (hheight : (connectionProofHeight arm response : Prog S Error Height).Leaf A
      (.ok proofHeight)) :
    (source.queryConnectionEnd height id).Leaf A (.ok response) ∧
      response.proofHeight = some proofHeight.raw := by
  obtain ⟨response', hresponse, h⟩ := Prog.leaf_bind_ok.mp h
  obtain ⟨_, -, h⟩ := Prog.leaf_bind_ok.mp h
  obtain ⟨_, -, h⟩ := Prog.leaf_bind_ok.mp h
  obtain ⟨_, -, h⟩ := Prog.leaf_bind_ok.mp h
  rw [Prog.leaf_pure, Outcome.ok.injEq] at h
  obtain rfl : response' = response := (Prod.mk.inj h).1
  obtain ⟨raw, hraw, hheight⟩ := Prog.leaf_bind_ok.mp hheight
  rw [Prog.leaf_okOr_ok] at hraw
  exact ⟨hresponse, hraw.trans (congrArg some (newProofHeight_raw hheight))⟩

/-- A channel end with its proof comes from an answer that bears the proof height. -/
theorem channelEndWithProof_answered {missingHeight : String} {mode : DecodeMode}
    {height : Height} {c : ChannelId} {p : PortId} {e : ChannelEnd} {proof : CommitmentProofBytes}
    (h : (channelEndWithProof arm mode missingHeight source height c p).Leaf A
      (.ok (e, proof, proofHeight))) :
    ∃ response, (source.queryChannelEnd height c p).Leaf A (.ok response) ∧
      response.proofHeight = some proofHeight.raw := by
  obtain ⟨response, hresponse, h⟩ := Prog.leaf_bind_ok.mp h
  obtain ⟨_, -, h⟩ := Prog.leaf_bind_ok.mp h
  obtain ⟨_, -, h⟩ := Prog.leaf_bind_ok.mp h
  obtain ⟨_, -, h⟩ := Prog.leaf_bind_ok.mp h
  obtain ⟨raw, hraw, h⟩ := Prog.leaf_bind_ok.mp h
  rw [Prog.leaf_expect_ok] at hraw
  obtain ⟨height', hheight', h⟩ := Prog.leaf_bind_ok.mp h
  simp only [Prog.leaf_pure, Outcome.ok.injEq, Prod.mk.injEq] at h
  obtain ⟨-, -, rfl⟩ := h
  exact ⟨response, hresponse, hraw.trans (congrArg some (newProofHeight_raw hheight'))⟩

/-- The proof of a packet comes from an answer that bears the proof height. -/
theorem packetProof_answered {α : Type} {response : WithProof α} {proof : CommitmentProofBytes}
    (h : (packetProof arm response : Prog S Error _).Leaf A (.ok (proof, proofHeight))) :
    response.proofHeight = some proofHeight.raw := by
  obtain ⟨_, -, h⟩ := Prog.leaf_bind_ok.mp h
  obtain ⟨raw, hraw, h⟩ := Prog.leaf_bind_ok.mp h
  rw [Prog.leaf_expect_ok] at hraw
  obtain ⟨height', hheight', h⟩ := Prog.leaf_bind_ok.mp h
  simp only [Prog.leaf_pure, Outcome.ok.injEq, Prod.mk.injEq] at h
  obtain ⟨-, rfl⟩ := h
  exact hraw.trans (congrArg some (newProofHeight_raw hheight'))

end Parts

section Arms

variable [Crates] {source sink : IbcProvider S} {ev : IbcEventWithHeight} {msg : Any}
  {proofHeight : Height}

/-- **The end of an arm**: the message is encoded and returned. -/
theorem eventMessage_of_toAny {m : Msg} {context : String} {height : Height}
    (h : (m.toAny context (some ev) >>= fun any => pure (some (any, height)) :
      Prog S Error (Option (Any × Height))).Leaf A (.ok (some (msg, proofHeight))))
    (hproof : m.proofHeight = some height)
    (hrecv : ∀ r, m = .recvPacket r → ev.event = .sendPacket r.packet)
    (hack : ∀ r, m = .acknowledgement r → ∃ ack, ev.event = .writeAcknowledgement r.packet ack)
    (hanswered : ProofHeightAnswered A source ev height.raw) :
    EventMessage A source ev msg proofHeight := by
  obtain ⟨any, hany, h⟩ := Prog.leaf_bind_ok.mp h
  simp only [Prog.leaf_pure, Outcome.ok.injEq, Option.some.injEq, Prod.mk.injEq] at h
  obtain ⟨rfl, rfl⟩ := h
  obtain ⟨rfl, horigin⟩ := Msg.toAny_returns hany
  exact ⟨horigin, hproof, hrecv, hack, hanswered⟩

/-! ### Connection arms -/

/-- **Each arm** gives a message whose proof height is that of the answer bearing its proof. -/
theorem openInitConnectionArm_message {a : ConnectionAttributes}
    (hev : ev.event = .openInitConnection a)
    (h : (openInitConnectionArm source sink ev a).Leaf A (.ok (some (msg, proofHeight)))) :
    EventMessage A source ev msg proofHeight := by
  unfold openInitConnectionArm at h
  split at h
  · cases h
  · next id hid =>
      obtain ⟨⟨response, e, proof⟩, hend, h⟩ := Prog.leaf_bind_ok.mp h
      obtain ⟨cs, -, h⟩ := Prog.leaf_bind_ok.mp h
      obtain ⟨height, hheight, h⟩ := Prog.leaf_bind_ok.mp h
      obtain ⟨_, -, h⟩ := Prog.leaf_bind_ok.mp h
      obtain ⟨_, -, h⟩ := Prog.leaf_bind_ok.mp h
      obtain ⟨_, -, h⟩ := Prog.leaf_bind_ok.mp h
      refine eventMessage_of_toAny h rfl (fun _ h => by cases h) (fun _ h => by cases h) ?_
      rw [ProofHeightAnswered, hev]
      exact ⟨id, response, hid, connectionEndWithProof_answered hend hheight⟩

/-- The try of a connection is confirmed. -/
theorem openTryConnectionArm_message {a : ConnectionAttributes}
    (hev : ev.event = .openTryConnection a)
    (h : (openTryConnectionArm source sink ev a).Leaf A (.ok (some (msg, proofHeight)))) :
    EventMessage A source ev msg proofHeight := by
  unfold openTryConnectionArm at h
  split at h
  · cases h
  · next id hid =>
      obtain ⟨⟨response, e, proof⟩, hend, h⟩ := Prog.leaf_bind_ok.mp h
      obtain ⟨cs, -, h⟩ := Prog.leaf_bind_ok.mp h
      obtain ⟨height, hheight, h⟩ := Prog.leaf_bind_ok.mp h
      obtain ⟨_, -, h⟩ := Prog.leaf_bind_ok.mp h
      obtain ⟨_, -, h⟩ := Prog.leaf_bind_ok.mp h
      obtain ⟨_, -, h⟩ := Prog.leaf_bind_ok.mp h
      obtain ⟨_, -, h⟩ := Prog.leaf_bind_ok.mp h
      obtain ⟨_, -, h⟩ := Prog.leaf_bind_ok.mp h
      refine eventMessage_of_toAny h rfl (fun _ h => by cases h) (fun _ h => by cases h) ?_
      rw [ProofHeightAnswered, hev]
      exact ⟨id, response, hid, connectionEndWithProof_answered hend hheight⟩

/-- The acknowledgement of a connection is confirmed. -/
theorem openAckConnectionArm_message {a : ConnectionAttributes}
    (hev : ev.event = .openAckConnection a)
    (h : (openAckConnectionArm source sink ev a).Leaf A (.ok (some (msg, proofHeight)))) :
    EventMessage A source ev msg proofHeight := by
  unfold openAckConnectionArm at h
  split at h
  · cases h
  · next id hid =>
      obtain ⟨⟨response, e, proof⟩, hend, h⟩ := Prog.leaf_bind_ok.mp h
      obtain ⟨height, hheight, h⟩ := Prog.leaf_bind_ok.mp h
      obtain ⟨_, -, h⟩ := Prog.leaf_bind_ok.mp h
      refine eventMessage_of_toAny h rfl (fun _ h => by cases h) (fun _ h => by cases h) ?_
      rw [ProofHeightAnswered, hev]
      exact ⟨id, response, hid, connectionEndWithProof_answered hend hheight⟩

/-! ### Channel arms -/

/-- The init of a channel is answered with a try. -/
theorem openInitChannelArm_message {a : ChannelAttributes} (hev : ev.event = .openInitChannel a)
    (h : (openInitChannelArm source sink ev a).Leaf A (.ok (some (msg, proofHeight)))) :
    EventMessage A source ev msg proofHeight := by
  unfold openInitChannelArm at h
  split at h
  · cases h
  · next id hid =>
      obtain ⟨⟨e, proof, height⟩, hend, h⟩ := Prog.leaf_bind_ok.mp h
      refine eventMessage_of_toAny h rfl (fun _ h => by cases h) (fun _ h => by cases h) ?_
      obtain ⟨response, hresponse, hheight⟩ := channelEndWithProof_answered hend
      rw [ProofHeightAnswered, hev]
      exact ⟨id, response, hid, hresponse, hheight⟩

/-- The try of a channel is acknowledged. -/
theorem openTryChannelArm_message {a : ChannelAttributes} (hev : ev.event = .openTryChannel a)
    (h : (openTryChannelArm source sink ev a).Leaf A (.ok (some (msg, proofHeight)))) :
    EventMessage A source ev msg proofHeight := by
  unfold openTryChannelArm at h
  split at h
  · cases h
  · next id hid =>
      obtain ⟨⟨e, proof, height⟩, hend, h⟩ := Prog.leaf_bind_ok.mp h
      obtain ⟨_, -, h⟩ := Prog.leaf_bind_ok.mp h
      refine eventMessage_of_toAny h rfl (fun _ h => by cases h) (fun _ h => by cases h) ?_
      obtain ⟨response, hresponse, hheight⟩ := channelEndWithProof_answered hend
      rw [ProofHeightAnswered, hev]
      exact ⟨id, response, hid, hresponse, hheight⟩

/-- The acknowledgement of a channel is confirmed. -/
theorem openAckChannelArm_message {a : ChannelAttributes} (hev : ev.event = .openAckChannel a)
    (h : (openAckChannelArm source sink ev a).Leaf A (.ok (some (msg, proofHeight)))) :
    EventMessage A source ev msg proofHeight := by
  unfold openAckChannelArm at h
  split at h
  · cases h
  · next id hid =>
      obtain ⟨⟨e, proof, height⟩, hend, h⟩ := Prog.leaf_bind_ok.mp h
      obtain ⟨_, -, h⟩ := Prog.leaf_bind_ok.mp h
      refine eventMessage_of_toAny h rfl (fun _ h => by cases h) (fun _ h => by cases h) ?_
      obtain ⟨response, hresponse, hheight⟩ := channelEndWithProof_answered hend
      rw [ProofHeightAnswered, hev]
      exact ⟨id, response, hid, hresponse, hheight⟩

/-- The closing of a channel is confirmed. -/
theorem closeInitChannelArm_message {a : CloseInitAttributes}
    (hev : ev.event = .closeInitChannel a)
    (h : (closeInitChannelArm source sink ev a).Leaf A (.ok (some (msg, proofHeight)))) :
    EventMessage A source ev msg proofHeight := by
  obtain ⟨⟨e, proof, height⟩, hend, h⟩ := Prog.leaf_bind_ok.mp h
  obtain ⟨_, -, h⟩ := Prog.leaf_bind_ok.mp h
  refine eventMessage_of_toAny h rfl (fun _ h => by cases h) (fun _ h => by cases h) ?_
  rw [ProofHeightAnswered, hev]
  exact channelEndWithProof_answered hend

/-! ### Packet arms -/

/-- A packet is received, with the proof of its commitment. -/
theorem sendPacketArm_message {p : Packet} (hev : ev.event = .sendPacket p)
    (h : (sendPacketArm source sink ev p).Leaf A (.ok (some (msg, proofHeight)))) :
    EventMessage A source ev msg proofHeight := by
  obtain ⟨delay, -, h⟩ := Prog.leaf_bind_ok.mp h
  split at h
  · cases h
  · obtain ⟨response, hresponse, h⟩ := Prog.leaf_bind_ok.mp h
    obtain ⟨⟨proof, height⟩, hproof, h⟩ := Prog.leaf_bind_ok.mp h
    refine eventMessage_of_toAny h rfl (fun m hm => ?_) (fun _ h => by cases h) ?_
    · obtain rfl := Msg.recvPacket.inj hm
      exact hev
    · rw [ProofHeightAnswered, hev]
      exact ⟨response, hresponse, packetProof_answered hproof⟩

/-- An acknowledgement is delivered, with its own proof. -/
theorem writeAcknowledgementArm_message {p : Packet} {ack : Bytes}
    (hev : ev.event = .writeAcknowledgement p ack)
    (h : (writeAcknowledgementArm source sink ev p ack).Leaf A (.ok (some (msg, proofHeight)))) :
    EventMessage A source ev msg proofHeight := by
  obtain ⟨delay, -, h⟩ := Prog.leaf_bind_ok.mp h
  split at h
  · cases h
  · obtain ⟨response, hresponse, h⟩ := Prog.leaf_bind_ok.mp h
    obtain ⟨⟨proof, height⟩, hproof, h⟩ := Prog.leaf_bind_ok.mp h
    refine eventMessage_of_toAny h rfl (fun _ h => by cases h) (fun m hm => ?_) ?_
    · obtain rfl := Msg.acknowledgement.inj hm
      exact ⟨ack, hev⟩
    · rw [ProofHeightAnswered, hev]
      exact ⟨response, hresponse, packetProof_answered hproof⟩

/-- **The specification of the `match` of `parse_events`.** -/
theorem parseEvent_message
    (h : (parseEvent source sink ev).Leaf A (.ok (some (msg, proofHeight)))) :
    EventMessage A source ev msg proofHeight := by
  unfold parseEvent at h
  split at h
  · next hev => exact openInitConnectionArm_message hev h
  · next hev => exact openTryConnectionArm_message hev h
  · next hev => exact openAckConnectionArm_message hev h
  · next hev => exact openInitChannelArm_message hev h
  · next hev => exact openTryChannelArm_message hev h
  · next hev => exact openAckChannelArm_message hev h
  · next hev => exact closeInitChannelArm_message hev h
  · next hev => exact sendPacketArm_message hev h
  · next hev => exact writeAcknowledgementArm_message hev h
  · cases h

end Arms

end HyperspaceLight
