/-
# The message of an event

What `parse_events` makes of one event when its source is a Cosmos chain
(`Translation`): a message that stands for this event, whose proof height is one more
than the height at which the node answered one particular gRPC query, the one that
bears the proof (`bearing`).
-/

import HyperspaceLight.Core.EventMessages
import HyperspaceLight.Cosmos.Scan

namespace HyperspaceLight

open Interaction

/-- The query that the proof height of an event's message comes from. -/
def bearing : IbcEvent → Option NodeOp
  | .openInitConnection a => a.connectionId.map .connection
  | .openTryConnection a => a.connectionId.map .connection
  | .openAckConnection a => a.connectionId.map .connection
  | .openInitChannel a => a.channelId.map (.channel a.portId)
  | .openTryChannel a => a.channelId.map (.channel a.portId)
  | .openAckChannel a => a.channelId.map (.channel a.portId)
  | .closeInitChannel a => some (.channel a.portId a.channelId)
  | .sendPacket p => some (.packetCommitment p.sourcePort p.sourceChannel p.sequence)
  | .writeAcknowledgement p _ =>
      some (.packetAcknowledgement p.sourcePort p.sourceChannel p.sequence)
  | _ => none

/-- The proof height in the answer to such a query. -/
def NodeOp.answerHeight : (op : NodeOp) → op.Res → Option RawHeight
  | .connection _, r => r.proofHeight
  | .channel _ _, r => r.proofHeight
  | .packetCommitment _ _ _, r => r.proofHeight
  | .packetAcknowledgement _ _ _, r => r.proofHeight
  | _, _ => none

/-- `height` is one more than the proof height answered to `op`. -/
def Borne (A : (o : Net.Op) → Except Error (Net.Res o) → Prop) (side : Side) (op : NodeOp)
    (height : Height) : Prop :=
  ∃ answer h, A (.node side op) (.ok answer) ∧ op.answerHeight answer = some h ∧
    height.revisionNumber = h.revisionNumber ∧ height.revisionHeight = h.revisionHeight + 1

/-- **The message of an event.** -/
structure Translation (A : (o : Net.Op) → Except Error (Net.Res o) → Prop) (side : Side)
    (ev : IbcEventWithHeight) (msg : Any) (proofHeight : Height) : Prop where
  origin : msg.origin = some ev
  proofHeight_eq : msg.msg.proofHeight = some proofHeight
  recvPacket : ∀ m, msg.msg = .recvPacket m → ev.event = .sendPacket m.packet
  acknowledgement : ∀ m, msg.msg = .acknowledgement m →
    ∃ ack, ev.event = .writeAcknowledgement m.packet ack
  borne : ∃ op, bearing ev.event = some op ∧ Borne A side op proofHeight

/-- No arm updates a client. -/
theorem Translation.not_update {A : (o : Net.Op) → Except Error (Net.Res o) → Prop} {side : Side}
    {ev : IbcEventWithHeight} {msg : Any} {proofHeight : Height}
    (h : Translation A side ev msg proofHeight) (u : MsgUpdateClient) :
    msg.msg ≠ .updateClient u := by
  intro hu
  have hheight := h.proofHeight_eq
  rw [hu] at hheight
  cases hheight

section

variable {A : (o : Net.Op) → Except Error (Net.Res o) → Prop} [Crates]
  {source : CosmosClient} {sink : IbcProvider Net} {ev : IbcEventWithHeight} {msg : Any}
  {proofHeight : Height}

omit [Crates] in
/-- The proof height of an answer with a proof, as a message uses it. -/
theorem borne_of_answer {α : Type} {op : NodeOp} {response : op.Res → GrpcResponse α}
    (hresponse : ∀ a, op.answerHeight a = (response a).proofHeight) {side : Side}
    {r : WithProof α} {answer : op.Res} (hanswer : A (.node side op) (.ok answer))
    (hr : r.proofHeight = (response answer).proofHeight.map
      fun h => ⟨h.revisionNumber, h.revisionHeight + 1⟩)
    (hh : r.proofHeight = some proofHeight.raw) : Borne A side op proofHeight := by
  rw [hr, Option.map_eq_some_iff] at hh
  obtain ⟨h', hh', heq⟩ := hh
  obtain ⟨hrn, hrh⟩ := RawHeight.mk.inj heq
  exact ⟨answer, h', hanswer, (hresponse answer).trans hh', hrn.symm, hrh.symm⟩

/-- The proof of a connection is borne by the query of it. -/
theorem connection_borne {height : Height} {id : ConnectionId} {response : QueryConnectionResponse}
    (hresponse : (source.provider.queryConnectionEnd height id).Leaf A (.ok response))
    (hheight : response.proofHeight = some proofHeight.raw) :
    Borne A source.side (.connection id) proofHeight := by
  obtain ⟨answer, hanswer, -, hr, -⟩ := queryThenProve_returns hresponse
  exact borne_of_answer (fun _ => rfl) hanswer hr hheight

/-- The proof of a channel is borne by the query of it. -/
theorem channel_borne {height : Height} {c : ChannelId} {p : PortId}
    {response : QueryChannelResponse}
    (hresponse : (source.provider.queryChannelEnd height c p).Leaf A (.ok response))
    (hheight : response.proofHeight = some proofHeight.raw) :
    Borne A source.side (.channel p c) proofHeight := by
  obtain ⟨answer, hanswer, -, hr, -⟩ := queryThenProve_returns hresponse
  exact borne_of_answer (fun _ => rfl) hanswer hr hheight

/-- **A Cosmos chain answers a proof height one above that of its node.** -/
theorem borne_of_answered (h : ProofHeightAnswered A source.provider ev proofHeight.raw) :
    ∃ op, bearing ev.event = some op ∧ Borne A source.side op proofHeight := by
  unfold ProofHeightAnswered at h
  split at h
  case h_1 a hev | h_2 a hev | h_3 a hev =>
      obtain ⟨id, response, hid, hresponse, hheight⟩ := h
      exact ⟨.connection id, by rw [hev, bearing, hid]; rfl, connection_borne hresponse hheight⟩
  case h_4 a hev | h_5 a hev | h_6 a hev =>
      obtain ⟨id, response, hid, hresponse, hheight⟩ := h
      exact ⟨.channel a.portId id, by rw [hev, bearing, hid]; rfl, channel_borne hresponse hheight⟩
  case h_7 a hev =>
      obtain ⟨response, hresponse, hheight⟩ := h
      exact ⟨.channel a.portId a.channelId, by rw [hev, bearing], channel_borne hresponse hheight⟩
  case h_8 p hev =>
      obtain ⟨response, hresponse, hheight⟩ := h
      obtain ⟨answer, hanswer, -, hr, -⟩ := queryThenProve_returns hresponse
      exact ⟨.packetCommitment p.sourcePort p.sourceChannel p.sequence, by rw [hev, bearing],
        borne_of_answer (fun _ => rfl) hanswer hr hheight⟩
  case h_9 p ack hev =>
      obtain ⟨response, hresponse, hheight⟩ := h
      obtain ⟨answer, hanswer, hr, -⟩ := queryThenPath_returns hresponse
      exact ⟨.packetAcknowledgement p.sourcePort p.sourceChannel p.sequence, by rw [hev, bearing],
        borne_of_answer (fun _ => rfl) hanswer hr hheight⟩
  case h_10 => exact h.elim

/-- **The specification of the `match` of `parse_events`** for a Cosmos source. -/
theorem parseEvent_translation
    (h : (parseEvent source.provider sink ev).Leaf A (.ok (some (msg, proofHeight)))) :
    Translation A source.side ev msg proofHeight := by
  have hmessage := parseEvent_message h
  exact {
    origin := hmessage.origin
    proofHeight_eq := hmessage.proofHeight_eq
    recvPacket := hmessage.recvPacket
    acknowledgement := hmessage.acknowledgement
    borne := borne_of_answered hmessage.answered }

end

end HyperspaceLight
