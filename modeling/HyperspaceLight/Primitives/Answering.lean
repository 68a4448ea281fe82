/-
# Chains that answer

`Answering A chain`: every query of the chain is answered, with a value or an error.  A
function of such chains aborts through what it does with the answers and through nothing
else.  A chain known by its interface is of this kind, whatever its answers are
(`Chain.trait_answering`).
-/

import HyperspaceLight.Interaction.Aborts
import HyperspaceLight.Primitives.Traits

namespace HyperspaceLight

open Interaction

variable {S : Sig} {A : (o : S.Op) → Except Error (S.Res o) → Prop}

/-- No query of the chain aborts. -/
structure Answering (A : (o : S.Op) → Except Error (S.Res o) → Prop) (chain : IbcProvider S) :
    Prop where
  queryClientConsensus : ∀ h id ch, ¬(chain.queryClientConsensus h id ch).Aborts A
  queryClientState : ∀ h id, ¬(chain.queryClientState h id).Aborts A
  queryConnectionEnd : ∀ h id, ¬(chain.queryConnectionEnd h id).Aborts A
  queryChannelEnd : ∀ h c p, ¬(chain.queryChannelEnd h c p).Aborts A
  queryProof : ∀ h keys, ¬(chain.queryProof h keys).Aborts A
  queryPacketCommitment : ∀ h p c n, ¬(chain.queryPacketCommitment h p c n).Aborts A
  queryPacketAcknowledgement : ∀ h p c n, ¬(chain.queryPacketAcknowledgement h p c n).Aborts A
  queryNextSequenceRecv : ∀ h p c, ¬(chain.queryNextSequenceRecv h p c).Aborts A
  latestHeightAndTimestamp : ¬chain.latestHeightAndTimestamp.Aborts A
  queryPacketCommitments : ∀ h c p, ¬(chain.queryPacketCommitments h c p).Aborts A
  queryPacketAcknowledgements : ∀ h c p, ¬(chain.queryPacketAcknowledgements h c p).Aborts A
  queryUnreceivedPackets : ∀ h c p ns, ¬(chain.queryUnreceivedPackets h c p ns).Aborts A
  queryUnreceivedAcknowledgements :
    ∀ h c p ns, ¬(chain.queryUnreceivedAcknowledgements h c p ns).Aborts A
  querySendPackets : ∀ c p ns, ¬(chain.querySendPackets c p ns).Aborts A
  queryRecvPackets : ∀ c p ns, ¬(chain.queryRecvPackets c p ns).Aborts A
  queryClientUpdateTimeAndHeight : ∀ id h, ¬(chain.queryClientUpdateTimeAndHeight id h).Aborts A
  queryTimestampAt : ∀ n, ¬(chain.queryTimestampAt n).Aborts A

/-- A chain known by its interface answers. -/
theorem Chain.trait_answering {A : (o : TraitSig.Op) → Except Error (TraitSig.Res o) → Prop}
    (info : ChainInfo) (role : Role) : Answering A (Chain.trait info role).toIbcProvider where
  queryClientConsensus _ _ _ := Prog.aborts_ask _
  queryClientState _ _ := Prog.aborts_ask _
  queryConnectionEnd _ _ := Prog.aborts_ask _
  queryChannelEnd _ _ _ := Prog.aborts_ask _
  queryProof _ _ := Prog.aborts_ask _
  queryPacketCommitment _ _ _ _ := Prog.aborts_ask _
  queryPacketAcknowledgement _ _ _ _ := Prog.aborts_ask _
  queryNextSequenceRecv _ _ _ := Prog.aborts_ask _
  latestHeightAndTimestamp := Prog.aborts_ask _
  queryPacketCommitments _ _ _ := Prog.aborts_ask _
  queryPacketAcknowledgements _ _ _ := Prog.aborts_ask _
  queryUnreceivedPackets _ _ _ _ := Prog.aborts_ask _
  queryUnreceivedAcknowledgements _ _ _ _ := Prog.aborts_ask _
  querySendPackets _ _ _ := Prog.aborts_ask _
  queryRecvPackets _ _ _ := Prog.aborts_ask _
  queryClientUpdateTimeAndHeight _ _ := Prog.aborts_ask _
  queryTimestampAt _ := Prog.aborts_ask _

/-! ### Conversions -/

/-- A value that does not decode is an error. -/
@[simp] theorem Raw.aborts_tryFrom {α : Type} (raw : Raw α) :
    ¬(raw.tryFrom : Prog S Error α).Aborts A := by
  cases raw
  · exact Prog.aborts_fail _
  · exact Prog.aborts_pure _

/-- An empty proof is an error. -/
@[simp] theorem CommitmentProofBytes.aborts_tryFrom (b : Bytes) :
    ¬(tryFrom b : Prog S Error CommitmentProofBytes).Aborts A := by
  unfold tryFrom
  split_ifs
  · exact Prog.aborts_pure _
  · exact Prog.aborts_fail _

/-- A proof is refused only if it is empty. -/
theorem CommitmentProofBytes.tryFrom_ok_iff {b : Bytes} :
    (∃ c, (tryFrom b : Prog S Error CommitmentProofBytes).Leaf A (.ok c)) ↔ b ≠ [] := by
  unfold tryFrom
  split_ifs with hb
  · exact ⟨fun _ => hb, fun _ => ⟨⟨b, hb⟩, rfl⟩⟩
  · refine iff_of_false ?_ hb
    rintro ⟨_, h⟩
    cases h

/-- The empty proof is the only one that is refused. -/
theorem CommitmentProofBytes.tryFrom_err_iff {b : Bytes} :
    (∃ e, (tryFrom b : Prog S Error CommitmentProofBytes).Leaf A (.err e)) ↔ b = [] := by
  unfold tryFrom
  split_ifs with hb
  · refine iff_of_false ?_ hb
    rintro ⟨_, h⟩
    cases h
  · exact ⟨fun _ => not_not.mp hb, fun _ => ⟨_, rfl⟩⟩

/-- A message that is not encoded is an error. -/
@[simp] theorem Msg.aborts_toAny [Crates] (m : Msg) (context : String)
    (origin : Option IbcEventWithHeight) :
    ¬(m.toAny context origin : Prog S Error Any).Aborts A := by
  unfold toAny
  split
  · exact Prog.aborts_pure _
  · exact Prog.aborts_fail _

/-- A sum of `u64` aborts where it does not fit. -/
theorem u64Add_aborts_iff {a b : ℕ} : (u64Add a b : Prog S Error ℕ).Aborts A ↔ u64Bound ≤ a + b := by
  unfold u64Add
  split_ifs with h
  · exact ⟨fun h' => absurd h' (Prog.aborts_pure _), fun h' => absurd h (not_lt.mpr h')⟩
  · exact ⟨fun _ => not_lt.mp h, fun _ => Prog.aborts_panic _⟩

/-- A difference of `u64` aborts where it is negative. -/
theorem u64Sub_aborts_iff {a b : ℕ} : (u64Sub a b : Prog S Error ℕ).Aborts A ↔ a < b := by
  unfold u64Sub
  split_ifs with h
  · exact ⟨fun h' => absurd h' (Prog.aborts_pure _), fun h' => absurd h (not_le.mpr h')⟩
  · exact ⟨fun _ => not_le.mp h, fun _ => Prog.aborts_panic _⟩

/-- Only a revision height of zero is no height. -/
theorem Height.new_eq_none {n m : ℕ} : Height.new n m = none ↔ m = 0 := by
  unfold Height.new
  split_ifs with hm
  · exact iff_of_false not_false hm.ne'
  · exact iff_of_true rfl (Nat.eq_zero_of_not_pos hm)

/-- A height grown by `d` aborts where the sum does not fit. -/
theorem Height.add_aborts_iff {h : Height} {d : ℕ} :
    (h.add d : Prog S Error Height).Aborts A ↔ u64Bound ≤ h.revisionHeight + d := by
  rw [Height.add, Prog.aborts_bind, u64Add_aborts_iff]
  refine or_iff_left ?_
  rintro ⟨sum, hsum, habort⟩
  rw [Prog.aborts_expect, Height.new_eq_none, u64Add_returns hsum] at habort
  have hpos := h.pos
  omega

end HyperspaceLight
