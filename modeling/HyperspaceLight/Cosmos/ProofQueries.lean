/-
# Value, proof and proof height of a query

A node's store changes with every block (`StoreHistory`).  A query with a proof
should hold what was stored at the height it was made for, with the proof of that
state and the height of the next header, whose root the proof verifies against
(`Together`).

The queries of `CosmosClient` take the proof height from the node's current state
and the proof from the height they are given, and six of the seven take the value
from the current state too.  The three parts belong together exactly where the two
heights are the same (`together_iff`).
-/

import HyperspaceLight.Cosmos.Provider

namespace HyperspaceLight

open Interaction

section Returns

variable {A : (o : Net.Op) → Except Error (Net.Res o) → Prop}

/-- The proof height is raised by one. -/
theorem incerementProofHeight_returns {h : Option RawHeight} {h' : Option RawHeight}
    (hr : (incerementProofHeight h : Prog Net Error (Option RawHeight)).Leaf A (.ok h')) :
    h' = h.map fun h => ⟨h.revisionNumber, h.revisionHeight + 1⟩ := by
  cases h with
  | none =>
      simp only [incerementProofHeight, Prog.leaf_pure, Outcome.ok.injEq] at hr
      exact hr.symm
  | some h =>
      obtain ⟨n, hn, hr⟩ := Prog.leaf_bind_ok.mp hr
      rw [u64Add_returns hn, Prog.leaf_pure, Outcome.ok.injEq] at hr
      exact hr.symm

variable [Crates] {self : CosmosClient}

/-- **What `query_path` returns**: the ABCI answer for the given height, and the
converted proof in it. -/
theorem queryPath_returns {data : Bytes} {height : Height} {prove : Bool} {res : AbciQuery}
    {proof : Bytes} (h : (self.queryPath data height prove).Leaf A (.ok (res, proof))) :
    A (.node self.side (.abciQuery data (some height.revisionHeight) prove)) (.ok res) ∧
      ∃ ops, res.proof = some ops ∧ Crates.convertProof ops = .ok proof := by
  obtain ⟨n, hn, h⟩ := Prog.leaf_bind_ok.mp h
  obtain rfl := TmHeight.tryFrom_returns (Prog.leaf_mapErr_ok.mp hn)
  rw [if_neg height.pos.ne'] at h
  obtain ⟨res', hres, h⟩ := Prog.leaf_bind_ok.mp h
  rw [Side.leaf_ask_ok] at hres
  obtain ⟨_, -, h⟩ := Prog.leaf_bind_ok.mp h
  obtain ⟨_, -, h⟩ := Prog.leaf_bind_ok.mp h
  obtain ⟨ops, hops, h⟩ := Prog.leaf_bind_ok.mp h
  rw [Prog.leaf_expect_ok] at hops
  obtain ⟨merkleProof, hmerkle, h⟩ := Prog.leaf_bind_ok.mp h
  obtain ⟨bytes, hbytes, h⟩ := Prog.leaf_bind_ok.mp h
  have hproof := CommitmentProofBytes.tryFrom_returns (Prog.leaf_mapErr_ok.mp hbytes)
  simp only [Prog.leaf_pure, Outcome.ok.injEq] at h
  obtain ⟨rfl, rfl⟩ := h
  rw [Prog.leaf_okOr_ok] at hmerkle
  refine ⟨hres, ops, hops, ?_⟩
  rw [hproof]
  cases hconvert : Crates.convertProof ops with
  | ok merkle =>
      rw [hconvert] at hmerkle
      exact congrArg Except.ok (Option.some.inj hmerkle)
  | error e =>
      rw [hconvert] at hmerkle
      cases hmerkle

/-- A proof is the converted proof of the node's answer. -/
theorem queryProof_returns {height : Height} {key proof : Bytes}
    (h : (self.queryProof height [key]).Leaf A (.ok proof)) :
    ∃ res, A (.node self.side (.abciQuery key (some height.revisionHeight) true)) (.ok res) ∧
      ∃ ops, res.proof = some ops ∧ Crates.convertProof ops = .ok proof := by
  obtain ⟨key', hkey, h⟩ := Prog.leaf_bind_ok.mp h
  rw [Prog.leaf_expect_ok, List.head?_cons, Option.some.injEq] at hkey
  obtain ⟨⟨res, proof'⟩, hpath, h⟩ := Prog.leaf_bind_ok.mp h
  rw [Prog.leaf_pure, Outcome.ok.injEq] at h
  rw [← hkey] at hpath
  exact ⟨res, h ▸ queryPath_returns hpath⟩

/-- **Value and proof height from the gRPC answer, the proof from the ABCI
answer.** -/
theorem queryThenProve_returns {α : Type} {op : NodeOp} {response : op.Res → GrpcResponse α}
    {path : Path} {height : Height} {r : WithProof α}
    (h : (self.queryThenProve op response path height).Leaf A (.ok r)) :
    ∃ answer, A (.node self.side op) (.ok answer) ∧
      r.value = (response answer).value ∧
      r.proofHeight = (response answer).proofHeight.map
        (fun h => ⟨h.revisionNumber, h.revisionHeight + 1⟩) ∧
      ∃ res, A (.node self.side (.abciQuery path.key (some height.revisionHeight) true)) (.ok res) ∧
        ∃ ops, res.proof = some ops ∧ Crates.convertProof ops = .ok r.proof := by
  obtain ⟨answer, hanswer, h⟩ := Prog.leaf_bind_ok.mp h
  obtain ⟨proof, hproof, h⟩ := Prog.leaf_bind_ok.mp h
  obtain ⟨proofHeight, hheight, h⟩ := Prog.leaf_bind_ok.mp h
  rw [Prog.leaf_pure, Outcome.ok.injEq] at h
  subst h
  exact ⟨answer, Side.leaf_grpc_ok hanswer, rfl, incerementProofHeight_returns hheight,
    queryProof_returns hproof⟩

/-- **The proof height from the gRPC answer, value and proof from the ABCI
answer.** -/
theorem queryThenPath_returns {α β : Type} {op : NodeOp} {response : op.Res → GrpcResponse α}
    {path : Path} {height : Height} {value : Bytes → Prog Net Error β} {r : WithProof β}
    (h : (self.queryThenPath op response path height value).Leaf A (.ok r)) :
    ∃ answer, A (.node self.side op) (.ok answer) ∧
      r.proofHeight = (response answer).proofHeight.map
        (fun h => ⟨h.revisionNumber, h.revisionHeight + 1⟩) ∧
      ∃ res, A (.node self.side (.abciQuery path.key (some height.revisionHeight) true)) (.ok res) ∧
        (value res.value).Leaf A (.ok r.value) ∧
        ∃ ops, res.proof = some ops ∧ Crates.convertProof ops = .ok r.proof := by
  obtain ⟨answer, hanswer, h⟩ := Prog.leaf_bind_ok.mp h
  obtain ⟨⟨res, proof⟩, hpath, h⟩ := Prog.leaf_bind_ok.mp h
  obtain ⟨value', hvalue, h⟩ := Prog.leaf_bind_ok.mp h
  obtain ⟨proofHeight, hheight, h⟩ := Prog.leaf_bind_ok.mp h
  rw [Prog.leaf_pure, Outcome.ok.injEq] at h
  subst h
  obtain ⟨hres, hops⟩ := queryPath_returns hpath
  exact ⟨answer, Side.leaf_grpc_ok hanswer, incerementProofHeight_returns hheight, res, hres,
    hvalue, hops⟩

end Returns

/-! ### The seven queries -/

/-- The queries that return a proof with a proof height. -/
inductive ProofQuery where
  | clientConsensus (clientId : ClientId) (consensusHeight : Height)
  | clientState (clientId : ClientId)
  | connectionEnd (connectionId : ConnectionId)
  | channelEnd (channelId : ChannelId) (portId : PortId)
  | packetCommitment (portId : PortId) (channelId : ChannelId) (seq : ℕ)
  | packetAcknowledgement (portId : PortId) (channelId : ChannelId) (seq : ℕ)
  | nextSequenceRecv (portId : PortId) (channelId : ChannelId)

namespace ProofQuery

/-- What is asked for. -/
def Value : ProofQuery → Type
  | clientConsensus .. => Option (Raw ConsensusState)
  | clientState _ => Option (Raw ClientState)
  | connectionEnd _ => Option (Raw ConnectionEnd)
  | channelEnd .. => Option (Raw ChannelEnd)
  | packetCommitment .. => Bytes
  | packetAcknowledgement .. => Bytes
  | nextSequenceRecv .. => ℕ

/-- Where it is stored. -/
def path : ProofQuery → Path
  | clientConsensus id h => .clientConsensusState id h.revisionNumber h.revisionHeight
  | clientState id => .clientState id
  | connectionEnd id => .connections id
  | channelEnd c p => .channelEnds p c
  | packetCommitment p c n => .commitments p c n
  | packetAcknowledgement p c n => .acks p c n
  | nextSequenceRecv p c => .seqRecvs p c

/-- The query of a client for the height `at'`. -/
def run [Crates] (self : CosmosClient) (at' : Height) :
    (q : ProofQuery) → Prog Net Error (WithProof q.Value)
  | clientConsensus id h => self.queryClientConsensus at' id h
  | clientState id => self.queryClientState at' id
  | connectionEnd id => self.queryConnectionEnd at' id
  | channelEnd c p => self.queryChannelEnd at' c p
  | packetCommitment p c n => self.queryPacketCommitment at' p c n
  | packetAcknowledgement p c n => self.queryPacketAcknowledgement at' p c n
  | nextSequenceRecv p c => self.queryNextSequenceRecv at' p c

end ProofQuery

/-! ### A node and its history -/

/-- What a node has stored at each height and how it proves it, and how the gRPC
service reads the bytes of the store. -/
structure StoreHistory where
  revision : ℕ
  stored : (height : ℕ) → (key : Bytes) → Bytes
  proofOps : (height : ℕ) → (key : Bytes) → Bytes
  readClientState : Bytes → Option (Raw ClientState)
  readConsensusState : Bytes → Option (Raw ConsensusState)
  readConnection : Bytes → Option (Raw ConnectionEnd)
  readChannel : Bytes → Option (Raw ChannelEnd)
  readSequence : Bytes → ℕ

namespace StoreHistory

variable (H : StoreHistory)

/-- How the bytes of a query's item are read. -/
def read : (q : ProofQuery) → Bytes → q.Value
  | .clientConsensus .. => H.readConsensusState
  | .clientState _ => H.readClientState
  | .connectionEnd _ => H.readConnection
  | .channelEnd .. => H.readChannel
  | .packetCommitment .. => id
  | .packetAcknowledgement .. => id
  | .nextSequenceRecv .. => H.readSequence

/-- The value a query's item had at a height. -/
def valueAt (q : ProofQuery) (height : ℕ) : q.Value := H.read q (H.stored height q.path.key)

/-- A gRPC answer at the current height. -/
def grpcAnswer (q : ProofQuery) (current : ℕ) : GrpcResponse q.Value where
  value := H.valueAt q current
  proofHeight := some ⟨H.revision, current⟩

/-- What the node answers while its height is `current`.  Only the gRPC answers
depend on it; an ABCI query names its height. -/
def answer (current : ℕ) : (o : Net.Op) → Except Error (Net.Res o)
  | .node _ .connect => .ok ()
  | .node _ (.consensusState id n h) =>
      if hpos : 0 < h then .ok (H.grpcAnswer (.clientConsensus id ⟨n, h, hpos⟩) current)
      else .error (.external "not found")
  | .node _ (.clientState id) => .ok (H.grpcAnswer (.clientState id) current)
  | .node _ (.connection id) => .ok (H.grpcAnswer (.connectionEnd id) current)
  | .node _ (.channel p c) => .ok (H.grpcAnswer (.channelEnd c p) current)
  | .node _ (.packetCommitment p c n) => .ok (H.grpcAnswer (.packetCommitment p c n) current)
  | .node _ (.packetAcknowledgement p c n) =>
      .ok (H.grpcAnswer (.packetAcknowledgement p c n) current)
  | .node _ (.nextSequenceReceive p c) => .ok (H.grpcAnswer (.nextSequenceRecv p c) current)
  | .node _ (.abciQuery key height _) =>
      .ok ⟨0, "", H.stored (height.getD current) key,
        some (H.proofOps (height.getD current) key)⟩
  | _ => .error (.external "unavailable")

/-- The node answers truthfully or not at all. -/
def Answers (current : ℕ) (o : Net.Op) : Except Error (Net.Res o) → Prop
  | .ok a => H.answer current o = .ok a
  | .error _ => True

/-- The answers of a history are admitted. -/
theorem answers_answer (current : ℕ) (o : Net.Op) : H.Answers current o (H.answer current o) := by
  cases h : H.answer current o with
  | ok a => exact h
  | error e => trivial

/-- **Value, proof and proof height belong together**: all three are those of the
state at the height of the query. -/
def Together [Crates] (q : ProofQuery) (at' : Height) (r : WithProof q.Value) : Prop :=
  r.value = H.valueAt q at'.revisionHeight ∧
    Crates.convertProof (H.proofOps at'.revisionHeight q.path.key) = .ok r.proof ∧
    ∃ n, r.proofHeight = some ⟨n, at'.revisionHeight + 1⟩

end StoreHistory

section Proofs

variable [Crates] {self : CosmosClient} {H : StoreHistory} {current : ℕ} {at' : Height}

/-- The proof in an ABCI answer of the node. -/
theorem convertProof_of_answers {key proof ops : Bytes} {height : ℕ} {res : AbciQuery}
    (hres : H.Answers current (.node self.side (.abciQuery key (some height) true)) (.ok res))
    (hops : res.proof = some ops) (hproof : Crates.convertProof ops = .ok proof) :
    Crates.convertProof (H.proofOps height key) = .ok proof := by
  have hanswer := Except.ok.inj hres
  rw [← hanswer, Option.some.injEq] at hops
  rw [← hproof, ← hops]
  rfl

/-- What a query returns that takes its value by gRPC. -/
theorem queryThenProve_answers {q : ProofQuery} {op : NodeOp}
    {response : op.Res → GrpcResponse q.Value}
    (hop : ∀ a, H.answer current (.node self.side op) = .ok a →
      response a = H.grpcAnswer q current) {r : WithProof q.Value}
    (h : (self.queryThenProve op response q.path at').Leaf (H.Answers current) (.ok r)) :
    r.value = H.valueAt q current ∧
      Crates.convertProof (H.proofOps at'.revisionHeight q.path.key) = .ok r.proof ∧
      r.proofHeight = some ⟨H.revision, current + 1⟩ := by
  obtain ⟨answer, hanswer, hvalue, hheight, res, hres, ops, hops, hproof⟩ :=
    queryThenProve_returns h
  rw [hop answer hanswer] at hvalue hheight
  exact ⟨hvalue, convertProof_of_answers hres hops hproof, hheight⟩

/-- **What the seven queries return**: the proof of the height of the query and the
proof height of the current one; the value is of either height. -/
theorem run_answers {q : ProofQuery} {r : WithProof q.Value}
    (h : (q.run self at').Leaf (H.Answers current) (.ok r)) :
    (r.value = H.valueAt q current ∨ r.value = H.valueAt q at'.revisionHeight) ∧
      Crates.convertProof (H.proofOps at'.revisionHeight q.path.key) = .ok r.proof ∧
      r.proofHeight = some ⟨H.revision, current + 1⟩ := by
  cases q with
  | clientConsensus id ch =>
      refine (queryThenProve_answers (q := .clientConsensus id ch) (fun a ha => ?_) h).imp_left
        .inl
      have hpos := ch.pos
      simp only [StoreHistory.answer, dif_pos hpos] at ha
      exact (Except.ok.inj ha).symm
  | clientState id =>
      refine (queryThenProve_answers (q := .clientState id) (fun a ha => ?_) h).imp_left .inl
      exact (Except.ok.inj ha).symm
  | connectionEnd id =>
      refine (queryThenProve_answers (q := .connectionEnd id) (fun a ha => ?_) h).imp_left .inl
      exact (Except.ok.inj ha).symm
  | channelEnd c p =>
      refine (queryThenProve_answers (q := .channelEnd c p) (fun a ha => ?_) h).imp_left .inl
      exact (Except.ok.inj ha).symm
  | packetCommitment p c n =>
      refine (queryThenProve_answers (q := .packetCommitment p c n) (fun a ha => ?_) h).imp_left
        .inl
      exact (Except.ok.inj ha).symm
  | packetAcknowledgement p c n =>
      -- the value comes with the proof
      obtain ⟨answer, hanswer, hheight, res, hres, hvalue, ops, hops, hproof⟩ :=
        queryThenPath_returns h
      have hgrpc : H.grpcAnswer (.packetAcknowledgement p c n) current = answer :=
        Except.ok.inj hanswer
      refine ⟨.inr ?_, convertProof_of_answers hres hops hproof, ?_⟩
      · rw [Prog.leaf_pure, Outcome.ok.injEq] at hvalue
        rw [← hvalue, ← Except.ok.inj hres]
        rfl
      · rw [hheight, ← hgrpc]
        rfl
  | nextSequenceRecv p c =>
      refine (queryThenProve_answers (q := .nextSequenceRecv p c) (fun a ha => ?_) h).imp_left .inl
      exact (Except.ok.inj ha).symm

end Proofs

/-- **The three parts of an answer belong together exactly if the node has not moved
since the height of the query.**  For every query, every store history, every height
`at'` of the query and every current height. -/
theorem together_iff [Crates] (self : CosmosClient) (H : StoreHistory) (q : ProofQuery)
    (at' : Height) (current : ℕ) (r : WithProof q.Value)
    (h : (q.run self at').Leaf (H.Answers current) (.ok r)) :
    H.Together q at' r ↔ current = at'.revisionHeight := by
  obtain ⟨hvalue, hproof, hheight⟩ := run_answers h
  constructor
  · rintro ⟨-, -, n, hn⟩
    rw [hheight, Option.some.injEq, RawHeight.mk.injEq] at hn
    exact Nat.succ.inj hn.2
  · rintro rfl
    exact ⟨hvalue.elim id id, hproof, H.revision, hheight⟩

/-- A commitment that is stored up to height 5. -/
def committedUntilFive : StoreHistory where
  revision := 0
  stored height _ := if height ≤ 5 then [1] else []
  proofOps height _ := [UInt8.ofNat height]
  readClientState _ := none
  readConsensusState _ := none
  readConnection _ := none
  readChannel _ := none
  readSequence _ := 0

/-- The answer to a query for height 5, made while the node is at height 7. -/
def lateAnswer : WithProof Bytes := ⟨[], [5], some ⟨0, 8⟩⟩

/-- The example query returns its answer. -/
theorem lateAnswer_leaf :
    (@ProofQuery.run Crates.reference (cosmosClient .a client0) (height0 5)
      (.packetCommitment transferPort channel0 1)).Leaf (committedUntilFive.Answers 7)
        (.ok lateAnswer) :=
  Prog.leaf_eval (committedUntilFive.answers_answer 7) _

/-- The hypothesis of `together_iff` can be met. -/
theorem lateAnswer_together_iff :
    @StoreHistory.Together committedUntilFive Crates.reference
        (.packetCommitment transferPort channel0 1) (height0 5) lateAnswer ↔
      7 = (height0 5).revisionHeight := by
  let _ := Crates.reference
  exact together_iff (cosmosClient .a client0) committedUntilFive
    (.packetCommitment transferPort channel0 1) (height0 5) 7 lateAnswer lateAnswer_leaf

/-- **A query for a past height mixes two states.**  The node was at height 7 when it
was asked about height 5: the answer has no commitment, a proof of height 5 that
there is one, and a proof height of 8. -/
theorem lateAnswer_not_together :
    (@ProofQuery.run Crates.reference (cosmosClient .a client0) (height0 5)
      (.packetCommitment transferPort channel0 1)).Leaf (committedUntilFive.Answers 7)
        (.ok lateAnswer) ∧
    (height0 5).revisionHeight ≤ 7 ∧
    ¬@StoreHistory.Together committedUntilFive Crates.reference
        (.packetCommitment transferPort channel0 1) (height0 5) lateAnswer := by
  refine ⟨lateAnswer_leaf, by decide, fun h => ?_⟩
  obtain ⟨hvalue, -, -⟩ := h
  exact absurd (show ([] : Bytes) = [1] from hvalue) (by decide)

end HyperspaceLight
