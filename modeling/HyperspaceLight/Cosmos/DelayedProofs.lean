/-
# The proofs of the delayed path

The messages of packets that wait for a connection delay are built by
`construct_recv_message`, `construct_ack_message` and `construct_timeout_message`.
They ask for their proofs by key (`query_proof`), where the immediate path uses the
queries of `CosmosClient` for a commitment, a receipt, a sequence or a channel end.
Both end in the same ABCI query of the store of the `ibc` module.

The keys of the delayed path are the store paths behind the store prefix of the
connection, those of the immediate path the store paths alone: they are never the
same (`delayedKey_ne`).  And a proof of the delayed path is of the state at the proof
height of its message, where the immediate path counts on the header after that
state: the two conventions never meet (`not_committed_of_delayed`).
-/

import HyperspaceLight.Core.PacketUtils
import HyperspaceLight.Cosmos.Scan

namespace HyperspaceLight

open Interaction

/-- The key and the height of an ABCI query for a proof. -/
def abciProof : Exchange Net Error → Option (Bytes × Option ℕ)
  | ⟨.node _ (.abciQuery key height true), _⟩ => some (key, height)
  | _ => none

/-- The ABCI queries for a proof, in order. -/
def proofQueries (t : List (Exchange Net Error)) : List (Bytes × Option ℕ) :=
  t.filterMap abciProof

/-- Proofs are asked for in the order of the calls. -/
theorem proofQueries_append (t t' : List (Exchange Net Error)) :
    proofQueries (t ++ t') = proofQueries t ++ proofQueries t' :=
  List.filterMap_append

section Paths

variable {t : List (Exchange Net Error)}

/-- A program without questions leaves no proof queries. -/
theorem proofQueries_nil {α : Type} {p : Prog Net Error α} {o : Outcome Error α} (h : p.Path t o)
    (hp : p.Asks (fun _ _ => True) fun _ => False) : proofQueries t = [] := by
  rw [h.eq_nil hp]
  rfl

/-- An ABCI query asks for the proof of its key. -/
theorem abciQuery_path {s : Side} {key : Bytes} {height : Option ℕ} {context : Error → Error}
    {r : AbciQuery} (h : (s.ask (.abciQuery key height true) context).Path t (.ok r)) :
    proofQueries t = [(key, height)] := by
  rw [Side.path_ask_ok.mp h]
  rfl

/-- A question that is no ABCI query asks for no proof. -/
theorem ask_proofQueries {s : Side} {op : NodeOp} {context : Error → Error} {r : op.Res}
    (hop : ∀ r, abciProof ⟨.node s op, r⟩ = none) (h : (s.ask op context).Path t (.ok r)) :
    proofQueries t = [] := by
  rw [Side.path_ask_ok.mp h, proofQueries, List.filterMap_cons, hop]
  rfl

/-- A gRPC query asks for no proof. -/
theorem grpc_proofQueries {s : Side} {op : NodeOp} {r : op.Res}
    (hop : ∀ r, abciProof ⟨.node s op, r⟩ = none) (h : (s.grpc op).Path t (.ok r)) :
    proofQueries t = [] := by
  obtain ⟨t₁, t₂, u, rfl, h₁, h₂⟩ := Prog.path_bind_ok.mp h
  rw [proofQueries_append, ask_proofQueries (fun _ => rfl) h₁, ask_proofQueries hop h₂]
  rfl

variable [Crates] {self : CosmosClient} {height : Height}

/-- A store query asks for the proof of its key at its height. -/
theorem queryPath_path {key : Bytes} {r : AbciQuery × Bytes}
    (h : (self.queryPath key height true).Path t (.ok r)) :
    proofQueries t = [(key, some height.revisionHeight)] := by
  obtain ⟨t₁, t₂, n, rfl, hn, h⟩ := Prog.path_bind_ok.mp h
  rw [proofQueries_append, proofQueries_nil hn TmHeight.tryFrom_asks.mapErr]
  obtain rfl := TmHeight.tryFrom_returns (Prog.leaf_mapErr_ok.mp hn.leaf)
  rw [if_neg height.pos.ne'] at h
  obtain ⟨t₁, t₂, res, rfl, hres, h⟩ := Prog.path_bind_ok.mp h
  -- nothing is asked once the answer is there
  rw [proofQueries_append, abciQuery_path hres, proofQueries_nil h]
  · rfl
  · refine (Prog.asks_require _ _).bind fun _ _ => (Prog.asks_require _ _).bind fun _ _ => ?_
    refine (Prog.asks_expect _ _).bind fun _ _ => (Prog.asks_okOr _ _).bind fun _ _ => ?_
    exact CommitmentProofBytes.tryFrom_asks.mapErr.bind fun _ _ => trivial

/-- `query_proof` asks for the one key it is given. -/
theorem queryProof_path {key proof : Bytes} (h : (self.queryProof height [key]).Path t (.ok proof)) :
    proofQueries t = [(key, some height.revisionHeight)] := by
  obtain ⟨t₁, t₂, key', rfl, hkey, h⟩ := Prog.path_bind_ok.mp h
  have hhead := Prog.leaf_expect_ok.mp hkey.leaf
  rw [List.head?_cons, Option.some.injEq] at hhead
  rw [← hhead] at h
  obtain ⟨t₂, t₃, r, rfl, hr, h⟩ := Prog.path_bind_ok.mp h
  rw [proofQueries_append, proofQueries_append, proofQueries_nil hkey (Prog.asks_expect _ _),
    queryPath_path hr, proofQueries_nil h trivial]
  rfl

/-- **The proof of the immediate path is asked for under the path itself.** -/
theorem queryThenProve_path {α : Type} {op : NodeOp} {response : op.Res → GrpcResponse α}
    {path : Path} {r : WithProof α} (hop : ∀ r, abciProof ⟨.node self.side op, r⟩ = none)
    (h : (self.queryThenProve op response path height).Path t (.ok r)) :
    proofQueries t = [(path.key, some height.revisionHeight)] := by
  obtain ⟨t₁, t₂, answer, rfl, hanswer, h⟩ := Prog.path_bind_ok.mp h
  obtain ⟨t₂, t₃, proof, rfl, hproof, h⟩ := Prog.path_bind_ok.mp h
  rw [proofQueries_append, proofQueries_append, grpc_proofQueries hop hanswer,
    queryProof_path hproof, proofQueries_nil h]
  · rfl
  · exact incerementProofHeight_asks.bind fun _ _ => trivial

/-- A gRPC query with a proof asks for the key of its path. -/
theorem queryThenPath_path {α β : Type} {op : NodeOp} {response : op.Res → GrpcResponse α}
    {path : Path} {value : Bytes → Prog Net Error β} {r : WithProof β}
    (hop : ∀ r, abciProof ⟨.node self.side op, r⟩ = none)
    (hvalue : ∀ b, (value b).Asks (fun _ _ => True) fun _ => False)
    (h : (self.queryThenPath op response path height value).Path t (.ok r)) :
    proofQueries t = [(path.key, some height.revisionHeight)] := by
  obtain ⟨t₁, t₂, answer, rfl, hanswer, h⟩ := Prog.path_bind_ok.mp h
  obtain ⟨t₂, t₃, res, rfl, hres, h⟩ := Prog.path_bind_ok.mp h
  rw [proofQueries_append, proofQueries_append, grpc_proofQueries hop hanswer,
    queryPath_path hres, proofQueries_nil h]
  · rfl
  · exact (hvalue _).bind fun _ _ => incerementProofHeight_asks.bind fun _ _ => trivial

/-! ### The three builders -/

variable {source sink : CosmosClient} {packet : Packet} {a : Any}

/-- **A received packet** is proved by its commitment on the source. -/
theorem constructRecvMessage_path
    (h : (constructRecvMessage source.provider sink.provider packet height).Path t (.ok a)) :
    proofQueries t = [(source.commitmentPrefix.bytes ++
      (Path.commitments packet.sourcePort packet.sourceChannel packet.sequence).key,
        some height.revisionHeight)] := by
  obtain ⟨t₁, t₂, proof, rfl, hproof, h⟩ := Prog.path_bind_ok.mp h
  rw [proofQueries_append, queryProof_path (Prog.path_unwrap_ok.mp hproof), proofQueries_nil h]
  · rfl
  · exact CommitmentProofBytes.tryFrom_asks.unwrap.bind fun _ _ => Msg.toAny_asks

/-- **An acknowledgement** is proved by itself on the source. -/
theorem constructAckMessage_path {ack : Bytes}
    (h : (constructAckMessage source.provider sink.provider packet ack height).Path t (.ok a)) :
    proofQueries t = [(source.commitmentPrefix.bytes ++
      (Path.acks packet.sourcePort packet.sourceChannel packet.sequence).key,
        some height.revisionHeight)] := by
  obtain ⟨t₁, t₂, proof, rfl, hproof, h⟩ := Prog.path_bind_ok.mp h
  rw [proofQueries_append, queryProof_path (Prog.path_unwrap_ok.mp hproof), proofQueries_nil h]
  · rfl
  · exact CommitmentProofBytes.tryFrom_asks.unwrap.bind fun _ _ => Msg.toAny_asks

/-- Where the sink shows that it has not received a packet. -/
def unreceivedPath (sinkChannelEnd : ChannelEnd) (packet : Packet) : Path :=
  if sinkChannelEnd.ordering = .ordered then
    .seqRecvs packet.destinationPort packet.destinationChannel
  else .receipts packet.destinationPort packet.destinationChannel packet.sequence

/-- The paths that a timeout message proves on the sink. -/
def timeoutPaths (sinkChannelEnd : ChannelEnd) (packet : Packet) : List Path :=
  unreceivedPath sinkChannelEnd packet ::
    if sinkChannelEnd.state = .closed then
      [.channelEnds packet.destinationPort packet.destinationChannel]
    else []

/-- **A timeout** is proved by the paths of `timeoutPaths` on the sink. -/
theorem constructTimeoutMessage_path {sinkChannelEnd : ChannelEnd} {nextSequenceRecv : ℕ}
    (h : (constructTimeoutMessage source.provider sink.provider sinkChannelEnd packet
      nextSequenceRecv height).Path t (.ok a)) :
    proofQueries t = (timeoutPaths sinkChannelEnd packet).map fun path =>
      (sink.commitmentPrefix.bytes ++ path.key, some height.revisionHeight) := by
  have hkey : (if sinkChannelEnd.ordering = .ordered then
      applyPrefix sink.provider.connectionPrefix.bytes (getKeyPath .seqRecv packet)
    else applyPrefix sink.provider.connectionPrefix.bytes (getKeyPath .receiptPath packet)) =
      sink.commitmentPrefix.bytes ++ (unreceivedPath sinkChannelEnd packet).key := by
    unfold unreceivedPath
    split_ifs <;> rfl
  unfold constructTimeoutMessage at h
  rw [hkey] at h
  obtain ⟨t₁, t₂, proof, rfl, hproof, h⟩ := Prog.path_bind_ok.mp h
  rw [proofQueries_append, queryProof_path hproof, timeoutPaths, List.map_cons]
  obtain ⟨t₂, t₃, bytes, rfl, hbytes, h⟩ := Prog.path_bind_ok.mp h
  rw [proofQueries_append, proofQueries_nil hbytes CommitmentProofBytes.tryFrom_asks]
  split_ifs at h ⊢ with hclosed
  · obtain ⟨t₃, t₄, closed, rfl, hclosed, h⟩ := Prog.path_bind_ok.mp h
    rw [proofQueries_append, queryProof_path hclosed, proofQueries_nil h]
    · rfl
    · exact CommitmentProofBytes.tryFrom_asks.bind fun _ _ => Msg.toAny_asks
  · rw [proofQueries_nil h Msg.toAny_asks]
    rfl

end Paths

/-! ### Keys -/

/-- What both paths prove about a packet. -/
inductive ProvenItem where
  | commitment
  | nextSequenceRecv
  | receipt
  | channelEnd

namespace ProvenItem

/-- Where it is stored. -/
def path (packet : Packet) : ProvenItem → Path
  | commitment => .commitments packet.sourcePort packet.sourceChannel packet.sequence
  | nextSequenceRecv => .seqRecvs packet.destinationPort packet.destinationChannel
  | receipt => .receipts packet.destinationPort packet.destinationChannel packet.sequence
  | channelEnd => .channelEnds packet.destinationPort packet.destinationChannel

/-- The chain that proves it. -/
def prover (source sink : CosmosClient) : ProvenItem → CosmosClient
  | commitment => source
  | _ => sink

variable [Crates]

/-- The query of `CosmosClient` for the item asks for its proof under `key`. -/
def ImmediateKey (self : CosmosClient) (packet : Packet) (key : Bytes) : ProvenItem → Prop
  | commitment => ∃ at' t r, (self.queryPacketCommitment at' packet.sourcePort packet.sourceChannel
      packet.sequence).Path t (.ok r) ∧ (proofQueries t).map Prod.fst = [key]
  | nextSequenceRecv => ∃ at' t r, (self.queryNextSequenceRecv at' packet.destinationPort
      packet.destinationChannel).Path t (.ok r) ∧ (proofQueries t).map Prod.fst = [key]
  | receipt => ∃ at' t r, (self.queryPacketReceipt at' packet.destinationPort
      packet.destinationChannel packet.sequence).Path t (.ok r) ∧
        (proofQueries t).map Prod.fst = [key]
  | channelEnd => ∃ at' t r, (self.queryChannelEnd at' packet.destinationChannel
      packet.destinationPort).Path t (.ok r) ∧ (proofQueries t).map Prod.fst = [key]

/-- The builder of a message with the item passes `key` to `query_proof`; a timeout
message asks for the channel end after the packet. -/
def DelayedKey (source sink : CosmosClient) (packet : Packet) (key : Bytes) : ProvenItem → Prop
  | commitment => ∃ height t a,
      (constructRecvMessage source.provider sink.provider packet height).Path t (.ok a) ∧
        (proofQueries t).map Prod.fst = [key]
  | nextSequenceRecv => ∃ e n height t a, e.ordering = .ordered ∧
      (constructTimeoutMessage source.provider sink.provider e packet n height).Path t (.ok a) ∧
        ((proofQueries t).map Prod.fst)[0]? = some key
  | receipt => ∃ e n height t a, e.ordering ≠ .ordered ∧
      (constructTimeoutMessage source.provider sink.provider e packet n height).Path t (.ok a) ∧
        ((proofQueries t).map Prod.fst)[0]? = some key
  | channelEnd => ∃ e n height t a, e.state = .closed ∧
      (constructTimeoutMessage source.provider sink.provider e packet n height).Path t (.ok a) ∧
        ((proofQueries t).map Prod.fst)[1]? = some key

variable {source sink self : CosmosClient} {packet : Packet} {key : Bytes} {item : ProvenItem}

/-- The immediate path asks for the key of the path alone. -/
theorem immediateKey_eq (h : item.ImmediateKey self packet key) : key = (item.path packet).key := by
  cases item with
  | receipt =>
      obtain ⟨at', t, r, ht, hkey⟩ := h
      rw [queryThenPath_path (fun _ => rfl) (fun _ => ?_) ht] at hkey
      · exact (List.singleton_inj.mp hkey).symm
      · exact (Prog.asks_expect _ _).bind fun _ _ => trivial
  | _ =>
      obtain ⟨at', t, r, ht, hkey⟩ := h
      rw [queryThenProve_path (fun _ => rfl) ht] at hkey
      exact (List.singleton_inj.mp hkey).symm

/-- The delayed path puts the store prefix in front of it. -/
theorem delayedKey_eq (h : item.DelayedKey source sink packet key) :
    key = (item.prover source sink).commitmentPrefix.bytes ++ (item.path packet).key := by
  cases item with
  | commitment =>
      obtain ⟨height, t, a, ht, hkey⟩ := h
      rw [constructRecvMessage_path ht] at hkey
      exact (List.singleton_inj.mp hkey).symm
  | nextSequenceRecv =>
      obtain ⟨e, n, height, t, a, hordered, ht, hkey⟩ := h
      rw [constructTimeoutMessage_path ht, timeoutPaths, unreceivedPath, if_pos hordered] at hkey
      exact (Option.some.inj hkey).symm
  | receipt =>
      obtain ⟨e, n, height, t, a, hordered, ht, hkey⟩ := h
      rw [constructTimeoutMessage_path ht, timeoutPaths, unreceivedPath, if_neg hordered] at hkey
      exact (Option.some.inj hkey).symm
  | channelEnd =>
      obtain ⟨e, n, height, t, a, hclosed, ht, hkey⟩ := h
      rw [constructTimeoutMessage_path ht, timeoutPaths, if_pos hclosed] at hkey
      exact (Option.some.inj hkey).symm

end ProvenItem

/-- **The delayed and the immediate path never ask under the same key.**  For every
packet, every pair of clients and every item, the key of the delayed path is that
of the immediate path behind a prefix that is not empty. -/
theorem delayedKey_ne [Crates] (source sink : CosmosClient) (packet : Packet) (item : ProvenItem)
    (key key' : Bytes) (h : item.DelayedKey source sink packet key)
    (h' : item.ImmediateKey (item.prover source sink) packet key') : key ≠ key' := by
  rw [ProvenItem.delayedKey_eq h, ProvenItem.immediateKey_eq h']
  intro heq
  exact (item.prover source sink).commitmentPrefix.nonempty (List.append_left_eq_self.mp heq)

/-- A packet between the two ends called `channel-0`. -/
def firstPacket : Packet where
  sequence := 1
  sourcePort := transferPort
  sourceChannel := channel0
  destinationPort := transferPort
  destinationChannel := channel0
  data := utf8 "data"
  timeoutHeight := .never
  timeoutTimestamp := .fromNanoseconds (seconds 1)

/-- Where the commitment of the packet is stored. -/
def firstCommitment : Path := .commitments transferPort channel0 1

/-- A run of `construct_recv_message` between two nodes at height 5. -/
theorem firstPacket_recv_path : ∃ t a,
    (@constructRecvMessage Net Crates.reference
      (@CosmosClient.provider (cosmosClient .a client0) Crates.reference)
      (@CosmosClient.provider (cosmosClient .b client0) Crates.reference) firstPacket
      (height0 5)).Path t (.ok a) :=
  ⟨_, _, Prog.path_eval (committedUntilFive.answer 5) _⟩

/-- The key of the example packet on the delayed path. -/
theorem firstPacket_delayedKey :
    @ProvenItem.DelayedKey Crates.reference (cosmosClient .a client0) (cosmosClient .b client0)
      firstPacket (ibcPrefix.bytes ++ firstCommitment.key) .commitment := by
  obtain ⟨t, a, h⟩ := firstPacket_recv_path
  let _ := Crates.reference
  exact ⟨height0 5, t, a, h, by rw [constructRecvMessage_path h]; rfl⟩

/-- The key of the example packet on the immediate path. -/
theorem firstPacket_immediateKey :
    @ProvenItem.ImmediateKey Crates.reference (cosmosClient .a client0) firstPacket
      firstCommitment.key .commitment := by
  let _ := Crates.reference
  have h : ((cosmosClient .a client0).queryPacketCommitment (height0 5) transferPort channel0
      1).Path _ (.ok ⟨[1], [5], some ⟨0, 6⟩⟩) :=
    Prog.path_eval (committedUntilFive.answer 5) _
  exact ⟨height0 5, _, _, h, by rw [queryThenProve_path (fun _ => rfl) h]; rfl⟩

/-- The hypotheses of `delayedKey_ne` can be met. -/
theorem firstPacket_key_ne :
    ibcPrefix.bytes ++ firstCommitment.key ≠ firstCommitment.key := by
  exact @delayedKey_ne Crates.reference (cosmosClient .a client0) (cosmosClient .b client0)
    firstPacket .commitment _ _ firstPacket_delayedKey firstPacket_immediateKey

/-- **The commitment of one packet is looked up under two keys.**  Its delayed message
asks under the path behind `ibc`, `query_packet_commitment` under the path. -/
theorem firstPacket_two_keys :
    ∃ key key', @ProvenItem.DelayedKey Crates.reference (cosmosClient .a client0)
        (cosmosClient .b client0) firstPacket key .commitment ∧
      @ProvenItem.ImmediateKey Crates.reference (cosmosClient .a client0) firstPacket key'
        .commitment ∧ key ≠ key' := by
  refine ⟨_, _, firstPacket_delayedKey, firstPacket_immediateKey, fun h => ?_⟩
  exact ibcPrefix.nonempty (List.append_left_eq_self.mp h)

/-! ### Heights -/

/-- Every proof is of the state that the header at `proofHeight` commits to: an ABCI
query for a height proves against the header one above it. -/
def Committed (t : List (Exchange Net Error)) (proofHeight : Height) : Prop :=
  ∀ q ∈ proofQueries t, ∃ n, q.2 = some n ∧ n + 1 = proofHeight.revisionHeight

/-- A run of one of the three builders. -/
inductive DelayedBuild [Crates] (source sink : CosmosClient) (packet : Packet)
    (proofHeight : Height) (t : List (Exchange Net Error)) (a : Any) : Prop
  | recv (h : (constructRecvMessage source.provider sink.provider packet proofHeight).Path t (.ok a))
  | ack (ack : Bytes)
      (h : (constructAckMessage source.provider sink.provider packet ack proofHeight).Path t (.ok a))
  | timeout (sinkChannelEnd : ChannelEnd) (nextSequenceRecv : ℕ)
      (h : (constructTimeoutMessage source.provider sink.provider sinkChannelEnd packet
        nextSequenceRecv proofHeight).Path t (.ok a))

section

variable [Crates] {source sink : CosmosClient} {packet : Packet} {proofHeight : Height}
  {t : List (Exchange Net Error)} {a : Any}

/-- The message has the proof height it was built for. -/
theorem DelayedBuild.msg_proofHeight (h : DelayedBuild source sink packet proofHeight t a) :
    a.msg.proofHeight = some proofHeight := by
  cases h with
  | recv h =>
      obtain ⟨m, ⟨-, hm⟩, ha⟩ := constructRecvMessage_returns h.leaf
      rw [ha, ← hm]
      rfl
  | ack ack h =>
      obtain ⟨m, ⟨-, -, hm⟩, ha⟩ := constructAckMessage_returns h.leaf
      rw [ha, ← hm]
      rfl
  | timeout e n h =>
      obtain ⟨m, ⟨-, hm⟩, ha⟩ := constructTimeoutMessage_returns h.leaf
      rw [ha, ← hm]
      split_ifs <;> rfl

/-- The first proof of a message is of the state at its proof height. -/
theorem DelayedBuild.proofQueries_head (h : DelayedBuild source sink packet proofHeight t a) :
    ∃ key, (key, some proofHeight.revisionHeight) ∈ proofQueries t := by
  cases h with
  | recv h => exact ⟨_, by rw [constructRecvMessage_path h]; exact List.mem_singleton_self _⟩
  | ack ack h => exact ⟨_, by rw [constructAckMessage_path h]; exact List.mem_singleton_self _⟩
  | timeout e n h =>
      exact ⟨_, by
        rw [constructTimeoutMessage_path h, timeoutPaths, List.map_cons]
        exact List.mem_cons_self ..⟩

end

/-- **The proofs of the delayed path are never of the state that the header at the
proof height commits to.**  For every packet, every proof height, every pair of
clients and all answers. -/
theorem not_committed_of_delayed [Crates] (source sink : CosmosClient) (packet : Packet)
    (proofHeight : Height) (t : List (Exchange Net Error)) (a : Any)
    (h : DelayedBuild source sink packet proofHeight t a) :
    a.msg.proofHeight = some proofHeight ∧ ¬Committed t proofHeight := by
  refine ⟨h.msg_proofHeight, fun hcommitted => ?_⟩
  obtain ⟨key, hkey⟩ := h.proofQueries_head
  obtain ⟨n, hn, hsucc⟩ := hcommitted _ hkey
  have hsame : proofHeight.revisionHeight = n := Option.some.inj hn
  omega

/-- The hypothesis of `not_committed_of_delayed` can be met. -/
theorem firstPacket_recv_not_committed :
    ∃ (t : List (Exchange Net Error)) (a : Any),
      a.msg.proofHeight = some (height0 5) ∧ ¬Committed t (height0 5) := by
  obtain ⟨t, a, h⟩ := firstPacket_recv_path
  let _ := Crates.reference
  exact ⟨t, a, not_committed_of_delayed (cosmosClient .a client0) (cosmosClient .b client0)
    firstPacket (height0 5) t a (.recv h)⟩

/-- **A message with proof height 5 has a proof of the state at height 5**, which the
header at height 6 commits to. -/
theorem firstPacket_proof_of_five :
    ∃ t a, @DelayedBuild Crates.reference (cosmosClient .a client0) (cosmosClient .b client0)
        firstPacket (height0 5) t a ∧
      proofQueries t = [(ibcPrefix.bytes ++ firstCommitment.key, some 5)] ∧
      ¬Committed t (height0 5) := by
  obtain ⟨t, a, h⟩ := firstPacket_recv_path
  let _ := Crates.reference
  have hqueries : proofQueries t = [(ibcPrefix.bytes ++ firstCommitment.key, some 5)] :=
    constructRecvMessage_path h
  refine ⟨t, a, .recv h, hqueries, fun hcommitted => ?_⟩
  obtain ⟨n, hn, hsucc⟩ := hcommitted _ (hqueries ▸ List.mem_singleton_self _)
  have hfive : 5 = n := Option.some.inj hn
  have hheight : n + 1 = 5 := hsucc
  omega

end HyperspaceLight
