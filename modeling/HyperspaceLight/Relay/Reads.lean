/-
# What the relayer asks without submitting

Most programs of the relayer only read (`Reads`): the scan, the translation of an
event, the wait for a height, the estimate of a weight and the wait for a
transaction.  A transaction is submitted by one call, and one more call of the log
marks an event as processed.
-/

import HyperspaceLight.Core.AckPaths
import HyperspaceLight.Core.Relay
import HyperspaceLight.Cosmos.Chain
import HyperspaceLight.Cosmos.Scan

namespace HyperspaceLight

open Interaction

instance : Timer Net := ⟨sleep⟩

/-- The calls that submit nothing. -/
def Passive : NetOp → Prop
  | .node _ (.broadcastTxSync _ _) => False
  | _ => True

/-- The calls that submit nothing and process no event. -/
def Reads : NetOp → Prop
  | .node _ (.broadcastTxSync _ _) => False
  | .log _ => False
  | _ => True

theorem passive_iff {o : NetOp} : Passive o ↔ Reads o ∨ ∃ ev, o = .log (.processing ev) := by
  cases o with
  | log line =>
      cases line
      simp [Passive, Reads]
  | node s op => cases op <;> simp [Passive, Reads]
  | _ => simp [Passive, Reads]

section

variable {A : (o : Net.Op) → Except Error (Net.Res o) → Prop} {self : CosmosClient}

theorem queryAccount_reads : self.queryAccount.Asks A Reads := by
  refine (Side.ask_asks trivial).bind fun _ _ => (Side.ask_asks trivial).bind fun _ _ => ?_
  exact (Prog.asks_okOr _ _).bind fun _ _ => Raw.tryFrom_asks.mapErr

theorem confirmTxStep_reads {s : Side} {hash : TransactionId} {start : Time} :
    (confirmTxStep s hash start).Asks A Reads := by
  refine (Side.ask_asks trivial).bind fun txs _ => ?_
  split
  · trivial
  · refine ((Prog.asks_ask (S := Net) _).mpr trivial).bind fun now _ => ?_
    dsimp only
    split_ifs
    · trivial
    · exact ((Prog.asks_ask (S := Net) _).mpr trivial).bind fun _ _ => trivial

theorem confirmTx_reads {fuel : ℕ} {s : Side} {hash : TransactionId} :
    (confirmTx fuel s hash).Asks A Reads := by
  refine ((Prog.asks_ask (S := Net) _).mpr trivial).bind fun start _ => ?_
  refine (Prog.Asks.repeatUntil confirmTxStep_reads fuel).bind fun response _ => ?_
  exact (Prog.asks_require _ _).bind fun _ _ => trivial

variable [Crates]

theorem signTx_asks {C : Net.Op → Prop} {key : KeyEntry} {chainId : String} {info : BaseAccount}
    {messages : List Any} {fee : Fee} :
    (signTx key chainId info messages fee : Prog Net Error (TxRaw × Bytes)).Asks A C := by
  refine Prog.Asks.bind ?_ fun _ _ => trivial
  unfold encodeSignDoc
  dsimp only
  split <;> trivial

theorem latestHeightAndTimestamp_reads : self.latestHeightAndTimestamp.Asks A Reads :=
  latestHeightAndTimestamp_asks trivial

theorem queryProven_reads {α : Type} {op : NodeOp} {response : op.Res → GrpcResponse α} {path : Path}
    {height : Height} (hop : Reads (.node self.side op)) :
    (self.queryThenProve op response path height).Asks A Reads :=
  queryThenProve_asks trivial hop fun _ => trivial

omit [Crates] in
theorem scanAsks_reads {counterparty : CosmosClient} {o : Net.Op}
    (h : ScanAsks self counterparty o) : Reads o := by
  cases h <;> trivial

omit [Crates] in
theorem u64Sub_asks {C : Net.Op → Prop} {a b : ℕ} : (u64Sub a b : Prog Net Error ℕ).Asks A C := by
  unfold u64Sub
  split_ifs <;> trivial

omit [Crates] in
theorem txLen_asks {C : Net.Op → Prop} {envelopeLen bodyLen : ℕ} :
    (txLen envelopeLen bodyLen : Prog Net Error ℕ).Asks A C := by
  unfold txLen
  split_ifs <;> trivial

omit [Crates] in
theorem estimateWeightStep_asks {C : Net.Op → Prop} {envelopeLen : ℕ} {acc : ℕ × ℕ} {any : Any} :
    (self.estimateWeightStep envelopeLen acc any : Prog Net Error (ℕ × ℕ)).Asks A C := by
  unfold CosmosClient.estimateWeightStep
  dsimp only
  split_ifs
  · exact Prog.Asks.bind trivial fun tooLong _ => by split_ifs <;> trivial
  · refine txLen_asks.bind fun len _ => Prog.Asks.bind trivial fun tooLong _ => ?_
    split_ifs <;> trivial

theorem estimateWeight_reads {messages : List Any} :
    (self.estimateWeight messages).Asks A Reads := by
  refine queryAccount_reads.bind fun info _ => ?_
  refine signTx_asks.bind fun tx _ => ?_
  have hrest : ∀ envelopeLen bodyLen : ℕ,
      (messages.foldlM (self.estimateWeightStep envelopeLen) (0, bodyLen) :
        Prog Net Error (ℕ × ℕ)).Asks A Reads := fun _ _ =>
    Prog.Asks.foldlM (fun _ _ _ => estimateWeightStep_asks) _
  dsimp only
  split_ifs
  · exact Prog.Asks.bind trivial fun _ _ => (hrest _ _).bind fun _ _ => trivial
  · refine u64Sub_asks.bind fun _ _ => u64Sub_asks.bind fun _ _ => u64Sub_asks.bind fun _ _ => ?_
    exact (hrest _ _).bind fun _ _ => trivial

theorem queryClientState_reads {height : Height} {id : ClientId} :
    (self.queryClientState height id).Asks A Reads := queryProven_reads trivial

theorem queryClientConsensus_reads {height height' : Height} {id : ClientId} :
    (self.queryClientConsensus height id height').Asks A Reads := queryProven_reads trivial

theorem queryConnectionEnd_reads {height : Height} {id : ConnectionId} :
    (self.queryConnectionEnd height id).Asks A Reads := queryProven_reads trivial

theorem queryChannelEnd_reads {height : Height} {c : ChannelId} {p : PortId} :
    (self.queryChannelEnd height c p).Asks A Reads := queryProven_reads trivial

theorem queryPacketCommitment_reads {height : Height} {p : PortId} {c : ChannelId} {seq : ℕ} :
    (self.queryPacketCommitment height p c seq).Asks A Reads := queryProven_reads trivial

theorem queryAcknowledgement_reads {height : Height} {p : PortId} {c : ChannelId} {seq : ℕ} :
    (self.queryPacketAcknowledgement height p c seq).Asks A Reads := by
  refine (Side.grpc_asks trivial trivial).bind fun answer _ => ?_
  refine (queryPath_asks fun _ => trivial).bind fun res _ => ?_
  exact Prog.Asks.bind trivial fun _ _ => incerementProofHeight_asks.bind fun _ _ => trivial

/-! ### Translation -/

section

variable {source : CosmosClient} {sink : IbcProvider Net} {ev : IbcEventWithHeight}

omit [Crates] in
theorem newProofHeight_asks {C : Net.Op → Prop} {arm : String} {h : RawHeight} :
    (newProofHeight arm h : Prog Net Error Height).Asks A C :=
  Prog.asks_okOr _ _

theorem connectionEndWithProof_reads {arm : String} {height : Height} {id : ConnectionId} :
    (connectionEndWithProof arm source.provider height id).Asks A Reads := by
  refine queryConnectionEnd_reads.bind fun _ _ => (Prog.asks_okOr _ _).bind fun _ _ => ?_
  exact Raw.tryFrom_asks.bind fun _ _ => CommitmentProofBytes.tryFrom_asks.bind fun _ _ => trivial

omit [Crates] in
theorem connectionProofHeight_asks {C : Net.Op → Prop} {arm : String}
    {response : QueryConnectionResponse} :
    (connectionProofHeight arm response : Prog Net Error Height).Asks A C :=
  (Prog.asks_okOr _ _).bind fun _ _ => newProofHeight_asks

omit [Crates] in
theorem clientStateWithProof_asks {C : Net.Op → Prop} {response : QueryClientStateResponse} :
    (clientStateWithProof response : Prog Net Error _).Asks A C :=
  (Prog.asks_okOr _ _).bind fun _ _ => Raw.tryFrom_asks.bind fun _ _ => trivial

theorem openInitConnectionArm_reads {a : ConnectionAttributes} :
    (openInitConnectionArm source.provider sink ev a).Asks A Reads := by
  unfold openInitConnectionArm
  split
  · trivial
  · refine connectionEndWithProof_reads.bind fun _ _ => ?_
    refine queryClientState_reads.bind fun _ _ => ?_
    refine connectionProofHeight_asks.bind fun _ _ => clientStateWithProof_asks.bind fun _ _ => ?_
    refine queryClientConsensus_reads.bind fun _ _ => ?_
    exact CommitmentProofBytes.tryFrom_asks.bind fun _ _ => Msg.toAny_asks.bind fun _ _ => trivial

theorem openTryConnectionArm_reads {a : ConnectionAttributes} :
    (openTryConnectionArm source.provider sink ev a).Asks A Reads := by
  unfold openTryConnectionArm
  split
  · trivial
  · refine connectionEndWithProof_reads.bind fun _ _ => ?_
    refine queryClientState_reads.bind fun _ _ => ?_
    refine connectionProofHeight_asks.bind fun _ _ => clientStateWithProof_asks.bind fun _ _ => ?_
    refine queryClientConsensus_reads.bind fun _ _ => (Prog.asks_okOr _ _).bind fun _ _ => ?_
    refine CommitmentProofBytes.tryFrom_asks.bind fun _ _ => (Prog.asks_okOr _ _).bind fun _ _ => ?_
    exact Msg.toAny_asks.bind fun _ _ => trivial

theorem openAckConnectionArm_reads {a : ConnectionAttributes} :
    (openAckConnectionArm source.provider sink ev a).Asks A Reads := by
  unfold openAckConnectionArm
  split
  · trivial
  · refine connectionEndWithProof_reads.bind fun _ _ => ?_
    refine connectionProofHeight_asks.bind fun _ _ => (Prog.asks_okOr _ _).bind fun _ _ => ?_
    exact Msg.toAny_asks.bind fun _ _ => trivial

theorem channelEndWithProof_reads {arm missingHeight : String} {mode : DecodeMode} {height : Height}
    {c : ChannelId} {p : PortId} :
    (channelEndWithProof arm mode missingHeight source.provider height c p).Asks A Reads := by
  refine queryChannelEnd_reads.bind fun _ _ => (Prog.asks_okOr _ _).bind fun _ _ => ?_
  refine Prog.Asks.bind ?_ fun _ _ => ?_
  · cases mode with
    | expect => exact Raw.tryFrom_asks.unwrap
    | question => exact Raw.tryFrom_asks
  · refine CommitmentProofBytes.tryFrom_asks.bind fun _ _ => (Prog.asks_expect _ _).bind fun _ _ => ?_
    exact newProofHeight_asks.bind fun _ _ => trivial

theorem openInitChannelArm_reads {a : ChannelAttributes} :
    (openInitChannelArm source.provider sink ev a).Asks A Reads := by
  unfold openInitChannelArm
  split
  · trivial
  · exact channelEndWithProof_reads.bind fun _ _ => Msg.toAny_asks.bind fun _ _ => trivial

theorem openTryChannelArm_reads {a : ChannelAttributes} :
    (openTryChannelArm source.provider sink ev a).Asks A Reads := by
  unfold openTryChannelArm
  split
  · trivial
  · refine channelEndWithProof_reads.bind fun _ _ => (Prog.asks_expect _ _).bind fun _ _ => ?_
    exact Msg.toAny_asks.bind fun _ _ => trivial

theorem openAckChannelArm_reads {a : ChannelAttributes} :
    (openAckChannelArm source.provider sink ev a).Asks A Reads := by
  unfold openAckChannelArm
  split
  · trivial
  · refine channelEndWithProof_reads.bind fun _ _ => (Prog.asks_expect _ _).bind fun _ _ => ?_
    exact Msg.toAny_asks.bind fun _ _ => trivial

theorem closeInitChannelArm_reads {a : CloseInitAttributes} :
    (closeInitChannelArm source.provider sink ev a).Asks A Reads := by
  refine channelEndWithProof_reads.bind fun _ _ => (Prog.asks_expect _ _).bind fun _ _ => ?_
  exact Msg.toAny_asks.bind fun _ _ => trivial

theorem channelDelay_reads {height : Height} {c : ChannelId} {p : PortId} :
    (channelDelay source.provider height c p).Asks A Reads := by
  refine queryChannelEnd_reads.bind fun _ _ => (Prog.asks_okOr _ _).bind fun _ _ => ?_
  refine Raw.tryFrom_asks.bind fun _ _ => (Prog.asks_okOr _ _).bind fun _ _ => ?_
  refine queryConnectionEnd_reads.bind fun _ _ => (Prog.asks_okOr _ _).bind fun _ _ => ?_
  exact Raw.tryFrom_asks.bind fun _ _ => trivial

theorem sendPacketArm_reads {p : Packet} :
    (sendPacketArm source.provider sink ev p).Asks A Reads := by
  refine channelDelay_reads.bind fun delay _ => ?_
  split_ifs
  · trivial
  · refine queryPacketCommitment_reads.bind fun _ _ => packetProof_asks.bind fun _ _ => ?_
    exact Msg.toAny_asks.bind fun _ _ => trivial

theorem writeAcknowledgementArm_reads {p : Packet} {ack : Bytes} :
    (writeAcknowledgementArm source.provider sink ev p ack).Asks A Reads := by
  refine channelDelay_reads.bind fun delay _ => ?_
  split_ifs
  · trivial
  · refine queryAcknowledgement_reads.bind fun _ _ => packetProof_asks.bind fun _ _ => ?_
    exact Msg.toAny_asks.bind fun _ _ => trivial

/-- **The translation of an event only reads.** -/
theorem parseEvent_reads : (parseEvent source.provider sink ev).Asks A Reads := by
  unfold parseEvent
  split
  · exact openInitConnectionArm_reads
  · exact openTryConnectionArm_reads
  · exact openAckConnectionArm_reads
  · exact openInitChannelArm_reads
  · exact openTryChannelArm_reads
  · exact openAckChannelArm_reads
  · exact closeInitChannelArm_reads
  · exact sendPacketArm_reads
  · exact writeAcknowledgementArm_reads
  · trivial

theorem parseEventStep_passive {acc : ParsedEvents} :
    (parseEventStep source.provider sink acc ev).Asks A Passive := by
  refine ((Prog.asks_ask (S := Net) _).mpr trivial).bind fun _ _ => ?_
  refine (parseEvent_reads.mono fun _ h => passive_iff.mpr (.inl h)).bind fun r _ => ?_
  split <;> trivial

theorem parseEvents_passive {events : List IbcEventWithHeight} :
    (parseEvents source.provider sink events).Asks A Passive :=
  (Prog.Asks.foldlM (fun _ _ _ => parseEventStep_passive) _).bind fun _ _ => trivial

end

/-! ### The relay loop -/

variable {source sink : CosmosClient}

theorem queryLatestIbcEvents_reads {finalityEvent : FinalityEvent} :
    (source.queryLatestIbcEvents finalityEvent sink.provider).Asks A Reads :=
  queryLatestIbcEvents_asks.mono fun _ => scanAsks_reads

theorem waitStep_reads {fuel : ℕ} {height : Height} :
    (waitStep (source.chain fuel) height).Asks A Reads := by
  refine latestHeightAndTimestamp_reads.bind fun h _ => ?_
  dsimp only
  split_ifs
  · exact ((Prog.asks_ask (S := Net) _).mpr trivial).bind fun _ _ => trivial
  · trivial

theorem iterationMessages_passive {fuel fuel' : ℕ} {finalityEvent : FinalityEvent} :
    (iterationMessages (source.chain fuel) (sink.chain fuel') finalityEvent).Asks A Passive := by
  have hscan : (source.queryLatestIbcEvents finalityEvent sink.provider).Asks A Passive :=
    queryLatestIbcEvents_reads.mono fun _ h => passive_iff.mpr (.inl h)
  refine hscan.attempt.bind fun r _ => ?_
  split
  · trivial
  · exact parseEvents_passive.bind fun _ _ => trivial

end

end HyperspaceLight
