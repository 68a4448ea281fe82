/-
# Timeout heights, delays and the messages of the delayed path

`src/core/packets/utils.rs`.  The proofs of the delayed path are asked for by
key: the store prefix of the chain followed by the text of a path
(`applyPrefix`, `getKeyPath`).
-/

import HyperspaceLight.Core.ConnectionDelay
import HyperspaceLight.Primitives.ProofHeight

namespace HyperspaceLight

open Interaction

variable {S : Sig} {A : (o : S.Op) → Except Error (S.Res o) → Prop}

/-- Where the search of `get_timeout_proof_height` starts: at the timeout height
or at the height at which the timeout timestamp is expected, whichever is
higher. -/
def timeoutSearchStart (timeoutHeight : Height) (approxHeight : ℕ) : Prog S Error Height :=
  if approxHeight < timeoutHeight.revisionHeight then pure timeoutHeight
  else .expect "error querying client state"
    (Height.new timeoutHeight.revisionNumber approxHeight)

/-- The start is in the revision of the timeout height and not below it. -/
theorem timeoutSearchStart_returns {timeoutHeight startHeight : Height} {approxHeight : ℕ}
    (h : (timeoutSearchStart timeoutHeight approxHeight : Prog S Error Height).Leaf A
      (.ok startHeight)) :
    startHeight.revisionNumber = timeoutHeight.revisionNumber ∧
      timeoutHeight.revisionHeight ≤ startHeight.revisionHeight := by
  unfold timeoutSearchStart at h
  split_ifs at h with hlt
  · simp only [Prog.leaf_pure, Outcome.ok.injEq] at h
    exact h ▸ ⟨rfl, le_rfl⟩
  · simp only [Prog.leaf_expect_ok, Height.new_eq_some] at h
    exact ⟨h.1, by omega⟩

/-- `get_timeout_proof_height`. -/
def getTimeoutProofHeight (source sink : IbcProvider S) (sourceHeight : Height)
    (_sinkHeight : Height) (_sinkTimestamp : Timestamp) (latestClientHeightOnSource : Height)
    (packet : Packet) (packetCreationHeight : ℕ) : Prog S Error (Option Height) :=
  match packet.timeoutHeight with
  | .never => return none
  | .atHeight timeoutHeight => do
      -- the sink's client as the source knew it when the packet was sent
      let creationHeight ← .expect "error querying client state"
        (Height.new sourceHeight.revisionNumber packetCreationHeight)
      match ← (source.queryClientState creationHeight sink.clientId).attempt with
      | .error _ => return none
      | .ok response =>
          let raw ← .expect "called Option::unwrap() on a None value" response.value
          match raw with
          | .error _ => return none
          | .ok sinkClientState =>
              let height := sinkClientState.latestHeight
              match ← (sink.queryTimestampAt height.revisionHeight).attempt with
              | .error _ => return none
              | .ok timestampAtCreation =>
                  let period ←
                    u64Sub packet.timeoutTimestamp.nanoseconds timestampAtCreation
                  let approxHeight ← u64Add height.revisionHeight
                    (calculateBlockDelay period sink.expectedBlockTime - 1)
                  let startHeight ← timeoutSearchStart timeoutHeight approxHeight
                  findSuitableProofHeightForClient source sourceHeight sink.clientId startHeight
                    (some packet.timeoutTimestamp) latestClientHeightOnSource

/-- **A timeout proof height is late enough.**  It is at or above the timeout
height, and the sink's client on the source has a consensus state there whose
time has reached the timeout timestamp. -/
theorem getTimeoutProofHeight_some {source sink : IbcProvider S} {sourceHeight sinkHeight : Height}
    {sinkTimestamp : Timestamp} {latest t : Height} {packet : Packet} {created : ℕ}
    (h : (getTimeoutProofHeight source sink sourceHeight sinkHeight sinkTimestamp latest packet
      created).Leaf A (.ok (some t))) :
    ∃ timeoutHeight, packet.timeoutHeight = .atHeight timeoutHeight ∧ timeoutHeight ≤ t ∧
      Suitable A source sourceHeight sink.clientId packet.timeoutTimestamp t := by
  unfold getTimeoutProofHeight at h
  split at h
  · cases h
  rename_i timeoutHeight hth
  refine ⟨timeoutHeight, hth, ?_⟩
  obtain ⟨creation, -, h⟩ := Prog.leaf_bind_ok.mp h
  obtain ⟨answer, -, h⟩ := Prog.leaf_bind_ok.mp h
  cases answer with
  | error e => simp at h
  | ok response =>
      obtain ⟨raw, -, h⟩ := Prog.leaf_bind_ok.mp h
      cases raw with
      | error e => simp at h
      | ok clientState =>
          obtain ⟨answer, -, h⟩ := Prog.leaf_bind_ok.mp h
          cases answer with
          | error e => simp at h
          | ok created =>
              obtain ⟨period, -, h⟩ := Prog.leaf_bind_ok.mp h
              obtain ⟨approx, -, h⟩ := Prog.leaf_bind_ok.mp h
              obtain ⟨start, hstart, h⟩ := Prog.leaf_bind_ok.mp h
              obtain ⟨hrn, hrh⟩ := timeoutSearchStart_returns hstart
              obtain ⟨hw, hs⟩ := bisectSearch_some h
              refine ⟨Height.le_iff.mpr (.inr ⟨?_, hrh.trans hw.lower⟩), hs⟩
              rw [hw.revision, hrn]

/-- `VerifyDelayOn`. -/
inductive VerifyDelayOn where
  | source
  | sink

/-- One arm of `verify_delay_passed`: the delay of an update of `clientId` on
`chain`, as of `timestamp` and `height`. -/
def verifyDelayOn (chain : IbcProvider S) (clientId : ClientId) (timestamp : Timestamp)
    (height : Height) (connectionDelay : Duration) (proofHeight : Height) : Prog S Error Bool := do
  match ← (chain.queryClientUpdateTimeAndHeight clientId proofHeight).attempt with
  | .error _ => return false
  | .ok (updateHeight, updateTime) =>
      let blockDelay := calculateBlockDelay connectionDelay chain.expectedBlockTime
      if ← hasDelayElapsed timestamp height (.ofTime updateTime) updateHeight connectionDelay
          blockDelay then
        return true
      else
        return false

/-- **A delay that has passed is over.**  The chain answers when and at what
height the client was updated, and the delay since then is over. -/
theorem verifyDelayOn_true {chain : IbcProvider S} {clientId : ClientId} {timestamp : Timestamp}
    {height t : Height} {delay : Duration}
    (h : (verifyDelayOn chain clientId timestamp height delay t).Leaf A (.ok true)) :
    ∃ updateHeight updateTime,
      (chain.queryClientUpdateTimeAndHeight clientId t).Leaf A (.ok (updateHeight, updateTime)) ∧
        DelayOver timestamp height updateTime updateHeight delay
          (calculateBlockDelay delay chain.expectedBlockTime) := by
  obtain ⟨answer, hanswer, h⟩ := Prog.leaf_bind_ok.mp h
  rcases answer with e | ⟨updateHeight, updateTime⟩
  · simp at h
  obtain ⟨elapsed, helapsed, h⟩ := Prog.leaf_bind_ok.mp h
  have htrue : elapsed = true := by
    cases elapsed
    · simp at h
    · rfl
  exact ⟨updateHeight, updateTime, Prog.leaf_attempt_ok.mp hanswer,
    hasDelayElapsed_true (htrue ▸ helapsed)⟩

/-- `verify_delay_passed`. -/
def verifyDelayPassed (source sink : IbcProvider S) (sourceTimestamp : Timestamp)
    (sourceHeight : Height) (sinkTimestamp : Timestamp) (sinkHeight : Height)
    (connectionDelay : Duration) (proofHeight : Height) : VerifyDelayOn → Prog S Error Bool
  | .source =>
      verifyDelayOn source sink.clientId sourceTimestamp sourceHeight connectionDelay proofHeight
  | .sink =>
      verifyDelayOn sink source.clientId sinkTimestamp sinkHeight connectionDelay proofHeight

/-- `KeyPathType`. -/
inductive KeyPathType where
  | seqRecv
  | receiptPath
  | commitmentPath
  | acksPath
  | channelPath

/-- `get_key_path`. -/
def getKeyPath (keyPathType : KeyPathType) (packet : Packet) : String :=
  match keyPathType with
  | .seqRecv => (Path.seqRecvs packet.destinationPort packet.destinationChannel).display
  | .receiptPath =>
      (Path.receipts packet.destinationPort packet.destinationChannel packet.sequence).display
  | .commitmentPath =>
      (Path.commitments packet.sourcePort packet.sourceChannel packet.sequence).display
  | .acksPath => (Path.acks packet.sourcePort packet.sourceChannel packet.sequence).display
  | .channelPath => (Path.channelEnds packet.destinationPort packet.destinationChannel).display

variable [Crates]

/-- `construct_timeout_message`. -/
def constructTimeoutMessage (source sink : IbcProvider S) (sinkChannelEnd : ChannelEnd)
    (packet : Packet) (nextSequenceRecv : ℕ) (proofHeight : Height) : Prog S Error Any := do
  let key :=
    if sinkChannelEnd.ordering = .ordered then
      applyPrefix sink.connectionPrefix.bytes (getKeyPath .seqRecv packet)
    else
      applyPrefix sink.connectionPrefix.bytes (getKeyPath .receiptPath packet)
  let proofUnreceived ← sink.queryProof proofHeight [key]
  let proofUnreceived ← CommitmentProofBytes.tryFrom proofUnreceived
  if sinkChannelEnd.state = .closed then
    let channelKey := applyPrefix sink.connectionPrefix.bytes (getKeyPath .channelPath packet)
    let proofClosed ← sink.queryProof proofHeight [channelKey]
    let proofClosed ← CommitmentProofBytes.tryFrom proofClosed
    let msg : MsgTimeout := {
      packet
      nextSequenceRecv
      proofs := ⟨proofUnreceived, none, none, some proofClosed, proofHeight⟩
      signer := source.accountId }
    (Msg.timeoutOnClose msg).toAny "could not encode MsgTimeoutOnClose: " none
  else
    let msg : MsgTimeout := {
      packet
      nextSequenceRecv
      proofs := ⟨proofUnreceived, none, none, none, proofHeight⟩
      signer := source.accountId }
    (Msg.timeout msg).toAny "could not encode MsgTimeout: " none

/-- `construct_recv_message`. -/
def constructRecvMessage (source sink : IbcProvider S) (packet : Packet) (proofHeight : Height) :
    Prog S Error Any := do
  let key := applyPrefix source.connectionPrefix.bytes (getKeyPath .commitmentPath packet)
  let proof ← (source.queryProof proofHeight [key]).unwrap "query_proof"
  let commitmentProof ← (CommitmentProofBytes.tryFrom proof).unwrap "empty proof"
  let msg : MsgRecvPacket := {
    packet
    proofs := ⟨commitmentProof, none, none, none, proofHeight⟩
    signer := sink.accountId }
  (Msg.recvPacket msg).toAny "could not encode MsgRecvPacket: " none

/-- `construct_ack_message`. -/
def constructAckMessage (source sink : IbcProvider S) (packet : Packet) (ack : Bytes)
    (proofHeight : Height) : Prog S Error Any := do
  let key := applyPrefix source.connectionPrefix.bytes (getKeyPath .acksPath packet)
  let proof ← (source.queryProof proofHeight [key]).unwrap "query_proof"
  let commitmentProof ← (CommitmentProofBytes.tryFrom proof).unwrap "empty proof"
  let msg : MsgAcknowledgement := {
    packet
    acknowledgement := ack
    proofs := ⟨commitmentProof, none, none, none, proofHeight⟩
    signer := sink.accountId }
  (Msg.acknowledgement msg).toAny "could not encode MsgAcknowledgement: " none

/-! ### What the three functions build -/

/-- `construct_timeout_message` picks the message by the state of the sink's
channel end. -/
theorem constructTimeoutMessage_returns {source sink : IbcProvider S} {sinkChannelEnd : ChannelEnd}
    {packet : Packet} {nextSequenceRecv : ℕ} {t : Height} {a : Any}
    (h : (constructTimeoutMessage source sink sinkChannelEnd packet nextSequenceRecv t).Leaf A
      (.ok a)) :
    ∃ m : MsgTimeout, (m.packet = packet ∧ m.proofs.height = t) ∧
      a.msg = if sinkChannelEnd.state = .closed then .timeoutOnClose m else .timeout m := by
  unfold constructTimeoutMessage at h
  obtain ⟨proof, -, h⟩ := Prog.leaf_bind_ok.mp h
  obtain ⟨proofBytes, -, h⟩ := Prog.leaf_bind_ok.mp h
  split_ifs at h with hclosed
  · obtain ⟨proof, -, h⟩ := Prog.leaf_bind_ok.mp h
    obtain ⟨closedBytes, -, h⟩ := Prog.leaf_bind_ok.mp h
    exact ⟨_, ⟨rfl, rfl⟩, by rw [if_pos hclosed]; exact (Msg.toAny_returns h).1⟩
  · exact ⟨_, ⟨rfl, rfl⟩, by rw [if_neg hclosed]; exact (Msg.toAny_returns h).1⟩

/-- A received packet has the packet and the height it was made for. -/
theorem constructRecvMessage_returns {source sink : IbcProvider S} {packet : Packet} {t : Height}
    {a : Any} (h : (constructRecvMessage source sink packet t).Leaf A (.ok a)) :
    ∃ m : MsgRecvPacket, (m.packet = packet ∧ m.proofs.height = t) ∧ a.msg = .recvPacket m := by
  obtain ⟨proof, -, h⟩ := Prog.leaf_bind_ok.mp h
  obtain ⟨proofBytes, -, h⟩ := Prog.leaf_bind_ok.mp h
  exact ⟨_, ⟨rfl, rfl⟩, (Msg.toAny_returns h).1⟩

/-- An acknowledgement has the packet, the bytes and the height it was made for. -/
theorem constructAckMessage_returns {source sink : IbcProvider S} {packet : Packet} {ack : Bytes}
    {t : Height} {a : Any} (h : (constructAckMessage source sink packet ack t).Leaf A (.ok a)) :
    ∃ m : MsgAcknowledgement, (m.packet = packet ∧ m.acknowledgement = ack ∧
      m.proofs.height = t) ∧ a.msg = .acknowledgement m := by
  obtain ⟨proof, -, h⟩ := Prog.leaf_bind_ok.mp h
  obtain ⟨proofBytes, -, h⟩ := Prog.leaf_bind_ok.mp h
  exact ⟨_, ⟨rfl, rfl, rfl⟩, (Msg.toAny_returns h).1⟩

end HyperspaceLight
