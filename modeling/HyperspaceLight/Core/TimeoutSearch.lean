/-
# Where the search for a timeout proof starts, and what it finds

`get_timeout_proof_height` of `src/core/packets/utils.rs`, for a source and a sink
that answer every query (`CreationQueries`, `ConsensusAnswers`).

A packet has timed out at a height that has reached its timeout height, or at one
whose time has reached its timeout timestamp (`TimedOutAt`); either is enough.  The
function wants both.  It gives up on a packet without a timeout height, it looks for a
height at or above the timeout height whose time has reached the timestamp, and it
starts at the height at which the timestamp is expected.  For that it subtracts the
time at the packet's creation from the timestamp, and a timestamp that is absent is
the number zero (`timeoutSearch_start_iff`).  What it finds is otherwise what the
search for a timestamp finds (`timeoutSearch_finds_iff`).

`query_maximum_height_for_timeout_proofs` of `src/primitives/funcs.rs` derives the
same period with a subtraction that saturates (`timeoutHeightEstimate_of_le`).
-/

import HyperspaceLight.Core.PacketUtils
import HyperspaceLight.Primitives.HeightSearch

namespace HyperspaceLight

open Interaction Bisection

/-! ### The other estimate -/

section Maximum

variable {S : Sig}

/-- The height after which a timeout of `sendPacket` can be proved, as
`query_maximum_height_for_timeout_proofs` estimates it. -/
def timeoutHeightEstimate (sendPacket : PacketInfo) (timestampAtCreation : ℕ)
    (expectedBlockTime : Duration) : ℕ :=
  -- `saturating_sub`
  let period := sendPacket.timeoutTimestamp - timestampAtCreation
  if period = 0 then sendPacket.timeoutHeight.revisionHeight
  else
    -- `saturating_add`
    let approxHeight := min (calculateBlockDelay period expectedBlockTime + 1) (u64Bound - 1)
    if sendPacket.timeoutHeight.revisionHeight < approxHeight then
      sendPacket.timeoutHeight.revisionHeight
    else approxHeight

/-- A timestamp that is absent, or not after the creation, leaves the timeout height. -/
theorem timeoutHeightEstimate_of_le {sendPacket : PacketInfo} {timestampAtCreation : ℕ}
    {expectedBlockTime : Duration} (h : sendPacket.timeoutTimestamp ≤ timestampAtCreation) :
    timeoutHeightEstimate sendPacket timestampAtCreation expectedBlockTime =
      sendPacket.timeoutHeight.revisionHeight := by
  have hperiod : sendPacket.timeoutTimestamp - timestampAtCreation = 0 := Nat.sub_eq_zero_of_le h
  simp only [timeoutHeightEstimate, hperiod, if_true]

/-- `Option<u64>::max` with a value. -/
def optionMax : Option ℕ → ℕ → Option ℕ
  | none, b => some b
  | some a, b => some (max a b)

/-- The body of `query_maximum_height_for_timeout_proofs`; an error stands for the
early return of `None`. -/
def maximumHeightForTimeoutProofs (source sink : IbcProvider S) :
    Prog S Error (Option ℕ) := do
  let (sourceHeight, _) ← source.latestHeightAndTimestamp
  let (sinkHeight, _) ← sink.latestHeightAndTimestamp
  source.channelWhitelist.foldlM (fun minTimeoutHeight (channel, portId) => do
    let undeliveredSequences ←
      queryUndeliveredSequences sourceHeight sinkHeight channel portId source sink
    let sendPackets ← source.querySendPackets channel portId undeliveredSequences
    sendPackets.foldlM (fun minTimeoutHeight sendPacket => do
      let sinkClientState ← source.queryClientState sourceHeight sink.clientId
      let raw ← .okOr (.custom "None") sinkClientState.value
      let sinkClientState ← raw.tryFrom
      let height := sinkClientState.latestHeight
      let timestampAtCreation ← sink.queryTimestampAt height.revisionHeight
      return optionMax minTimeoutHeight
        (timeoutHeightEstimate sendPacket timestampAtCreation sink.expectedBlockTime))
      minTimeoutHeight) none

/-- `query_maximum_height_for_timeout_proofs`. -/
def queryMaximumHeightForTimeoutProofs (source sink : IbcProvider S) :
    Prog S Error (Option ℕ) := do
  match ← (maximumHeightForTimeoutProofs source sink).attempt with
  | .ok minTimeoutHeight => return minTimeoutHeight
  | .error _ => return none

end Maximum

section Start

variable {S : Sig} {source sink : IbcProvider S}
  {sourceHeight sinkHeight clientHeight latest : Height} {sinkTimestamp : Timestamp}
  {packet : Packet} {created createdTime : ℕ} {timeoutHeight : Height}

/-- The two queries about the sink's client at the packet's creation succeed: it was at
`clientHeight`, and the time of the sink there was `createdTime`. -/
structure CreationQueries (source sink : IbcProvider S) (sourceHeight : Height) (created : ℕ)
    (clientHeight : Height) (createdTime : ℕ) : Prop where
  created_pos : 0 < created
  clientState : ∀ creation : Height, creation.revisionNumber = sourceHeight.revisionNumber →
    creation.revisionHeight = created → ∃ response,
      source.queryClientState creation sink.clientId = pure response ∧
        response.value = some (.ok ⟨clientHeight⟩)
  timestampAt : sink.queryTimestampAt clientHeight.revisionHeight = pure createdTime

/-- The height at which the timestamp of a packet is expected. -/
def expectedHeight (clientHeight : Height) (createdTime : ℕ) (expectedBlockTime : Duration)
    (packet : Packet) : ℕ :=
  clientHeight.revisionHeight +
    (calculateBlockDelay (packet.timeoutTimestamp.nanoseconds - createdTime) expectedBlockTime - 1)

/-- A returned value is caught as one. -/
theorem attempt_pure {α : Type} (a : α) :
    (pure a : Prog S Error α).attempt = pure (.ok a) := rfl

/-- A packet without a timeout height has no proof height. -/
theorem getTimeoutProofHeight_never (h : packet.timeoutHeight = .never) :
    getTimeoutProofHeight source sink sourceHeight sinkHeight sinkTimestamp latest packet created =
      pure none := by
  unfold getTimeoutProofHeight
  rw [h]

/-- **The start of the search, step by step.** -/
theorem getTimeoutProofHeight_atHeight
    (hq : CreationQueries source sink sourceHeight created clientHeight createdTime)
    (h : packet.timeoutHeight = .atHeight timeoutHeight) :
    getTimeoutProofHeight source sink sourceHeight sinkHeight sinkTimestamp latest packet created =
      (do
        let period ← u64Sub packet.timeoutTimestamp.nanoseconds createdTime
        let approxHeight ← u64Add clientHeight.revisionHeight
          (calculateBlockDelay period sink.expectedBlockTime - 1)
        let startHeight ← timeoutSearchStart timeoutHeight approxHeight
        findSuitableProofHeightForClient source sourceHeight sink.clientId startHeight
          (some packet.timeoutTimestamp) latest) := by
  have hcreated : Height.new sourceHeight.revisionNumber created =
      some ⟨sourceHeight.revisionNumber, created, hq.created_pos⟩ :=
    Height.new_eq_some.mpr ⟨rfl, rfl⟩
  obtain ⟨response, hresponse, hvalue⟩ :=
    hq.clientState ⟨sourceHeight.revisionNumber, created, hq.created_pos⟩ rfl rfl
  unfold getTimeoutProofHeight
  simp only [h, hcreated, Prog.expect, Prog.done_ok_bind]
  rw [hresponse, attempt_pure, Prog.pure_bind']
  simp only [hvalue, Prog.done_ok_bind, hq.timestampAt, attempt_pure, Prog.pure_bind']

/-- Where the search starts, if the timestamp is not before the packet's creation. -/
def timeoutStart (timeoutHeight : Height) (expected : ℕ) : Height :=
  ⟨timeoutHeight.revisionNumber, max timeoutHeight.revisionHeight expected,
    timeoutHeight.pos.trans_le (le_max_left _ _)⟩

/-- The start of the search is `timeoutStart`: neither height is zero. -/
theorem timeoutSearchStart_eq (expected : ℕ) :
    (timeoutSearchStart timeoutHeight expected : Prog S Error Height) =
      pure (timeoutStart timeoutHeight expected) := by
  unfold timeoutSearchStart
  by_cases hlt : expected < timeoutHeight.revisionHeight
  · have hstart : timeoutStart timeoutHeight expected = timeoutHeight :=
      Height.ext rfl (max_eq_left hlt.le)
    rw [if_pos hlt, hstart]
  · have hstart : Height.new timeoutHeight.revisionNumber expected =
        some (timeoutStart timeoutHeight expected) :=
      Height.new_eq_some.mpr ⟨rfl, max_eq_right (not_lt.mp hlt)⟩
    rw [if_neg hlt, hstart]
    rfl

/-- **The start of the search.**  A timestamp before the packet's creation ends it with
a panic; otherwise it is the timeout height or the expected height, whichever is
higher. -/
theorem getTimeoutProofHeight_eq
    (hq : CreationQueries source sink sourceHeight created clientHeight createdTime)
    (h : packet.timeoutHeight = .atHeight timeoutHeight) :
    getTimeoutProofHeight source sink sourceHeight sinkHeight sinkTimestamp latest packet created =
      if packet.timeoutTimestamp.nanoseconds < createdTime then
        .panic "attempt to subtract with overflow"
      else if u64Bound ≤ expectedHeight clientHeight createdTime sink.expectedBlockTime packet then
        .panic "attempt to add with overflow"
      else
        findSuitableProofHeightForClient source sourceHeight sink.clientId
          (timeoutStart timeoutHeight
            (expectedHeight clientHeight createdTime sink.expectedBlockTime packet))
          (some packet.timeoutTimestamp) latest := by
  rw [getTimeoutProofHeight_atHeight hq h]
  by_cases hperiod : packet.timeoutTimestamp.nanoseconds < createdTime
  · rw [if_pos hperiod, u64Sub, if_neg (not_le.mpr hperiod)]
    rfl
  rw [if_neg hperiod, u64Sub, if_pos (not_lt.mp hperiod), Prog.pure_bind']
  set expected := expectedHeight clientHeight createdTime sink.expectedBlockTime packet
  by_cases hsum : u64Bound ≤ expected
  · have hadd : (u64Add clientHeight.revisionHeight (calculateBlockDelay
        (packet.timeoutTimestamp.nanoseconds - createdTime) sink.expectedBlockTime - 1) :
          Prog S Error ℕ) = .panic "attempt to add with overflow" := if_neg (not_lt.mpr hsum)
    rw [if_pos hsum, hadd]
    rfl
  · have hadd : (u64Add clientHeight.revisionHeight (calculateBlockDelay
        (packet.timeoutTimestamp.nanoseconds - createdTime) sink.expectedBlockTime - 1) :
          Prog S Error ℕ) = pure expected := if_pos (not_le.mp hsum)
    rw [if_neg hsum, hadd, Prog.pure_bind', timeoutSearchStart_eq, Prog.pure_bind']

/-- A search never underflows, whatever the chain answers. -/
theorem timestampSearch_ne_underflow {chain : IbcProvider S} {h : Height} {clientId : ClientId}
    {ans : ConsensusAnswer} (hans : ConsensusAnswers chain h clientId ans) (start : Height)
    (target : Timestamp) :
    findSuitableProofHeightForClient chain h clientId start (some target) latest ≠
      .panic "attempt to subtract with overflow" := by
  intro heq
  have hsearch := (bisectSearch_eq hans start latest).symm.trans heq
  split at hsearch
  · exact absurd (Outcome.panic.inj (Prog.done.inj hsearch)) (by decide)
  · cases hsearch

/-- **When the start of the search is computed without wrapping**: the timeout timestamp
is not before the sink's time at the height its client had when the packet was
created.  An absent timestamp is the number zero, and always is. -/
theorem timeoutSearch_start_iff {ans : ConsensusAnswer}
    (hq : CreationQueries source sink sourceHeight created clientHeight createdTime)
    (hans : ConsensusAnswers source sourceHeight sink.clientId ans)
    (hclient : clientHeight.revisionHeight < u64Bound)
    (h : packet.timeoutHeight = .atHeight timeoutHeight) :
    (getTimeoutProofHeight source sink sourceHeight sinkHeight sinkTimestamp latest packet created ≠
        .panic "attempt to subtract with overflow" ∧
      (packet.timeoutTimestamp.nanoseconds ≤ createdTime → ∃ start : Height,
        start.revisionNumber = timeoutHeight.revisionNumber ∧
        max timeoutHeight.revisionHeight clientHeight.revisionHeight ≤ start.revisionHeight ∧
        start.revisionHeight ≤ max timeoutHeight.revisionHeight clientHeight.revisionHeight + 1 ∧
        getTimeoutProofHeight source sink sourceHeight sinkHeight sinkTimestamp latest packet
            created =
          findSuitableProofHeightForClient source sourceHeight sink.clientId start
            (some packet.timeoutTimestamp) latest)) ↔
      createdTime ≤ packet.timeoutTimestamp.nanoseconds := by
  rw [getTimeoutProofHeight_eq hq h]
  constructor
  · rintro ⟨hne, -⟩
    by_contra hlt
    exact hne (if_pos (not_le.mp hlt))
  · intro hle
    rw [if_neg (not_lt.mpr hle)]
    constructor
    · split_ifs
      · exact fun heq => absurd (Outcome.panic.inj (Prog.done.inj heq)) (by decide)
      · exact timestampSearch_ne_underflow hans _ _
    · intro hge
      -- the period is zero, and so is the number of blocks
      have hexpected : expectedHeight clientHeight createdTime sink.expectedBlockTime packet =
          clientHeight.revisionHeight := by
        rw [expectedHeight, Nat.sub_eq_zero_of_le hge, calculateBlockDelay_zero]
        rfl
      rw [hexpected, if_neg (not_le.mpr hclient)]
      exact ⟨timeoutStart timeoutHeight clientHeight.revisionHeight, rfl, le_rfl, Nat.le_succ _,
        rfl⟩

/-! ### Packets that have timed out -/

/-- The packet has timed out at `t` by the rule of ICS-4: `t` has reached the timeout
height where one is set, or the time at `t` has reached the timeout timestamp where one
is set. -/
def TimedOutAt (ans : ConsensusAnswer) (packet : Packet) (t : Height) : Prop :=
  (∃ timeoutHeight, packet.timeoutHeight = .atHeight timeoutHeight ∧ timeoutHeight ≤ t) ∨
    (0 < packet.timeoutTimestamp.nanoseconds ∧
      ∃ n, HasTime ans t n ∧ packet.timeoutTimestamp.nanoseconds ≤ n)

/-- The condition under which a proof height is found: a timeout height is set, the
timestamp is not before the packet's creation, and from the start of the search on there
is a height whose time has reached the timestamp and that the search finds. -/
structure ProofHeightFound (packet : Packet) (clientHeight latest : Height) (createdTime : ℕ)
    (expectedBlockTime : Duration) (times : ℕ → ℕ) (timeoutHeight : Height) : Prop where
  isSet : packet.timeoutHeight = .atHeight timeoutHeight
  created_le : createdTime ≤ packet.timeoutTimestamp.nanoseconds
  expected_lt : expectedHeight clientHeight createdTime expectedBlockTime packet < u64Bound
  late : ∃ k, max timeoutHeight.revisionHeight
      (expectedHeight clientHeight createdTime expectedBlockTime packet) ≤ k ∧
    k ≤ latest.revisionHeight ∧ packet.timeoutTimestamp.nanoseconds ≤ times k
  finds : FindsLate times packet.timeoutTimestamp.nanoseconds (max timeoutHeight.revisionHeight
    (expectedHeight clientHeight createdTime expectedBlockTime packet)) latest.revisionHeight

/-- **The proof height, on the stored times.**  It is the first height from the start of the
search on whose time has reached the timestamp. -/
theorem getTimeoutProofHeight_eq_some_iff {ans : ConsensusAnswer} {times : ℕ → ℕ} {t : Height}
    (hq : CreationQueries source sink sourceHeight created clientHeight createdTime)
    (hans : ConsensusAnswers source sourceHeight sink.clientId ans)
    (hstore : ConsensusStore ans timeoutHeight.revisionNumber clientHeight.revisionHeight
      latest.revisionHeight times)
    (h : packet.timeoutHeight = .atHeight timeoutHeight) :
    getTimeoutProofHeight source sink sourceHeight sinkHeight sinkTimestamp latest packet
        created = pure (some t) ↔
      ProofHeightFound packet clientHeight latest createdTime sink.expectedBlockTime times
          timeoutHeight ∧
        t.revisionNumber = timeoutHeight.revisionNumber ∧
        FirstLate times packet.timeoutTimestamp.nanoseconds (max timeoutHeight.revisionHeight
          (expectedHeight clientHeight createdTime sink.expectedBlockTime packet))
          t.revisionHeight := by
  rw [getTimeoutProofHeight_eq hq h]
  by_cases hperiod : packet.timeoutTimestamp.nanoseconds < createdTime
  · rw [if_pos hperiod]
    exact iff_of_false (fun ht => by cases ht) fun hf => absurd hf.1.created_le (by omega)
  rw [if_neg hperiod]
  by_cases hsum : u64Bound ≤ expectedHeight clientHeight createdTime sink.expectedBlockTime packet
  · rw [if_pos hsum]
    exact iff_of_false (fun ht => by cases ht) fun hf => absurd hf.1.expected_lt (by omega)
  rw [if_neg hsum]
  have hstart : ConsensusStore ans timeoutHeight.revisionNumber
      (timeoutStart timeoutHeight (expectedHeight clientHeight createdTime sink.expectedBlockTime
        packet)).revisionHeight latest.revisionHeight times := by
    have hle : clientHeight.revisionHeight ≤ max timeoutHeight.revisionHeight
        (expectedHeight clientHeight createdTime sink.expectedBlockTime packet) :=
      (Nat.le_add_right _ _).trans (le_max_right _ _)
    exact ⟨fun t hrn hlo hhi => hstore.time t hrn (hle.trans hlo) hhi,
      fun i j hi => hstore.mono i j (hle.trans hi)⟩
  refine (timestampSearch_firstLate_iff hans hstart).trans ?_
  constructor
  · rintro ⟨hrn, hfirst, hle, hfinds⟩
    exact ⟨⟨h, not_lt.mp hperiod, not_le.mp hsum, ⟨_, hfirst.lower, hle, hfirst.late⟩, hfinds⟩,
      hrn, hfirst⟩
  · rintro ⟨hf, hrn, hfirst⟩
    obtain ⟨k, hk, hkl, hlate⟩ := hf.late
    obtain ⟨first, hfirst', hfk⟩ := exists_firstLate hk hlate
    obtain rfl := hfirst.unique hfirst'
    exact ⟨hrn, hfirst, hfk.trans hkl, hf.finds⟩

/-- When there is a proof height. -/
theorem getTimeoutProofHeight_some_iff {ans : ConsensusAnswer} {times : ℕ → ℕ}
    (hq : CreationQueries source sink sourceHeight created clientHeight createdTime)
    (hans : ConsensusAnswers source sourceHeight sink.clientId ans)
    (hstore : ConsensusStore ans timeoutHeight.revisionNumber clientHeight.revisionHeight
      latest.revisionHeight times)
    (h : packet.timeoutHeight = .atHeight timeoutHeight) :
    (∃ t, getTimeoutProofHeight source sink sourceHeight sinkHeight sinkTimestamp latest packet
        created = pure (some t)) ↔
      ProofHeightFound packet clientHeight latest createdTime sink.expectedBlockTime times
        timeoutHeight := by
  simp only [getTimeoutProofHeight_eq_some_iff hq hans hstore h]
  constructor
  · rintro ⟨t, hf, -⟩
    exact hf
  · intro hf
    obtain ⟨k, hk, -, hlate⟩ := hf.late
    obtain ⟨first, hfirst, -⟩ := exists_firstLate hk hlate
    have hpos : 0 < first := timeoutHeight.pos.trans_le ((le_max_left _ _).trans hfirst.lower)
    exact ⟨⟨timeoutHeight.revisionNumber, first, hpos⟩, hf, rfl, hfirst⟩

/-- **When a packet that has timed out gets a proof height.**  The packet may have a
timeout height, a timeout timestamp or both, and the store of the sink's client on the
source has a consensus state at each height from the packet's creation on, of the
revision the search looks in.  Then a height at which the packet has timed out is
returned exactly under the condition of `ProofHeightFound`. -/
theorem timeoutSearch_finds_iff {ans : ConsensusAnswer} {times : ℕ → ℕ}
    (hq : CreationQueries source sink sourceHeight created clientHeight createdTime)
    (hans : ConsensusAnswers source sourceHeight sink.clientId ans)
    (hstore : ∀ timeoutHeight, packet.timeoutHeight = .atHeight timeoutHeight →
      ConsensusStore ans timeoutHeight.revisionNumber clientHeight.revisionHeight
        latest.revisionHeight times) :
    (TimedOutAt ans packet latest →
        ∃ t, getTimeoutProofHeight source sink sourceHeight sinkHeight sinkTimestamp latest packet
            created = pure (some t) ∧ TimedOutAt ans packet t) ↔
      (TimedOutAt ans packet latest →
        ∃ timeoutHeight, ProofHeightFound packet clientHeight latest createdTime
          sink.expectedBlockTime times timeoutHeight) := by
  refine imp_congr_right fun _ => ?_
  constructor
  · rintro ⟨t, ht, -⟩
    cases hth : packet.timeoutHeight with
    | never =>
        rw [getTimeoutProofHeight_never hth] at ht
        cases ht
    | atHeight timeoutHeight =>
        exact ⟨timeoutHeight,
          (getTimeoutProofHeight_some_iff hq hans (hstore _ hth) hth).mp ⟨t, ht⟩⟩
  · rintro ⟨timeoutHeight, hf⟩
    have hth := hf.isSet
    obtain ⟨t, ht⟩ := (getTimeoutProofHeight_some_iff hq hans (hstore _ hth) hth).mpr hf
    refine ⟨t, ht, .inl ?_⟩
    -- what is found is at or above the timeout height
    obtain ⟨timeoutHeight', hth', hle, -⟩ := getTimeoutProofHeight_some
      (show (getTimeoutProofHeight source sink sourceHeight sinkHeight sinkTimestamp latest packet
        created).Leaf (fun _ _ => True) (.ok (some t)) by rw [ht]; rfl)
    exact ⟨timeoutHeight', hth', hle⟩

end Start

/-! ### A source whose client of the sink was at height 30 -/

/-- The store of a block a nanosecond, and a client that was at height 30 when the
packets were sent. -/
def estimateSource : IbcProvider Static :=
  { storedChain steadyStore with
    queryClientState := fun _ _ => pure (proven (some (.ok ⟨height0 30⟩))) }

/-- A sink with a block a nanosecond. -/
def estimateSink : IbcProvider Static :=
  { (Chain.unavailable (chainInfo "sink") : Chain Static).toIbcProvider with
    expectedBlockTime := 1
    queryTimestampAt := fun n => pure n }

/-- A packet of `channel-0` with the given timeouts. -/
def timeoutPacket (timeoutHeight : TimeoutHeight) (timeoutTimestamp : ℕ) : Packet where
  sequence := 1
  sourcePort := transferPort
  sourceChannel := channel0
  destinationPort := transferPort
  destinationChannel := channel0
  data := utf8 "data"
  timeoutHeight
  timeoutTimestamp := .fromNanoseconds timeoutTimestamp

/-- The example source answers about the client at the packet's creation. -/
theorem estimateSource_queries :
    CreationQueries estimateSource estimateSink (height0 100) 20 (height0 30) 30 where
  created_pos := by decide
  clientState _ _ _ := ⟨_, rfl, rfl⟩
  timestampAt := rfl

/-- The example source answers about the consensus states of the client. -/
theorem estimateSource_answers :
    ConsensusAnswers estimateSource (height0 100) estimateSink.clientId steadyStore := fun _ => rfl

/-- A packet with both timeouts, ten blocks after its creation. -/
def bothTimeouts : Packet := timeoutPacket (.atHeight (height0 35)) 40

/-- The start of the search for it. -/
theorem estimateSource_start_iff :
    (getTimeoutProofHeight estimateSource estimateSink (height0 100) (height0 50)
          (.fromNanoseconds 50) (height0 48) bothTimeouts 20 ≠
        .panic "attempt to subtract with overflow" ∧
      (bothTimeouts.timeoutTimestamp.nanoseconds ≤ 30 → ∃ start : Height,
        start.revisionNumber = (height0 35).revisionNumber ∧
        max (height0 35).revisionHeight (height0 30).revisionHeight ≤ start.revisionHeight ∧
        start.revisionHeight ≤ max (height0 35).revisionHeight (height0 30).revisionHeight + 1 ∧
        getTimeoutProofHeight estimateSource estimateSink (height0 100) (height0 50)
            (.fromNanoseconds 50) (height0 48) bothTimeouts 20 =
          findSuitableProofHeightForClient estimateSource (height0 100) estimateSink.clientId start
            (some bothTimeouts.timeoutTimestamp) (height0 48))) ↔
      30 ≤ bothTimeouts.timeoutTimestamp.nanoseconds :=
  timeoutSearch_start_iff estimateSource_queries estimateSource_answers (by decide) rfl

/-- **A packet with a timeout height only ends the search with a panic.** -/
theorem estimateSource_underflow :
    CreationQueries estimateSource estimateSink (height0 100) 20 (height0 30) 30 ∧
      ConsensusAnswers estimateSource (height0 100) estimateSink.clientId steadyStore ∧
      getTimeoutProofHeight estimateSource estimateSink (height0 100) (height0 50)
          (.fromNanoseconds 50) (height0 48) (timeoutPacket (.atHeight (height0 45)) 0) 20 =
        .panic "attempt to subtract with overflow" :=
  ⟨estimateSource_queries, estimateSource_answers, rfl⟩

/-- A packet with both timeouts is found once its condition holds. -/
theorem estimateSource_finds_iff :
    (TimedOutAt steadyStore bothTimeouts (height0 48) →
        ∃ t, getTimeoutProofHeight estimateSource estimateSink (height0 100) (height0 50)
            (.fromNanoseconds 50) (height0 48) bothTimeouts 20 =
              pure (some t) ∧
          TimedOutAt steadyStore bothTimeouts t) ↔
      (TimedOutAt steadyStore bothTimeouts (height0 48) →
        ∃ timeoutHeight, ProofHeightFound bothTimeouts (height0 30)
          (height0 48) 30 1 id timeoutHeight) :=
  timeoutSearch_finds_iff estimateSource_queries estimateSource_answers fun timeoutHeight h => by
    obtain rfl := TimeoutHeight.atHeight.inj h
    exact steadyStore_store 30 48

/-- **A packet with a timestamp only is never found.**  At height 48 the time has
passed its timestamp, and there is no proof height. -/
theorem estimateSource_never_found :
    CreationQueries estimateSource estimateSink (height0 100) 20 (height0 30) 30 ∧
      ConsensusAnswers estimateSource (height0 100) estimateSink.clientId steadyStore ∧
      ConsensusStore steadyStore 0 30 48 id ∧
      TimedOutAt steadyStore (timeoutPacket .never 40) (height0 48) ∧
      getTimeoutProofHeight estimateSource estimateSink (height0 100) (height0 50)
        (.fromNanoseconds 50) (height0 48) (timeoutPacket .never 40) 20 = pure none :=
  ⟨estimateSource_queries, estimateSource_answers, steadyStore_store 30 48,
    .inr ⟨by decide, 48, steadyStore_hasTime (height0 48), by decide⟩, rfl⟩

end HyperspaceLight
