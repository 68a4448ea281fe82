/-
# Which answers abort the query for pending packets

`query_ready_and_timed_out_packets` of `src/core/packets.rs` follows each undelivered packet
and acknowledgement through the functions of `src/core/packets/utils.rs`.  Most queries that
fail are an error or skip the packet.  Some answers abort: a proof that is missing or empty
where a message is built (`FatalProof`), a client state that is absent where a timeout is
searched (`FatalTimeoutSearch`), and numbers whose sum or difference is not a `u64`.  The
function aborts exactly if its loops reach a packet with such an answer
(`queryReadyAndTimedOutPackets_aborts_iff`).
-/

import HyperspaceLight.Core.ReadyPackets
import HyperspaceLight.Core.TimeoutSearch
import HyperspaceLight.Primitives.Answering

namespace HyperspaceLight

open Interaction

variable {S : Sig} {A : (o : S.Op) → Except Error (S.Res o) → Prop}

/-! ### The search for a height -/

section Search

/-- The height in the middle of a range that is still long enough to be halved. -/
structure Midpoint (rn start stop : ℕ) (mid : Height) : Prop where
  gap : 1 < stop - start
  fits : stop + start < u64Bound
  height : Height.new rn ((stop + start) / 2) = some mid

/-- **The bisection comes to bounds whose sum is not a `u64`**, by the answers to the probes
before. -/
inductive SumOverflows (A : (o : S.Op) → Except Error (S.Res o) → Prop) (chain : IbcProvider S)
    (h : Height) (clientId : ClientId) (rn : ℕ) (target : Timestamp) : ℕ → ℕ → Prop
  | now {start stop : ℕ} (hgap : 1 < stop - start) (hsum : u64Bound ≤ stop + start) :
      SumOverflows A chain h clientId rn target start stop
  | missing {start stop : ℕ} {mid : Height} {e : Error} (hmid : Midpoint rn start stop mid)
      (hanswer : (chain.queryClientConsensus h clientId mid).Leaf A (.err e))
      (hrest : SumOverflows A chain h clientId rn target (start + 1) stop) :
      SumOverflows A chain h clientId rn target start stop
  | early {start stop : ℕ} {mid : Height} {r : QueryConsensusStateResponse} {time : Timestamp}
      (hmid : Midpoint rn start stop mid)
      (hanswer : (chain.queryClientConsensus h clientId mid).Leaf A (.ok r))
      (htime : consensusTime r = some time) (hlt : time.nanoseconds < target.nanoseconds)
      (hrest : SumOverflows A chain h clientId rn target (mid.revisionHeight + 1) stop) :
      SumOverflows A chain h clientId rn target start stop
  | late {start stop : ℕ} {mid : Height} {r : QueryConsensusStateResponse} {time : Timestamp}
      (hmid : Midpoint rn start stop mid)
      (hanswer : (chain.queryClientConsensus h clientId mid).Leaf A (.ok r))
      (htime : consensusTime r = some time) (hle : target.nanoseconds ≤ time.nanoseconds)
      (hrest : SumOverflows A chain h clientId rn target start mid.revisionHeight) :
      SumOverflows A chain h clientId rn target start stop

variable {chain : IbcProvider S} {h : Height} {clientId : ClientId} {rn : ℕ} {target : Timestamp}

/-- The walk upwards never aborts: its heights are not zero. -/
theorem linearSearch_aborts (hchain : Answering A chain) {n height : ℕ} (hpos : 0 < height) :
    ¬(linearSearch chain h clientId rn n height).Aborts A := by
  induction n generalizing height with
  | zero => exact Prog.aborts_pure _
  | succ n ih =>
      have hnew : Height.new rn height = some ⟨rn, height, hpos⟩ := Height.new_eq_some.mpr ⟨rfl, rfl⟩
      simp only [linearSearch, hnew, Prog.expect, Prog.done_ok_bind, Prog.aborts_attempt_bind,
        hchain.queryClientConsensus, false_or, Prog.aborts_pure, and_false, exists_false, or_false]
      rintro ⟨_, -, habort⟩
      exact ih (Nat.succ_pos _) habort

/-- A range that cannot be halved is searched to its end. -/
theorem not_sumOverflows {start stop : ℕ} (hgap : stop - start ≤ 1) :
    ¬SumOverflows A chain h clientId rn target start stop := by
  intro hover
  cases hover with
  | now hgap' => omega
  | missing hmid => have := hmid.gap; omega
  | early hmid => have := hmid.gap; omega
  | late hmid => have := hmid.gap; omega

/-- What comes after the probe of a midpoint. -/
theorem sumOverflows_iff {start stop : ℕ} {mid : Height} (hmid : Midpoint rn start stop mid) :
    SumOverflows A chain h clientId rn target start stop ↔
      (∃ e, (chain.queryClientConsensus h clientId mid).Leaf A (.err e) ∧
        SumOverflows A chain h clientId rn target (start + 1) stop) ∨
      ∃ r, (chain.queryClientConsensus h clientId mid).Leaf A (.ok r) ∧
        ∃ time, consensusTime r = some time ∧
          (time.nanoseconds < target.nanoseconds ∧
            SumOverflows A chain h clientId rn target (mid.revisionHeight + 1) stop ∨
          target.nanoseconds ≤ time.nanoseconds ∧
            SumOverflows A chain h clientId rn target start mid.revisionHeight) := by
  have heq : ∀ {mid' : Height}, Midpoint rn start stop mid' → mid' = mid := fun hmid' =>
    Option.some.inj (hmid'.height.symm.trans hmid.height)
  constructor
  · intro hover
    cases hover with
    | now _ hsum => exact absurd hmid.fits (not_lt.mpr hsum)
    | missing hmid' hanswer hrest => exact .inl ⟨_, heq hmid' ▸ hanswer, hrest⟩
    | early hmid' hanswer htime hlt hrest =>
        obtain rfl := heq hmid'
        exact .inr ⟨_, hanswer, _, htime, .inl ⟨hlt, hrest⟩⟩
    | late hmid' hanswer htime hle hrest =>
        obtain rfl := heq hmid'
        exact .inr ⟨_, hanswer, _, htime, .inr ⟨hle, hrest⟩⟩
  · rintro (⟨e, hanswer, hrest⟩ | ⟨r, hanswer, time, htime, ⟨hlt, hrest⟩ | ⟨hle, hrest⟩⟩)
    · exact .missing hmid hanswer hrest
    · exact .early hmid hanswer htime hlt hrest
    · exact .late hmid hanswer htime hle hrest

/-- **The loop of the bisection**, with a round for each height, aborts only by a sum. -/
theorem bisectLoop_aborts_iff (hchain : Answering A chain) {fuel start stop : ℕ}
    (hfuel : stop - start < fuel) (hle : start ≤ stop) (hpos : 0 < start) {last : Option Height} :
    (bisectLoop chain h clientId rn target fuel start stop last).Aborts A ↔
      SumOverflows A chain h clientId rn target start stop := by
  induction fuel generalizing start stop last with
  | zero => omega
  | succ fuel ih =>
      have hgap : (u64Sub stop start : Prog S Error ℕ) = pure (stop - start) := if_pos hle
      rw [bisectLoop, hgap, Prog.pure_bind']
      by_cases hend : stop - start ≤ 1
      · rw [if_pos hend]
        exact iff_of_false (Prog.aborts_pure _) (not_sumOverflows hend)
      rw [if_neg hend]
      by_cases hsum : u64Bound ≤ stop + start
      · refine iff_of_true (Prog.aborts_bind.mpr (.inl (u64Add_aborts_iff.mpr hsum))) ?_
        exact .now (not_le.mp hend) hsum
      have hadd : (u64Add stop start : Prog S Error ℕ) = pure (stop + start) :=
        if_pos (not_le.mp hsum)
      have hmidpos : 0 < (stop + start) / 2 := by omega
      have hnew : Height.new rn ((stop + start) / 2) = some ⟨rn, (stop + start) / 2, hmidpos⟩ :=
        Height.new_eq_some.mpr ⟨rfl, rfl⟩
      have hmid : Midpoint rn start stop ⟨rn, (stop + start) / 2, hmidpos⟩ :=
        ⟨not_le.mp hend, not_le.mp hsum, hnew⟩
      simp only [hadd, Prog.pure_bind', hnew, Prog.expect, Prog.done_ok_bind,
        Prog.aborts_attempt_bind, hchain.queryClientConsensus, false_or]
      rw [sumOverflows_iff hmid]
      refine or_congr (exists_congr fun e => and_congr_right fun _ => ?_)
        (exists_congr fun r => and_congr_right fun _ => ?_)
      · exact ih (by omega) (by omega) (by omega)
      · cases htime : consensusTime r with
        | none => simp
        | some time =>
            simp only [Option.some.injEq, exists_eq_left']
            by_cases hlt : time.nanoseconds < target.nanoseconds
            · rw [if_pos hlt, ih (by omega) (by omega) (by omega)]
              simp [hlt, not_le.mpr hlt]
            · rw [if_neg hlt, ih (by omega) (by omega) hpos]
              simp [hlt, not_lt.mp hlt]

/-- **The bisecting search** aborts where its loop does. -/
theorem bisectSearch_aborts_iff (hchain : Answering A chain) {start latest : Height} :
    (bisectSearch chain h clientId start target latest).Aborts A ↔
      SumOverflows A chain h clientId start.revisionNumber target start.revisionHeight
        latest.revisionHeight := by
  unfold bisectSearch
  dsimp only
  by_cases hlt : latest.revisionHeight < start.revisionHeight
  · rw [if_pos hlt]
    exact iff_of_false (Prog.aborts_pure _) (not_sumOverflows (by omega))
  rw [if_neg hlt, Prog.aborts_bind,
    bisectLoop_aborts_iff hchain (Nat.lt_succ_self _) (not_lt.mp hlt) start.pos]
  refine or_iff_left ?_
  rintro ⟨_ | ⟨start', last⟩, hloop, habort⟩
  · exact Prog.aborts_pure _ habort
  · -- the bound that the loop ends at is not zero
    obtain ⟨⟨hge, -⟩, -⟩ := bisectLoop_some (not_lt.mp hlt) hloop
    have hnew : Height.new start.revisionNumber start' =
        some ⟨start.revisionNumber, start', start.pos.trans_le hge⟩ :=
      Height.new_eq_some.mpr ⟨rfl, rfl⟩
    simp only [hnew, Prog.expect, Prog.done_ok_bind, Prog.aborts_attempt_bind,
      hchain.queryClientConsensus, false_or, Prog.aborts_pure, and_false, exists_false] at habort
    obtain ⟨r, -, habort⟩ := habort
    cases htime : consensusTime r with
    | none => simp [htime] at habort
    | some time =>
        simp only [htime] at habort
        exact Prog.aborts_ite_pure _ _ habort

end Search

/-! ### What the loops ask about a packet -/

section Packet

/-- The delay after an update is over, and the height that it ends at is not a `u64`. -/
structure DelayOverflows (now : Timestamp) (updateTime : Time) (updateHeight : Height)
    (delay : Duration) (blocks : ℕ) : Prop where
  time_reached : ∃ earliest, (Timestamp.ofTime updateTime).add delay = some earliest ∧
    (now = earliest ∨ now.after earliest = true)
  sum : u64Bound ≤ updateHeight.revisionHeight + blocks

/-- The answer about the update at `t` whose delay overflows. -/
def FatalUpdate (A : (o : S.Op) → Except Error (S.Res o) → Prop) (chain : IbcProvider S)
    (clientId : ClientId) (now : Timestamp) (delay : Duration) (t : Height) : Prop :=
  ∃ updateHeight updateTime,
    (chain.queryClientUpdateTimeAndHeight clientId t).Leaf A (.ok (updateHeight, updateTime)) ∧
      DelayOverflows now updateTime updateHeight delay
        (calculateBlockDelay delay chain.expectedBlockTime)

/-- **A proof that is missing or empty** where a message is built from it. -/
def FatalProof (A : (o : S.Op) → Except Error (S.Res o) → Prop) (chain : IbcProvider S)
    (t : Height) (key : Bytes) : Prop :=
  (∃ e, (chain.queryProof t [key]).Leaf A (.err e)) ∨ (chain.queryProof t [key]).Leaf A (.ok [])

/-- **What aborts the search for a timeout height**, for a packet that was sent at the height
`created` of the source. -/
inductive FatalTimeoutSearch (A : (o : S.Op) → Except Error (S.Res o) → Prop)
    (source sink : IbcProvider S) (sourceHeight latest : Height) (packet : Packet) (created : ℕ) :
    Prop
  | noClientState {timeoutHeight creation : Height} {response : QueryClientStateResponse}
      (hth : packet.timeoutHeight = .atHeight timeoutHeight)
      (hcreation : Height.new sourceHeight.revisionNumber created = some creation)
      (hresponse : (source.queryClientState creation sink.clientId).Leaf A (.ok response))
      (hvalue : response.value = none) :
      FatalTimeoutSearch A source sink sourceHeight latest packet created
  | times {timeoutHeight creation : Height} {response : QueryClientStateResponse}
      {clientState : ClientState} {timestampAtCreation : ℕ}
      (hth : packet.timeoutHeight = .atHeight timeoutHeight)
      (hcreation : Height.new sourceHeight.revisionNumber created = some creation)
      (hresponse : (source.queryClientState creation sink.clientId).Leaf A (.ok response))
      (hvalue : response.value = some (.ok clientState))
      (htimestamp : (sink.queryTimestampAt clientState.latestHeight.revisionHeight).Leaf A
        (.ok timestampAtCreation))
      (hfatal :
        -- the packet times out before the sink's block that its client was at
        packet.timeoutTimestamp.nanoseconds < timestampAtCreation ∨
        -- the estimate of the sink's height is not a `u64`
        u64Bound ≤ clientState.latestHeight.revisionHeight + (calculateBlockDelay
          (packet.timeoutTimestamp.nanoseconds - timestampAtCreation) sink.expectedBlockTime - 1) ∨
        -- the search from the estimate comes to a sum that is not
        SumOverflows A source sourceHeight sink.clientId timeoutHeight.revisionNumber
          packet.timeoutTimestamp (max timeoutHeight.revisionHeight
            (clientState.latestHeight.revisionHeight + (calculateBlockDelay
              (packet.timeoutTimestamp.nanoseconds - timestampAtCreation)
              sink.expectedBlockTime - 1))) latest.revisionHeight) :
      FatalTimeoutSearch A source sink sourceHeight latest packet created

variable {chain source sink : IbcProvider S} {packet : Packet} {t : Height}

/-- **The delay check** panics where a sum leaves its type. -/
theorem hasDelayElapsed_aborts_iff {now : Timestamp} {nowHeight height : Height} {time : Time}
    {delay : Duration} {blocks : ℕ} :
    (hasDelayElapsed now nowHeight (.ofTime time) height delay blocks :
      Prog S Error Bool).Aborts A ↔ DelayOverflows now time height delay blocks := by
  rw [hasDelayElapsed, Prog.aborts_bind, or_iff_right (Prog.aborts_okOr _ _)]
  constructor
  · rintro ⟨earliest, hearliest, habort⟩
    split_ifs at habort with htime
    · exact absurd habort (Prog.aborts_pure _)
    · refine ⟨⟨earliest, Prog.leaf_okOr_ok.mp hearliest, by simpa [or_iff_not_imp_left] using htime⟩,
        ?_⟩
      exact Height.add_aborts_iff.mp
        ((Prog.aborts_bind_left fun _ => Prog.aborts_ite_pure _ _).mp habort)
  · rintro ⟨⟨earliest, hearliest, htime⟩, hsum⟩
    refine ⟨earliest, Prog.leaf_okOr_ok.mpr hearliest, ?_⟩
    rw [if_neg (by simpa [or_iff_not_imp_left] using htime)]
    exact Prog.aborts_bind.mpr (.inl (Height.add_aborts_iff.mpr hsum))

/-- **The check of a delay** aborts by the height that the delay ends at. -/
theorem verifyDelayOn_aborts_iff (hchain : Answering A chain) {clientId : ClientId}
    {now : Timestamp} {height : Height} {delay : Duration} :
    (verifyDelayOn chain clientId now height delay t).Aborts A ↔
      FatalUpdate A chain clientId now delay t := by
  rw [verifyDelayOn, Prog.aborts_attempt_bind,
    or_iff_right (hchain.queryClientUpdateTimeAndHeight clientId t)]
  simp only [Prog.aborts_pure, and_false, exists_false, false_or, Prod.exists, FatalUpdate]
  refine exists_congr fun updateHeight => exists_congr fun updateTime => and_congr_right fun _ => ?_
  exact (Prog.aborts_bind_left fun _ => Prog.aborts_ite_pure _ _).trans hasDelayElapsed_aborts_iff

/-- The search from the estimate of the sink's height at the timeout. -/
theorem estimatedSearch_aborts_iff (hsource : Answering A source) {clientId : ClientId}
    {sourceHeight timeoutHeight latest : Height} {target : Timestamp} {created height : ℕ}
    {blockTime : Duration} :
    (do
      let period ← u64Sub target.nanoseconds created
      let approxHeight ← u64Add height (calculateBlockDelay period blockTime - 1)
      let startHeight ← timeoutSearchStart timeoutHeight approxHeight
      findSuitableProofHeightForClient source sourceHeight clientId startHeight (some target)
        latest).Aborts A ↔
      target.nanoseconds < created ∨
        u64Bound ≤ height +
          (calculateBlockDelay (target.nanoseconds - created) blockTime - 1) ∨
        SumOverflows A source sourceHeight clientId timeoutHeight.revisionNumber target
          (max timeoutHeight.revisionHeight (height +
            (calculateBlockDelay (target.nanoseconds - created) blockTime - 1)))
          latest.revisionHeight := by
  by_cases hcreated : target.nanoseconds < created
  · exact iff_of_true (Prog.aborts_bind.mpr (.inl (u64Sub_aborts_iff.mpr hcreated))) (.inl hcreated)
  have hperiod : (u64Sub target.nanoseconds created : Prog S Error ℕ) =
      pure (target.nanoseconds - created) := if_pos (not_lt.mp hcreated)
  rw [hperiod, Prog.pure_bind', or_iff_right hcreated]
  by_cases hsum : u64Bound ≤ height +
      (calculateBlockDelay (target.nanoseconds - created) blockTime - 1)
  · exact iff_of_true (Prog.aborts_bind.mpr (.inl (u64Add_aborts_iff.mpr hsum))) (.inl hsum)
  have happrox : (u64Add height (calculateBlockDelay (target.nanoseconds - created) blockTime - 1) :
      Prog S Error ℕ) =
      pure (height + (calculateBlockDelay (target.nanoseconds - created) blockTime - 1)) :=
    if_pos (not_le.mp hsum)
  rw [happrox, Prog.pure_bind', or_iff_right hsum, timeoutSearchStart_eq, Prog.pure_bind']
  exact bisectSearch_aborts_iff hsource

/-- **The search for a timeout height** aborts where it takes an absent client state apart, or
by a number that is not a `u64`. -/
theorem getTimeoutProofHeight_aborts_iff (hsource : Answering A source) (hsink : Answering A sink)
    {sourceHeight sinkHeight latest : Height} {sinkTimestamp : Timestamp} {created : ℕ}
    (hcreated : 0 < created) :
    (getTimeoutProofHeight source sink sourceHeight sinkHeight sinkTimestamp latest packet
      created).Aborts A ↔ FatalTimeoutSearch A source sink sourceHeight latest packet created := by
  unfold getTimeoutProofHeight
  split
  next hth =>
    refine iff_of_false (Prog.aborts_pure _) fun hfatal => ?_
    cases hfatal with
    | noClientState hth' => cases hth.symm.trans hth'
    | times hth' => cases hth.symm.trans hth'
  next timeoutHeight hth =>
    have hcreation : Height.new sourceHeight.revisionNumber created =
        some ⟨sourceHeight.revisionNumber, created, hcreated⟩ := Height.new_eq_some.mpr ⟨rfl, rfl⟩
    rw [hcreation, Prog.expect, Prog.done_ok_bind, Prog.aborts_attempt_bind,
      or_iff_right (hsource.queryClientState _ _)]
    simp only [Prog.aborts_pure, and_false, exists_false, false_or]
    constructor
    · rintro ⟨response, hresponse, habort⟩
      cases hvalue : response.value with
      | none => exact .noClientState hth hcreation hresponse hvalue
      | some raw =>
          rw [hvalue, Prog.expect, Prog.done_ok_bind] at habort
          cases raw with
          | error e => exact absurd habort (Prog.aborts_pure _)
          | ok clientState =>
              rw [Prog.aborts_attempt_bind, or_iff_right (hsink.queryTimestampAt _)] at habort
              simp only [Prog.aborts_pure, and_false, exists_false, false_or] at habort
              obtain ⟨n, hn, habort⟩ := habort
              exact .times hth hcreation hresponse hvalue hn
                ((estimatedSearch_aborts_iff hsource).mp habort)
    · intro hfatal
      cases hfatal with
      | noClientState hth' hcreation' hresponse hvalue =>
          obtain rfl := Option.some.inj (hcreation.symm.trans hcreation')
          refine ⟨_, hresponse, ?_⟩
          rw [hvalue]
          exact Prog.aborts_panic _
      | times hth' hcreation' hresponse hvalue htimestamp hfatal =>
          obtain rfl := Option.some.inj (hcreation.symm.trans hcreation')
          obtain rfl := TimeoutHeight.atHeight.inj (hth.symm.trans hth')
          refine ⟨_, hresponse, ?_⟩
          rw [hvalue, Prog.expect, Prog.done_ok_bind, Prog.aborts_attempt_bind]
          exact .inr (.inr ⟨_, htimestamp, (estimatedSearch_aborts_iff hsource).mpr hfatal⟩)

/-- An unwrapped proof. -/
theorem unwrappedProof_aborts_iff (hchain : Answering A chain) {key : Bytes} {α : Type}
    {k : CommitmentProofBytes → Prog S Error α} (hk : ∀ proof, ¬(k proof).Aborts A)
    {missing empty : String} :
    ((chain.queryProof t [key]).unwrap missing >>= fun proof =>
      (CommitmentProofBytes.tryFrom proof).unwrap empty >>= k).Aborts A ↔
      FatalProof A chain t key := by
  simp only [Prog.aborts_bind, Prog.aborts_unwrap, hchain.queryProof, false_or, hk, and_false,
    exists_false, or_false, CommitmentProofBytes.aborts_tryFrom, Prog.leaf_unwrap_ok,
    CommitmentProofBytes.tryFrom_err_iff, exists_eq_right, FatalProof]

/-- **A received packet** panics on a fatal proof of its commitment. -/
theorem constructRecvMessage_aborts_iff [Crates] (hsource : Answering A source) :
    (constructRecvMessage source sink packet t).Aborts A ↔ FatalProof A source t
      (applyPrefix source.connectionPrefix.bytes (getKeyPath .commitmentPath packet)) :=
  unwrappedProof_aborts_iff hsource fun _ => Msg.aborts_toAny _ _ _

/-- **An acknowledgement** panics on a fatal proof of its own. -/
theorem constructAckMessage_aborts_iff [Crates] (hsource : Answering A source) {ack : Bytes} :
    (constructAckMessage source sink packet ack t).Aborts A ↔ FatalProof A source t
      (applyPrefix source.connectionPrefix.bytes (getKeyPath .acksPath packet)) :=
  unwrappedProof_aborts_iff hsource fun _ => Msg.aborts_toAny _ _ _

/-- A timeout message never aborts: its proofs are asked for with `?`. -/
theorem constructTimeoutMessage_aborts [Crates] (hsink : Answering A sink)
    {sinkChannelEnd : ChannelEnd} {nextSequenceRecv : ℕ} :
    ¬(constructTimeoutMessage source sink sinkChannelEnd packet nextSequenceRecv t).Aborts A := by
  unfold constructTimeoutMessage
  simp only [Prog.aborts_bind, hsink.queryProof, CommitmentProofBytes.aborts_tryFrom, false_or,
    not_exists, not_and]
  rintro proof - proofBytes -
  split_ifs
  · simp [hsink.queryProof]
  · exact Msg.aborts_toAny _ _ _

end Packet

/-! ### The loops -/

/-- What a chain may answer about a packet: identifiers and a timeout height that are valid,
and the height of a block. -/
structure PacketInfo.Valid [Crates] (info : PacketInfo) : Prop where
  sourcePort : ∃ i, Ident.parse .port info.sourcePort = some i
  sourceChannel : ∃ i, Ident.parse .channel info.sourceChannel = some i
  destinationPort : ∃ i, Ident.parse .port info.destinationPort = some i
  destinationChannel : ∃ i, Ident.parse .channel info.destinationChannel = some i
  timeoutHeight : ∃ h, TimeoutHeight.tryFrom info.timeoutHeight = some h
  height : 1 ≤ info.height

/-- A valid report is a packet. -/
theorem PacketInfo.Valid.eq_pure [Crates] {info : PacketInfo} (hinfo : info.Valid) :
    ∃ packet, (packetInfoToPacket info : Prog S Error Packet) = pure packet := by
  obtain ⟨sp, hsp⟩ := hinfo.sourcePort
  obtain ⟨sc, hsc⟩ := hinfo.sourceChannel
  obtain ⟨dp, hdp⟩ := hinfo.destinationPort
  obtain ⟨dc, hdc⟩ := hinfo.destinationChannel
  obtain ⟨th, hth⟩ := hinfo.timeoutHeight
  simp only [packetInfoToPacket, hsp, hsc, hdp, hdc, hth]
  exact ⟨_, rfl⟩

/-- A valid report is converted without a panic. -/
theorem PacketInfo.Valid.aborts [Crates] {info : PacketInfo} (hinfo : info.Valid) :
    ¬(packetInfoToPacket info : Prog S Error Packet).Aborts A := by
  obtain ⟨packet, hpure⟩ := hinfo.eq_pure (S := S)
  rw [hpure]
  exact Prog.aborts_pure packet

/-- A valid report is converted. -/
theorem PacketInfo.Valid.returns [Crates] {info : PacketInfo} (hinfo : info.Valid) :
    ∃ packet, (packetInfoToPacket info : Prog S Error Packet).Leaf A (.ok packet) := by
  obtain ⟨packet, hpure⟩ := hinfo.eq_pure (S := S)
  exact ⟨packet, by rw [hpure]; rfl⟩

section Loops

variable {source sink : Chain S} {tips : Tips} {view : ChannelView} {info : PacketInfo}

/-- The search for a height at which something can be proved that the source stored at
`height` finds `t`. -/
def ReadyFound (A : (o : S.Op) → Except Error (S.Res o) → Prop) (source sink : Chain S)
    (tips : Tips) (view : ChannelView) (height : ℕ) (t : Height) : Prop :=
  height ≤ view.latestSourceHeightOnSink.revisionHeight ∧
    ∃ start, Height.new view.latestSourceHeightOnSink.revisionNumber height = some start ∧
      (findSuitableProofHeightForClient sink.toIbcProvider tips.sinkHeight source.clientId start
        none view.latestSourceHeightOnSink).Leaf A (.ok (some t))

/-- **A sent packet with an answer that aborts.** -/
inductive FatalSend [Crates] (A : (o : S.Op) → Except Error (S.Res o) → Prop)
    (source sink : Chain S) (tips : Tips) (view : ChannelView) (info : PacketInfo) : Prop
  | timeoutSearch {packet : Packet}
      (hpacket : (packetInfoToPacket info : Prog S Error Packet).Leaf A (.ok packet))
      (hto : Crates.timedOut packet tips.sinkTimestamp tips.sinkHeight = true)
      (hfatal : FatalTimeoutSearch A source.toIbcProvider sink.toIbcProvider tips.sourceHeight
        view.latestSinkHeightOnSource packet info.height) :
      FatalSend A source sink tips view info
  | timeoutDelay {packet : Packet} {t : Height}
      (hpacket : (packetInfoToPacket info : Prog S Error Packet).Leaf A (.ok packet))
      (hto : Crates.timedOut packet tips.sinkTimestamp tips.sinkHeight = true)
      (hfound : (getTimeoutProofHeight source.toIbcProvider sink.toIbcProvider tips.sourceHeight
        tips.sinkHeight tips.sinkTimestamp view.latestSinkHeightOnSource packet
        info.height).Leaf A (.ok (some t)))
      (hfatal : FatalUpdate A source.toIbcProvider sink.clientId tips.sourceTimestamp
        view.delayPeriod t) :
      FatalSend A source sink tips view info
  | recvDelay {packet : Packet} {t : Height}
      (hpacket : (packetInfoToPacket info : Prog S Error Packet).Leaf A (.ok packet))
      (hto : Crates.timedOut packet tips.sinkTimestamp tips.sinkHeight = false)
      (hopen : view.sinkChannelEnd.state ≠ .closed)
      (hfound : ReadyFound A source sink tips view info.height t)
      (hfatal : FatalUpdate A sink.toIbcProvider source.clientId tips.sinkTimestamp
        view.delayPeriod t) :
      FatalSend A source sink tips view info
  | recvProof {packet : Packet} {t : Height}
      (hpacket : (packetInfoToPacket info : Prog S Error Packet).Leaf A (.ok packet))
      (hto : Crates.timedOut packet tips.sinkTimestamp tips.sinkHeight = false)
      (hopen : view.sinkChannelEnd.state ≠ .closed)
      (hready : (queryReadyHeight source sink tips view info.height info.sequence).Leaf A
        (.ok (some t)))
      (hfatal : FatalProof A source.toIbcProvider t
        (applyPrefix source.connectionPrefix.bytes (getKeyPath .commitmentPath packet))) :
      FatalSend A source sink tips view info

/-- **An acknowledgement with an answer that aborts.** -/
inductive FatalAck [Crates] (A : (o : S.Op) → Except Error (S.Res o) → Prop) (source sink : Chain S)
    (tips : Tips) (view : ChannelView) (info : PacketInfo) : Prop
  | delay {ack : Bytes} {t : Height} (hack : info.ack = some ack)
      (hfound : ReadyFound A source sink tips view info.height t)
      (hfatal : FatalUpdate A sink.toIbcProvider source.clientId tips.sinkTimestamp
        view.delayPeriod t) :
      FatalAck A source sink tips view info
  | proof {packet : Packet} {ack : Bytes} {t : Height}
      (hpacket : (packetInfoToPacket info : Prog S Error Packet).Leaf A (.ok packet))
      (hack : info.ack = some ack)
      (hready : (queryReadyHeight source sink tips view info.height info.sequence).Leaf A
        (.ok (some t)))
      (hfatal : FatalProof A source.toIbcProvider t
        (applyPrefix source.connectionPrefix.bytes (getKeyPath .acksPath packet))) :
      FatalAck A source sink tips view info

/-- After the check of a delay nothing aborts. -/
theorem passed_aborts {passed : Bool} {a b : Option Height} :
    ¬(if passed then pure a else pure b : Prog S Error (Option Height)).Aborts A := by
  split_ifs
  · exact Prog.aborts_pure _
  · exact Prog.aborts_pure _

/-- **The height of a ready packet** panics on a fatal record of the update to the height found.
-/
theorem queryReadyHeight_aborts_iff (hsink : Answering A sink.toIbcProvider) {height seq : ℕ}
    (hheight : 1 ≤ height) :
    (queryReadyHeight source sink tips view height seq).Aborts A ↔
      ∃ t, ReadyFound A source sink tips view height t ∧
        FatalUpdate A sink.toIbcProvider source.clientId tips.sinkTimestamp view.delayPeriod t := by
  unfold queryReadyHeight ReadyFound
  dsimp only
  by_cases hlt : view.latestSourceHeightOnSink.revisionHeight < height
  · rw [if_pos hlt]
    exact iff_of_false (Prog.aborts_pure _) fun ⟨_, ⟨hle, _⟩, _⟩ => absurd hlt (not_lt.mpr hle)
  have hnew : Height.new view.latestSourceHeightOnSink.revisionNumber height =
      some ⟨view.latestSourceHeightOnSink.revisionNumber, height, hheight⟩ :=
    Height.new_eq_some.mpr ⟨rfl, rfl⟩
  rw [if_neg hlt, hnew, Prog.expect, Prog.done_ok_bind]
  refine (Prog.aborts_bind_option ?_).trans ?_
  · exact Prog.aborts_pure _
  · refine (or_iff_right (linearSearch_aborts hsink hheight)).trans ?_
    simp only [not_lt.mp hlt, true_and, Option.some.injEq, exists_eq_left']
    refine exists_congr fun t => and_congr_right fun _ => ?_
    exact (Prog.aborts_bind_left fun _ => passed_aborts).trans (verifyDelayOn_aborts_iff hsink)

/-- **The height of a timeout** panics in its search or in its delay check. -/
theorem queryTimeoutHeight_aborts_iff (hsource : Answering A source.toIbcProvider)
    (hsink : Answering A sink.toIbcProvider) {packet : Packet} {height : ℕ}
    (hheight : 1 ≤ height) :
    (queryTimeoutHeight source sink tips view packet height).Aborts A ↔
      FatalTimeoutSearch A source.toIbcProvider sink.toIbcProvider tips.sourceHeight
        view.latestSinkHeightOnSource packet height ∨
      ∃ t, (getTimeoutProofHeight source.toIbcProvider sink.toIbcProvider tips.sourceHeight
        tips.sinkHeight tips.sinkTimestamp view.latestSinkHeightOnSource packet height).Leaf A
          (.ok (some t)) ∧
        FatalUpdate A source.toIbcProvider sink.clientId tips.sourceTimestamp view.delayPeriod t := by
  refine (Prog.aborts_bind_option ?_).trans ?_
  · exact Prog.aborts_pure _
  · rw [getTimeoutProofHeight_aborts_iff hsource hsink hheight]
    refine or_congr_right (exists_congr fun t => and_congr_right fun _ => ?_)
    exact (Prog.aborts_bind_left fun _ => passed_aborts).trans (verifyDelayOn_aborts_iff hsource)

/-- A client state is read without a panic. -/
theorem queryClientStateOnSink_aborts (hsink : Answering A sink.toIbcProvider) {height : Height} :
    ¬(queryClientStateOnSink source sink height).Aborts A := by
  simp [queryClientStateOnSink, hsink.queryClientState]

/-- The view of a channel is read without a panic. -/
theorem queryChannelView_aborts (hsource : Answering A source.toIbcProvider)
    (hsink : Answering A sink.toIbcProvider) {c : ChannelId} {p : PortId} :
    ¬(queryChannelView source sink tips c p).Aborts A := by
  simp only [queryChannelView, Prog.aborts_bind, hsource.queryChannelEnd, Prog.aborts_okOr,
    Raw.aborts_tryFrom, false_or, not_exists, not_and]
  rintro response - raw - channelEnd -
  split_ifs
  · simp [hsource.queryConnectionEnd, hsink.queryChannelEnd, hsink.queryNextSequenceRecv,
      queryClientStateOnSink_aborts hsink]
  · exact Prog.aborts_pure _

/-- The undelivered sequences are queried without a panic. -/
theorem queryUndeliveredSequences_aborts {source sink : IbcProvider S}
    (hsource : Answering A source) (hsink : Answering A sink) {h h' : Height} {c : ChannelId}
    {p : PortId} : ¬(queryUndeliveredSequences h h' c p source sink).Aborts A := by
  simp only [queryUndeliveredSequences, Prog.aborts_bind, hsource.queryChannelEnd,
    Prog.aborts_okOr, Prog.aborts_mapErr, Raw.aborts_tryFrom, hsource.queryPacketCommitments,
    false_or, not_exists, not_and]
  rintro response - raw - channelEnd - seqs - counterparty -
  split_ifs
  · exact hsink.queryUnreceivedPackets _ _ _ _
  · simp [hsink.queryNextSequenceRecv]

/-- The undelivered acknowledgements are queried without a panic. -/
theorem queryUndeliveredAcks_aborts {source sink : IbcProvider S}
    (hsource : Answering A source) (hsink : Answering A sink) {h h' : Height} {c : ChannelId}
    {p : PortId} : ¬(queryUndeliveredAcks h h' c p source sink).Aborts A := by
  simp [queryUndeliveredAcks, hsource.queryChannelEnd, hsource.queryPacketAcknowledgements,
    hsink.queryUnreceivedAcknowledgements]

variable [Crates] {acc : ReadyPackets}

/-- **A round over the sent packets** aborts by an answer about its packet. -/
theorem sendPacketStep_aborts_iff (hsource : Answering A source.toIbcProvider)
    (hsink : Answering A sink.toIbcProvider) (hinfo : info.Valid) :
    (sendPacketStep source sink tips view acc info).Aborts A ↔
      FatalSend A source sink tips view info := by
  rw [sendPacketStep, Prog.aborts_bind, or_iff_right hinfo.aborts]
  constructor
  · rintro ⟨packet, hpacket, habort⟩
    split_ifs at habort with hto hclosed
    · rcases (Prog.aborts_bind_option (Prog.aborts_pure acc)).mp habort with h | ⟨t, -, h⟩
      · rcases (queryTimeoutHeight_aborts_iff hsource hsink hinfo.height).mp h with
          h | ⟨t, hfound, h⟩
        · exact .timeoutSearch hpacket hto h
        · exact .timeoutDelay hpacket hto hfound h
      · exact absurd ((Prog.aborts_bind_left fun _ => Prog.aborts_pure _).mp h)
          (constructTimeoutMessage_aborts hsink)
    · exact absurd habort (Prog.aborts_pure _)
    · rcases (Prog.aborts_bind_option (Prog.aborts_pure acc)).mp habort with h | ⟨t, hready, h⟩
      · obtain ⟨t, hfound, h⟩ := (queryReadyHeight_aborts_iff hsink hinfo.height).mp h
        exact .recvDelay hpacket (eq_false_of_ne_true hto) hclosed hfound h
      · have h := (Prog.aborts_bind_left fun _ => Prog.aborts_pure _).mp h
        exact .recvProof hpacket (eq_false_of_ne_true hto) hclosed hready
          ((constructRecvMessage_aborts_iff hsource).mp h)
  · intro hfatal
    cases hfatal with
    | timeoutSearch hpacket hto hfatal =>
        refine ⟨_, hpacket, ?_⟩
        rw [if_pos hto]
        exact Prog.aborts_bind.mpr (.inl ((queryTimeoutHeight_aborts_iff hsource hsink
          hinfo.height).mpr (.inl hfatal)))
    | timeoutDelay hpacket hto hfound hfatal =>
        refine ⟨_, hpacket, ?_⟩
        rw [if_pos hto]
        exact Prog.aborts_bind.mpr (.inl ((queryTimeoutHeight_aborts_iff hsource hsink
          hinfo.height).mpr (.inr ⟨_, hfound, hfatal⟩)))
    | recvDelay hpacket hto hopen hfound hfatal =>
        refine ⟨_, hpacket, ?_⟩
        rw [hto, if_neg Bool.false_ne_true, if_neg hopen]
        exact Prog.aborts_bind.mpr (.inl ((queryReadyHeight_aborts_iff hsink hinfo.height).mpr
          ⟨_, hfound, hfatal⟩))
    | recvProof hpacket hto hopen hready hfatal =>
        refine ⟨_, hpacket, ?_⟩
        rw [hto, if_neg Bool.false_ne_true, if_neg hopen]
        exact Prog.aborts_bind.mpr (.inr ⟨_, hready,
          Prog.aborts_bind.mpr (.inl ((constructRecvMessage_aborts_iff hsource).mpr hfatal))⟩)

/-- **A round over the acknowledgements** aborts by an answer about its acknowledgement. -/
theorem acknowledgementStep_aborts_iff (hsource : Answering A source.toIbcProvider)
    (hsink : Answering A sink.toIbcProvider) (hinfo : info.Valid) :
    (acknowledgementStep source sink tips view acc info).Aborts A ↔
      FatalAck A source sink tips view info := by
  rw [acknowledgementStep, Prog.aborts_bind, or_iff_right hinfo.aborts]
  constructor
  · rintro ⟨packet, hpacket, habort⟩
    cases hack : info.ack with
    | none =>
        rw [hack] at habort
        exact absurd habort (Prog.aborts_pure _)
    | some ack =>
        rw [hack] at habort
        rcases (Prog.aborts_bind_option (Prog.aborts_pure acc)).mp habort with h | ⟨t, hready, h⟩
        · obtain ⟨t, hfound, h⟩ := (queryReadyHeight_aborts_iff hsink hinfo.height).mp h
          exact .delay hack hfound h
        · have h := (Prog.aborts_bind_left fun _ => Prog.aborts_pure _).mp h
          exact .proof hpacket hack hready ((constructAckMessage_aborts_iff hsource).mp h)
  · intro hfatal
    cases hfatal with
    | delay hack hfound hfatal =>
        obtain ⟨packet, hpacket⟩ := hinfo.returns (A := A)
        refine ⟨packet, hpacket, ?_⟩
        rw [hack]
        exact Prog.aborts_bind.mpr (.inl ((queryReadyHeight_aborts_iff hsink hinfo.height).mpr
          ⟨_, hfound, hfatal⟩))
    | proof hpacket hack hready hfatal =>
        refine ⟨_, hpacket, ?_⟩
        rw [hack]
        exact Prog.aborts_bind.mpr (.inr ⟨_, hready,
          Prog.aborts_bind.mpr (.inl ((constructAckMessage_aborts_iff hsource).mpr hfatal))⟩)

/-- The packet infos that the source answers are valid. -/
structure ValidAnswers (A : (o : S.Op) → Except Error (S.Res o) → Prop) (source : IbcProvider S) :
    Prop where
  sendPackets : ∀ c p seqs infos, (source.querySendPackets c p seqs).Leaf A (.ok infos) →
    ∀ info ∈ infos, info.Valid
  recvPackets : ∀ c p seqs infos, (source.queryRecvPackets c p seqs).Leaf A (.ok infos) →
    ∀ info ∈ infos, info.Valid

/-- **A channel with an answer that aborts**: about a sent packet that its loop reaches, or
about an acknowledgement, after all sent packets were passed. -/
inductive FatalChannel (A : (o : S.Op) → Except Error (S.Res o) → Prop) (source sink : Chain S)
    (tips : Tips) (acc : ReadyPackets) : ChannelId × PortId → Prop
  | send {c : ChannelId} {p : PortId} {view : ChannelView} {seqs : List ℕ}
      {seen rest : List PacketInfo} {info : PacketInfo} {acc' : ReadyPackets}
      (hview : (queryChannelView source sink tips c p).Leaf A (.ok (some view)))
      (hseqs : (queryUndeliveredSequences tips.sourceHeight tips.sinkHeight c p source.toIbcProvider
        sink.toIbcProvider).Leaf A (.ok seqs))
      (hinfos : (source.querySendPackets c p seqs).Leaf A (.ok (seen ++ info :: rest)))
      (hseen : (seen.foldlM (sendPacketStep source sink tips view) acc).Leaf A (.ok acc'))
      (hfatal : FatalSend A source sink tips view info) :
      FatalChannel A source sink tips acc (c, p)
  | ack {c : ChannelId} {p : PortId} {view : ChannelView} {seqs acks : List ℕ}
      {infos seen rest : List PacketInfo} {info : PacketInfo} {acc₁ acc' : ReadyPackets}
      (hview : (queryChannelView source sink tips c p).Leaf A (.ok (some view)))
      (hseqs : (queryUndeliveredSequences tips.sourceHeight tips.sinkHeight c p source.toIbcProvider
        sink.toIbcProvider).Leaf A (.ok seqs))
      (hinfos : (source.querySendPackets c p seqs).Leaf A (.ok infos))
      (hsent : (infos.foldlM (sendPacketStep source sink tips view) acc).Leaf A (.ok acc₁))
      (hacks : (queryUndeliveredAcks tips.sourceHeight tips.sinkHeight c p source.toIbcProvider
        sink.toIbcProvider).Leaf A (.ok acks))
      (hopen : view.sourceChannelEnd.state ≠ .closed)
      (hreceived : (source.queryRecvPackets c p acks).Leaf A (.ok (seen ++ info :: rest)))
      (hseen : (seen.foldlM (acknowledgementStep source sink tips view) acc₁).Leaf A (.ok acc'))
      (hfatal : FatalAck A source sink tips view info) :
      FatalChannel A source sink tips acc (c, p)

/-- **A round over the whitelist** aborts in one of the two loops over its packets. -/
theorem channelStep_aborts_iff (hsource : Answering A source.toIbcProvider)
    (hsink : Answering A sink.toIbcProvider) (hvalid : ValidAnswers A source.toIbcProvider)
    {channel : ChannelId × PortId} : (channelStep source sink tips acc channel).Aborts A ↔
      FatalChannel A source sink tips acc channel := by
  obtain ⟨c, p⟩ := channel
  refine (Prog.aborts_bind_option (Prog.aborts_pure acc)).trans ?_
  rw [or_iff_right (queryChannelView_aborts hsource hsink)]
  constructor
  · rintro ⟨view, hview, habort⟩
    obtain ⟨seqs, hseqs, habort⟩ :=
      (Prog.aborts_bind.mp habort).resolve_left (queryUndeliveredSequences_aborts hsource hsink)
    obtain ⟨infos, hinfos, habort⟩ :=
      (Prog.aborts_bind.mp habort).resolve_left (hsource.querySendPackets _ _ _)
    rcases Prog.aborts_bind.mp habort with habort | ⟨acc₁, hsent, habort⟩
    · obtain ⟨seen, info, rest, acc', rfl, hseen, habort⟩ := Prog.aborts_foldlM.mp habort
      exact .send hview hseqs hinfos hseen ((sendPacketStep_aborts_iff hsource hsink
        (hvalid.sendPackets _ _ _ _ hinfos info List.mem_append_cons_self)).mp habort)
    · obtain ⟨acks, hacks, habort⟩ :=
        (Prog.aborts_bind.mp habort).resolve_left (queryUndeliveredAcks_aborts hsource hsink)
      split_ifs at habort with hclosed
      · exact absurd habort (Prog.aborts_pure _)
      · obtain ⟨received, hreceived, habort⟩ :=
          (Prog.aborts_bind.mp habort).resolve_left (hsource.queryRecvPackets _ _ _)
        obtain ⟨seen, info, rest, acc', rfl, hseen, habort⟩ := Prog.aborts_foldlM.mp habort
        exact .ack hview hseqs hinfos hsent hacks hclosed hreceived hseen
          ((acknowledgementStep_aborts_iff hsource hsink
            (hvalid.recvPackets _ _ _ _ hreceived info List.mem_append_cons_self)).mp habort)
  · intro hfatal
    cases hfatal with
    | send hview hseqs hinfos hseen hfatal =>
        have hinfo := hvalid.sendPackets _ _ _ _ hinfos _ List.mem_append_cons_self
        refine ⟨_, hview, Prog.aborts_bind.mpr (.inr ⟨_, hseqs, Prog.aborts_bind.mpr (.inr
          ⟨_, hinfos, Prog.aborts_bind.mpr (.inl ?_)⟩)⟩)⟩
        exact Prog.aborts_foldlM_append hseen
          ((sendPacketStep_aborts_iff hsource hsink hinfo).mpr hfatal)
    | ack hview hseqs hinfos hsent hacks hopen hreceived hseen hfatal =>
        have hinfo := hvalid.recvPackets _ _ _ _ hreceived _ List.mem_append_cons_self
        refine ⟨_, hview, Prog.aborts_bind.mpr (.inr ⟨_, hseqs, Prog.aborts_bind.mpr (.inr
          ⟨_, hinfos, Prog.aborts_bind.mpr (.inr ⟨_, hsent, Prog.aborts_bind.mpr (.inr
            ⟨_, hacks, ?_⟩)⟩)⟩)⟩)⟩
        rw [if_neg hopen]
        refine Prog.aborts_bind.mpr (.inr ⟨_, hreceived, ?_⟩)
        exact Prog.aborts_foldlM_append hseen
          ((acknowledgementStep_aborts_iff hsource hsink hinfo).mpr hfatal)

end Loops

/-! ### The function -/

section Trait

variable [Crates] {A : (o : TraitSig.Op) → Except Error (TraitSig.Res o) → Prop}

/-- **When the query for pending packets returns a value or an error.**  For every whitelist
and whatever both chains may answer, the packet infos being valid: it aborts only at a channel
that is reached, those before it having been passed, and that has an answer that aborts. -/
theorem queryReadyAndTimedOutPackets_aborts_iff (sourceInfo sinkInfo : ChainInfo)
    (hvalid : ValidAnswers A (Chain.trait sourceInfo .source).toIbcProvider) :
    ¬(queryReadyAndTimedOutPackets (Chain.trait sourceInfo .source)
        (Chain.trait sinkInfo .sink)).Aborts A ↔
      ∀ tips seen channel rest acc,
        (queryTips (Chain.trait sourceInfo .source) (Chain.trait sinkInfo .sink)).Leaf A
          (.ok tips) →
        sourceInfo.channelWhitelist = seen ++ channel :: rest →
        (seen.foldlM (channelStep (Chain.trait sourceInfo .source) (Chain.trait sinkInfo .sink)
          tips) ⟨[], []⟩).Leaf A (.ok acc) →
        ¬FatalChannel A (Chain.trait sourceInfo .source) (Chain.trait sinkInfo .sink) tips acc
          channel := by
  have hsource : Answering A _ := Chain.trait_answering sourceInfo .source
  have hsink : Answering A _ := Chain.trait_answering sinkInfo .sink
  have htips : ¬(queryTips (Chain.trait sourceInfo .source)
      (Chain.trait sinkInfo .sink)).Aborts A := by
    simp [queryTips, hsource.latestHeightAndTimestamp, hsink.latestHeightAndTimestamp]
  rw [queryReadyAndTimedOutPackets, Prog.aborts_bind, or_iff_right htips]
  simp only [Prog.aborts_foldlM, channelStep_aborts_iff hsource hsink hvalid]
  constructor
  · intro h tips seen channel rest acc htips hlist hseen hfatal
    exact h ⟨tips, htips, seen, channel, rest, acc, hlist, hseen, hfatal⟩
  · rintro h ⟨tips, htips, seen, channel, rest, acc, hlist, hseen, hfatal⟩
    exact h tips seen channel rest acc htips hlist hseen hfatal

end Trait

/-! ### A node that fails when the proof is asked for -/

/-- A packet is ready for the sink, and the source does not answer the query for its proof. -/
def unprovenAnswer : (o : TraitSig.Op) → Except Error (TraitSig.Res o)
  | (.source, .latestHeightAndTimestamp) => .ok (height0 100, .ofTime (seconds 1000))
  | (.sink, .latestHeightAndTimestamp) => .ok (height0 50, .ofTime (seconds 700))
  | (_, .queryChannelEnd ..) => .ok (proven (some (.ok (openEnd .unordered))))
  | (_, .queryConnectionEnd ..) => .ok (proven (some (.ok (openConnection 0))))
  | (_, .queryNextSequenceRecv ..) => .ok (proven 1)
  | (_, .queryClientState ..) => .ok (proven (some (.ok ⟨height0 48⟩)))
  | (_, .queryPacketCommitments ..) => .ok [1]
  | (_, .queryUnreceivedPackets _ _ _ ns) => .ok ns
  | (_, .querySendPackets ..) => .ok [packetInfo 40 1 1000 none]
  | (_, .queryClientConsensus ..) => .ok (proven (some (.ok ⟨seconds 500⟩)))
  | (_, .queryClientUpdateTimeAndHeight ..) => .ok (height0 45, seconds 600)
  | _ => .error (.rpcError "unavailable")

/-- Its packet infos are valid. -/
theorem unprovenAnswer_valid : let _ := Crates.reference
    ValidAnswers (fun o r => r = unprovenAnswer o)
      (Chain.trait (chainInfo "source") .source).toIbcProvider := by
  intro _
  refine ⟨fun c p seqs infos h info hinfo => ?_, fun c p seqs infos h => ?_⟩
  · obtain rfl := Except.ok.inj (Prog.leaf_ask_ok.mp h)
    obtain rfl := List.mem_singleton.mp hinfo
    exact ⟨⟨transferPort, by decide +kernel⟩, ⟨channel0, by decide +kernel⟩,
      ⟨transferPort, by decide +kernel⟩, ⟨channel0, by decide +kernel⟩,
      ⟨.atHeight (height0 1000), by decide⟩, by decide⟩
  · cases Prog.leaf_ask_ok.mp h

/-- The function aborts over it. -/
theorem unprovenAnswer_aborts : (@queryReadyAndTimedOutPackets TraitSig Crates.reference
    (Chain.trait (chainInfo "source") .source) (Chain.trait (chainInfo "sink") .sink)).Aborts
      fun o r => r = unprovenAnswer o :=
  Prog.aborts_of_eval (by decide +kernel)

/-- The theorem at work: there is a channel with an answer that aborts. -/
theorem unprovenAnswer_fatal : let _ := Crates.reference
    ¬∀ tips seen channel rest acc,
      (queryTips (Chain.trait (chainInfo "source") .source)
        (Chain.trait (chainInfo "sink") .sink)).Leaf (fun o r => r = unprovenAnswer o) (.ok tips) →
      (chainInfo "source").channelWhitelist = seen ++ channel :: rest →
      (seen.foldlM (channelStep (Chain.trait (chainInfo "source") .source)
        (Chain.trait (chainInfo "sink") .sink) tips) ⟨[], []⟩).Leaf
          (fun o r => r = unprovenAnswer o) (.ok acc) →
      ¬FatalChannel (fun o r => r = unprovenAnswer o) (Chain.trait (chainInfo "source") .source)
        (Chain.trait (chainInfo "sink") .sink) tips acc channel := by
  intro _ h
  exact (queryReadyAndTimedOutPackets_aborts_iff (chainInfo "source") (chainInfo "sink")
    unprovenAnswer_valid).mpr h unprovenAnswer_aborts

/-- **A panic on a query that fails.** -/
theorem unprovenAnswer_panics : let _ := Crates.reference
    ¬∀ (B : (o : TraitSig.Op) → Except Error (TraitSig.Res o) → Prop)
      (sourceInfo sinkInfo : ChainInfo),
      ValidAnswers B (Chain.trait sourceInfo .source).toIbcProvider →
        ¬(queryReadyAndTimedOutPackets (Chain.trait sourceInfo .source)
          (Chain.trait sinkInfo .sink)).Aborts B :=
  fun h => h _ (chainInfo "source") (chainInfo "sink") unprovenAnswer_valid unprovenAnswer_aborts

end HyperspaceLight
