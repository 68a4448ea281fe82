/-
# Connection delays

`src/core/packets/connection_delay.rs`: `has_delay_elapsed`, and
`calculate_block_delay` of `src/core/packets/utils.rs`.

The source divides two `f64` and rounds up, and so does `calculateBlockDelay`:
`Float` is binary64 with the roundings of IEEE 754.  The result is not always
the ceiling of the exact quotient; 177 nanoseconds are 60 blocks of 3.
-/

import HyperspaceLight.RelayerTypes.Messages

namespace HyperspaceLight

open Interaction

variable {S : Sig} {A : (o : S.Op) → Except Error (S.Res o) → Prop}

/-- `Duration::as_secs_f64`: the whole seconds, plus the rest over `NANOS_PER_SEC`. -/
def Duration.asSecsF64 (d : Duration) : Float :=
  (UInt64.ofNat (d / 1000000000)).toFloat +
    (UInt64.ofNat (d % 1000000000)).toFloat / (1000000000 : UInt64).toFloat

/-- `x.ceil() as u64`: rounded up, and cast as Rust casts, to `0` below `0` and to the
largest `u64` above it.  A number too large for the cast to be exact has no fraction. -/
def ceilAsU64 (x : Float) : ℕ :=
  let floor := x.toUInt64
  if floor.toFloat < x ∧ floor.toNat + 1 < u64Bound then floor.toNat + 1 else floor.toNat

/-- `calculate_block_delay`. -/
def calculateBlockDelay (delayPeriodTime maxExpectedTimePerBlock : Duration) : ℕ :=
  if maxExpectedTimePerBlock = 0 then 0
  else ceilAsU64 (delayPeriodTime.asSecsF64 / maxExpectedTimePerBlock.asSecsF64)

/-- No time is no blocks: zero over anything is zero or not a number, and both are cast to `0`. -/
theorem calculateBlockDelay_zero (expectedBlockTime : Duration) :
    calculateBlockDelay 0 expectedBlockTime = 0 := by
  have hnan : ceilAsU64 (.ofModel (.pack .notANumber)) = 0 := by decide +kernel
  have hzero : ∀ sign, ceilAsU64 (.ofModel (.pack (.zero sign))) = 0 := by
    intro sign
    cases sign <;> decide +kernel
  have hdiv : ∀ y : Float, ceilAsU64 (Duration.asSecsF64 0 / y) = 0 := by
    intro y
    have hquotient : Duration.asSecsF64 0 / y =
        .ofModel (.pack (.div .binary64 (.zero .positive) y.toModel.unpack)) := rfl
    rw [hquotient]
    cases y.toModel.unpack with
    | notANumber | zero _ => exact hnan
    | infinity _ | finite _ _ _ _ => exact hzero _
  unfold calculateBlockDelay
  split_ifs
  · rfl
  · exact hdiv _

/-- `has_delay_elapsed`. -/
def hasDelayElapsed (currentTime : Timestamp) (currentHeight : Height)
    (clientUpdateTime : Timestamp) (clientUpdateHeight : Height) (delayPeriodTime : Duration)
    (delayPeriodBlocks : ℕ) : Prog S Error Bool := do
  let earliestTime ← .okOr (.custom "Timestamp overflow") (clientUpdateTime.add delayPeriodTime)
  if !(decide (currentTime = earliestTime) || currentTime.after earliestTime) then
    return false
  let earliestHeight ← clientUpdateHeight.add delayPeriodBlocks
  if currentHeight < earliestHeight then
    return false
  return true

/-- The delay is over at `now`: an update at time `time` and height `height`,
`delay` later and `blocks` blocks higher, is not after it. -/
structure DelayOver (now : Timestamp) (nowHeight : Height) (time : Time) (height : Height)
    (delay : Duration) (blocks : ℕ) : Prop where
  time_le : ∃ t, now.time = some t ∧ time + delay ≤ t
  height_le : ∃ h : Height, h.revisionNumber = height.revisionNumber ∧
    h.revisionHeight = height.revisionHeight + blocks ∧ h ≤ nowHeight

/-- A sum that does not overflow is the sum. -/
theorem Timestamp.ofTime_add {time : Time} {delay : Duration} {earliest : Timestamp}
    (h : (Timestamp.ofTime time).add delay = some earliest) : earliest = ⟨some (time + delay)⟩ := by
  simp only [Timestamp.add, Timestamp.ofTime] at h
  split_ifs at h
  exact (Option.some.inj h).symm

/-- **`has_delay_elapsed` answers yes only when the delay is over.** -/
theorem hasDelayElapsed_true {now : Timestamp} {nowHeight height : Height} {time : Time}
    {delay : Duration} {blocks : ℕ}
    (h : (hasDelayElapsed now nowHeight (.ofTime time) height delay blocks :
      Prog S Error Bool).Leaf A (.ok true)) :
    DelayOver now nowHeight time height delay blocks := by
  simp only [hasDelayElapsed, Prog.leaf_bind_ok, Prog.leaf_okOr_ok] at h
  obtain ⟨earliest, he, h⟩ := h
  split_ifs at h with ht
  · cases h
  obtain ⟨top, htop, h⟩ := Prog.leaf_bind_ok.mp h
  split_ifs at h with hh
  · cases h
  obtain ⟨hrn, hrh⟩ := Height.add_returns htop
  refine ⟨?_, top, hrn, hrh, not_lt.mp hh⟩
  -- the earliest time exists, and the current time is at it or after it
  obtain rfl := Timestamp.ofTime_add he
  simp only [Bool.not_eq_true', Bool.or_eq_false_iff, not_and_or, Bool.not_eq_false,
    decide_eq_true_eq] at ht
  rcases ht with rfl | ht
  · exact ⟨_, rfl, le_rfl⟩
  · obtain ⟨t⟩ := now
    cases t with
    | none => simp [Timestamp.after] at ht
    | some t =>
        simp only [Timestamp.after, decide_eq_true_eq] at ht
        exact ⟨t, rfl, ht.le⟩

/-- A delay that is over stays over. -/
theorem DelayOver.mono {now now' : Timestamp} {nowHeight nowHeight' height : Height} {time : Time}
    {delay : Duration} {blocks : ℕ} (h : DelayOver now nowHeight time height delay blocks)
    (htime : ∀ a, now.time = some a → ∃ b, now'.time = some b ∧ a ≤ b)
    (hheight : nowHeight ≤ nowHeight') : DelayOver now' nowHeight' time height delay blocks := by
  obtain ⟨a, ha, hle⟩ := h.time_le
  obtain ⟨b, hb, hab⟩ := htime a ha
  obtain ⟨top, hrn, hrh, htop⟩ := h.height_le
  exact ⟨⟨b, hb, hle.trans hab⟩, top, hrn, hrh, htop.trans hheight⟩

/-- **`has_delay_elapsed` answers nothing but yes once the delay is over.** -/
theorem hasDelayElapsed_of_delayOver {now : Timestamp} {nowHeight height : Height} {time : Time}
    {delay : Duration} {blocks : ℕ} (hover : DelayOver now nowHeight time height delay blocks)
    {answer : Bool}
    (h : (hasDelayElapsed now nowHeight (.ofTime time) height delay blocks :
      Prog S Error Bool).Leaf A (.ok answer)) : answer = true := by
  simp only [hasDelayElapsed, Prog.leaf_bind_ok, Prog.leaf_okOr_ok] at h
  obtain ⟨earliest, he, h⟩ := h
  obtain rfl := Timestamp.ofTime_add he
  obtain ⟨t, ht, hle⟩ := hover.time_le
  obtain ⟨h', hrn', hrh', hle'⟩ := hover.height_le
  -- the current time is not before the earliest one
  have hreached : (decide (now = ⟨some (time + delay)⟩) || now.after ⟨some (time + delay)⟩) =
      true := by
    obtain ⟨t'⟩ := now
    obtain rfl : t' = some t := ht
    rcases eq_or_lt_of_le hle with heq | hlt
    · rw [heq, decide_eq_true rfl, Bool.true_or]
    · have hafter : Timestamp.after ⟨some t⟩ ⟨some (time + delay)⟩ = true := decide_eq_true hlt
      rw [hafter, Bool.or_true]
  rw [hreached] at h
  obtain ⟨top, htop, h⟩ := Prog.leaf_bind_ok.mp h
  obtain ⟨hrn, hrh⟩ := Height.add_returns htop
  have heq : top = h' := Height.ext (hrn.trans hrn'.symm) (hrh.trans hrh'.symm)
  rw [heq, if_neg (not_lt.mpr hle')] at h
  exact (Outcome.ok.inj h).symm

end HyperspaceLight
