/-
# When the search for a timestamp is right

`find_suitable_proof_height_for_client` with a timestamp, against a chain that
answers every query for a consensus state (`ConsensusAnswers`).  The loop of the
source is then the bisection of `HyperspaceLight.Search.Bisection` over the probes
its answers make (`bisectSearch_eq`), and its three properties are those of the
bisection:

* it always ends, and is never wrong (`timestampSearch_ends`);
* over a store without gaps it finds a height, unless the latest is the only late
  one and the loop ends one before it (`timestampSearch_finds_iff`);
* over a store with gaps it may pass over the first late height
  (`timestampSearch_first_iff`).
-/

import HyperspaceLight.Primitives.ProofHeight
import HyperspaceLight.Search.Bisection
import Mathlib.Data.Nat.Find

namespace HyperspaceLight

open Interaction Bisection

/-- Half of `u64Bound`: a sum of two numbers that are not above it fits a `u64`. -/
def u64Half : ℕ := 2 ^ 63

/-- Twice the half of the range is the range. -/
theorem two_mul_u64Half : 2 * u64Half = u64Bound := by decide

/-- What a chain answers about the consensus states of a client. -/
abbrev ConsensusAnswer := Height → Except Error QueryConsensusStateResponse

/-- The chain answers, as of `h`, about the consensus states of the client as `ans`
says. -/
def ConsensusAnswers {S : Sig} (chain : IbcProvider S) (h : Height) (clientId : ClientId)
    (ans : ConsensusAnswer) : Prop :=
  ∀ t, chain.queryClientConsensus h clientId t = .ofExcept (ans t)

/-- There is a consensus state at `t`, it decodes, and its time is `n` nanoseconds. -/
def HasTime (ans : ConsensusAnswer) (t : Height) (n : ℕ) : Prop :=
  ∃ response time, ans t = .ok response ∧ consensusTime response = some time ∧
    time.nanoseconds = n

/-- What an answer says to a search for `target`. -/
def probeOf (target : Timestamp) : Except Error QueryConsensusStateResponse → Probe
  | .error _ => .missing
  | .ok response =>
      match consensusTime response with
      | none => .unreadable
      | some time => if time.nanoseconds < target.nanoseconds then .early else .late

/-- What the height `n` of revision `rn` says to a search for `target`. -/
def probeAt (ans : ConsensusAnswer) (target : Timestamp) (rn n : ℕ) : Probe :=
  match Height.new rn n with
  | none => .missing
  | some t => probeOf target (ans t)

section Search

variable {S : Sig} {chain : IbcProvider S} {h : Height} {clientId : ClientId}
  {ans : ConsensusAnswer} {target : Timestamp} {rn : ℕ}

/-- An answer is caught as it is. -/
theorem attempt_ofExcept {α : Type} (r : Except Error α) :
    (Prog.ofExcept r : Prog S Error α).attempt = pure r := by
  cases r <;> rfl

/-- A probe at a height is that of the answer there. -/
theorem probeAt_height (t : Height) :
    probeAt ans target t.revisionNumber t.revisionHeight = probeOf target (ans t) := by
  rw [probeAt, Height.new_eq_some.mpr ⟨rfl, rfl⟩]

/-- What the loop returns for the way the bisection halts. -/
def haltProg (S : Sig) (rn : ℕ) : Halt → Prog S Error (Option (ℕ × Option Height))
  | .overflow => .panic "attempt to add with overflow"
  | .unreadable => pure none
  | .narrowed lower known => pure (some (lower, known.bind (Height.new rn)))

/-- **The loop of the source is the bisection**, given a round for each height. -/
theorem bisectLoop_eq (hans : ConsensusAnswers chain h clientId ans) (known : Option ℕ)
    {fuel start stop : ℕ} (hfuel : stop - start < fuel) (hle : start ≤ stop) (hpos : 0 < start) :
    bisectLoop chain h clientId rn target fuel start stop (known.bind (Height.new rn)) =
      haltProg S rn (narrow u64Half (probeAt ans target rn) start stop known) := by
  induction fuel generalizing start stop known with
  | zero => omega
  | succ fuel ih =>
      have hgap : (u64Sub stop start : Prog S Error ℕ) = pure (stop - start) := if_pos hle
      rw [bisectLoop, hgap, Prog.pure_bind', narrow]
      by_cases hend : stop - start ≤ 1
      · rw [if_pos hend, if_pos hend]
        rfl
      rw [if_neg hend, if_neg hend, two_mul_u64Half]
      by_cases hsum : u64Bound ≤ stop + start
      · have hpanic : (u64Add stop start : Prog S Error ℕ) = .panic "attempt to add with overflow" :=
          if_neg (by omega)
        rw [if_pos hsum, hpanic]
        rfl
      have hadd : (u64Add stop start : Prog S Error ℕ) = pure (stop + start) := if_pos (by omega)
      have hmid : 0 < (stop + start) / 2 := by omega
      have hnew : Height.new rn ((stop + start) / 2) = some ⟨rn, (stop + start) / 2, hmid⟩ :=
        Height.new_eq_some.mpr ⟨rfl, rfl⟩
      have hprobe : probeAt ans target rn ((stop + start) / 2) =
          probeOf target (ans ⟨rn, (stop + start) / 2, hmid⟩) := by
        rw [probeAt, hnew]
      rw [if_neg hsum, hadd, Prog.pure_bind']
      simp only [hnew, hprobe, Prog.expect, Prog.done_ok_bind]
      rw [hans, attempt_ofExcept, Prog.pure_bind']
      cases hanswer : ans ⟨rn, (stop + start) / 2, hmid⟩ with
      | error e => exact ih known (by omega) (by omega) (by omega)
      | ok response =>
          cases htime : consensusTime response with
          | none => simp [probeOf, htime, haltProg]
          | some time =>
              by_cases hlt : time.nanoseconds < target.nanoseconds
              · simp only [probeOf, htime, if_pos hlt]
                exact ih known (by omega) (by omega) (by omega)
              · simp only [probeOf, htime, if_neg hlt]
                rw [← ih _ (by omega) (by omega) hpos, Option.bind_some, hnew]

/-- **The search of the source is the bisection.** -/
theorem bisectSearch_eq (hans : ConsensusAnswers chain h clientId ans) (start latest : Height) :
    bisectSearch chain h clientId start target latest =
      match bisect u64Half (probeAt ans target start.revisionNumber) start.revisionHeight
        latest.revisionHeight with
      | none => .panic "attempt to add with overflow"
      | some found => pure (found.bind (Height.new start.revisionNumber)) := by
  unfold bisectSearch bisect
  dsimp only
  by_cases hlt : latest.revisionHeight < start.revisionHeight
  · rw [if_pos hlt, if_pos hlt]
    rfl
  have hloop : bisectLoop chain h clientId start.revisionNumber target
      (latest.revisionHeight - start.revisionHeight + 1) start.revisionHeight
      latest.revisionHeight none = haltProg S start.revisionNumber (narrow u64Half
        (probeAt ans target start.revisionNumber) start.revisionHeight latest.revisionHeight none) :=
    bisectLoop_eq hans none (Nat.lt_succ_self _) (not_lt.mp hlt) start.pos
  rw [if_neg hlt, if_neg hlt, hloop]
  cases hhalt : narrow u64Half (probeAt ans target start.revisionNumber) start.revisionHeight
      latest.revisionHeight none with
  | overflow => rfl
  | unreadable => rfl
  | narrowed lower known =>
      have hpos : 0 < lower := start.pos.trans_le (le_of_narrow_eq hhalt)
      have hnew : Height.new start.revisionNumber lower = some ⟨start.revisionNumber, lower, hpos⟩ :=
        Height.new_eq_some.mpr ⟨rfl, rfl⟩
      have hprobe : probeAt ans target start.revisionNumber lower =
          probeOf target (ans ⟨start.revisionNumber, lower, hpos⟩) := by
        rw [probeAt, hnew]
      simp only [haltProg, Prog.pure_bind', hnew, Prog.expect, Prog.done_ok_bind, final, hprobe]
      rw [hans, attempt_ofExcept, Prog.pure_bind']
      cases hanswer : ans ⟨start.revisionNumber, lower, hpos⟩ with
      | error e => rfl
      | ok response =>
          cases htime : consensusTime response with
          | none => simp [probeOf, htime]
          | some time =>
              by_cases hle : target.nanoseconds ≤ time.nanoseconds
              · simp only [probeOf, htime, if_pos hle, if_neg (not_lt.mpr hle)]
                rw [Option.bind_some, hnew]
              · simp only [probeOf, htime, if_neg hle, if_pos (not_le.mp hle)]

/-- **The search of the source is the bisection.** -/
theorem timestampSearch_eq_some_iff (hans : ConsensusAnswers chain h clientId ans)
    {start latest t : Height} :
    findSuitableProofHeightForClient chain h clientId start (some target) latest = pure (some t) ↔
      t.revisionNumber = start.revisionNumber ∧
        bisect u64Half (probeAt ans target start.revisionNumber) start.revisionHeight
          latest.revisionHeight = some (some t.revisionHeight) := by
  rw [show findSuitableProofHeightForClient chain h clientId start (some target) latest =
    bisectSearch chain h clientId start target latest from rfl, bisectSearch_eq hans]
  constructor
  · intro heq
    split at heq
    · cases heq
    · rename_i found hfound
      have hbind := Outcome.ok.inj (Prog.done.inj heq)
      obtain ⟨n, rfl, hnew⟩ := Option.bind_eq_some_iff.mp hbind
      obtain ⟨hrn, hrh⟩ := Height.new_eq_some.mp hnew
      exact ⟨hrn, hfound.trans (by rw [hrh])⟩
  · rintro ⟨hrn, hfound⟩
    simp only [hfound, Option.bind_some, Height.new_eq_some.mpr ⟨hrn, rfl⟩]

/-- A readable time is early or late. -/
theorem probeAt_of_hasTime {t : Height} {n : ℕ} (ht : HasTime ans t n) :
    probeAt ans target t.revisionNumber t.revisionHeight =
      if n < target.nanoseconds then .early else .late := by
  obtain ⟨response, time, hanswer, htime, rfl⟩ := ht
  simp only [probeAt_height, hanswer, probeOf, htime]

/-- A late probe is a time that has reached the target. -/
theorem probeAt_late_iff {t : Height} :
    probeAt ans target t.revisionNumber t.revisionHeight = .late ↔
      ∃ n, HasTime ans t n ∧ target.nanoseconds ≤ n := by
  constructor
  · intro hlate
    rw [probeAt_height] at hlate
    cases hanswer : ans t with
    | error e => simp [hanswer, probeOf] at hlate
    | ok response =>
        cases htime : consensusTime response with
        | none => simp [hanswer, probeOf, htime] at hlate
        | some time =>
            refine ⟨time.nanoseconds, ⟨response, time, hanswer, htime, rfl⟩, ?_⟩
            by_contra hlt
            simp [hanswer, probeOf, htime, not_le.mp hlt] at hlate
  · rintro ⟨n, ht, hle⟩
    rw [probeAt_of_hasTime ht, if_neg (not_lt.mpr hle)]

/-- A late probe, at a number that is a height. -/
theorem probeAt_late_of_pos {k : ℕ} (hk : 0 < k) : probeAt ans target rn k = .late ↔
    ∃ n, HasTime ans ⟨rn, k, hk⟩ n ∧ target.nanoseconds ≤ n :=
  probeAt_late_iff (t := ⟨rn, k, hk⟩)

/-- **The search ends and is never wrong.**  Whatever the chain answers (nothing,
something undecodable, times in any order), no sum or difference of the bounds leaves
the range of `u64` and no height is zero; and a height that is returned lies between
the start and the latest height and has a consensus state that is late enough. -/
theorem timestampSearch_ends (hans : ConsensusAnswers chain h clientId ans)
    (start latest : Height) (target : Timestamp) (hlatest : latest.revisionHeight < 2 ^ 63) :
    ∃ found, findSuitableProofHeightForClient chain h clientId start (some target) latest =
        pure found ∧
      ∀ t, found = some t →
        Within start.revisionNumber start.revisionHeight latest.revisionHeight t ∧
          ∃ n, HasTime ans t n ∧ target.nanoseconds ≤ n := by
  obtain ⟨found, hfound⟩ : ∃ found, findSuitableProofHeightForClient chain h clientId start
      (some target) latest = pure found := by
    have hne : bisect u64Half (probeAt ans target start.revisionNumber) start.revisionHeight
        latest.revisionHeight ≠ none := bisect_ne_none hlatest.le
    obtain ⟨found, hfound⟩ := Option.ne_none_iff_exists'.mp hne
    exact ⟨_, (bisectSearch_eq hans start latest).trans (by rw [hfound])⟩
  refine ⟨found, hfound, ?_⟩
  rintro t rfl
  obtain ⟨hrn, hbisect⟩ := (timestampSearch_eq_some_iff hans).mp hfound
  obtain ⟨hlower, hupper, hlate⟩ := late_of_bisect hbisect
  rw [← hrn] at hlate
  exact ⟨⟨hrn, hlower, hupper⟩, probeAt_late_iff.mp hlate⟩

/-! ### A store without gaps -/

/-- A decodable consensus state at each height of revision `rn` from `lo` to `hi`, with
times that do not decrease. -/
structure ConsensusStore (ans : ConsensusAnswer) (rn lo hi : ℕ) (times : ℕ → ℕ) : Prop where
  time : ∀ t : Height, t.revisionNumber = rn → lo ≤ t.revisionHeight → t.revisionHeight ≤ hi →
    HasTime ans t (times t.revisionHeight)
  mono : ∀ i j, lo ≤ i → i ≤ j → j ≤ hi → times i ≤ times j

/-- The condition under which the search finds a late height that exists, over `n`
heights from `start` to `latest`.  `n / 2 ^ i` of them are left after `i` early
probes. -/
structure FindsLate (times : ℕ → ℕ) (target start latest : ℕ) : Prop where
  /-- The sum of the bounds fits a `u64` in every round that is reached. -/
  sums : ∀ i, 2 < (latest + 1 - start) / 2 ^ i →
    (∀ k, start ≤ k → k + (latest + 1 - start) / 2 ^ i ≤ latest → times k < target) →
      2 * latest + 1 < u64Bound + (latest + 1 - start) / 2 ^ i
  /-- The latest height is not the only late one, or the loop ends on it. -/
  last : (∃ k, start ≤ k ∧ k < latest ∧ target ≤ times k) ∨ EndsOnLast (latest + 1 - start)

/-- **The condition, by the first late height**: the sums of the bounds fit, and the search does
not miss the last height. -/
theorem findsLate_iff {times : ℕ → ℕ} {first start latest : ℕ}
    (hfirst : ∀ k, start ≤ k → k ≤ latest → (target.nanoseconds ≤ times k ↔ first ≤ k))
    (hstart : start ≤ first) (hle : first ≤ latest) :
    FindsLate times target.nanoseconds start latest ↔
      SumsFit u64Half first start latest ∧ (first < latest ∨ EndsOnLast (latest + 1 - start)) := by
  have hreach : ∀ rest, 0 < rest →
      ((∀ k, start ≤ k → k + rest ≤ latest → times k < target.nanoseconds) ↔
        latest < first + rest) := by
    intro rest hrest
    constructor
    · intro hearly
      by_contra hlate
      have hlt := hearly first hstart (by omega)
      exact absurd ((hfirst first hstart hle).mpr le_rfl) (not_le.mpr hlt)
    · intro hlt k hk hkr
      by_contra hlate
      have := (hfirst k hk (by omega)).mp (not_lt.mp hlate)
      omega
  have hlast : (∃ k, start ≤ k ∧ k < latest ∧ target.nanoseconds ≤ times k) ↔ first < latest := by
    constructor
    · rintro ⟨k, hk, hlt, hlate⟩
      exact ((hfirst k hk hlt.le).mp hlate).trans_lt hlt
    · exact fun hlt => ⟨first, hstart, hlt, (hfirst first hstart hle).mpr le_rfl⟩
  constructor
  · rintro ⟨hsums, hends⟩
    refine ⟨fun i hi hlt => ?_, hends.imp_left hlast.mp⟩
    rw [two_mul_u64Half]
    exact hsums i hi ((hreach _ (by omega)).mpr hlt)
  · rintro ⟨hsums, hends⟩
    refine ⟨fun i hi hearly => ?_, hends.imp_left hlast.mpr⟩
    rw [← two_mul_u64Half]
    exact hsums i hi ((hreach _ (by omega)).mp hearly)

/-- The first height from `start` on whose time has reached the target. -/
structure FirstLate (times : ℕ → ℕ) (target start t : ℕ) : Prop where
  lower : start ≤ t
  late : target ≤ times t
  first : ∀ k, start ≤ k → k < t → times k < target

/-- A late height has a first one at or below it. -/
theorem exists_firstLate {times : ℕ → ℕ} {n start k : ℕ} (hk : start ≤ k) (hlate : n ≤ times k) :
    ∃ t, FirstLate times n start t ∧ t ≤ k := by
  have hexists : ∃ k, start ≤ k ∧ n ≤ times k := ⟨k, hk, hlate⟩
  obtain ⟨hlower, hfirst⟩ := Nat.find_spec hexists
  refine ⟨Nat.find hexists, ⟨hlower, hfirst, fun i hi hlt => ?_⟩, Nat.find_min' hexists ⟨hk, hlate⟩⟩
  exact not_le.mp fun hle => Nat.find_min hexists hlt ⟨hi, hle⟩

/-- There is one first late height. -/
theorem FirstLate.unique {times : ℕ → ℕ} {n start t t' : ℕ} (h : FirstLate times n start t)
    (h' : FirstLate times n start t') : t = t' := by
  refine le_antisymm ?_ ?_
  · exact not_lt.mp fun hlt => (h.first t' h'.lower hlt).not_ge h'.late
  · exact not_lt.mp fun hlt => (h'.first t h.lower hlt).not_ge h.late

/-- **What the search finds over a store without gaps**: the first late height, if it is
not above the latest one and the search does not miss it. -/
theorem timestampSearch_firstLate_iff (hans : ConsensusAnswers chain h clientId ans)
    {start latest t : Height} {times : ℕ → ℕ} (hstore : ConsensusStore ans start.revisionNumber
      start.revisionHeight latest.revisionHeight times) :
    findSuitableProofHeightForClient chain h clientId start (some target) latest =
        pure (some t) ↔
      t.revisionNumber = start.revisionNumber ∧
        FirstLate times target.nanoseconds start.revisionHeight t.revisionHeight ∧
        t.revisionHeight ≤ latest.revisionHeight ∧
        FindsLate times target.nanoseconds start.revisionHeight latest.revisionHeight := by
  have hprobe : ∀ k, start.revisionHeight ≤ k → k ≤ latest.revisionHeight →
      probeAt ans target start.revisionNumber k =
        if times k < target.nanoseconds then .early else .late :=
    fun k hk hle => probeAt_of_hasTime
      (hstore.time ⟨start.revisionNumber, k, start.pos.trans_le hk⟩ rfl hk hle)
  rw [timestampSearch_eq_some_iff hans]
  refine and_congr_right fun _ => ?_
  -- whatever is found is late, so there is a first late height below it
  by_cases hexists : ∃ first, FirstLate times target.nanoseconds start.revisionHeight first ∧
      first ≤ latest.revisionHeight
  · obtain ⟨first, hf, hle⟩ := hexists
    have hfirst : ∀ k, start.revisionHeight ≤ k → k ≤ latest.revisionHeight →
        (target.nanoseconds ≤ times k ↔ first ≤ k) := by
      intro k hk hkl
      constructor
      · exact fun hk' => not_lt.mp fun hlt => (hf.first k hk hlt).not_ge hk'
      · exact fun hfk => hf.late.trans (hstore.mono first k hf.lower hfk hkl)
    have hthr : Threshold (probeAt ans target start.revisionNumber) first start.revisionHeight
        latest.revisionHeight := by
      refine ⟨fun k hk hkl hlt => ?_, fun k hk hkl hge => ?_⟩
      · rw [hprobe k hk hkl, if_pos (hf.first k hk hlt)]
      · rw [hprobe k hk hkl, if_neg (not_lt.mpr ((hfirst k hk hkl).mpr hge))]
    rw [bisect_eq_some_iff hthr hf.lower hle, findsLate_iff hfirst hf.lower hle]
    constructor
    · rintro ⟨rfl, hfinds⟩
      exact ⟨hf, hle, hfinds⟩
    · rintro ⟨ht, -, hfinds⟩
      exact ⟨ht.unique hf, hfinds⟩
  · refine iff_of_false (fun hfound => hexists ?_) fun ⟨ht, hle, _⟩ => hexists ⟨_, ht, hle⟩
    obtain ⟨hlower, hupper, hlate⟩ := late_of_bisect hfound
    rw [hprobe _ hlower hupper] at hlate
    have hnot : ¬times t.revisionHeight < target.nanoseconds := fun hlt => by
      rw [if_pos hlt] at hlate
      cases hlate
    obtain ⟨first, hf, hle⟩ := exists_firstLate hlower (not_lt.mp hnot)
    exact ⟨first, hf, hle.trans hupper⟩

/-- **When the search finds a height that exists.**  Over a store with a decodable
consensus state at each height and some height that is late enough, the search finds
one if its sums fit a `u64` and the latest height is not the only late one or the loop
ends on it; and only then. -/
theorem timestampSearch_finds_iff (hans : ConsensusAnswers chain h clientId ans)
    (start latest : Height) (target : Timestamp) (times : ℕ → ℕ)
    (hstore : ConsensusStore ans start.revisionNumber start.revisionHeight
      latest.revisionHeight times)
    (hlate : ∃ k, start.revisionHeight ≤ k ∧ k ≤ latest.revisionHeight ∧
      target.nanoseconds ≤ times k) :
    (∃ t, findSuitableProofHeightForClient chain h clientId start (some target) latest =
        pure (some t)) ↔
      FindsLate times target.nanoseconds start.revisionHeight latest.revisionHeight := by
  simp only [timestampSearch_firstLate_iff hans hstore]
  constructor
  · rintro ⟨t, -, -, -, hfinds⟩
    exact hfinds
  · intro hfinds
    obtain ⟨k, hk, hkl, hle⟩ := hlate
    obtain ⟨first, hf, hfk⟩ := exists_firstLate hk hle
    exact ⟨⟨start.revisionNumber, first, start.pos.trans_le hf.lower⟩, rfl, hf, hfk.trans hkl, hfinds⟩

/-! ### A store with gaps -/

/-- Some heights of revision `rn` from `lo` to `hi` have no consensus state (the query
fails); those of the others decode, and their times do not decrease. -/
structure SparseStore (ans : ConsensusAnswer) (rn lo hi : ℕ) : Prop where
  time : ∀ t : Height, t.revisionNumber = rn → lo ≤ t.revisionHeight → t.revisionHeight ≤ hi →
    (∃ e, ans t = .error e) ∨ ∃ n, HasTime ans t n
  mono : ∀ (t u : Height) (n m : ℕ), t.revisionNumber = rn → u.revisionNumber = rn →
    lo ≤ t.revisionHeight → t.revisionHeight ≤ u.revisionHeight → u.revisionHeight ≤ hi →
    HasTime ans t n → HasTime ans u m → n ≤ m

/-- Over a store with gaps the probes are sparse. -/
theorem SparseStore.sparse {lo hi : ℕ} (hstore : SparseStore ans rn lo hi) (hlo : 0 < lo) :
    Sparse (probeAt ans target rn) lo hi := by
  refine ⟨fun k hk hkh => ?_, fun i j hi hij hj hlate hearly => ?_⟩
  · have hprobe : probeAt ans target rn k = _ := probeAt_height ⟨rn, k, hlo.trans_le hk⟩
    rcases hstore.time ⟨rn, k, hlo.trans_le hk⟩ rfl hk hkh with ⟨e, he⟩ | ⟨n, hn⟩
    · rw [hprobe, he]
      nofun
    · have htime : probeAt ans target rn k = _ := probeAt_of_hasTime hn
      rw [htime]
      split_ifs <;> decide
  · obtain ⟨n, hn, hle⟩ := (probeAt_late_of_pos (hlo.trans_le hi)).mp hlate
    rcases hstore.time ⟨rn, j, hlo.trans_le (hi.trans hij)⟩ rfl (hi.trans hij) hj with
      ⟨e, he⟩ | ⟨m, hm⟩
    · have hprobe : probeAt ans target rn j = _ :=
        probeAt_height ⟨rn, j, hlo.trans_le (hi.trans hij)⟩
      rw [hprobe, he] at hearly
      cases hearly
    · have hnm := hstore.mono _ _ n m rfl rfl hi hij hj hn hm
      have htime : probeAt ans target rn j = _ := probeAt_of_hasTime hm
      rw [htime, if_neg (not_lt.mpr (hle.trans hnm))] at hearly
      cases hearly

/-- **When the height returned is the first late one**: the search passes over none.
It passes over one when its midpoint is missing while its lower bound is late, and it
finds a height after that (`Bisection.Skips`). -/
theorem timestampSearch_first_iff (hans : ConsensusAnswers chain h clientId ans)
    (start latest : Height) (target : Timestamp)
    (hstore : SparseStore ans start.revisionNumber start.revisionHeight latest.revisionHeight) :
    (∀ t, findSuitableProofHeightForClient chain h clientId start (some target) latest =
        pure (some t) →
      ∀ (u : Height) (n : ℕ), u.revisionNumber = start.revisionNumber →
        start.revisionHeight ≤ u.revisionHeight → u.revisionHeight < t.revisionHeight →
        HasTime ans u n → n < target.nanoseconds) ↔
      ¬(start.revisionHeight ≤ latest.revisionHeight ∧
        Skips u64Half (probeAt ans target start.revisionNumber) false start.revisionHeight
          latest.revisionHeight) := by
  rw [← bisect_first_iff (hstore.sparse start.pos)]
  constructor
  · intro hfirst n hn k hk hkn hlate
    have hpos := start.pos.trans_le hk
    have hfound : findSuitableProofHeightForClient chain h clientId start (some target) latest =
        pure (some ⟨start.revisionNumber, n, hpos.trans hkn⟩) :=
      (timestampSearch_eq_some_iff hans).mpr ⟨rfl, hn⟩
    obtain ⟨m, hm, hle⟩ := (probeAt_late_of_pos hpos).mp hlate
    have hlt := hfirst _ hfound ⟨start.revisionNumber, k, hpos⟩ m rfl hk hkn hm
    exact absurd hlt (not_lt.mpr hle)
  · intro hfirst t ht u n hrn hu hut htime
    obtain ⟨-, hbisect⟩ := (timestampSearch_eq_some_iff hans).mp ht
    have hnot := hfirst _ hbisect _ hu hut
    rw [← hrn, ne_eq, probeAt_late_iff] at hnot
    exact not_le.mp fun hle => hnot ⟨n, htime, hle⟩

end Search

/-! ### Three small stores -/

/-- A chain that answers about consensus states only. -/
def storedChain (ans : ConsensusAnswer) : IbcProvider Static :=
  { (Chain.unavailable (chainInfo "stored") : Chain Static).toIbcProvider with
    queryClientConsensus := fun _ _ t => .ofExcept (ans t) }

/-- The example chain answers from its store. -/
theorem storedChain_answers (ans : ConsensusAnswer) (h : Height) (clientId : ClientId) :
    ConsensusAnswers (storedChain ans) h clientId ans := fun _ => rfl

/-- A block a nanosecond, with a consensus state for each. -/
def steadyStore : ConsensusAnswer := fun t => .ok (proven (some (.ok ⟨t.revisionHeight⟩)))

/-- The time of a height is its number. -/
theorem steadyStore_hasTime (t : Height) : HasTime steadyStore t t.revisionHeight :=
  ⟨_, _, rfl, rfl, rfl⟩

/-- The store has no gaps. -/
theorem steadyStore_store (lo hi : ℕ) : ConsensusStore steadyStore 0 lo hi id where
  time t _ _ _ := steadyStore_hasTime t
  mono _ _ _ hij _ := hij

/-- The same blocks, without a consensus state at height 3. -/
def gapStore : ConsensusAnswer := fun t =>
  if t.revisionHeight = 3 then .error (.rpcError "not found") else steadyStore t

/-- A time of the store is the number of its height. -/
theorem gapStore_time {t : Height} {n : ℕ} (ht : HasTime gapStore t n) : n = t.revisionHeight := by
  obtain ⟨response, time, hanswer, htime, rfl⟩ := ht
  unfold gapStore at hanswer
  split_ifs at hanswer
  obtain rfl := Except.ok.inj hanswer
  obtain rfl := Option.some.inj htime
  rfl

/-- The store has one gap. -/
theorem gapStore_sparse (lo hi : ℕ) : SparseStore gapStore 0 lo hi where
  time t _ _ _ := by
    by_cases h : t.revisionHeight = 3
    · exact .inl ⟨_, if_pos h⟩
    · exact .inr ⟨t.revisionHeight, _, _, if_neg h, rfl, rfl⟩
  mono t u n m _ _ _ htu _ hn hm := by
    rw [gapStore_time hn, gapStore_time hm]
    exact htu

/-- The end of the search, for the heights from 5 to 40. -/
theorem steadyStore_ends :
    ∃ found, findSuitableProofHeightForClient (storedChain steadyStore) (height0 100) client0
        (height0 5) (some (.fromNanoseconds 17)) (height0 40) = pure found ∧
      ∀ t, found = some t → Within 0 5 40 t ∧ ∃ n, HasTime steadyStore t n ∧ 17 ≤ n :=
  timestampSearch_ends (storedChain_answers steadyStore (height0 100) client0) (height0 5)
    (height0 40) (.fromNanoseconds 17) (by decide)

/-- Of the three heights from 5 to 7 the last is found. -/
theorem steadyStore_finds_iff :
    (∃ t, findSuitableProofHeightForClient (storedChain steadyStore) (height0 100) client0
        (height0 5) (some (.fromNanoseconds 7)) (height0 7) = pure (some t)) ↔
      FindsLate id 7 5 7 :=
  timestampSearch_finds_iff (storedChain_answers steadyStore (height0 100) client0) (height0 5)
    (height0 7) (.fromNanoseconds 7) id (steadyStore_store 5 7) ⟨7, by decide, by decide, by decide⟩

/-- **The last of two heights is not found.**  Heights 5 and 6 have consensus states,
the one at 6 is late enough, and the search returns nothing. -/
theorem steadyStore_last_not_found :
    ConsensusAnswers (storedChain steadyStore) (height0 100) client0 steadyStore ∧
      ConsensusStore steadyStore 0 5 6 id ∧ (Timestamp.fromNanoseconds 6).nanoseconds ≤ id 6 ∧
      findSuitableProofHeightForClient (storedChain steadyStore) (height0 100) client0
        (height0 5) (some (.fromNanoseconds 6)) (height0 6) = pure none :=
  ⟨storedChain_answers steadyStore (height0 100) client0, steadyStore_store 5 6, by decide, rfl⟩

/-- The condition for the first height, on the store with a gap. -/
theorem gapStore_first_iff :
    (∀ t, findSuitableProofHeightForClient (storedChain gapStore) (height0 100) client0
        (height0 1) (some (.fromNanoseconds 1)) (height0 5) = pure (some t) →
      ∀ (u : Height) (n : ℕ), u.revisionNumber = 0 → 1 ≤ u.revisionHeight →
        u.revisionHeight < t.revisionHeight → HasTime gapStore u n → n < 1) ↔
      ¬(1 ≤ 5 ∧ Skips u64Half (probeAt gapStore (.fromNanoseconds 1) 0) false 1 5) :=
  timestampSearch_first_iff (storedChain_answers gapStore (height0 100) client0) (height0 1)
    (height0 5) (.fromNanoseconds 1) (gapStore_sparse 1 5)

/-- **A gap hides an earlier height.**  Height 1 is present and late enough; the
midpoint 3 is missing, twice, and the search returns height 4. -/
theorem gapStore_not_first :
    ConsensusAnswers (storedChain gapStore) (height0 100) client0 gapStore ∧
      SparseStore gapStore 0 1 5 ∧
      findSuitableProofHeightForClient (storedChain gapStore) (height0 100) client0
        (height0 1) (some (.fromNanoseconds 1)) (height0 5) = pure (some (height0 4)) ∧
      HasTime gapStore (height0 1) 1 ∧ ¬1 < (Timestamp.fromNanoseconds 1).nanoseconds :=
  ⟨storedChain_answers gapStore (height0 100) client0, gapStore_sparse 1 5, rfl,
    ⟨_, _, rfl, rfl, rfl⟩, by decide⟩

end HyperspaceLight
