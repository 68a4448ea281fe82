/-
# What the search for a proof height returns

Both modes of `find_suitable_proof_height_for_client` return a height between
the start and the latest height of the client, of the revision of the start, at
which the chain answered a consensus state.  The bisecting mode returns only
heights whose consensus time has reached the target (`Suitable`); its loop keeps
that true of the last height known to be late enough, so the fallback of the
final probe is as good as the probe itself.
-/

import HyperspaceLight.Primitives.Funcs

namespace HyperspaceLight

open Interaction

variable {S : Sig} {A : (o : S.Op) → Except Error (S.Res o) → Prop}
  {chain : IbcProvider S} {h : Height} {clientId : ClientId}

/-- `chain` answers, as of `h`, a consensus state of the client at `t`. -/
def ConsensusAnswered (A : (o : S.Op) → Except Error (S.Res o) → Prop) (chain : IbcProvider S)
    (h : Height) (clientId : ClientId) (t : Height) : Prop :=
  ∃ r, (chain.queryClientConsensus h clientId t).Leaf A (.ok r)

/-- `chain` answers, as of `h`, a consensus state of the client at `t` whose time
is at `target` or later. -/
def Suitable (A : (o : S.Op) → Except Error (S.Res o) → Prop) (chain : IbcProvider S)
    (h : Height) (clientId : ClientId) (target : Timestamp) (t : Height) : Prop :=
  ∃ r time, (chain.queryClientConsensus h clientId t).Leaf A (.ok r) ∧
    consensusTime r = some time ∧ target.nanoseconds ≤ time.nanoseconds

/-- `t` has revision `rn` and a revision height from `lo` to `hi`. -/
structure Within (rn lo hi : ℕ) (t : Height) : Prop where
  revision : t.revisionNumber = rn
  lower : lo ≤ t.revisionHeight
  upper : t.revisionHeight ≤ hi

/-- A height between two bounds is between wider ones. -/
theorem Within.mono {rn lo hi lo' hi' : ℕ} {t : Height} (ht : Within rn lo hi t)
    (hlo : lo' ≤ lo) (hhi : hi ≤ hi') : Within rn lo' hi' t :=
  ⟨ht.revision, hlo.trans ht.lower, ht.upper.trans hhi⟩

/-- **The linear mode returns a height with a consensus state.** -/
theorem linearSearch_some {rn n height : ℕ} {t : Height}
    (hr : (linearSearch chain h clientId rn n height).Leaf A (.ok (some t))) :
    Within rn height (height + n - 1) t ∧ ConsensusAnswered A chain h clientId t := by
  induction n generalizing height with
  | zero => cases hr
  | succ n ih =>
      simp only [linearSearch, Prog.leaf_bind_ok, Prog.leaf_expect_ok, Height.new_eq_some] at hr
      obtain ⟨temp, ⟨hrn, hrh⟩, answer, hanswer, hr⟩ := hr
      cases answer with
      | error e =>
          obtain ⟨hw, hc⟩ := ih hr
          exact ⟨hw.mono (by omega) (by omega), hc⟩
      | ok r =>
          simp only [Prog.leaf_pure, Outcome.ok.injEq, Option.some.injEq] at hr
          subst hr
          exact ⟨⟨hrn, by omega, by omega⟩, r, Prog.leaf_attempt_ok.mp hanswer⟩

/-- **What the bisecting loop keeps.**  The lower bound only grows and stays
below the upper one, and the last known height is the one it started with or a
suitable height of the interval. -/
theorem bisectLoop_some {rn fuel start stop start' : ℕ} {target : Timestamp}
    {last last' : Option Height} (hle : start ≤ stop)
    (hr : (bisectLoop chain h clientId rn target fuel start stop last).Leaf A
      (.ok (some (start', last')))) :
    (start ≤ start' ∧ start' ≤ stop) ∧
      (last' = last ∨
        ∃ t, last' = some t ∧ Within rn start stop t ∧ Suitable A chain h clientId target t) := by
  induction fuel generalizing start stop last with
  | zero => cases hr
  | succ fuel ih =>
      simp only [bisectLoop, u64Sub, if_pos hle, Prog.leaf_bind_ok, Prog.leaf_pure,
        Outcome.ok.injEq] at hr
      obtain ⟨gap, rfl, hr⟩ := hr
      split_ifs at hr with hgap
      · simp only [Prog.leaf_pure, Outcome.ok.injEq, Option.some.injEq, Prod.mk.injEq] at hr
        obtain ⟨rfl, rfl⟩ := hr
        exact ⟨⟨le_rfl, hle⟩, .inl rfl⟩
      simp only [Prog.leaf_bind_ok, Prog.leaf_expect_ok, Height.new_eq_some] at hr
      obtain ⟨sum, hsum, temp, ⟨hrn, hrh⟩, answer, hanswer, hr⟩ := hr
      have hsum := u64Add_returns hsum
      have hmid : start < sum / 2 ∧ sum / 2 < stop := by omega
      cases answer with
      | error e =>
          -- the midpoint is missing
          obtain ⟨⟨h₁, h₂⟩, hl⟩ := ih (show start + 1 ≤ stop by omega) hr
          refine ⟨⟨by omega, h₂⟩, hl.imp_right ?_⟩
          rintro ⟨t, ht, hw, hs⟩
          exact ⟨t, ht, hw.mono (by omega) le_rfl, hs⟩
      | ok r =>
          cases htime : consensusTime r with
          | none => simp [htime] at hr
          | some time =>
              simp only [htime] at hr
              split_ifs at hr with hlt
              · -- too early: the search goes on above the midpoint
                obtain ⟨⟨h₁, h₂⟩, hl⟩ := ih (show sum / 2 + 1 ≤ stop by omega) hr
                refine ⟨⟨by omega, h₂⟩, hl.imp_right ?_⟩
                rintro ⟨t, ht, hw, hs⟩
                exact ⟨t, ht, hw.mono (by omega) le_rfl, hs⟩
              · -- late enough: the midpoint is the last known height
                obtain ⟨⟨h₁, h₂⟩, hl⟩ := ih (show start ≤ sum / 2 by omega) hr
                refine ⟨⟨h₁, by omega⟩, .inr ?_⟩
                rcases hl with rfl | ⟨t, ht, hw, hs⟩
                · exact ⟨temp, rfl, ⟨hrn, by omega, by omega⟩, r, time,
                    Prog.leaf_attempt_ok.mp hanswer, htime, not_lt.mp hlt⟩
                · exact ⟨t, ht, hw.mono le_rfl (by omega), hs⟩

/-- **The bisecting mode returns a suitable height.** -/
theorem bisectSearch_some {startHeight latest t : Height} {target : Timestamp}
    (hr : (bisectSearch chain h clientId startHeight target latest).Leaf A (.ok (some t))) :
    Within startHeight.revisionNumber startHeight.revisionHeight latest.revisionHeight t ∧
      Suitable A chain h clientId target t := by
  unfold bisectSearch at hr
  dsimp only at hr
  split_ifs at hr with hlt
  · cases hr
  obtain ⟨found, hfound, hr⟩ := Prog.leaf_bind_ok.mp hr
  cases found with
  | none => simp at hr
  | some found =>
      obtain ⟨start', last'⟩ := found
      obtain ⟨⟨h₁, h₂⟩, hl⟩ := bisectLoop_some (not_lt.mp hlt) hfound
      have hlast : last' = some t →
          Within startHeight.revisionNumber startHeight.revisionHeight latest.revisionHeight t ∧
            Suitable A chain h clientId target t := by
        rintro rfl
        rcases hl with hl | ⟨t', ht', hw, hs⟩
        · cases hl
        · cases ht'
          exact ⟨hw, hs⟩
      simp only [Prog.leaf_bind_ok, Prog.leaf_expect_ok, Height.new_eq_some] at hr
      obtain ⟨probe, ⟨hrn, hrh⟩, answer, hanswer, hr⟩ := hr
      cases answer with
      | error e =>
          simp only [Prog.leaf_pure, Outcome.ok.injEq] at hr
          exact hlast hr
      | ok r =>
          cases htime : consensusTime r with
          | none => simp [htime] at hr
          | some time =>
              simp only [htime] at hr
              split_ifs at hr with hle
              · simp only [Prog.leaf_pure, Outcome.ok.injEq, Option.some.injEq] at hr
                subst hr
                exact ⟨⟨hrn, by omega, by omega⟩, r, time, Prog.leaf_attempt_ok.mp hanswer,
                  htime, hle⟩
              · simp only [Prog.leaf_pure, Outcome.ok.injEq] at hr
                exact hlast hr

/-- **Without a timestamp the search returns a height of the range with a
consensus state.** -/
theorem findSuitableProofHeight_none {startHeight latest t : Height}
    (hr : (findSuitableProofHeightForClient chain h clientId startHeight none latest).Leaf A
      (.ok (some t))) :
    Within startHeight.revisionNumber startHeight.revisionHeight latest.revisionHeight t ∧
      ConsensusAnswered A chain h clientId t := by
  obtain ⟨hw, hc⟩ := linearSearch_some hr
  have hpos := startHeight.pos
  have hlower := hw.lower
  have hupper := hw.upper
  exact ⟨⟨hw.revision, hlower, by omega⟩, hc⟩

end HyperspaceLight
