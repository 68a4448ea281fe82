/-
# A bisection that probes one end

A search for the first late place between two bounds, over probes that may find
nothing.  A late midpoint becomes the upper bound and is remembered, an early one
moves the lower bound past it, and a missing one gives no direction: the lower
bound moves up by one.  The loop ends with one or two places between the bounds and
then only the lower one is probed; if it is not late the answer is what was
remembered.

Three things follow, and each has its exact condition here.

* The upper bound is only remembered once a probe has moved it.  If the last place
  is the only late one, it is found if the loop happens to end on it: halving the
  number of places, rounding down, must never leave two (`bisect_eq_some_iff`).
* The lower bound moves past a missing midpoint together with a place that was never
  probed.  The answer is late, but not the first (`bisect_first_iff`).
* The midpoint is computed from the sum of the bounds, which must stay below
  `2 * half` (`narrow_overflow_iff`).
-/

import Mathlib.Algebra.GroupWithZero.Nat
import Mathlib.Data.Nat.Basic
import Mathlib.Order.Basic
import Mathlib.Tactic.Common

namespace HyperspaceLight
namespace Bisection

/-- What a probe says about a place.  An unreadable one ends the search. -/
inductive Probe where
  | missing
  | unreadable
  | early
  | late
  deriving DecidableEq

/-- How the loop ends. -/
inductive Halt where
  | overflow
  | unreadable
  | narrowed (lower : ℕ) (known : Option ℕ)

section Search

variable (half : ℕ) (probe : ℕ → Probe)

/-- The loop, between `lower` and `upper`, with the last place known to be late. -/
def narrow (lower upper : ℕ) (known : Option ℕ) : Halt :=
  if upper - lower ≤ 1 then .narrowed lower known
  else if 2 * half ≤ upper + lower then .overflow
  else
    match probe ((upper + lower) / 2) with
    | .missing => narrow (lower + 1) upper known
    | .unreadable => .unreadable
    | .early => narrow ((upper + lower) / 2 + 1) upper known
    | .late => narrow lower ((upper + lower) / 2) (some ((upper + lower) / 2))
termination_by upper - lower

/-- The probe of the place the loop ends on; `none` is an overflow. -/
def final : Halt → Option (Option ℕ)
  | .overflow => none
  | .unreadable => some none
  | .narrowed lower known =>
      match probe lower with
      | .late => some (some lower)
      | .unreadable => some none
      | _ => some known

/-- The search. -/
def bisect (lower upper : ℕ) : Option (Option ℕ) :=
  if upper < lower then some none else final probe (narrow half probe lower upper none)

end Search

variable {half : ℕ} {probe : ℕ → Probe} {first lower upper : ℕ} {known : Option ℕ}

/-- **Below `half` nothing overflows.** -/
theorem narrow_ne_overflow (h : upper ≤ half) :
    narrow half probe lower upper known ≠ .overflow := by
  fun_induction narrow half probe lower upper known with
  | case1 => nofun
  | case2 lower upper known hgap hsum => omega
  | case3 lower upper known hgap hsum hprobe ih => exact ih h
  | case4 => nofun
  | case5 lower upper known hgap hsum hprobe ih => exact ih h
  | case6 lower upper known hgap hsum hprobe ih => exact ih (by omega)

/-- The lower bound only grows. -/
theorem le_of_narrow_eq {lower' : ℕ} {known' : Option ℕ}
    (h : narrow half probe lower upper known = .narrowed lower' known') : lower ≤ lower' := by
  fun_induction narrow half probe lower upper known with
  | case1 lower upper known hgap =>
      obtain ⟨rfl, -⟩ := Halt.narrowed.inj h
      exact le_rfl
  | case2 => cases h
  | case3 lower upper known hgap hsum hprobe ih => exact (Nat.le_succ lower).trans (ih h)
  | case4 => cases h
  | case5 lower upper known hgap hsum hprobe ih =>
      have hle := ih h
      omega
  | case6 lower upper known hgap hsum hprobe ih => exact ih h

/-- What the loop and the last probe return was known before, or is a late place
between the bounds. -/
theorem late_of_final_narrow (hle : lower ≤ upper) {t : ℕ}
    (hs : final probe (narrow half probe lower upper known) = some (some t)) :
    known = some t ∨ (lower ≤ t ∧ t ≤ upper ∧ probe t = .late) := by
  fun_induction narrow half probe lower upper known with
  | case1 lower upper known hgap =>
      cases hp : probe lower with
      | unreadable => simp [final, hp] at hs
      | late =>
          simp only [final, hp, Option.some.injEq] at hs
          exact .inr ⟨hs.le, hs ▸ hle, hs ▸ hp⟩
      | missing | early =>
          simp only [final, hp, Option.some.injEq] at hs
          exact .inl hs
  | case2 => cases hs
  | case3 lower upper known hgap hsum hprobe ih =>
      exact (ih (by omega) hs).imp_right fun ⟨h₁, h₂⟩ => ⟨by omega, h₂⟩
  | case4 => cases hs
  | case5 lower upper known hgap hsum hprobe ih =>
      exact (ih (by omega) hs).imp_right fun ⟨h₁, h₂⟩ => ⟨by omega, h₂⟩
  | case6 lower upper known hgap hsum hprobe ih =>
      right
      rcases ih (by omega) hs with hknown | ⟨h₁, h₂, hlate⟩
      · obtain rfl := Option.some.inj hknown
        exact ⟨by omega, by omega, hprobe⟩
      · exact ⟨h₁, by omega, hlate⟩

/-- **The search is never wrong.** -/
theorem late_of_bisect {t : ℕ} (hs : bisect half probe lower upper = some (some t)) :
    lower ≤ t ∧ t ≤ upper ∧ probe t = .late := by
  unfold bisect at hs
  by_cases hlt : upper < lower
  · rw [if_pos hlt] at hs
    cases hs
  · rw [if_neg hlt] at hs
    rcases late_of_final_narrow (not_lt.mp hlt) hs with h | h
    · cases h
    · exact h

/-! ### Every place is there -/

/-- The places from `lower` to `upper` are early below `first` and late from it on. -/
structure Threshold (probe : ℕ → Probe) (first lower upper : ℕ) : Prop where
  early : ∀ i, lower ≤ i → i ≤ upper → i < first → probe i = .early
  late : ∀ i, lower ≤ i → i ≤ upper → first ≤ i → probe i = .late

/-- A threshold of an interval is one of a smaller interval. -/
theorem Threshold.mono {lower' upper' : ℕ} (h : Threshold probe first lower upper)
    (hlower : lower ≤ lower') (hupper : upper' ≤ upper) : Threshold probe first lower' upper' :=
  ⟨fun i h₁ h₂ => h.early i (hlower.trans h₁) (h₂.trans hupper),
    fun i h₁ h₂ => h.late i (hlower.trans h₁) (h₂.trans hupper)⟩

/-- An early place is below the first late one. -/
theorem Threshold.lt_of_early {i : ℕ} (h : Threshold probe first lower upper) (hl : lower ≤ i)
    (hu : i ≤ upper) (hi : probe i = .early) : i < first := by
  by_contra hge
  rw [h.late i hl hu (Nat.le_of_not_lt hge)] at hi
  cases hi

/-- A late place is not. -/
theorem Threshold.le_of_late {i : ℕ} (h : Threshold probe first lower upper) (hl : lower ≤ i)
    (hu : i ≤ upper) (hi : probe i = .late) : first ≤ i := by
  by_contra hlt
  rw [h.early i hl hu (Nat.lt_of_not_le hlt)] at hi
  cases hi

/-- No place is missing or unreadable. -/
theorem Threshold.readable {i : ℕ} (h : Threshold probe first lower upper) (hl : lower ≤ i)
    (hu : i ≤ upper) : probe i = .early ∨ probe i = .late := by
  rcases Nat.lt_or_ge i first with hlt | hge
  · exact .inl (h.early i hl hu hlt)
  · exact .inr (h.late i hl hu hge)

variable (half) in
/-- **An upper bound that is known to be late, or is not the first late place, makes
the search right.** -/
theorem final_narrow_of_known (h : Threshold probe first lower upper) (hlower : lower ≤ first)
    (hupper : first ≤ upper) (hknown : known = some upper ∨ first < upper) :
    final probe (narrow half probe lower upper known) = none ∨
      final probe (narrow half probe lower upper known) = some (some first) := by
  fun_induction narrow half probe lower upper known with
  | case1 lower upper known hgap =>
      right
      rcases hlower.eq_or_lt with rfl | hlt
      · simp only [final, h.late lower le_rfl hupper le_rfl]
      · obtain rfl : upper = first := by omega
        obtain rfl : known = some upper := hknown.resolve_right (lt_irrefl upper)
        simp only [final, h.early lower le_rfl hlower hlt]
  | case2 => exact .inl rfl
  | case3 lower upper known hgap hsum hprobe ih | case4 lower upper known hgap hsum hprobe =>
      rcases h.readable (i := (upper + lower) / 2) (by omega) (by omega) with hr | hr
      · cases hprobe.symm.trans hr
      · cases hprobe.symm.trans hr
  | case5 lower upper known hgap hsum hprobe ih =>
      have hlt := h.lt_of_early (by omega) (by omega) hprobe
      exact ih (h.mono (by omega) le_rfl) hlt hupper hknown
  | case6 lower upper known hgap hsum hprobe ih =>
      have hge := h.le_of_late (by omega) (by omega) hprobe
      exact ih (h.mono le_rfl (by omega)) hlower hge (.inl rfl)

/-- Halving `n` places, rounding down, never leaves two. -/
def EndsOnLast (n : ℕ) : Prop := ∀ i, n / 2 ^ i ≠ 2

/-- One place is never halved to two. -/
theorem endsOnLast_one : EndsOnLast 1 := by
  intro i h
  have hle : 1 / 2 ^ i ≤ 1 := Nat.div_le_self 1 _
  omega

/-- Two places are two to begin with. -/
theorem not_endsOnLast_two : ¬EndsOnLast 2 := fun h => h 0 (by decide)

/-- A round of the loop halves the number of places. -/
theorem endsOnLast_half {n : ℕ} (hn : 2 < n) : EndsOnLast n ↔ EndsOnLast (n / 2) := by
  have hdiv : ∀ i, n / 2 ^ (i + 1) = n / 2 / 2 ^ i := fun i => by
    rw [Nat.pow_succ', Nat.div_div_eq_div_mul]
  constructor
  · exact fun h i => hdiv i ▸ h (i + 1)
  · rintro h (_ | i)
    · rw [Nat.pow_zero, Nat.div_one]
      exact hn.ne'
    · rw [hdiv]
      exact h i

variable (half) in
/-- **If only the last place is late**, the loop ends on it or one before it. -/
theorem final_narrow_of_last (h : Threshold probe upper lower upper) (hle : lower ≤ upper)
    (hknown : known = none) :
    final probe (narrow half probe lower upper known) = none ∨
      (EndsOnLast (upper + 1 - lower) ∧
        final probe (narrow half probe lower upper known) = some (some upper)) ∨
      (¬EndsOnLast (upper + 1 - lower) ∧
        final probe (narrow half probe lower upper known) = some none) := by
  fun_induction narrow half probe lower upper known with
  | case1 lower upper known hgap =>
      right
      rcases hle.eq_or_lt with rfl | hlt
      · rw [Nat.add_sub_cancel_left]
        exact .inl ⟨endsOnLast_one, by simp only [final, h.late lower le_rfl le_rfl le_rfl]⟩
      · have htwo : upper + 1 - lower = 2 := by omega
        rw [htwo]
        exact .inr ⟨not_endsOnLast_two, by simp only [final, h.early lower le_rfl hle hlt, hknown]⟩
  | case2 => exact .inl rfl
  | case3 lower upper known hgap hsum hprobe ih | case4 lower upper known hgap hsum hprobe
  | case6 lower upper known hgap hsum hprobe ih =>
      cases hprobe.symm.trans (h.early ((upper + lower) / 2) (by omega) (by omega) (by omega))
  | case5 lower upper known hgap hsum hprobe ih =>
      have hn : upper + 1 - ((upper + lower) / 2 + 1) = (upper + 1 - lower) / 2 := by omega
      rw [endsOnLast_half (by omega), ← hn]
      exact ih (h.mono (by omega) le_rfl) (by omega) hknown

/-! ### Overflow -/

/-- The sums of the bounds that a search for `first` forms stay below `2 * half`.  As
long as the probes are early, `n / 2 ^ i` places of the first `n` are left, and the
sum of their bounds is `2 * upper + 1 - n / 2 ^ i`. -/
def SumsFit (half first lower upper : ℕ) : Prop :=
  ∀ i, 2 < (upper + 1 - lower) / 2 ^ i → upper < first + (upper + 1 - lower) / 2 ^ i →
    2 * upper + 1 < 2 * half + (upper + 1 - lower) / 2 ^ i

/-- **The loop overflows if and only if a sum does not fit.** -/
theorem narrow_overflow_iff (h : Threshold probe first lower upper) (hlower : lower ≤ first)
    (hle : lower ≤ upper) :
    narrow half probe lower upper known = .overflow ↔ ¬SumsFit half first lower upper := by
  have hdiv : ∀ n i, n / 2 ^ (i + 1) = n / 2 / 2 ^ i := fun n i => by
    rw [Nat.pow_succ', Nat.div_div_eq_div_mul]
  fun_induction narrow half probe lower upper known with
  | case1 lower upper known hgap =>
      refine iff_of_false (by nofun) (not_not_intro fun i hi => ?_)
      have hself := Nat.div_le_self (upper + 1 - lower) (2 ^ i)
      omega
  | case2 lower upper known hgap hsum =>
      refine iff_of_true rfl fun hfit => ?_
      have hfirst := hfit 0
      rw [Nat.pow_zero, Nat.div_one] at hfirst
      omega
  | case3 lower upper known hgap hsum hprobe ih | case4 lower upper known hgap hsum hprobe =>
      rcases h.readable (i := (upper + lower) / 2) (by omega) (by omega) with hr | hr
      · cases hprobe.symm.trans hr
      · cases hprobe.symm.trans hr
  | case5 lower upper known hgap hsum hprobe ih =>
      have hlt := h.lt_of_early (by omega) (by omega) hprobe
      have hn : upper + 1 - ((upper + lower) / 2 + 1) = (upper + 1 - lower) / 2 := by omega
      have ih := ih (h.mono (by omega) le_rfl) hlt (by omega)
      refine ih.trans (not_congr ?_)
      unfold SumsFit
      constructor
      · rintro hfit (_ | i)
        · rw [Nat.pow_zero, Nat.div_one]
          omega
        · rw [hdiv, ← hn]
          exact hfit i
      · intro hfit i
        rw [hn, ← hdiv]
        exact hfit (i + 1)
  | case6 lower upper known hgap hsum hprobe ih =>
      -- the new upper bound is at most half of a sum that fits
      have hge := h.le_of_late (by omega) (by omega) hprobe
      refine iff_of_false (narrow_ne_overflow (by omega)) (not_not_intro ?_)
      rintro (_ | i) h₁ h₂
      · rw [Nat.pow_zero, Nat.div_one]
        omega
      · rw [hdiv] at h₁ h₂ ⊢
        have hself := Nat.div_le_self ((upper + 1 - lower) / 2) (2 ^ i)
        omega

/-- The search overflows where its loop does. -/
theorem final_eq_none {stop : Halt} : final probe stop = none ↔ stop = .overflow := by
  cases stop with
  | overflow => exact iff_of_true rfl rfl
  | unreadable => exact iff_of_false (fun h => by cases h) (fun h => by cases h)
  | narrowed lower known =>
      refine iff_of_false ?_ (fun h => by cases h)
      cases hp : probe lower <;> simp [final, hp]

/-- **Below `half` the search answers.** -/
theorem bisect_ne_none (h : upper ≤ half) : bisect half probe lower upper ≠ none := by
  unfold bisect
  split_ifs
  · exact Option.some_ne_none _
  · exact fun hnone => narrow_ne_overflow h (final_eq_none.mp hnone)

/-- **What the search finds**: the first late place, if the sums fit and the last place
is not the only late one, or the loop ends on it. -/
theorem bisect_eq_some_iff (h : Threshold probe first lower upper) (hlower : lower ≤ first)
    (hupper : first ≤ upper) {t : ℕ} :
    bisect half probe lower upper = some (some t) ↔
      t = first ∧ SumsFit half first lower upper ∧
        (first < upper ∨ EndsOnLast (upper + 1 - lower)) := by
  have hle := hlower.trans hupper
  have hoverflow : final probe (narrow half probe lower upper none) = none ↔
      ¬SumsFit half first lower upper := final_eq_none.trans (narrow_overflow_iff h hlower hle)
  rw [bisect, if_neg (not_lt.mpr hle)]
  rcases hupper.eq_or_lt with rfl | hlt
  · rcases final_narrow_of_last half h hle rfl with hn | ⟨hends, hs⟩ | ⟨hends, hs⟩
    · exact iff_of_false (by rw [hn]; nofun) fun hfit => hoverflow.mp hn hfit.2.1
    · have hfit : SumsFit half first lower first :=
        not_not.mp fun hfit => by cases hs.symm.trans (hoverflow.mpr hfit)
      rw [hs, Option.some.injEq, Option.some.injEq, eq_comm]
      exact (and_iff_left ⟨hfit, .inr hends⟩).symm
    · refine iff_of_false (by rw [hs]; nofun) ?_
      rintro ⟨-, -, hlt | hends'⟩
      · exact lt_irrefl _ hlt
      · exact hends hends'
  · rcases final_narrow_of_known half h hlower hupper (.inr hlt) with hn | hs
    · exact iff_of_false (by rw [hn]; nofun) fun hfit => hoverflow.mp hn hfit.2.1
    · have hfit : SumsFit half first lower upper :=
        not_not.mp fun hfit => by cases hs.symm.trans (hoverflow.mpr hfit)
      rw [hs, Option.some.injEq, Option.some.injEq, eq_comm]
      exact (and_iff_left ⟨hfit, .inl hlt⟩).symm

/-! ### Some places are missing -/

/-- The places from `lower` to `upper` that are not missing are readable, and no early
one comes after a late one. -/
structure Sparse (probe : ℕ → Probe) (lower upper : ℕ) : Prop where
  readable : ∀ i, lower ≤ i → i ≤ upper → probe i ≠ .unreadable
  mono : ∀ i j, lower ≤ i → i ≤ j → j ≤ upper → probe i = .late → probe j ≠ .early

/-- Sparse places are sparse in a smaller interval. -/
theorem Sparse.sub {lower' upper' : ℕ} (h : Sparse probe lower upper) (hlower : lower ≤ lower')
    (hupper : upper' ≤ upper) : Sparse probe lower' upper' :=
  ⟨fun i h₁ h₂ => h.readable i (hlower.trans h₁) (h₂.trans hupper),
    fun i j h₁ h₂ h₃ => h.mono i j (hlower.trans h₁) h₂ (h₃.trans hupper)⟩

/-- The search passes over a late place that it never probes: it is the lower bound
when the midpoint is missing, and a later place is found, because the upper bound is
known or because some place from the next midpoint on is there. -/
inductive Skips (half : ℕ) (probe : ℕ → Probe) : Bool → ℕ → ℕ → Prop where
  | skip {known : Bool} {lower upper : ℕ} (hgap : lower + 1 < upper)
      (hsum : upper + lower < 2 * half) (hmid : probe ((upper + lower) / 2) = .missing)
      (hlate : probe lower = .late)
      (hlater : known = true ∨
        ∃ t, (upper + (lower + 1)) / 2 ≤ t ∧ t < upper ∧ t < half ∧ probe t ≠ .missing) :
      Skips half probe known lower upper
  | missing {known : Bool} {lower upper : ℕ} (hgap : lower + 1 < upper)
      (hsum : upper + lower < 2 * half) (hmid : probe ((upper + lower) / 2) = .missing)
      (h : Skips half probe known (lower + 1) upper) : Skips half probe known lower upper
  | early {known : Bool} {lower upper : ℕ} (hgap : lower + 1 < upper)
      (hsum : upper + lower < 2 * half) (hmid : probe ((upper + lower) / 2) = .early)
      (h : Skips half probe known ((upper + lower) / 2 + 1) upper) :
      Skips half probe known lower upper
  | late {known : Bool} {lower upper : ℕ} (hgap : lower + 1 < upper)
      (hsum : upper + lower < 2 * half) (hmid : probe ((upper + lower) / 2) = .late)
      (h : Skips half probe true lower ((upper + lower) / 2)) : Skips half probe known lower upper

/-- One round of the loop. -/
theorem narrow_step (hgap : lower + 1 < upper) (hsum : upper + lower < 2 * half) :
    narrow half probe lower upper known =
      match probe ((upper + lower) / 2) with
      | .missing => narrow half probe (lower + 1) upper known
      | .unreadable => .unreadable
      | .early => narrow half probe ((upper + lower) / 2 + 1) upper known
      | .late => narrow half probe lower ((upper + lower) / 2) (some ((upper + lower) / 2)) := by
  rw [narrow, if_neg (by omega), if_neg (by omega)]

/-- A search with a known upper bound finds something. -/
theorem final_narrow_of_some (h : Sparse probe lower upper) (hle : lower ≤ upper)
    (hupper : upper ≤ half) (hknown : known = some upper) :
    ∃ t, lower ≤ t ∧ final probe (narrow half probe lower upper known) = some (some t) := by
  fun_induction narrow half probe lower upper known with
  | case1 lower upper known hgap =>
      cases hp : probe lower with
      | unreadable => exact absurd hp (h.readable lower le_rfl hle)
      | late => exact ⟨lower, le_rfl, by simp only [final, hp]⟩
      | missing | early => exact ⟨upper, hle, by simp only [final, hp, hknown]⟩
  | case2 lower upper known hgap hsum => omega
  | case3 lower upper known hgap hsum hprobe ih =>
      obtain ⟨t, ht, hs⟩ := ih (h.sub (by omega) le_rfl) (by omega) hupper hknown
      exact ⟨t, by omega, hs⟩
  | case4 lower upper known hgap hsum hprobe =>
      exact absurd hprobe (h.readable _ (by omega) (by omega))
  | case5 lower upper known hgap hsum hprobe ih =>
      obtain ⟨t, ht, hs⟩ := ih (h.sub (by omega) le_rfl) (by omega) hupper hknown
      exact ⟨t, by omega, hs⟩
  | case6 lower upper known hgap hsum hprobe ih =>
      exact ih (h.sub le_rfl (by omega)) (by omega) (by omega) rfl

/-- Among late and missing places, one from the midpoint on is enough. -/
theorem final_narrow_of_later (h : Sparse probe lower upper)
    (hlate : ∀ i, lower ≤ i → i ≤ upper → probe i ≠ .early) {t : ℕ}
    (ht : (upper + lower) / 2 ≤ t) (hupper : t < upper) (hhalf : t < half)
    (hthere : probe t ≠ .missing) :
    ∃ t, lower ≤ t ∧ final probe (narrow half probe lower upper known) = some (some t) := by
  fun_induction narrow half probe lower upper known with
  | case1 lower upper known hgap =>
      obtain rfl : t = lower := by omega
      cases hp : probe t with
      | missing => exact absurd hp hthere
      | unreadable => exact absurd hp (h.readable t le_rfl hupper.le)
      | early => exact absurd hp (hlate t le_rfl hupper.le)
      | late => exact ⟨t, le_rfl, by simp only [final, hp]⟩
  | case2 lower upper known hgap hsum => omega
  | case3 lower upper known hgap hsum hprobe ih =>
      -- the midpoint is missing, so `t` lies above it
      have hne : t ≠ (upper + lower) / 2 := by
        rintro rfl
        exact hthere hprobe
      obtain ⟨t', ht', hs⟩ := ih (h.sub (by omega) le_rfl)
        (fun i h₁ h₂ => hlate i (by omega) h₂) (by omega) hupper
      exact ⟨t', by omega, hs⟩
  | case4 lower upper known hgap hsum hprobe =>
      exact absurd hprobe (h.readable _ (by omega) (by omega))
  | case5 lower upper known hgap hsum hprobe ih =>
      exact absurd hprobe (hlate _ (by omega) (by omega))
  | case6 lower upper known hgap hsum hprobe ih =>
      exact final_narrow_of_some (h.sub le_rfl (by omega)) (by omega) (by omega) rfl

/-- And needed: what is found without a known bound lies from the midpoint on. -/
theorem later_of_final_narrow (hlt : lower < upper)
    (hnext : upper = lower + 1 → probe lower = .missing) (hknown : known = none) {t : ℕ}
    (hs : final probe (narrow half probe lower upper known) = some (some t)) :
    ∃ t, (upper + lower) / 2 ≤ t ∧ t < upper ∧ t < half ∧ probe t ≠ .missing := by
  fun_induction narrow half probe lower upper known with
  | case1 lower upper known hgap =>
      simp only [final, hnext (by omega), hknown] at hs
      cases hs
  | case2 => cases hs
  | case3 lower upper known hgap hsum hprobe ih =>
      have hmissing : upper = lower + 1 + 1 → probe (lower + 1) = .missing := by
        rintro rfl
        rwa [show (lower + 1 + 1 + lower) / 2 = lower + 1 by omega] at hprobe
      obtain ⟨t', ht', hrest⟩ := ih (by omega) hmissing hknown hs
      exact ⟨t', by omega, hrest⟩
  | case4 => cases hs
  | case5 lower upper known hgap hsum hprobe ih | case6 lower upper known hgap hsum hprobe ih =>
      exact ⟨(upper + lower) / 2, le_rfl, by omega, by omega, by rw [hprobe]; decide⟩

/-- **A search that skips returns a late place after the one it skipped.** -/
theorem Skips.final_narrow {b : Bool} (h : Skips half probe b lower upper)
    (hsparse : Sparse probe lower upper) (hknown : b = true → known = some upper ∧ upper ≤ half) :
    ∃ t k, final probe (narrow half probe lower upper known) = some (some t) ∧ lower ≤ k ∧ k < t ∧
      probe k = .late := by
  induction h generalizing known with
  | @skip b lower upper hgap hsum hmid hlate hlater =>
      have hsub := hsparse.sub (Nat.le_succ lower) le_rfl
      have hfound : ∃ t, lower + 1 ≤ t ∧
          final probe (narrow half probe (lower + 1) upper known) = some (some t) := by
        rcases hlater with hb | ⟨t, ht, htu, hth, hthere⟩
        · exact final_narrow_of_some hsub (by omega) (hknown hb).2 (hknown hb).1
        · refine final_narrow_of_later hsub (fun i h₁ h₂ => ?_) ht htu hth hthere
          exact hsparse.mono lower i le_rfl (by omega) h₂ hlate
      obtain ⟨t, ht, hs⟩ := hfound
      rw [narrow_step hgap hsum, hmid]
      exact ⟨t, lower, hs, le_rfl, ht, hlate⟩
  | missing hgap hsum hmid h ih =>
      obtain ⟨t, k, hs, hk, hrest⟩ := ih (hsparse.sub (by omega) le_rfl) hknown
      rw [narrow_step hgap hsum, hmid]
      exact ⟨t, k, hs, by omega, hrest⟩
  | early hgap hsum hmid h ih =>
      obtain ⟨t, k, hs, hk, hrest⟩ := ih (hsparse.sub (by omega) le_rfl) hknown
      rw [narrow_step hgap hsum, hmid]
      exact ⟨t, k, hs, by omega, hrest⟩
  | late hgap hsum hmid h ih =>
      rw [narrow_step hgap hsum, hmid]
      exact ih (hsparse.sub le_rfl (by omega)) fun _ => ⟨rfl, by omega⟩

/-- **A late place before the one returned was skipped.** -/
theorem skips_of_final_narrow (hsparse : Sparse probe lower upper) (hle : lower ≤ upper)
    (hknown : ∀ u, known = some u → u = upper) {t k : ℕ}
    (hs : final probe (narrow half probe lower upper known) = some (some t)) (hk : lower ≤ k)
    (hkt : k < t) (hlate : probe k = .late) : Skips half probe known.isSome lower upper := by
  fun_induction narrow half probe lower upper known with
  | case1 lower upper known hgap =>
      exfalso
      cases hp : probe lower with
      | unreadable => simp [final, hp] at hs
      | late =>
          simp only [final, hp, Option.some.injEq] at hs
          omega
      | missing | early =>
          -- the upper bound is returned, so the lower one is late
          simp only [final, hp, Option.some.injEq] at hs
          have ht := hknown t hs
          obtain rfl : k = lower := by omega
          cases hp.symm.trans hlate
  | case2 => cases hs
  | case3 lower upper known hgap hsum hprobe ih =>
      rcases hk.eq_or_lt with rfl | hlt
      · refine .skip (by omega) (by omega) hprobe hlate ?_
        cases known with
        | some u => exact .inl rfl
        | none =>
            refine .inr (later_of_final_narrow (by omega) ?_ rfl hs)
            rintro rfl
            rwa [show (lower + 1 + 1 + lower) / 2 = lower + 1 by omega] at hprobe
      · exact .missing (by omega) (by omega) hprobe
          (ih (hsparse.sub (by omega) le_rfl) (by omega) hknown hs hlt)
  | case4 => cases hs
  | case5 lower upper known hgap hsum hprobe ih =>
      have hmid : (upper + lower) / 2 < k := by
        by_contra hge
        exact hsparse.mono k _ hk (not_lt.mp hge) (by omega) hlate hprobe
      exact .early (by omega) (by omega) hprobe
        (ih (hsparse.sub (by omega) le_rfl) (by omega) hknown hs hmid)
  | case6 lower upper known hgap hsum hprobe ih =>
      refine .late (by omega) (by omega) hprobe
        (ih (hsparse.sub le_rfl (by omega)) (by omega) ?_ hs hk)
      exact fun u hu => (Option.some.inj hu).symm

/-- **When the place returned is the first late one**: the search skips none. -/
theorem bisect_first_iff (hsparse : Sparse probe lower upper) :
    (∀ t, bisect half probe lower upper = some (some t) →
        ∀ k, lower ≤ k → k < t → probe k ≠ .late) ↔
      ¬(lower ≤ upper ∧ Skips half probe false lower upper) := by
  unfold bisect
  constructor
  · rintro hfirst ⟨hle, hskips⟩
    rw [if_neg (not_lt.mpr hle)] at hfirst
    obtain ⟨t, k, hs, hk, hkt, hlate⟩ := hskips.final_narrow hsparse (fun h => by cases h)
    exact hfirst t hs k hk hkt hlate
  · intro hnot t hs k hk hkt hlate
    have hle : lower ≤ upper := by
      by_contra hlt
      rw [if_pos (not_le.mp hlt)] at hs
      cases hs
    rw [if_neg (not_lt.mpr hle)] at hs
    have hknown : ∀ u, (none : Option ℕ) = some u → u = upper := fun u hu => by cases hu
    exact hnot ⟨hle, skips_of_final_narrow hsparse hle hknown hs hk hkt hlate⟩

end Bisection
end HyperspaceLight
