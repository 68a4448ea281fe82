/-
# Programs that end without a result

A run settles with a value or an error.  It aborts with a panic, which no caller catches,
or by a loop that runs out of its rounds (`Prog.Aborts`).  Each combinator has an equation
that says where an abort comes from; the one of a fold says which element it happens at and
that the elements before it were passed (`Prog.aborts_foldlM`).
-/

import HyperspaceLight.Interaction.Program

namespace HyperspaceLight
namespace Interaction

/-- Neither a value nor an error. -/
def Outcome.Abrupt {ε α : Type} : Outcome ε α → Prop
  | ok _ | err _ => False
  | panic _ | spin => True

instance {ε α : Type} (o : Outcome ε α) : Decidable o.Abrupt :=
  match o with
  | .ok _ | .err _ => .isFalse id
  | .panic _ | .spin => .isTrue trivial

namespace Prog

variable {S : Sig} {ε α β : Type} {A : (o : S.Op) → Except ε (S.Res o) → Prop}

/-- Some run of `p`, answered as `A` admits, ends without a value and without an error. -/
def Aborts (A : (o : S.Op) → Except ε (S.Res o) → Prop) (p : Prog S ε α) : Prop :=
  ∃ o, p.Leaf A o ∧ o.Abrupt

/-- A finished program aborts if its outcome is a panic or a loop. -/
@[simp] theorem aborts_done (o : Outcome ε α) : (done o : Prog S ε α).Aborts A ↔ o.Abrupt :=
  ⟨fun ⟨_, h, habrupt⟩ => h ▸ habrupt, fun h => ⟨o, rfl, h⟩⟩

/-- A returned value does not abort. -/
@[simp] theorem aborts_pure (a : α) : ¬(pure a : Prog S ε α).Aborts A :=
  fun h => (aborts_done _).mp h

/-- A branch on values. -/
theorem aborts_ite_pure {c : Prop} [Decidable c] (a b : α) :
    ¬(if c then pure a else pure b : Prog S ε α).Aborts A := by
  split_ifs
  · exact aborts_pure a
  · exact aborts_pure b

/-- An error does not abort. -/
@[simp] theorem aborts_fail (e : ε) : ¬(fail e : Prog S ε α).Aborts A :=
  fun h => (aborts_done _).mp h

/-- A panic does. -/
@[simp] theorem aborts_panic (m : String) : (panic m : Prog S ε α).Aborts A :=
  ⟨_, rfl, trivial⟩

/-- A program aborts after a question if it does after some answer. -/
@[simp] theorem aborts_call {op : S.Op} {k : Except ε (S.Res op) → Prog S ε α} :
    (call op k).Aborts A ↔ ∃ r, A op r ∧ (k r).Aborts A := by
  constructor
  · rintro ⟨o, ⟨r, hr, h⟩, habrupt⟩
    exact ⟨r, hr, o, h, habrupt⟩
  · rintro ⟨r, hr, o, h, habrupt⟩
    exact ⟨o, ⟨r, hr, h⟩, habrupt⟩

/-- A question does not abort. -/
@[simp] theorem aborts_ask (op : S.Op) : ¬(ask op : Prog S ε (S.Res op)).Aborts A := by
  rw [ask, aborts_call]
  rintro ⟨r | r, -, h⟩
  · exact (aborts_done _).mp h
  · exact (aborts_done _).mp h

/-- Neither does an answer. -/
@[simp] theorem aborts_ofExcept (r : Except ε α) : ¬(ofExcept r : Prog S ε α).Aborts A := by
  cases r <;> exact fun h => (aborts_done _).mp h

/-- A missing value that is an error does not abort. -/
@[simp] theorem aborts_okOr (e : ε) (x : Option α) : ¬(okOr e x : Prog S ε α).Aborts A := by
  cases x <;> exact fun h => (aborts_done _).mp h

/-- A failed check does not abort. -/
@[simp] theorem aborts_require (c : Prop) [Decidable c] (e : ε) :
    ¬(require c e : Prog S ε Unit).Aborts A := by
  unfold require
  split_ifs <;> exact fun h => (aborts_done _).mp h

/-- A missing value that is expected does. -/
@[simp] theorem aborts_expect (m : String) (x : Option α) :
    (expect m x : Prog S ε α).Aborts A ↔ x = none := by
  cases x with
  | none => exact ⟨fun _ => rfl, fun _ => (aborts_done _).mpr trivial⟩
  | some a => exact ⟨fun h => ((aborts_done _).mp h).elim, nofun⟩

/-- **A sequence aborts in its first half, or in its second after the first has returned.** -/
@[simp] theorem aborts_bind {p : Prog S ε α} {f : α → Prog S ε β} :
    (p >>= f).Aborts A ↔ p.Aborts A ∨ ∃ a, p.Leaf A (.ok a) ∧ (f a).Aborts A := by
  induction p with
  | done o => cases o <;> simp [Outcome.Abrupt]
  | call op k ih =>
      simp only [call_bind, aborts_call, leaf_call, ih]
      constructor
      · rintro ⟨r, hr, h | ⟨a, ha, h⟩⟩
        · exact .inl ⟨r, hr, h⟩
        · exact .inr ⟨a, ⟨r, hr, ha⟩, h⟩
      · rintro (⟨r, hr, h⟩ | ⟨a, ⟨r, hr, ha⟩, h⟩)
        · exact ⟨r, hr, .inl h⟩
        · exact ⟨r, hr, .inr ⟨a, ha, h⟩⟩

/-- A sequence whose second half never aborts. -/
theorem aborts_bind_left {p : Prog S ε α} {f : α → Prog S ε β} (hf : ∀ a, ¬(f a).Aborts A) :
    (p >>= f).Aborts A ↔ p.Aborts A := by
  rw [aborts_bind]
  exact or_iff_left fun ⟨a, _, h⟩ => hf a h

/-- A sequence that goes on only with a value. -/
theorem aborts_bind_option {p : Prog S ε (Option α)} {f : Option α → Prog S ε β}
    (hf : ¬(f none).Aborts A) : (p >>= f).Aborts A ↔
      p.Aborts A ∨ ∃ a, p.Leaf A (.ok (some a)) ∧ (f (some a)).Aborts A := by
  rw [aborts_bind]
  refine or_congr_right ?_
  constructor
  · rintro ⟨_ | a, ha, h⟩
    · exact absurd h hf
    · exact ⟨a, ha, h⟩
  · rintro ⟨a, ha, h⟩
    exact ⟨some a, ha, h⟩

/-- Mapping the value makes no difference. -/
@[simp] theorem aborts_map {p : Prog S ε α} {f : α → β} : (f <$> p).Aborts A ↔ p.Aborts A := by
  rw [map_eq_pure_bind, aborts_bind]
  simp

/-- What aborts is not caught. -/
@[simp] theorem aborts_attempt {p : Prog S ε α} : p.attempt.Aborts A ↔ p.Aborts A := by
  induction p with
  | done o => cases o <;> simp [attempt, Outcome.Abrupt]
  | call o k ih => simp only [attempt, aborts_call, ih]

/-- After a caught program come two cases. -/
theorem aborts_attempt_bind {p : Prog S ε α} {f : Except ε α → Prog S ε β} :
    (p.attempt >>= f).Aborts A ↔ p.Aborts A ∨ (∃ e, p.Leaf A (.err e) ∧ (f (.error e)).Aborts A) ∨
      ∃ a, p.Leaf A (.ok a) ∧ (f (.ok a)).Aborts A := by
  rw [aborts_bind, aborts_attempt]
  refine or_congr_right ?_
  constructor
  · rintro ⟨e | a, hleaf, h⟩
    · exact .inl ⟨e, leaf_attempt_error.mp hleaf, h⟩
    · exact .inr ⟨a, leaf_attempt_ok.mp hleaf, h⟩
  · rintro (⟨e, hleaf, h⟩ | ⟨a, hleaf, h⟩)
    · exact ⟨.error e, leaf_attempt_error.mpr hleaf, h⟩
    · exact ⟨.ok a, leaf_attempt_ok.mpr hleaf, h⟩

/-- Neither does mapping the error. -/
@[simp] theorem aborts_mapErr {g : ε → ε} {p : Prog S ε α} :
    (p.mapErr g).Aborts A ↔ p.Aborts A := by
  induction p with
  | done o => cases o <;> simp [mapErr, Outcome.Abrupt]
  | call o k ih => simp only [mapErr, aborts_call, ih]

/-- **An unwrapped program aborts where it aborts or fails.** -/
@[simp] theorem aborts_unwrap {msg : String} {p : Prog S ε α} :
    (p.unwrap msg).Aborts A ↔ p.Aborts A ∨ ∃ e, p.Leaf A (.err e) := by
  induction p with
  | done o => cases o <;> simp [unwrap, Outcome.Abrupt]
  | call op k ih =>
      simp only [unwrap, aborts_call, leaf_call, ih]
      constructor
      · rintro ⟨r, hr, h | ⟨e, h⟩⟩
        · exact .inl ⟨r, hr, h⟩
        · exact .inr ⟨e, r, hr, h⟩
      · rintro (⟨r, hr, h⟩ | ⟨e, r, hr, h⟩)
        · exact ⟨r, hr, .inl h⟩
        · exact ⟨r, hr, .inr ⟨e, h⟩⟩

/-- **A fold aborts at one of its elements**, after it has passed those before it. -/
theorem aborts_foldlM {σ : Type} {f : σ → α → Prog S ε σ} {as : List α} {s : σ} :
    (as.foldlM f s).Aborts A ↔ ∃ seen a rest s', as = seen ++ a :: rest ∧
      (seen.foldlM f s).Leaf A (.ok s') ∧ (f s' a).Aborts A := by
  induction as generalizing s with
  | nil => simp
  | cons a as ih =>
      rw [List.foldlM_cons, aborts_bind]
      constructor
      · rintro (h | ⟨s₁, hs₁, h⟩)
        · exact ⟨[], a, as, s, rfl, rfl, h⟩
        · obtain ⟨seen, b, rest, s', rfl, hs', h⟩ := ih.mp h
          exact ⟨a :: seen, b, rest, s', rfl, leaf_bind_ok.mpr ⟨s₁, hs₁, hs'⟩, h⟩
      · rintro ⟨seen, b, rest, s', has, hs', h⟩
        cases seen with
        | nil =>
            obtain ⟨rfl, rfl⟩ := List.cons.inj has
            obtain rfl := Outcome.ok.inj ((leaf_pure s _).mp hs')
            exact .inl h
        | cons c seen =>
            obtain ⟨rfl, rfl⟩ := List.cons.inj has
            obtain ⟨s₁, hs₁, hs'⟩ := leaf_bind_ok.mp hs'
            exact .inr ⟨s₁, hs₁, ih.mpr ⟨seen, b, rest, s', rfl, hs', h⟩⟩

/-- **A loop aborts in the round that does.** -/
theorem aborts_foldlM_append {σ : Type} {f : σ → α → Prog S ε σ} {seen rest : List α} {a : α}
    {s s' : σ} (hseen : (seen.foldlM f s).Leaf A (.ok s')) (h : (f s' a).Aborts A) :
    ((seen ++ a :: rest).foldlM f s).Aborts A :=
  aborts_foldlM.mpr ⟨seen, a, rest, s', rfl, hseen, h⟩

/-- A fold whose rounds never abort. -/
theorem not_aborts_foldlM {σ : Type} {f : σ → α → Prog S ε σ} {as : List α} {s : σ}
    (h : ∀ s a, ¬(f s a).Aborts A) : ¬(as.foldlM f s).Aborts A := by
  rw [aborts_foldlM]
  rintro ⟨_, a, _, s', -, -, ha⟩
  exact h s' a ha

/-- A fold whose rounds can be passed, in any state, exactly at the elements of `P`. -/
theorem leaf_foldlM_ok_iff {σ : Type} {f : σ → α → Prog S ε σ} {P : α → Prop} {as : List α}
    (hok : ∀ s a, (∃ s', (f s a).Leaf A (.ok s')) ↔ P a) (s : σ) :
    (∃ s', (as.foldlM f s).Leaf A (.ok s')) ↔ ∀ a ∈ as, P a := by
  induction as generalizing s with
  | nil => simp
  | cons a as ih =>
      simp only [List.foldlM_cons, leaf_bind_ok, List.forall_mem_cons]
      constructor
      · rintro ⟨s', s₁, h₁, h⟩
        exact ⟨(hok s a).mp ⟨s₁, h₁⟩, (ih s₁).mp ⟨s', h⟩⟩
      · rintro ⟨ha, has⟩
        obtain ⟨s₁, h₁⟩ := (hok s a).mpr ha
        obtain ⟨s', h⟩ := (ih s₁).mpr has
        exact ⟨s', s₁, h₁, h⟩

/-- **Where the state of a fold does not matter**, it aborts at the first element that is not
passed, if its round aborts there. -/
theorem aborts_foldlM_iff {σ : Type} {f : σ → α → Prog S ε σ} {P Q : α → Prop} {as : List α}
    (hok : ∀ s a, (∃ s', (f s a).Leaf A (.ok s')) ↔ P a) (habort : ∀ s a, (f s a).Aborts A ↔ Q a)
    (s : σ) : (as.foldlM f s).Aborts A ↔
      ∃ seen a rest, as = seen ++ a :: rest ∧ (∀ b ∈ seen, P b) ∧ Q a := by
  rw [aborts_foldlM]
  constructor
  · rintro ⟨seen, a, rest, s', rfl, hseen, h⟩
    exact ⟨seen, a, rest, rfl, (leaf_foldlM_ok_iff hok s).mp ⟨s', hseen⟩, (habort s' a).mp h⟩
  · rintro ⟨seen, a, rest, rfl, hseen, h⟩
    obtain ⟨s', hs'⟩ := (leaf_foldlM_ok_iff hok s).mpr hseen
    exact ⟨seen, a, rest, s', rfl, hs', (habort s' a).mpr h⟩

/-- A run with one answer to each question. -/
theorem aborts_of_eval {p : Prog S ε α} {f : (o : S.Op) → Except ε (S.Res o)}
    (h : (p.eval f).Abrupt) : p.Aborts fun o r => r = f o :=
  ⟨p.eval f, leaf_eval (A := fun o r => r = f o) (fun _ => rfl) p, h⟩

/-- A computation without questions aborts where its outcome is abrupt. -/
theorem aborts_none_iff {A : (o : Sig.none.Op) → Except ε (Sig.none.Res o) → Prop}
    {p : Prog Sig.none ε α} : p.Aborts A ↔ p.outcome.Abrupt :=
  ⟨fun ⟨_, h, habrupt⟩ => leaf_none_iff.mp h ▸ habrupt, fun h => ⟨_, leaf_none_iff.mpr rfl, h⟩⟩

end Prog
end Interaction
end HyperspaceLight
