/-
# Programs that talk to an environment

A program is a finite tree: a leaf carries an outcome, a node asks the
environment one question and branches on the answer.  The tree fixes no
meaning for the questions.  The same program is read against a fixed set of
admissible answers (`Prog.Leaf`, here), and step by step against a state that
others change in the meantime (`HyperspaceLight.Interaction.Interleaving`).

An answer is an `Except`: a call may fail, and the program sees the error.  A
leaf is a value, an error that the caller can still catch, a panic that nobody
catches, or `spin`: a loop that ran out of the rounds it was given
(`Prog.repeatUntil`).
-/

import Mathlib.Logic.Function.Basic
import Mathlib.Tactic.Common

namespace HyperspaceLight
namespace Interaction

/-- The questions a program may ask and the type of an answer to each. -/
structure Sig where
  Op : Type
  Res : Op → Type

/-- The signature without questions: its programs never wait for anybody. -/
def Sig.none : Sig := ⟨Empty, Empty.elim⟩

/-- How a program ends.  `spin` is the end of the rounds given to a loop, not
an end of the loop. -/
inductive Outcome (ε α : Type) where
  | ok (a : α)
  | err (e : ε)
  | panic (msg : String)
  | spin
  deriving DecidableEq

/-- The value a program returned, if it did. -/
def Outcome.toOption {ε α : Type} : Outcome ε α → Option α
  | ok a => some a
  | _ => none

/-- A value is all that is kept of an outcome. -/
@[simp] theorem Outcome.toOption_eq_some {ε α : Type} {o : Outcome ε α} {a : α} :
    o.toOption = some a ↔ o = .ok a := by
  cases o <;> simp [toOption]

/-- Programs over `S` that fail with an `ε` or return an `α`. -/
inductive Prog (S : Sig) (ε α : Type) where
  | done (o : Outcome ε α)
  | call (o : S.Op) (k : Except ε (S.Res o) → Prog S ε α)

namespace Prog

variable {S : Sig} {ε α β γ : Type}

/-- Sequencing.  An error and a panic end the whole program. -/
def bind : Prog S ε α → (α → Prog S ε β) → Prog S ε β
  | done (.ok a), f => f a
  | done (.err e), _ => done (.err e)
  | done (.panic m), _ => done (.panic m)
  | done .spin, _ => done .spin
  | call o k, f => call o fun r => (k r).bind f

instance : Monad (Prog S ε) where
  pure a := done (.ok a)
  bind := bind

/-- A returned value is passed on. -/
@[simp] theorem pure_bind' (a : α) (f : α → Prog S ε β) : (pure a >>= f) = f a := rfl

/-- A value at the end of a program is passed on. -/
@[simp] theorem done_ok_bind (a : α) (f : α → Prog S ε β) : (done (.ok a) >>= f) = f a := rfl

/-- An error ends the program. -/
@[simp] theorem done_err_bind (e : ε) (f : α → Prog S ε β) :
    (done (.err e) >>= f) = done (.err e) := rfl

/-- A panic ends the program. -/
@[simp] theorem done_panic_bind (m : String) (f : α → Prog S ε β) :
    (done (.panic m) >>= f) = done (.panic m) := rfl

/-- A loop that does not end ends the program. -/
@[simp] theorem done_spin_bind (f : α → Prog S ε β) : (done .spin >>= f) = done .spin := rfl

/-- A question is asked first. -/
@[simp] theorem call_bind (o : S.Op) (k : Except ε (S.Res o) → Prog S ε α)
    (f : α → Prog S ε β) : (call o k >>= f) = call o fun r => k r >>= f := rfl

instance : LawfulMonad (Prog S ε) := LawfulMonad.mk' (Prog S ε)
  (fun p => by
    induction p with
    | done o => cases o <;> rfl
    | call o k ih => exact congrArg (call o) (funext ih))
  (fun _ _ => rfl)
  (fun p f g => by
    induction p with
    | done o => cases o <;> rfl
    | call o k ih => exact congrArg (call o) (funext ih))

/-- Ask `o`; an error answer is the program's error. -/
def ask (o : S.Op) : Prog S ε (S.Res o) :=
  call o fun
    | .ok a => done (.ok a)
    | .error e => done (.err e)

/-- Fail with an error. -/
def fail (e : ε) : Prog S ε α := done (.err e)

/-- Panic: no caller sees an error. -/
def panic (msg : String) : Prog S ε α := done (.panic msg)

/-- A pure computation that may fail. -/
def ofExcept : Except ε α → Prog S ε α
  | .ok a => done (.ok a)
  | .error e => done (.err e)

/-- The value of an option, or an error. -/
def okOr (e : ε) : Option α → Prog S ε α
  | some a => done (.ok a)
  | none => done (.err e)

/-- The value of an option, or a panic. -/
def expect (msg : String) : Option α → Prog S ε α
  | some a => done (.ok a)
  | none => done (.panic msg)

/-- Go on where `c` holds, fail elsewhere. -/
def require (c : Prop) [Decidable c] (e : ε) : Prog S ε Unit :=
  if c then done (.ok ()) else done (.err e)

/-- Run `p` and hand its error to the caller as a value.  Panics pass through. -/
def attempt : Prog S ε α → Prog S ε (Except ε α)
  | done (.ok a) => done (.ok (.ok a))
  | done (.err e) => done (.ok (.error e))
  | done (.panic m) => done (.panic m)
  | done .spin => done .spin
  | call o k => call o fun r => (k r).attempt

/-- Run `p`; an error becomes a panic. -/
def unwrap (msg : String) : Prog S ε α → Prog S ε α
  | done (.ok a) => done (.ok a)
  | done (.err _) => done (.panic msg)
  | done (.panic m) => done (.panic m)
  | done .spin => done .spin
  | call o k => call o fun r => (k r).unwrap msg

/-- Rewrite the error of `p`. -/
def mapErr (g : ε → ε) : Prog S ε α → Prog S ε α
  | done (.err e) => done (.err (g e))
  | done o => done o
  | call o k => call o fun r => (k r).mapErr g

/-- At most `n` rounds of `body`, until one returns a value. -/
def repeatUntil (body : Prog S ε (Option β)) : ℕ → Prog S ε β
  | 0 => done .spin
  | n + 1 => do
      match ← body with
      | some b => pure b
      | none => repeatUntil body n

/-! ### What a program can end with -/

/-- `p.Leaf A o`: some run of `p` ends with `o`, every call being answered as
`A` admits. -/
def Leaf (A : (o : S.Op) → Except ε (S.Res o) → Prop) : Prog S ε α → Outcome ε α → Prop
  | done o', o => o' = o
  | call op k, o => ∃ r, A op r ∧ (k r).Leaf A o

/-- Some run of `p`, with any answers, returns `a`. -/
def Returns (p : Prog S ε α) (a : α) : Prop := p.Leaf (fun _ _ => True) (.ok a)

section Leaf

variable {A B : (o : S.Op) → Except ε (S.Res o) → Prop}

/-- A finished program has one outcome. -/
@[simp] theorem leaf_done (o o' : Outcome ε α) : (done o : Prog S ε α).Leaf A o' ↔ o = o' :=
  Iff.rfl

/-- A returned value is the outcome. -/
@[simp] theorem leaf_pure (a : α) (o : Outcome ε α) :
    (pure a : Prog S ε α).Leaf A o ↔ .ok a = o := Iff.rfl

/-- **The outcomes after a question** are those after its admitted answers. -/
@[simp] theorem leaf_call (op : S.Op) (k : Except ε (S.Res op) → Prog S ε α) (o : Outcome ε α) :
    (call op k).Leaf A o ↔ ∃ r, A op r ∧ (k r).Leaf A o := Iff.rfl

/-- **A sequence returns what its second half returns after its first.** -/
@[simp] theorem leaf_bind_ok {p : Prog S ε α} {f : α → Prog S ε β} {b : β} :
    (p >>= f).Leaf A (.ok b) ↔ ∃ a, p.Leaf A (.ok a) ∧ (f a).Leaf A (.ok b) := by
  induction p with
  | done o => cases o <;> simp
  | call o k ih =>
      simp only [call_bind, leaf_call, ih]
      constructor
      · rintro ⟨r, hr, a, ha, hb⟩
        exact ⟨a, ⟨r, hr, ha⟩, hb⟩
      · rintro ⟨a, ⟨r, hr, ha⟩, hb⟩
        exact ⟨r, hr, a, ha, hb⟩

/-- **A sequence panics in its first half or in its second.** -/
theorem leaf_bind_panic {p : Prog S ε α} {f : α → Prog S ε β} {m : String} :
    (p >>= f).Leaf A (.panic m) ↔
      p.Leaf A (.panic m) ∨ ∃ a, p.Leaf A (.ok a) ∧ (f a).Leaf A (.panic m) := by
  induction p with
  | done o => cases o <;> simp
  | call o k ih =>
      simp only [call_bind, leaf_call, ih]
      constructor
      · rintro ⟨r, hr, h | ⟨a, ha, hb⟩⟩
        · exact .inl ⟨r, hr, h⟩
        · exact .inr ⟨a, ⟨r, hr, ha⟩, hb⟩
      · rintro (⟨r, hr, h⟩ | ⟨a, ⟨r, hr, ha⟩, hb⟩)
        · exact ⟨r, hr, .inl h⟩
        · exact ⟨r, hr, .inr ⟨a, ha, hb⟩⟩

/-- A mapped value comes from a value. -/
@[simp] theorem leaf_map_ok {p : Prog S ε α} {f : α → β} {b : β} :
    (f <$> p).Leaf A (.ok b) ↔ ∃ a, p.Leaf A (.ok a) ∧ f a = b := by
  rw [map_eq_pure_bind, leaf_bind_ok]
  simp

/-- What is asked is answered. -/
@[simp] theorem leaf_ask_ok {o : S.Op} {a : S.Res o} :
    (ask o : Prog S ε (S.Res o)).Leaf A (.ok a) ↔ A o (.ok a) := by
  simp only [ask, leaf_call]
  constructor
  · rintro ⟨r | r, hr, h⟩
    · cases h
    · cases h; exact hr
  · exact fun h => ⟨_, h, rfl⟩

/-- An error is the outcome. -/
@[simp] theorem leaf_fail {e : ε} {o : Outcome ε α} :
    (fail e : Prog S ε α).Leaf A o ↔ .err e = o := Iff.rfl

/-- A panic is the outcome. -/
@[simp] theorem leaf_panic {m : String} {o : Outcome ε α} :
    (panic m : Prog S ε α).Leaf A o ↔ .panic m = o := Iff.rfl

/-- A value of an answer is passed on. -/
@[simp] theorem leaf_ofExcept_ok {r : Except ε α} {a : α} :
    (ofExcept r : Prog S ε α).Leaf A (.ok a) ↔ r = .ok a := by
  cases r <;> simp [ofExcept]

/-- A value that is there is passed on. -/
@[simp] theorem leaf_okOr_ok {e : ε} {x : Option α} {a : α} :
    (okOr e x : Prog S ε α).Leaf A (.ok a) ↔ x = some a := by
  cases x <;> simp [okOr]

/-- An expected value that is there is passed on. -/
@[simp] theorem leaf_expect_ok {m : String} {x : Option α} {a : α} :
    (expect m x : Prog S ε α).Leaf A (.ok a) ↔ x = some a := by
  cases x <;> simp [expect]

/-- A check passes if its condition holds. -/
@[simp] theorem leaf_require_ok {c : Prop} [Decidable c] {e : ε} {u : Unit} :
    (require c e : Prog S ε Unit).Leaf A (.ok u) ↔ c := by
  unfold require
  split_ifs with hc <;> simp [hc]

/-- A caught value is a value. -/
@[simp] theorem leaf_attempt_ok {p : Prog S ε α} {a : α} :
    p.attempt.Leaf A (.ok (.ok a)) ↔ p.Leaf A (.ok a) := by
  induction p with
  | done o => cases o <;> simp [attempt]
  | call o k ih => simp only [attempt, leaf_call, ih]

/-- A caught error is an error. -/
@[simp] theorem leaf_attempt_error {p : Prog S ε α} {e : ε} :
    p.attempt.Leaf A (.ok (.error e)) ↔ p.Leaf A (.err e) := by
  induction p with
  | done o => cases o <;> simp [attempt]
  | call o k ih => simp only [attempt, leaf_call, ih]

/-- What is unwrapped is a value. -/
@[simp] theorem leaf_unwrap_ok {msg : String} {p : Prog S ε α} {a : α} :
    (p.unwrap msg).Leaf A (.ok a) ↔ p.Leaf A (.ok a) := by
  induction p with
  | done o => cases o <;> simp [unwrap]
  | call o k ih => simp only [unwrap, leaf_call, ih]

/-- Mapping the error leaves the values. -/
@[simp] theorem leaf_mapErr_ok {g : ε → ε} {p : Prog S ε α} {a : α} :
    (p.mapErr g).Leaf A (.ok a) ↔ p.Leaf A (.ok a) := by
  induction p with
  | done o => cases o <;> simp [mapErr]
  | call o k ih => simp only [mapErr, leaf_call, ih]

/-- More admissible answers, more ends. -/
theorem Leaf.mono (h : ∀ o r, A o r → B o r) {p : Prog S ε α} {o : Outcome ε α}
    (hp : p.Leaf A o) : p.Leaf B o := by
  induction p with
  | done o' => exact hp
  | call op k ih =>
      obtain ⟨r, hr, hk⟩ := hp
      exact ⟨r, h op r hr, ih r hk⟩

/-- What is returned under some answers may be returned. -/
theorem Leaf.returns {p : Prog S ε α} {a : α} (hp : p.Leaf A (.ok a)) : p.Returns a :=
  hp.mono fun _ _ _ => trivial

/-- **The invariant rule of a fold.**  A property of the accumulator that every
round preserves holds of what the fold returns. -/
theorem leaf_foldlM {σ : Type} {f : σ → α → Prog S ε σ} (I : List α → σ → Prop)
    {as : List α} {s s' : σ} (hs : I [] s)
    (hf : ∀ done a s s', I done s → a ∈ as → (f s a).Leaf A (.ok s') → I (done ++ [a]) s')
    (h : (as.foldlM f s).Leaf A (.ok s')) : I as s' := by
  suffices H : ∀ (rest seen : List α) (s : σ), seen ++ rest = as → I seen s →
      (rest.foldlM f s).Leaf A (.ok s') → I as s' from H as [] s rfl hs h
  intro rest
  induction rest with
  | nil =>
      intro seen s hseen hI h
      simp only [List.foldlM_nil, leaf_pure, Outcome.ok.injEq] at h
      simp only [List.append_nil] at hseen
      exact hseen ▸ h ▸ hI
  | cons a rest ih =>
      intro seen s hseen hI h
      simp only [List.foldlM_cons, leaf_bind_ok] at h
      obtain ⟨s₁, h₁, h₂⟩ := h
      refine ih (seen ++ [a]) s₁ (by simp [hseen]) (hf seen a s s₁ hI ?_ h₁) h₂
      rw [← hseen]; simp

/-- A fold that returns has had a round for each element. -/
theorem leaf_foldlM_round {σ : Type} {f : σ → α → Prog S ε σ} {as : List α} {s s' : σ}
    (h : (as.foldlM f s).Leaf A (.ok s')) {a : α} (ha : a ∈ as) :
    ∃ t t', (f t a).Leaf A (.ok t') := by
  refine leaf_foldlM (fun seen _ => ∀ a ∈ seen, ∃ t t', (f t a).Leaf A (.ok t'))
    (List.forall_mem_nil _) (fun seen a s s' hs _ hstep => ?_) h a ha
  exact List.forall_mem_append.mpr ⟨hs, List.forall_mem_singleton.mpr ⟨s, s', hstep⟩⟩

/-- **A fold that appends.** -/
theorem leaf_foldlM_append {f : List β → α → Prog S ε (List β)} {g : α → List β} {as : List α}
    {bs bs' : List β}
    (hf : ∀ a ∈ as, ∀ bs bs', (f bs a).Leaf A (.ok bs') → bs' = bs ++ g a)
    (h : (as.foldlM f bs).Leaf A (.ok bs')) : bs' = bs ++ as.flatMap g :=
  leaf_foldlM (fun seen s => s = bs ++ seen.flatMap g) (by simp)
    (fun seen a s s' hs ha hstep => by
      rw [hf a ha s s' hstep, hs, List.flatMap_append, List.append_assoc, List.flatMap_singleton]) h

/-- **A fold that collects.**  If each round adds exactly what belongs to its element, the
fold adds exactly what belongs to one of the elements. -/
theorem mem_foldlM_iff {σ : Type} {f : σ → α → Prog S ε σ} (get : σ → List β)
    {of : α → β → Prop} {as : List α} {s s' : σ}
    (hf : ∀ a ∈ as, ∀ s s', (f s a).Leaf A (.ok s') → ∀ b, b ∈ get s' ↔ b ∈ get s ∨ of a b)
    (h : (as.foldlM f s).Leaf A (.ok s')) (b : β) :
    b ∈ get s' ↔ b ∈ get s ∨ ∃ a ∈ as, of a b := by
  refine leaf_foldlM (fun seen t => b ∈ get t ↔ b ∈ get s ∨ ∃ a ∈ seen, of a b) ?_ ?_ h
  · simp
  · intro seen a t t' ht ha hstep
    rw [hf a ha t t' hstep, ht, or_assoc]
    simp only [List.mem_append, List.mem_singleton, or_and_right, exists_or, exists_eq_left]

/-- **A fold seen through a map of its state.**  If every round commutes with `g`, so does the
whole fold. -/
theorem leaf_foldlM_map {σ τ : Type} {f : σ → α → Prog S ε σ} {f' : τ → α → Prog S ε τ} (g : σ → τ)
    (hf : ∀ s a t', (f' (g s) a).Leaf A (.ok t') ↔
      ∃ s', (f s a).Leaf A (.ok s') ∧ t' = g s')
    {as : List α} {s : σ} {t : τ} :
    (as.foldlM f' (g s)).Leaf A (.ok t) ↔ ∃ s', (as.foldlM f s).Leaf A (.ok s') ∧ t = g s' := by
  induction as generalizing s with
  | nil => simp [eq_comm]
  | cons a as ih =>
      simp only [List.foldlM_cons, leaf_bind_ok, hf]
      constructor
      · rintro ⟨_, ⟨s₁, hstep, rfl⟩, hrest⟩
        obtain ⟨s', hs', rfl⟩ := ih.mp hrest
        exact ⟨s', ⟨s₁, hstep, hs'⟩, rfl⟩
      · rintro ⟨s', ⟨s₁, hstep, hs'⟩, rfl⟩
        exact ⟨g s₁, ⟨s₁, hstep, rfl⟩, ih.mpr ⟨s', hs', rfl⟩⟩

/-- **A search finds nothing** exactly if it passes over every element. -/
theorem leaf_findSomeM?_none {f : α → Prog S ε (Option β)} {as : List α} :
    (as.findSomeM? f).Leaf A (.ok none) ↔ ∀ a ∈ as, (f a).Leaf A (.ok none) := by
  induction as with
  | nil => simp [List.findSomeM?]
  | cons a as ih =>
      simp only [List.findSomeM?, leaf_bind_ok, List.forall_mem_cons, ← ih]
      constructor
      · rintro ⟨found, ha, hrest⟩
        cases found with
        | none => exact ⟨ha, hrest⟩
        | some b => cases hrest
      · rintro ⟨ha, hrest⟩
        exact ⟨none, ha, hrest⟩

/-- **A search stops at the first element that it finds something at.** -/
theorem leaf_findSomeM?_some {f : α → Prog S ε (Option β)} {as : List α} {b : β} :
    (as.findSomeM? f).Leaf A (.ok (some b)) ↔ ∃ seen a rest, as = seen ++ a :: rest ∧
      (∀ a' ∈ seen, (f a').Leaf A (.ok none)) ∧ (f a).Leaf A (.ok (some b)) := by
  induction as with
  | nil => simp [List.findSomeM?]
  | cons a as ih =>
      simp only [List.findSomeM?, leaf_bind_ok]
      constructor
      · rintro ⟨found, ha, hrest⟩
        cases found with
        | none =>
            obtain ⟨seen, a', rest, rfl, hseen, ha'⟩ := ih.mp hrest
            refine ⟨a :: seen, a', rest, rfl, ?_, ha'⟩
            simpa only [List.forall_mem_cons] using ⟨ha, hseen⟩
        | some b' =>
            obtain rfl := Option.some.inj (Outcome.ok.inj hrest)
            exact ⟨[], a, as, rfl, by simp, ha⟩
      · rintro ⟨seen, a', rest, heq, hseen, ha'⟩
        cases seen with
        | nil =>
            obtain ⟨rfl, rfl⟩ := List.cons.inj heq
            exact ⟨some b, ha', rfl⟩
        | cons a₁ seen =>
            obtain ⟨rfl, rfl⟩ := List.cons.inj heq
            rw [List.forall_mem_cons] at hseen
            exact ⟨none, hseen.1, ih.mpr ⟨seen, a', rest, rfl, hseen.2, ha'⟩⟩

/-- **Two folds over one list.**  A relation of the accumulators that every pair
of rounds preserves relates what the folds return. -/
theorem leaf_foldlM₂ {σ τ : Type} {f : σ → α → Prog S ε σ} {g : τ → α → Prog S ε τ}
    (R : σ → τ → Prop) {as : List α} {s s' : σ} {t t' : τ} (hs : R s t)
    (hfg : ∀ a s s' t t', a ∈ as → R s t → (f s a).Leaf A (.ok s') → (g t a).Leaf B (.ok t') →
      R s' t')
    (hf : (as.foldlM f s).Leaf A (.ok s')) (hg : (as.foldlM g t).Leaf B (.ok t')) : R s' t' := by
  induction as generalizing s t with
  | nil =>
      simp only [List.foldlM_nil, leaf_pure, Outcome.ok.injEq] at hf hg
      exact hf ▸ hg ▸ hs
  | cons a as ih =>
      simp only [List.foldlM_cons, leaf_bind_ok] at hf hg
      obtain ⟨s₁, hs₁, hf⟩ := hf
      obtain ⟨t₁, ht₁, hg⟩ := hg
      have h₁ : R s₁ t₁ := hfg a s s₁ t t₁ (List.mem_cons_self ..) hs hs₁ ht₁
      exact ih h₁ (fun b s s' t t' hb => hfg b s s' t t' (List.mem_cons_of_mem _ hb)) hf hg

/-- **The rule of a bounded loop.**  What a round returns is what the loop
returns. -/
theorem leaf_repeatUntil {body : Prog S ε (Option β)} {n : ℕ} {b : β}
    (h : (repeatUntil body n).Leaf A (.ok b)) : body.Leaf A (.ok (some b)) := by
  induction n with
  | zero => cases h
  | succ n ih =>
      simp only [repeatUntil, leaf_bind_ok] at h
      obtain ⟨r, hr, h⟩ := h
      cases r with
      | none => exact ih h
      | some b' =>
          simp only [leaf_pure, Outcome.ok.injEq] at h
          exact h ▸ hr

end Leaf

/-! ### Programs that do not fail -/

/-- No run of `p` fails: it returns, or a loop runs out of its rounds. -/
def Safe (A : (o : S.Op) → Except ε (S.Res o) → Prop) (p : Prog S ε α) : Prop :=
  ∀ o, p.Leaf A o → o = .spin ∨ ∃ a, o = .ok a

section Safe

variable {A : (o : S.Op) → Except ε (S.Res o) → Prop}

/-- A returned value is safe. -/
theorem safe_pure (a : α) : (pure a : Prog S ε α).Safe A := fun _ h => .inr ⟨a, h.symm⟩

/-- A question that is answered is safe. -/
theorem safe_ask {op : S.Op} (h : ∀ r, A op r → ∃ a, r = .ok a) :
    (ask op : Prog S ε (S.Res op)).Safe A := by
  rintro o ⟨r, hr, ho⟩
  obtain ⟨a, rfl⟩ := h r hr
  exact .inr ⟨a, ho.symm⟩

/-- **Safe programs compose.** -/
theorem Safe.bind {p : Prog S ε α} {f : α → Prog S ε β} (hp : p.Safe A)
    (hf : ∀ a, p.Leaf A (.ok a) → (f a).Safe A) : (p >>= f).Safe A := by
  induction p with
  | done o =>
      rcases hp o rfl with rfl | ⟨a, rfl⟩
      · exact fun o h => .inl h.symm
      · exact hf a rfl
  | call op k ih =>
      rintro o ⟨r, hr, h⟩
      exact ih r (fun o h => hp o ⟨r, hr, h⟩) (fun a ha => hf a ⟨r, hr, ha⟩) o h

/-- Mapping the error keeps a program safe. -/
theorem Safe.mapErr {g : ε → ε} {p : Prog S ε α} (hp : p.Safe A) : (p.mapErr g).Safe A := by
  induction p with
  | done o =>
      rcases hp o rfl with rfl | ⟨a, rfl⟩
      · exact fun o h => .inl h.symm
      · exact safe_pure a
  | call op k ih =>
      rintro o ⟨r, hr, h⟩
      exact ih r (fun o h => hp o ⟨r, hr, h⟩) o h

/-- A loop over a safe body is safe. -/
theorem Safe.repeatUntil {body : Prog S ε (Option β)} (h : body.Safe A) (n : ℕ) :
    (repeatUntil body n).Safe A := by
  induction n with
  | zero => exact fun o h => .inl h.symm
  | succ n ih =>
      refine h.bind fun r _ => ?_
      cases r with
      | none => exact ih
      | some b => exact safe_pure b

end Safe

/-- Whatever `p` returns satisfies `P`. -/
def Ensures (P : α → Prop) (p : Prog S ε α) : Prop := ∀ a, p.Leaf (fun _ _ => True) (.ok a) → P a

/-- What the second program ensures, both do. -/
theorem Ensures.bind {P : β → Prop} {p : Prog S ε α} {f : α → Prog S ε β}
    (h : ∀ a, (f a).Ensures P) : (p >>= f).Ensures P := by
  intro b hb
  obtain ⟨a, -, hb⟩ := leaf_bind_ok.mp hb
  exact h a b hb

/-- The end of `p` where every question has one answer. -/
def eval (f : (o : S.Op) → Except ε (S.Res o)) : Prog S ε α → Outcome ε α
  | done o => o
  | call o k => (k (f o)).eval f

/-- The outcome under fixed answers is one of the outcomes. -/
theorem leaf_eval {A : (o : S.Op) → Except ε (S.Res o) → Prop}
    {f : (o : S.Op) → Except ε (S.Res o)} (hf : ∀ o, A o (f o)) (p : Prog S ε α) :
    p.Leaf A (p.eval f) := by
  induction p with
  | done o => rfl
  | call o k ih => exact ⟨f o, hf o, ih (f o)⟩

/-- A program is evaluated part by part. -/
theorem eval_bind_ok {f : (o : S.Op) → Except ε (S.Res o)} {p : Prog S ε α} {q : α → Prog S ε β}
    {a : α} (h : p.eval f = .ok a) : (p >>= q).eval f = (q a).eval f := by
  induction p with
  | done o =>
      obtain rfl : o = .ok a := h
      rfl
  | call o k ih => exact ih (f o) h

/-- Over the empty signature a program is its outcome. -/
def outcome : Prog Sig.none ε α → Outcome ε α
  | done o => o
  | call o _ => o.elim

/-- A computation without questions, over any signature. -/
def lift (p : Prog Sig.none ε α) : Prog S ε α := done p.outcome

/-- **A caught computation without questions.** -/
theorem leaf_lift_attempt {A : (o : S.Op) → Except ε (S.Res o) → Prop} {p : Prog Sig.none ε α}
    {r : Except ε α} (h : (lift p.attempt : Prog S ε (Except ε α)).Leaf A (.ok r)) :
    r.toOption = p.outcome.toOption := by
  cases p with
  | done o =>
      cases o with
      | ok a =>
          obtain rfl := Outcome.ok.inj (show Outcome.ok (Except.ok a) = Outcome.ok r from h)
          rfl
      | err e =>
          obtain rfl := Outcome.ok.inj (show Outcome.ok (Except.error e) = Outcome.ok r from h)
          rfl
      | panic m => cases (show Outcome.panic m = Outcome.ok r from h)
      | spin => cases (show Outcome.spin = Outcome.ok r from h)
  | call o k => exact o.elim

/-- Without questions there is one outcome. -/
theorem leaf_none_iff {A : (o : Sig.none.Op) → Except ε (Sig.none.Res o) → Prop}
    {p : Prog Sig.none ε α} {o : Outcome ε α} : p.Leaf A o ↔ p.outcome = o := by
  cases p with
  | done o' => rfl
  | call op k => exact op.elim

/-- Without questions a program returns its outcome. -/
theorem returns_iff_outcome {p : Prog Sig.none ε α} {a : α} : p.Returns a ↔ p.outcome = .ok a :=
  leaf_none_iff

/-- A program without questions that returns a value is that value. -/
theorem returns_iff_eq_pure {p : Prog Sig.none ε α} {a : α} : p.Returns a ↔ p = pure a := by
  cases p with
  | done o => exact returns_iff_outcome.trans ⟨congrArg done, Prog.done.inj⟩
  | call op k => exact op.elim

/-- What a program without questions returns, as far as `f` looks at it. -/
theorem returns_of_outcome {p : Prog Sig.none ε α} {f : α → β} {b : β}
    (h : p.outcome.toOption.map f = some b) : ∃ a, p.Returns a ∧ f a = b := by
  obtain ⟨a, ha, hb⟩ := Option.map_eq_some_iff.mp h
  exact ⟨a, returns_iff_outcome.mpr (Outcome.toOption_eq_some.mp ha), hb⟩

/-- Without questions there is one answer. -/
theorem Returns.unique {p : Prog Sig.none ε α} {a b : α} (ha : p.Returns a) (hb : p.Returns b) :
    a = b := by
  rw [returns_iff_outcome] at ha hb
  exact Outcome.ok.inj (ha.symm.trans hb)

/-! ### The questions a program asks -/

/-- Every question on every path of `p` satisfies `C`, if the questions are
answered as `A` admits. -/
def Asks (A : (o : S.Op) → Except ε (S.Res o) → Prop) (C : S.Op → Prop) : Prog S ε α → Prop
  | done _ => True
  | call o k => C o ∧ ∀ r, A o r → (k r).Asks A C

section Asks

variable {A : (o : S.Op) → Except ε (S.Res o) → Prop} {C D : S.Op → Prop}

/-- A finished program asks nothing. -/
@[simp] theorem asks_done (o : Outcome ε α) : (done o : Prog S ε α).Asks A C := trivial

/-- A returned value asks nothing. -/
@[simp] theorem asks_pure (a : α) : (pure a : Prog S ε α).Asks A C := trivial

/-- A question asks itself. -/
@[simp] theorem asks_ask (o : S.Op) : (ask o : Prog S ε (S.Res o)).Asks A C ↔ C o := by
  constructor
  · exact fun h => h.1
  · refine fun h => ⟨h, fun r _ => ?_⟩
    cases r <;> trivial

/-- An error asks nothing. -/
@[simp] theorem asks_fail (e : ε) : (fail e : Prog S ε α).Asks A C := trivial

/-- A panic asks nothing. -/
@[simp] theorem asks_panic (m : String) : (panic m : Prog S ε α).Asks A C := trivial

/-- An answer asks nothing. -/
@[simp] theorem asks_ofExcept (r : Except ε α) : (ofExcept r : Prog S ε α).Asks A C := by
  cases r <;> trivial

/-- A missing value asks nothing. -/
@[simp] theorem asks_okOr (e : ε) (x : Option α) : (okOr e x : Prog S ε α).Asks A C := by
  cases x <;> trivial

/-- An expected value asks nothing. -/
@[simp] theorem asks_expect (m : String) (x : Option α) :
    (expect m x : Prog S ε α).Asks A C := by
  cases x <;> trivial

/-- A check asks nothing. -/
@[simp] theorem asks_require (c : Prop) [Decidable c] (e : ε) :
    (require c e : Prog S ε Unit).Asks A C := by
  unfold require
  split_ifs <;> trivial

/-- **The questions of two programs are those of both.** -/
theorem Asks.bind {p : Prog S ε α} {f : α → Prog S ε β} (hp : p.Asks A C)
    (hf : ∀ a, p.Leaf A (.ok a) → (f a).Asks A C) : (p >>= f).Asks A C := by
  induction p with
  | done o =>
      cases o with
      | ok a => exact hf a rfl
      | _ => trivial
  | call o k ih =>
      exact ⟨hp.1, fun r hr => ih r (hp.2 r hr) fun a ha => hf a ⟨r, hr, ha⟩⟩

/-- The second half of a sequence asks what the sequence asks. -/
theorem Asks.of_bind {p : Prog S ε α} {f : α → Prog S ε β} (h : (p >>= f).Asks A C) {a : α}
    (ha : p.Leaf A (.ok a)) : (f a).Asks A C := by
  induction p with
  | done o =>
      obtain rfl : o = .ok a := ha
      exact h
  | call o k ih =>
      obtain ⟨r, hr, ha⟩ := ha
      exact ih r (h.2 r hr) ha

/-- Catching an error asks nothing more. -/
theorem Asks.attempt {p : Prog S ε α} (hp : p.Asks A C) : p.attempt.Asks A C := by
  induction p with
  | done o => cases o <;> trivial
  | call o k ih => exact ⟨hp.1, fun r hr => ih r (hp.2 r hr)⟩

/-- Unwrapping asks nothing more. -/
theorem Asks.unwrap {msg : String} {p : Prog S ε α} (hp : p.Asks A C) :
    (p.unwrap msg).Asks A C := by
  induction p with
  | done o => cases o <;> trivial
  | call o k ih => exact ⟨hp.1, fun r hr => ih r (hp.2 r hr)⟩

/-- Mapping the error asks nothing more. -/
theorem Asks.mapErr {g : ε → ε} {p : Prog S ε α} (hp : p.Asks A C) : (p.mapErr g).Asks A C := by
  induction p with
  | done o => cases o <;> trivial
  | call o k ih => exact ⟨hp.1, fun r hr => ih r (hp.2 r hr)⟩

/-- What is asked satisfies a weaker condition. -/
theorem Asks.mono (h : ∀ o, C o → D o) {p : Prog S ε α} (hp : p.Asks A C) : p.Asks A D := by
  induction p with
  | done o => trivial
  | call o k ih => exact ⟨h o hp.1, fun r hr => ih r (hp.2 r hr)⟩

/-- A loop over a list asks what its rounds ask. -/
theorem Asks.foldlM {σ : Type} {f : σ → α → Prog S ε σ} {as : List α}
    (hf : ∀ s, ∀ a ∈ as, (f s a).Asks A C) (s : σ) : (as.foldlM f s).Asks A C := by
  induction as generalizing s with
  | nil => trivial
  | cons a as ih =>
      rw [List.foldlM_cons]
      exact (hf s a (List.mem_cons_self ..)).bind fun s' _ =>
        ih (fun s a ha => hf s a (List.mem_cons_of_mem _ ha)) s'

/-- A repeated body asks what the body asks. -/
theorem Asks.repeatUntil {body : Prog S ε (Option β)} (h : body.Asks A C) (n : ℕ) :
    (repeatUntil body n).Asks A C := by
  induction n with
  | zero => trivial
  | succ n ih =>
      refine h.bind fun r _ => ?_
      cases r with
      | none => exact ih
      | some b => trivial

end Asks

end Prog
end Interaction
end HyperspaceLight
