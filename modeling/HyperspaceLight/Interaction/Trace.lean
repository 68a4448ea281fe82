/-
# Runs with their questions

`Prog.Path p t o`: answered as in `t`, the program `p` asks the questions of `t`, in
this order and no others, and ends with `o`.  A path is a leaf whose questions are
on record, so that what a program asks can be counted and put in order, and what
its answers are is known (`Path.leaf`).
-/

import HyperspaceLight.Interaction.Program

namespace HyperspaceLight
namespace Interaction

/-- A question with its answer. -/
abbrev Exchange (S : Sig) (ε : Type) : Type := (o : S.Op) × Except ε (S.Res o)

/-- The same end, which is not a value, of two programs. -/
inductive Outcome.SameFailure {ε α β : Type} : Outcome ε α → Outcome ε β → Prop
  | err (e : ε) : SameFailure (.err e) (.err e)
  | panic (m : String) : SameFailure (.panic m) (.panic m)
  | spin : SameFailure .spin .spin

/-- Programs that end as a third one does end alike. -/
theorem Outcome.SameFailure.trans {ε α β γ : Type} {o : Outcome ε α} {o' : Outcome ε β}
    {o'' : Outcome ε γ} (h : o.SameFailure o') (h' : o'.SameFailure o'') : o.SameFailure o'' := by
  cases h with
  | err e =>
      cases h'
      exact .err e
  | panic m =>
      cases h'
      exact .panic m
  | spin =>
      cases h'
      exact .spin

/-- A value is no failure. -/
theorem Outcome.not_sameFailure_ok {ε α β : Type} {o : Outcome ε α} {b : β} :
    ¬o.SameFailure (.ok b) := by
  intro h
  cases h

namespace Prog

variable {S : Sig} {ε α β : Type} {t : List (Exchange S ε)}

def Path : Prog S ε α → List (Exchange S ε) → Outcome ε α → Prop
  | done o', t, o => t = [] ∧ o' = o
  | call op k, t, o => ∃ r t', t = ⟨op, r⟩ :: t' ∧ (k r).Path t' o

/-- A finished program has the empty path. -/
@[simp] theorem path_done {o o' : Outcome ε α} :
    (done o' : Prog S ε α).Path t o ↔ t = [] ∧ o' = o := Iff.rfl

/-- A returned value has the empty path. -/
@[simp] theorem path_pure {a : α} {o : Outcome ε α} :
    (pure a : Prog S ε α).Path t o ↔ t = [] ∧ .ok a = o := Iff.rfl

/-- **A path begins with a question and its answer.** -/
theorem path_call {op : S.Op} {k : Except ε (S.Res op) → Prog S ε α} {o : Outcome ε α} :
    (call op k).Path t o ↔ ∃ r t', t = ⟨op, r⟩ :: t' ∧ (k r).Path t' o := Iff.rfl

/-- **The path of a sequence is a path of its first half and one of its second.** -/
theorem path_bind_ok {p : Prog S ε α} {f : α → Prog S ε β} {b : β} :
    (p >>= f).Path t (.ok b) ↔
      ∃ t₁ t₂ a, t = t₁ ++ t₂ ∧ p.Path t₁ (.ok a) ∧ (f a).Path t₂ (.ok b) := by
  induction p generalizing t with
  | done o => cases o <;> simp
  | call op k ih =>
      simp only [call_bind, path_call, ih]
      constructor
      · rintro ⟨r, t', rfl, t₁, t₂, a, rfl, ha, hb⟩
        exact ⟨⟨op, r⟩ :: t₁, t₂, a, rfl, ⟨r, t₁, rfl, ha⟩, hb⟩
      · rintro ⟨_, t₂, a, rfl, ⟨r, t₁, rfl, ha⟩, hb⟩
        exact ⟨r, t₁ ++ t₂, rfl, t₁, t₂, a, rfl, ha, hb⟩

/-- **What comes after a first half that returned.** -/
theorem Path.bind_iff {p : Prog S ε α} {f : α → Prog S ε β} {t₁ t₂ : List (Exchange S ε)} {a : α}
    {o : Outcome ε β} (h : p.Path t₁ (.ok a)) :
    (p >>= f).Path (t₁ ++ t₂) o ↔ (f a).Path t₂ o := by
  induction p generalizing t₁ with
  | done o' =>
      obtain ⟨rfl, rfl⟩ := h
      rfl
  | call op k ih =>
      obtain ⟨r, t, rfl, hk⟩ := h
      rw [call_bind, path_call]
      constructor
      · rintro ⟨r', t', ht, h⟩
        obtain ⟨hr, rfl⟩ := List.cons.inj ht
        obtain rfl := eq_of_heq (Sigma.mk.inj hr).2
        exact (ih r hk).mp h
      · exact fun h => ⟨r, t ++ t₂, rfl, (ih r hk).mpr h⟩

/-- **A sequence ends with its first half or goes on with its second.** -/
theorem path_bind {p : Prog S ε α} {f : α → Prog S ε β} {o : Outcome ε β} :
    (p >>= f).Path t o ↔
      (∃ t₁ t₂ a, t = t₁ ++ t₂ ∧ p.Path t₁ (.ok a) ∧ (f a).Path t₂ o) ∨
        ∃ o', p.Path t o' ∧ o'.SameFailure o := by
  induction p generalizing t with
  | done o' =>
      constructor
      · intro h
        cases o' with
        | ok a => exact .inl ⟨[], t, a, rfl, ⟨rfl, rfl⟩, h⟩
        | err e => exact .inr ⟨_, ⟨h.1, rfl⟩, h.2 ▸ .err e⟩
        | panic m => exact .inr ⟨_, ⟨h.1, rfl⟩, h.2 ▸ .panic m⟩
        | spin => exact .inr ⟨_, ⟨h.1, rfl⟩, h.2 ▸ .spin⟩
      · rintro (⟨t₁, t₂, a, rfl, ⟨rfl, rfl⟩, h⟩ | ⟨o'', ⟨rfl, rfl⟩, hsame⟩)
        · exact h
        · cases hsame <;> exact ⟨rfl, rfl⟩
  | call op k ih =>
      simp only [call_bind, path_call, ih]
      constructor
      · rintro ⟨r, t', rfl, ⟨t₁, t₂, a, rfl, ha, hb⟩ | ⟨o', ho', hsame⟩⟩
        · exact .inl ⟨⟨op, r⟩ :: t₁, t₂, a, rfl, ⟨r, t₁, rfl, ha⟩, hb⟩
        · exact .inr ⟨o', ⟨r, t', rfl, ho'⟩, hsame⟩
      · rintro (⟨_, t₂, a, rfl, ⟨r, t₁, rfl, ha⟩, hb⟩ | ⟨o', ⟨r, t', rfl, ho'⟩, hsame⟩)
        · exact ⟨r, t₁ ++ t₂, rfl, .inl ⟨t₁, t₂, a, rfl, ha, hb⟩⟩
        · exact ⟨r, t', rfl, .inr ⟨o', ho', hsame⟩⟩

/-- **The rounds of a loop**: those that find nothing, and the last one, if it came to one. -/
theorem path_repeatUntil {body : Prog S ε (Option β)} {n : ℕ} {o : Outcome ε β}
    (h : (repeatUntil body n).Path t o) :
    ∃ rounds : List (List (Exchange S ε)), (∀ t' ∈ rounds, body.Path t' (.ok none)) ∧
      (rounds.length = n ∧ t = rounds.flatten ∧ o = .spin ∨
        ∃ last, rounds.length < n ∧ t = rounds.flatten ++ last ∧
          ((∃ b, body.Path last (.ok (some b)) ∧ o = .ok b) ∨
            ∃ o', body.Path last o' ∧ o'.SameFailure o)) := by
  induction n generalizing t with
  | zero =>
      obtain ⟨rfl, rfl⟩ := h
      exact ⟨[], List.forall_mem_nil _, .inl ⟨rfl, rfl, rfl⟩⟩
  | succ n ih =>
      rw [repeatUntil] at h
      rcases path_bind.mp h with ⟨t₁, t₂, found, rfl, hbody, h⟩ | ⟨o', hbody, hsame⟩
      · cases found with
        | some b =>
            obtain ⟨rfl, rfl⟩ := h
            exact ⟨[], List.forall_mem_nil _,
              .inr ⟨t₁, Nat.succ_pos n, List.append_nil _, .inl ⟨b, hbody, rfl⟩⟩⟩
        | none =>
            obtain ⟨rounds, hrounds, hend⟩ := ih h
            refine ⟨t₁ :: rounds, List.forall_mem_cons.mpr ⟨hbody, hrounds⟩, ?_⟩
            rcases hend with ⟨hlen, rfl, ho⟩ | ⟨last, hlt, rfl, hlast⟩
            · exact .inl ⟨congrArg (· + 1) hlen, rfl, ho⟩
            · exact .inr ⟨last, Nat.succ_lt_succ hlt, (List.append_assoc ..).symm, hlast⟩
      · exact ⟨[], List.forall_mem_nil _, .inr ⟨t, Nat.succ_pos n, rfl, .inr ⟨o', hbody, hsame⟩⟩⟩

/-- A question is one exchange. -/
@[simp] theorem path_ask_ok {op : S.Op} {a : S.Res op} :
    (ask op : Prog S ε (S.Res op)).Path t (.ok a) ↔ t = [⟨op, .ok a⟩] := by
  simp only [ask, path_call]
  constructor
  · rintro ⟨r | r, t', rfl, ht, h⟩
    · cases h
    · cases h
      rw [ht]
  · rintro rfl
    exact ⟨.ok a, [], rfl, rfl, rfl⟩

/-- **A question and what comes after it**: an error answer is the end. -/
theorem path_ask_bind {op : S.Op} {f : S.Res op → Prog S ε β} {o : Outcome ε β} :
    (ask op >>= f).Path t o ↔
      (∃ a t', t = ⟨op, .ok a⟩ :: t' ∧ (f a).Path t' o) ∨
        ∃ e, t = [⟨op, .error e⟩] ∧ .err e = o := by
  simp only [ask, call_bind, path_call]
  constructor
  · rintro ⟨e | a, t', rfl, h⟩
    · obtain ⟨rfl, rfl⟩ := h
      exact .inr ⟨e, rfl, rfl⟩
    · exact .inl ⟨a, t', rfl, h⟩
  · rintro (⟨a, t', rfl, h⟩ | ⟨e, rfl, rfl⟩)
    · exact ⟨.ok a, t', rfl, h⟩
    · exact ⟨.error e, [], rfl, rfl, rfl⟩

/-- **A question whose answer is a value**, also where it is an error. -/
theorem path_ask_attempt_bind {op : S.Op} {f : Except ε (S.Res op) → Prog S ε β}
    {o : Outcome ε β} : ((ask op).attempt >>= f).Path t o ↔
      ∃ r t', t = ⟨op, r⟩ :: t' ∧ (f r).Path t' o := by
  simp only [ask, attempt, call_bind, path_call]
  refine exists_congr fun r => ?_
  cases r <;> exact Iff.rfl

/-- A caught value has the path of the value. -/
theorem path_attempt_ok {p : Prog S ε α} {a : α} :
    p.attempt.Path t (.ok (.ok a)) ↔ p.Path t (.ok a) := by
  induction p generalizing t with
  | done o => cases o <;> simp [attempt]
  | call op k ih => simp only [attempt, path_call, ih]

/-- A caught error has the path of the error. -/
theorem path_attempt_error {p : Prog S ε α} {e : ε} :
    p.attempt.Path t (.ok (.error e)) ↔ p.Path t (.err e) := by
  induction p generalizing t with
  | done o => cases o <;> simp [attempt]
  | call op k ih => simp only [attempt, path_call, ih]

/-- Unwrapping leaves the path of a value. -/
theorem path_unwrap_ok {msg : String} {p : Prog S ε α} {a : α} :
    (p.unwrap msg).Path t (.ok a) ↔ p.Path t (.ok a) := by
  induction p generalizing t with
  | done o => cases o <;> simp [unwrap]
  | call op k ih => simp only [unwrap, path_call, ih]

/-- Mapping the error leaves the path of a value. -/
theorem path_mapErr_ok {g : ε → ε} {p : Prog S ε α} {a : α} :
    (p.mapErr g).Path t (.ok a) ↔ p.Path t (.ok a) := by
  induction p generalizing t with
  | done o => cases o <;> simp [mapErr]
  | call op k ih => simp only [mapErr, path_call, ih]

/-- **A path is a leaf under its own answers.** -/
theorem Path.leaf {p : Prog S ε α} {o : Outcome ε α} (h : p.Path t o) :
    p.Leaf (fun op r => ⟨op, r⟩ ∈ t) o := by
  induction p generalizing t with
  | done o' => exact h.2
  | call op k ih =>
      obtain ⟨r, t', rfl, hk⟩ := h
      exact ⟨r, List.mem_cons_self .., (ih r hk).mono fun _ _ => List.mem_cons_of_mem _⟩

/-- A leaf is the end of a path with admissible answers. -/
theorem Leaf.exists_path {A : (o : S.Op) → Except ε (S.Res o) → Prop} {p : Prog S ε α}
    {o : Outcome ε α} (h : p.Leaf A o) : ∃ t, (∀ x ∈ t, A x.1 x.2) ∧ p.Path t o := by
  induction p with
  | done o' => exact ⟨[], List.forall_mem_nil _, rfl, h⟩
  | call op k ih =>
      obtain ⟨r, hr, hk⟩ := h
      obtain ⟨t, ht, hpath⟩ := ih r hk
      exact ⟨⟨op, r⟩ :: t, List.forall_mem_cons.mpr ⟨hr, ht⟩, r, t, rfl, hpath⟩

/-- A path whose answers are admissible is a leaf. -/
theorem Path.leaf_of {A : (o : S.Op) → Except ε (S.Res o) → Prop} {p : Prog S ε α}
    {o : Outcome ε α} (h : p.Path t o) (ht : ∀ x ∈ t, A x.1 x.2) : p.Leaf A o :=
  h.leaf.mono fun op r hr => ht ⟨op, r⟩ hr

/-- **The questions of a path are questions of the program.** -/
theorem Path.asks {C : S.Op → Prop} {p : Prog S ε α} {o : Outcome ε α} (h : p.Path t o)
    (hp : p.Asks (fun _ _ => True) C) : ∀ x ∈ t, C x.1 := by
  induction p generalizing t with
  | done o' =>
      obtain ⟨rfl, -⟩ := h
      exact fun _ hx => nomatch hx
  | call op k ih =>
      obtain ⟨r, t', rfl, hk⟩ := h
      intro x hx
      rcases List.mem_cons.mp hx with rfl | hx
      · exact hp.1
      · exact ih r hk (hp.2 r trivial) x hx

/-- A program that asks nothing has an empty path. -/
theorem Path.eq_nil {p : Prog S ε α} {o : Outcome ε α} (h : p.Path t o)
    (hp : p.Asks (fun _ _ => True) fun _ => False) : t = [] :=
  List.eq_nil_iff_forall_not_mem.mpr fun x hx => h.asks hp x hx

/-- **The answers determine a path.**  Of two paths of a program, neither goes on where the
other ends. -/
theorem Path.prefix_unique {p : Prog S ε α} {o o' : Outcome ε α}
    {t₁ t₁' t₂ t₂' : List (Exchange S ε)} (h : p.Path t₁ o) (h' : p.Path t₁' o')
    (ht : t₁ ++ t₂ = t₁' ++ t₂') : t₁ = t₁' ∧ o = o' := by
  induction p generalizing t₁ t₁' with
  | done o₀ => exact ⟨h.1.trans h'.1.symm, h.2.symm.trans h'.2⟩
  | call op k ih =>
      obtain ⟨r, t, rfl, hk⟩ := h
      obtain ⟨r', t', rfl, hk'⟩ := h'
      obtain ⟨hr, hrest⟩ := List.cons.inj ht
      obtain rfl := eq_of_heq (Sigma.mk.inj hr).2
      obtain ⟨rfl, rfl⟩ := ih r hk hk' hrest
      exact ⟨rfl, rfl⟩

/-- **The invariant rule of a fold**, over what has been asked so far. -/
theorem path_foldlM {σ : Type} {f : σ → α → Prog S ε σ}
    (I : List α → σ → List (Exchange S ε) → Prop) {as : List α} {s s' : σ} (hs : I [] s [])
    (hf : ∀ seen a s s' t t', I seen s t → a ∈ as → (f s a).Path t' (.ok s') →
      I (seen ++ [a]) s' (t ++ t'))
    (h : (as.foldlM f s).Path t (.ok s')) : I as s' t := by
  suffices H : ∀ (rest seen : List α) (s : σ) (t₀ t₁ : List (Exchange S ε)), seen ++ rest = as →
      I seen s t₀ → (rest.foldlM f s).Path t₁ (.ok s') → I as s' (t₀ ++ t₁) by
    simpa using H as [] s [] t rfl hs h
  intro rest
  induction rest with
  | nil =>
      intro seen s t₀ t₁ hseen hI h
      simp only [List.foldlM_nil, path_pure, Outcome.ok.injEq] at h
      obtain ⟨rfl, rfl⟩ := h
      rw [List.append_nil] at hseen ⊢
      exact hseen ▸ hI
  | cons a rest ih =>
      intro seen s t₀ t₁ hseen hI h
      rw [List.foldlM_cons, path_bind_ok] at h
      obtain ⟨t₂, t₃, s₁, rfl, h₁, h₂⟩ := h
      rw [← List.append_assoc]
      refine ih (seen ++ [a]) s₁ (t₀ ++ t₂) t₃ (by simp [hseen]) ?_ h₂
      exact hf seen a s s₁ t₀ t₂ hI (by simp [← hseen]) h₁

/-- What `p` asks where every question has one answer. -/
def exchanges (f : (o : S.Op) → Except ε (S.Res o)) : Prog S ε α → List (Exchange S ε)
  | done _ => []
  | call o k => ⟨o, f o⟩ :: (k (f o)).exchanges f

/-- The exchanges under fixed answers are a path. -/
theorem path_eval (f : (o : S.Op) → Except ε (S.Res o)) (p : Prog S ε α) :
    p.Path (p.exchanges f) (p.eval f) := by
  induction p with
  | done o => exact ⟨rfl, rfl⟩
  | call o k ih => exact ⟨f o, _, rfl, ih (f o)⟩

/-- A path under the answers of `f` ends as the program does. -/
theorem Path.eval_eq {f : (o : S.Op) → Except ε (S.Res o)} {p : Prog S ε α} {o : Outcome ε α}
    (h : p.Path t o) (ht : ∀ x ∈ t, x.2 = f x.1) : p.eval f = o := by
  induction p generalizing t with
  | done o' => exact h.2
  | call op k ih =>
      obtain ⟨r, t', rfl, hk⟩ := h
      obtain rfl : r = f op := ht _ List.mem_cons_self
      exact ih _ hk fun x hx => ht x (List.mem_cons_of_mem _ hx)

/-- The exchanges are answered as fixed. -/
theorem exchanges_answer {f : (o : S.Op) → Except ε (S.Res o)} {p : Prog S ε α} :
    ∀ x ∈ p.exchanges f, x.2 = f x.1 := by
  induction p with
  | done o => exact fun _ hx => nomatch hx
  | call o k ih =>
      intro x hx
      rcases List.mem_cons.mp hx with rfl | hx
      · rfl
      · exact ih (f o) x hx

end Prog
end Interaction
end HyperspaceLight
