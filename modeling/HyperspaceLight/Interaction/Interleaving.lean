/-
# Programs in a changing environment

An environment answers the calls of a program and moves on its own between
them (`Env`).  `Env.Step` is the small-step interleaving of the two, and
`Env.wp` the weakest precondition over all interleavings: between any two calls
the environment may tick any number of times, every state in which a call is
about to be answered satisfies a safety property `P`, the program returns in
states satisfying `Q`, and it ends otherwise (error, panic, loop not finished)
in states satisfying `F`.  `Env.wp_sound` is its adequacy.

`Loop` is the event loop around such programs: idle, it starts a round; a round
that returns makes it idle again; a round that fails stops it.  `Loop.invariant`
packages the induction over its runs: an invariant of the idle states that each
round re-establishes, and a safety property each round keeps, hold in every
reachable state.  `Driver` computes runs: a schedule of ticks, starts and
answers that a deterministic environment executes is a run (`Driver.exec_sound`).
-/

import HyperspaceLight.Interaction.Program
import Mathlib.Logic.Relation

namespace HyperspaceLight
namespace Interaction

open Relation (ReflTransGen)

/-- An environment with state `W`: what it may do between two calls, and how it
may answer one. -/
structure Env (S : Sig) (ε W : Type) where
  tick : W → W → Prop
  answer : W → (o : S.Op) → Except ε (S.Res o) → W → Prop

namespace Env

variable {S : Sig} {ε W α β : Type} {E : Env S ε W}

/-- Any number of moves of the environment. -/
def Ticks (E : Env S ε W) : W → W → Prop := ReflTransGen E.tick

/-- `J` survives the moves of the environment. -/
def Stable (E : Env S ε W) (J : W → Prop) : Prop := ∀ w w', J w → E.tick w w' → J w'

/-- A stable property survives any number of moves. -/
theorem Stable.ticks {J : W → Prop} (hJ : E.Stable J) {w w' : W} (h : E.Ticks w w')
    (hw : J w) : J w' := by
  induction h with
  | refl => exact hw
  | tail _ hstep ih => exact hJ _ _ ih hstep

/-- One step of the interleaving: the environment moves, or it answers the
pending call. -/
inductive Step (E : Env S ε W) : W × Prog S ε α → W × Prog S ε α → Prop
  | tick {w w' : W} {p : Prog S ε α} (h : E.tick w w') : Step E (w, p) (w', p)
  | call {w w' : W} {o : S.Op} {k : Except ε (S.Res o) → Prog S ε α} {r : Except ε (S.Res o)}
      (h : E.answer w o r w') : Step E (w, .call o k) (w', k r)

/-- The runs of a program. -/
def Runs (E : Env S ε W) : W × Prog S ε α → W × Prog S ε α → Prop := ReflTransGen E.Step

/-- The weakest precondition of `p` over all interleavings: `P` at every call,
`Q` where it returns, `F` where it ends without returning. -/
def wp (E : Env S ε W) (P F : W → Prop) : Prog S ε α → (α → W → Prop) → W → Prop
  | .done (.ok a), Q, w => Q a w
  | .done _, _, w => F w
  | .call o k, Q, w =>
      ∀ w', E.Ticks w w' → P w' ∧ ∀ r w'', E.answer w' o r w'' → E.wp P F (k r) Q w''

variable {P F : W → Prop} {Q R : α → W → Prop} {w : W}

/-- A returned value: the postcondition. -/
@[simp] theorem wp_ok {a : α} : E.wp P F (.done (.ok a) : Prog S ε α) Q w ↔ Q a w := Iff.rfl

/-- A returned value, as a monad returns it: the postcondition. -/
@[simp] theorem wp_pure {a : α} : E.wp P F (pure a : Prog S ε α) Q w ↔ Q a w := Iff.rfl

/-- An error: the failure condition. -/
@[simp] theorem wp_err {e : ε} : E.wp P F (.done (.err e) : Prog S ε α) Q w ↔ F w := Iff.rfl

/-- A panic: the failure condition. -/
@[simp] theorem wp_panic {m : String} :
    E.wp P F (.done (.panic m) : Prog S ε α) Q w ↔ F w := Iff.rfl

/-- A loop that does not end: the failure condition. -/
@[simp] theorem wp_spin : E.wp P F (.done .spin : Prog S ε α) Q w ↔ F w := Iff.rfl

/-- **A question**: safety holds through the moves before it, and the rest goes on from every
answer. -/
theorem wp_call {o : S.Op} {k : Except ε (S.Res o) → Prog S ε α} :
    E.wp P F (.call o k) Q w ↔
      ∀ w', E.Ticks w w' → P w' ∧ ∀ r w'', E.answer w' o r w'' → E.wp P F (k r) Q w'' :=
  Iff.rfl

/-- **Sequencing.** -/
theorem wp_bind {p : Prog S ε α} {f : α → Prog S ε β} {Q : β → W → Prop} :
    E.wp P F (p >>= f) Q w ↔ E.wp P F p (fun a w => E.wp P F (f a) Q w) w := by
  induction p generalizing w with
  | done o => cases o <;> rfl
  | call o k ih => simp only [Prog.call_bind, wp_call, ih]

/-- Weaker conditions at the end follow. -/
theorem wp_mono {F' : W → Prop} {p : Prog S ε α} (hF : ∀ w, F w → F' w)
    (hQ : ∀ a w, Q a w → R a w) (h : E.wp P F p Q w) : E.wp P F' p R w := by
  induction p generalizing w with
  | done o =>
      cases o with
      | ok a => exact hQ a w h
      | _ => exact hF w h
  | call o k ih =>
      exact fun w' ht => ⟨(h w' ht).1, fun r w'' ha => ih r ((h w' ht).2 r w'' ha)⟩

/-- A weaker postcondition follows. -/
theorem wp_post {p : Prog S ε α} (hQ : ∀ a w, Q a w → R a w) (h : E.wp P F p Q w) :
    E.wp P F p R w :=
  wp_mono (fun _ h => h) hQ h

/-- A weaker safety property follows. -/
theorem wp_safety {P' : W → Prop} {p : Prog S ε α} (hP : ∀ w, P w → P' w) (h : E.wp P F p Q w) :
    E.wp P' F p Q w := by
  induction p generalizing w with
  | done o =>
      cases o with
      | ok a => exact h
      | _ => exact h
  | call o k ih =>
      exact fun w' ht => ⟨hP w' (h w' ht).1, fun r w'' ha => ih r ((h w' ht).2 r w'' ha)⟩

/-- **One call.**  An assertion that survives the ticks and gives the safety
property holds when the call is answered. -/
theorem wp_ask {o : S.Op} {Q : S.Res o → W → Prop} (J : W → Prop) (hJ : E.Stable J) (hw : J w)
    (hP : ∀ w, J w → P w)
    (hok : ∀ w a w', J w → E.answer w o (.ok a) w' → Q a w')
    (herr : ∀ w e w', J w → E.answer w o (.error e) w' → F w') :
    E.wp P F (Prog.ask o) Q w := by
  intro w' ht
  have hJ' := hJ.ticks ht hw
  refine ⟨hP w' hJ', fun r w'' ha => ?_⟩
  cases r with
  | ok a => exact hok w' a w'' hJ' ha
  | error e => exact herr w' e w'' hJ' ha

/-- Mapping the error makes no difference. -/
theorem wp_mapErr {g : ε → ε} {p : Prog S ε α} (h : E.wp P F p Q w) :
    E.wp P F (p.mapErr g) Q w := by
  induction p generalizing w with
  | done o => cases o <;> exact h
  | call o k ih =>
      exact fun w' ht => ⟨(h w' ht).1, fun r w'' ha => ih r ((h w' ht).2 r w'' ha)⟩

/-- One move of the environment, or its answer to a question in `C`. -/
def MeanStep (E : Env S ε W) (C : S.Op → Prop) (w w' : W) : Prop :=
  E.tick w w' ∨ ∃ o r, C o ∧ E.answer w o r w'

/-- Any number of moves and of answers to questions in `C`. -/
def Meanwhile (E : Env S ε W) (C : S.Op → Prop) : W → W → Prop := ReflTransGen (E.MeanStep C)

/-- Fewer questions are some of more. -/
theorem Meanwhile.mono {C D : S.Op → Prop} (hCD : ∀ o, C o → D o) {w w' : W}
    (h : E.Meanwhile C w w') : E.Meanwhile D w w' := by
  induction h with
  | refl => exact .refl
  | tail _ hstep ih =>
      rcases hstep with ht | ⟨o, r, hC, ha⟩
      · exact ih.tail (.inl ht)
      · exact ih.tail (.inr ⟨o, r, hCD o hC, ha⟩)

/-- Moves alone are an interval without questions. -/
theorem Ticks.meanwhile {C : S.Op → Prop} {w w' : W} (h : E.Ticks w w') :
    E.Meanwhile C w w' := by
  induction h with
  | refl => exact .refl
  | tail _ ht ih => exact ih.tail (.inl ht)

/-- `J` survives moves and answers to questions in `C`. -/
def Kept (E : Env S ε W) (C : S.Op → Prop) (J : W → Prop) : Prop :=
  ∀ w w', J w → E.MeanStep C w w' → J w'

/-- **What is kept by each move and question is kept by all.** -/
theorem Kept.meanwhile {C : S.Op → Prop} {J : W → Prop} (hJ : E.Kept C J) {w w' : W}
    (h : E.Meanwhile C w w') (hw : J w) : J w' := by
  induction h with
  | refl => exact hw
  | tail _ hstep ih => exact hJ _ _ ih hstep

/-- The part of an environment that stays where `C` holds. -/
def within (E : Env S ε W) (C : W → Prop) : Env S ε W where
  tick w w' := E.tick w w' ∧ C w'
  answer w o r w' := E.answer w o r w' ∧ C w'

/-- An interval inside a condition is an interval. -/
theorem Meanwhile.of_within {C : S.Op → Prop} {D : W → Prop} {w w' : W}
    (h : (E.within D).Meanwhile C w w') : E.Meanwhile C w w' := by
  induction h with
  | refl => exact .refl
  | tail _ hstep ih =>
      rcases hstep with ht | ⟨o, r, hC, ha⟩
      · exact ih.tail (.inl ht.1)
      · exact ih.tail (.inr ⟨o, r, hC, ha.1⟩)

/-- What is kept is kept inside a condition. -/
theorem Kept.within {C : S.Op → Prop} {D J : W → Prop} (hJ : E.Kept C J) :
    (E.within D).Kept C J := by
  rintro w w' hw (ht | ⟨o, r, hC, ha⟩)
  · exact hJ w w' hw (.inl ht.1)
  · exact hJ w w' hw (.inr ⟨o, r, hC, ha.1⟩)

/-- What is kept is stable. -/
theorem Kept.stable {C : S.Op → Prop} {J : W → Prop} (hJ : E.Kept C J) : E.Stable J :=
  fun w w' hw ht => hJ w w' hw (.inl ht)

/-- Inside a condition the condition holds throughout. -/
theorem Meanwhile.stays {C : S.Op → Prop} {D : W → Prop} {w w' : W}
    (h : (E.within D).Meanwhile C w w') (hw : D w) : D w' := by
  induction h with
  | refl => exact hw
  | tail _ hstep _ =>
      rcases hstep with ht | ⟨_, _, _, ha⟩
      · exact ht.2
      · exact ha.2

/-- The answer `r` to `o` was given somewhere between `w` and `w'`. -/
def Given (E : Env S ε W) (C : S.Op → Prop) (w w' : W) (o : S.Op) (r : Except ε (S.Res o)) : Prop :=
  ∃ w₁ w₂, E.Meanwhile C w w₁ ∧ E.answer w₁ o r w₂ ∧ E.Meanwhile C w₂ w'

/-- An answer inside a condition is an answer. -/
theorem Given.of_within {C : S.Op → Prop} {D : W → Prop} {w w' : W} {o : S.Op}
    {r : Except ε (S.Res o)} (h : (E.within D).Given C w w' o r) : E.Given C w w' o r := by
  obtain ⟨w₁, w₂, h₁, ha, h₂⟩ := h
  exact ⟨w₁, w₂, h₁.of_within, ha.1, h₂.of_within⟩

/-- **What was answered on the way.**  A program that asks only questions in `C`
ends in a state reached by moves and such answers, and returns what its tree
returns under the answers given on the way. -/
theorem wp_given {C : S.Op → Prop} {p : Prog S ε α} (hp : p.Asks (fun _ _ => True) C)
    (hP : ∀ w', E.Meanwhile C w w' → P w') (hF : ∀ w', E.Meanwhile C w w' → F w') :
    E.wp P F p (fun a w' => E.Meanwhile C w w' ∧ p.Leaf (E.Given C w w') (.ok a)) w := by
  suffices H : ∀ (p : Prog S ε α) (w₀ : W), E.Meanwhile C w w₀ → p.Asks (fun _ _ => True) C →
      E.wp P F p (fun a w' => E.Meanwhile C w₀ w' ∧ p.Leaf (E.Given C w w') (.ok a)) w₀ from
    H p w .refl hp
  intro p
  induction p with
  | done o =>
      intro w₀ hw₀ _
      cases o with
      | ok a => exact ⟨.refl, rfl⟩
      | _ => exact hF w₀ hw₀
  | call o k ih =>
      intro w₀ hw₀ hp w₁ ht
      have hw₁ : E.Meanwhile C w w₁ := hw₀.trans (Ticks.meanwhile ht)
      refine ⟨hP w₁ hw₁, fun r w₂ ha => ?_⟩
      have hstep : E.Meanwhile C w₁ w₂ := .single (.inr ⟨o, r, hp.1, ha⟩)
      -- the answer to `o` stays on record until the rest of the program returns
      refine wp_post (fun a w' h => ⟨((Ticks.meanwhile ht).trans hstep).trans h.1, r, ?_, h.2⟩)
        (ih r w₂ (hw₁.trans hstep) (hp.2 r trivial))
      exact ⟨w₁, w₂, hw₁, ha, h.1⟩

/-- **The invariant rule of a fold.** -/
theorem wp_foldlM {σ : Type} {f : σ → α → Prog S ε σ} (I : List α → σ → W → Prop) {as : List α}
    {s : σ} (hw : I [] s w)
    (hf : ∀ seen a rest s w, seen ++ a :: rest = as → I seen s w →
      E.wp P F (f s a) (fun s' => I (seen ++ [a]) s') w) :
    E.wp P F (as.foldlM f s) (fun s' => I as s') w := by
  suffices H : ∀ (rest seen : List α) (s : σ) (w : W), seen ++ rest = as → I seen s w →
      E.wp P F (rest.foldlM f s) (fun s' => I as s') w from H as [] s w rfl hw
  intro rest
  induction rest with
  | nil =>
      intro seen s w hseen hI
      rw [List.append_nil] at hseen
      exact hseen ▸ hI
  | cons a rest ih =>
      intro seen s w hseen hI
      rw [List.foldlM_cons, wp_bind]
      exact wp_post (fun s' w h => ih (seen ++ [a]) s' w (by simp [hseen]) h)
        (hf seen a rest s w hseen hI)

/-- What the weakest precondition says about a state of a run: some earlier
state, with only ticks in between, satisfied it for the rest of the program. -/
theorem wp_runs {p p' : Prog S ε α} {w' : W} (h : E.wp P F p Q w)
    (hr : E.Runs (w, p) (w', p')) : ∃ w₀, E.Ticks w₀ w' ∧ E.wp P F p' Q w₀ := by
  generalize hc : (w', p') = c at hr
  induction hr generalizing w' p' with
  | refl => cases hc; exact ⟨w, .refl, h⟩
  | tail _ hs ih =>
      cases hs with
      | tick ht =>
          cases hc
          obtain ⟨w₀, h₀, hw₀⟩ := ih rfl
          exact ⟨w₀, h₀.tail ht, hw₀⟩
      | call ha =>
          cases hc
          obtain ⟨w₀, h₀, hw₀⟩ := ih rfl
          exact ⟨_, .refl, (hw₀ _ h₀).2 _ _ ha⟩

/-- **Adequacy, what is returned.** -/
theorem wp_returns {p : Prog S ε α} {w' : W} {a : α} (h : E.wp P F p Q w)
    (hr : E.Runs (w, p) (w', .done (.ok a))) : ∃ w₀, E.Ticks w₀ w' ∧ Q a w₀ :=
  wp_runs h hr

/-- **Adequacy, every state on the way.** -/
theorem wp_sound {p p' : Prog S ε α} {w' : W} (hP : E.Stable P) (hQ : ∀ a w, Q a w → P w)
    (hF : ∀ w, F w → P w) (h : E.wp P F p Q w) (hr : E.Runs (w, p) (w', p')) : P w' := by
  obtain ⟨w₀, h₀, hw₀⟩ := wp_runs h hr
  cases p' with
  | done o =>
      cases o with
      | ok a => exact hP.ticks h₀ (hQ a w₀ hw₀)
      | _ => exact hP.ticks h₀ (hF w₀ hw₀)
  | call o k => exact (hw₀ w' h₀).1

end Env

/-! ### Event loops -/

/-- Where an event loop stands: between two rounds, inside one, or stopped. -/
inductive Phase (S : Sig) (ε : Type) where
  | idle
  | busy (p : Prog S ε Unit)
  | stopped

/-- An event loop in an environment.  `start w p w'`: in state `w` the loop may
start the round `p`, in state `w'`. -/
structure Loop (S : Sig) (ε W : Type) where
  env : Env S ε W
  start : W → Prog S ε Unit → W → Prop

namespace Loop

variable {S : Sig} {ε W : Type}

inductive Step (L : Loop S ε W) : W × Phase S ε → W × Phase S ε → Prop
  | tick {w w' : W} {ph : Phase S ε} (h : L.env.tick w w') : Step L (w, ph) (w', ph)
  | start {w w' : W} {p : Prog S ε Unit} (h : L.start w p w') : Step L (w, .idle) (w', .busy p)
  | call {w w' : W} {o : S.Op} {k : Except ε (S.Res o) → Prog S ε Unit}
      {r : Except ε (S.Res o)} (h : L.env.answer w o r w') :
      Step L (w, .busy (.call o k)) (w', .busy (k r))
  | finish {w : W} : Step L (w, .busy (.done (.ok ()))) (w, .idle)
  | abort {w : W} {o : Outcome ε Unit} (h : o ≠ .ok ()) :
      Step L (w, .busy (.done o)) (w, .stopped)
  | close {w : W} : Step L (w, .idle) (w, .stopped)

/-- The loop in the part of its environment where `C` holds. -/
def within (L : Loop S ε W) (C : W → Prop) : Loop S ε W where
  env := L.env.within C
  start w p w' := L.start w p w' ∧ C w'

/-- The runs of the loop. -/
def Runs (L : Loop S ε W) : W × Phase S ε → W × Phase S ε → Prop := ReflTransGen L.Step

/-- Where `C` cannot become true again, a run that ends in it has never left it. -/
theorem Runs.within {L : Loop S ε W} {C : W → Prop}
    (hC : ∀ c c', L.Step c c' → C c'.1 → C c.1) {c c' : W × Phase S ε} (h : L.Runs c c')
    (hend : C c'.1) : (L.within C).Runs c c' := by
  induction h with
  | refl => exact .refl
  | tail _ hs ih =>
      refine (ih (hC _ _ hs hend)).tail ?_
      cases hs with
      | tick ht => exact .tick ⟨ht, hend⟩
      | start hst => exact .start ⟨hst, hend⟩
      | call ha => exact .call ⟨ha, hend⟩
      | finish => exact .finish
      | abort ho => exact .abort ho
      | close => exact .close

/-- **The run lemma.**  `I` holds between the rounds and `P` everywhere, if the
ticks keep both and each round, started where `I` holds, keeps `P` and
re-establishes `I`. -/
theorem invariant {L : Loop S ε W} {I P : W → Prop} (hI : L.env.Stable I) (hP : L.env.Stable P)
    (hIP : ∀ w, I w → P w)
    (hround : ∀ w p w', I w → L.start w p w' → L.env.wp P P p (fun _ => I) w') {w w' : W}
    {ph : Phase S ε} (hw : I w) (hr : L.Runs (w, .idle) (w', ph)) :
    P w' ∧ (ph = .idle → I w') := by
  -- what holds of each phase; a round is described by its weakest precondition
  let G : W × Phase S ε → Prop := fun c => P c.1 ∧
    match c.2 with
    | .idle => I c.1
    | .busy p => ∃ w₀, L.env.Ticks w₀ c.1 ∧ L.env.wp P P p (fun _ => I) w₀
    | .stopped => True
  have hPwp : ∀ {p : Prog S ε Unit} {w₀ w₁ : W}, L.env.Ticks w₀ w₁ →
      L.env.wp P P p (fun _ => I) w₀ → P w₁ := fun {p w₀ w₁} ht h => by
    cases p with
    | done o =>
        cases o with
        | ok a => exact hP.ticks ht (hIP w₀ h)
        | _ => exact hP.ticks ht h
    | call o k => exact (h w₁ ht).1
  have hG : G (w', ph) := by
    unfold Runs at hr
    generalize hc : (w', ph) = c at hr
    induction hr generalizing w' ph with
    | refl => cases hc; exact ⟨hIP w hw, hw⟩
    | tail _ hs ih =>
        cases hs with
        | @tick w₁ w₂ ph' ht =>
            cases hc
            obtain ⟨h₁, h₂⟩ := ih rfl
            refine ⟨hP _ _ h₁ ht, ?_⟩
            cases ph with
            | idle => exact hI _ _ h₂ ht
            | busy p =>
                obtain ⟨w₀, h₀, hw₀⟩ := h₂
                exact ⟨w₀, h₀.tail ht, hw₀⟩
            | stopped => trivial
        | start hst =>
            cases hc
            have h := hround _ _ _ (ih rfl).2 hst
            exact ⟨hPwp .refl h, _, .refl, h⟩
        | call ha =>
            cases hc
            obtain ⟨-, w₀, h₀, hw₀⟩ := ih rfl
            have h := (hw₀ _ h₀).2 _ _ ha
            exact ⟨hPwp .refl h, _, .refl, h⟩
        | finish =>
            cases hc
            obtain ⟨h₁, w₀, h₀, hw₀⟩ := ih rfl
            exact ⟨h₁, hI.ticks h₀ hw₀⟩
        | abort =>
            cases hc
            exact ⟨(ih rfl).1, trivial⟩
        | close =>
            cases hc
            exact ⟨(ih rfl).1, trivial⟩
  exact ⟨hG.1, fun h => by subst h; exact hG.2⟩

/-- **What every round asks is all that the loop ever asks.** -/
theorem asks {L : Loop S ε W} {C : S.Op → Prop}
    (hround : ∀ w p w', L.start w p w' → p.Asks (fun _ _ => True) C) {w w' : W}
    {ph : Phase S ε} (hr : L.Runs (w, .idle) (w', ph)) :
    ∀ p, ph = .busy p → p.Asks (fun _ _ => True) C := by
  unfold Runs at hr
  generalize hc : (w', ph) = c at hr
  induction hr generalizing w' ph with
  | refl =>
      cases hc
      intro p hp
      cases hp
  | tail _ hs ih =>
      rintro p rfl
      cases hs with
      | tick ht =>
          cases hc
          exact ih rfl p rfl
      | start hst =>
          cases hc
          exact hround _ _ _ hst
      | call ha =>
          cases hc
          exact (ih rfl _ rfl).2 _ trivial
      | finish => cases hc
      | abort => cases hc
      | close => cases hc

end Loop

/-- The runs of a round are runs of the loop. -/
theorem Env.Runs.busy {S : Sig} {ε W : Type} {L : Loop S ε W} {w w' : W} {p p' : Prog S ε Unit}
    (h : L.env.Runs (w, p) (w', p')) : L.Runs (w, .busy p) (w', .busy p') := by
  refine h.lift (fun c : W × Prog S ε Unit => (c.1, Phase.busy c.2)) ?_
  rintro _ _ (ht | ha)
  · exact .tick ht
  · exact .call ha

/-! ### Computed runs -/

/-- A deterministic way to execute a loop: ticks and starts by name, and one
answer to each call. -/
structure Driver {S : Sig} {ε W : Type} (L : Loop S ε W) (T D : Type) where
  tick : T → W → Option W
  start : D → W → Option (Prog S ε Unit × W)
  answer : W → (o : S.Op) → Except ε (S.Res o) × W
  tick_sound : ∀ t w w', tick t w = some w' → L.env.tick w w'
  start_sound : ∀ d w p w', start d w = some (p, w') → L.start w p w'
  answer_sound : ∀ w o, L.env.answer w o (answer w o).1 (answer w o).2

/-- One entry of a schedule: a tick, the start of a round, `n` answers, or the
end of a round. -/
inductive Act (T D : Type) where
  | tick (t : T)
  | start (d : D)
  | answers (n : ℕ)
  | finish

namespace Driver

variable {S : Sig} {ε W T D α : Type} {L : Loop S ε W}

/-- Answer the next `n` calls of `p`. -/
def answers (V : Driver L T D) : ℕ → W → Prog S ε α → W × Prog S ε α
  | 0, w, p => (w, p)
  | _ + 1, w, .done o => (w, .done o)
  | n + 1, w, .call o k => V.answers n (V.answer w o).2 (k (V.answer w o).1)

def act (V : Driver L T D) : Act T D → W × Phase S ε → Option (W × Phase S ε)
  | .tick t, (w, ph) => (V.tick t w).map fun w' => (w', ph)
  | .start d, (w, .idle) => (V.start d w).map fun r => (r.2, .busy r.1)
  | .answers n, (w, .busy p) => some ((V.answers n w p).1, .busy (V.answers n w p).2)
  | .finish, (w, .busy (.done (.ok ()))) => some (w, .idle)
  | _, _ => none

/-- Execute a schedule; `none` if an entry does not apply. -/
def exec (V : Driver L T D) : List (Act T D) → W × Phase S ε → Option (W × Phase S ε)
  | [], c => some c
  | a :: as, c => (V.act a c).bind (V.exec as)

/-- The driver's answers are steps of the program. -/
theorem answers_runs (V : Driver L T D) (n : ℕ) (w : W) (p : Prog S ε α) :
    L.env.Runs (w, p) (V.answers n w p) := by
  induction n generalizing w p with
  | zero => exact .refl
  | succ n ih =>
      cases p with
      | done o => exact .refl
      | call o k => exact .head (.call (V.answer_sound w o)) (ih _ _)

/-- The driver's answers are steps of the loop. -/
theorem answers_sound (V : Driver L T D) (n : ℕ) (w : W) (p : Prog S ε Unit) :
    L.Runs (w, .busy p) ((V.answers n w p).1, .busy (V.answers n w p).2) :=
  (V.answers_runs n w p).busy

/-- **Each act of the driver is a step of the loop.** -/
theorem act_sound (V : Driver L T D) {a : Act T D} {c c' : W × Phase S ε}
    (h : V.act a c = some c') : L.Runs c c' := by
  obtain ⟨w, ph⟩ := c
  cases a with
  | tick t =>
      simp only [act, Option.map_eq_some_iff] at h
      obtain ⟨w', hw', rfl⟩ := h
      exact .single (.tick (V.tick_sound t w w' hw'))
  | start d =>
      cases ph with
      | idle =>
          simp only [act, Option.map_eq_some_iff] at h
          obtain ⟨⟨p, w'⟩, hw', rfl⟩ := h
          exact .single (.start (V.start_sound d w p w' hw'))
      | _ => simp [act] at h
  | answers n =>
      cases ph with
      | busy p =>
          simp only [act, Option.some.injEq] at h
          exact h ▸ V.answers_sound n w p
      | _ => simp [act] at h
  | finish =>
      cases ph with
      | busy p =>
          cases p with
          | done o =>
              cases o with
              | ok a =>
                  simp only [act, Option.some.injEq] at h
                  exact h ▸ .single .finish
              | _ => simp [act] at h
          | call o k => simp [act] at h
      | _ => simp [act] at h

/-- **A computed schedule is a run.** -/
theorem exec_sound (V : Driver L T D) {as : List (Act T D)} {c c' : W × Phase S ε}
    (h : V.exec as c = some c') : L.Runs c c' := by
  induction as generalizing c with
  | nil => cases h; exact .refl
  | cons a as ih =>
      simp only [exec, Option.bind_eq_some_iff] at h
      obtain ⟨c₁, h₁, h₂⟩ := h
      exact (V.act_sound h₁).trans (ih h₂)

end Driver
end Interaction
end HyperspaceLight
