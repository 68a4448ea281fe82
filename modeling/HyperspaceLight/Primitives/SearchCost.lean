/-
# What the search for a proof height costs

How often `find_suitable_proof_height_for_client` asks the chain, whatever the
answers are and however they change from one question to the next.  Neither mode
asks more often than there are heights in the range.  A question that is answered
halves the range that the bisecting mode has left, one that fails takes a single
height from it; so that mode asks logarithmically often, apart from the questions
that fail.  The linear mode ends with the first answer.
-/

import HyperspaceLight.Interaction.Trace
import HyperspaceLight.Primitives.Funcs
import Mathlib.Data.Nat.Log

namespace HyperspaceLight

open Interaction

/-- The questions that failed. -/
def failures {S : Sig} {ε : Type} (t : List (Exchange S ε)) : ℕ :=
  t.countP fun x => !x.2.isOk

section

variable {S : Sig} {ε : Type} {op : S.Op} {t : List (Exchange S ε)}

/-- No call, no failure. -/
@[simp] theorem failures_nil : failures ([] : List (Exchange S ε)) = 0 := rfl

/-- A failed call counts. -/
@[simp] theorem failures_error (e : ε) : failures (⟨op, .error e⟩ :: t) = failures t + 1 :=
  List.countP_cons_of_pos rfl

/-- An answered call does not. -/
@[simp] theorem failures_ok (a : S.Res op) : failures (⟨op, .ok a⟩ :: t) = failures t :=
  List.countP_cons_of_neg (by simp [Except.isOk, Except.toBool])

end

/-- Halving takes one from the logarithm. -/
theorem log_half {n m : ℕ} (hn : 2 ≤ n) (hm : m ≤ n / 2) : Nat.log 2 m + 1 ≤ Nat.log 2 n := by
  have hhalf : Nat.log 2 (n / 2) = Nat.log 2 n - 1 := Nat.log_div_base 2 n
  have hpos : 0 < Nat.log 2 n := Nat.log_pos (by omega) hn
  have hle : Nat.log 2 m ≤ Nat.log 2 (n / 2) := Nat.log_mono_right hm
  omega

section Search

variable {info : ChainInfo} {role : Role} {h : Height} {clientId : ClientId} {target : Timestamp}
  {rn : ℕ} {t : List (Exchange TraitSig Error)}

/-- One question for a consensus state, which fails or is answered. -/
theorem queryClientConsensus_path {β : Type} {height : Height} {o : Outcome Error β}
    {f : Except Error QueryConsensusStateResponse → Prog TraitSig Error β}
    (hpath : (((Chain.trait info role).queryClientConsensus h clientId height).attempt >>= f).Path
      t o) :
    ∃ t', t.length = t'.length + 1 ∧
      ((∃ e, failures t = failures t' + 1 ∧ (f (.error e)).Path t' o) ∨
        ∃ response, failures t = failures t' ∧ (f (.ok response)).Path t' o) := by
  obtain ⟨e | response, t', rfl, hrest⟩ := Prog.path_ask_attempt_bind.mp hpath
  · exact ⟨t', rfl, .inl ⟨e, failures_error e, hrest⟩⟩
  · exact ⟨t', rfl, .inr ⟨response, failures_ok response, hrest⟩⟩

/-- **The bisecting loop.** -/
theorem bisectLoop_queries {fuel start stop : ℕ} {last : Option Height}
    {o : Outcome Error (Option (ℕ × Option Height))} (hle : start ≤ stop)
    (hpath : (bisectLoop (Chain.trait info role).toIbcProvider h clientId rn target fuel start stop
      last).Path t o) :
    t.length ≤ stop - start ∧ t.length ≤ failures t + Nat.log 2 (stop - start) := by
  induction fuel generalizing start stop last t with
  | zero =>
      obtain ⟨rfl, -⟩ := hpath
      exact ⟨Nat.zero_le _, Nat.zero_le _⟩
  | succ fuel ih =>
      have hgap : (u64Sub stop start : Prog TraitSig Error ℕ) = pure (stop - start) := if_pos hle
      rw [bisectLoop, hgap, Prog.pure_bind'] at hpath
      split_ifs at hpath with hend
      · obtain ⟨rfl, -⟩ := hpath
        exact ⟨Nat.zero_le _, Nat.zero_le _⟩
      unfold u64Add at hpath
      split_ifs at hpath with hsum
      swap
      · obtain ⟨rfl, -⟩ := hpath
        exact ⟨Nat.zero_le _, Nat.zero_le _⟩
      have hmid : 0 < (stop + start) / 2 := by omega
      have hnew : Height.new rn ((stop + start) / 2) = some ⟨rn, (stop + start) / 2, hmid⟩ :=
        Height.new_eq_some.mpr ⟨rfl, rfl⟩
      rw [Prog.pure_bind'] at hpath
      simp only [hnew, Prog.expect, Prog.done_ok_bind] at hpath
      obtain ⟨t', hlen, ⟨e, hfail, hpath⟩ | ⟨response, hfail, hpath⟩⟩ :=
        queryClientConsensus_path hpath
      · -- the range loses its first height
        obtain ⟨hlength, hlog⟩ := ih (by omega) hpath
        have hmono : Nat.log 2 (stop - (start + 1)) ≤ Nat.log 2 (stop - start) :=
          Nat.log_mono_right (by omega)
        omega
      · have hone : 1 ≤ Nat.log 2 (stop - start) := Nat.log_pos (by omega) (by omega)
        dsimp only at hpath
        split at hpath
        · obtain ⟨rfl, -⟩ := hpath
          rw [List.length_nil] at hlen
          omega
        · split_ifs at hpath
          · -- the upper half is left
            obtain ⟨hlength, hlog⟩ := ih (by omega) hpath
            have hhalf := log_half (n := stop - start) (m := stop - ((stop + start) / 2 + 1))
              (by omega) (by omega)
            omega
          · -- the lower half is left
            obtain ⟨hlength, hlog⟩ := ih (by omega) hpath
            have hhalf := log_half (n := stop - start) (m := (stop + start) / 2 - start)
              (by omega) (by omega)
            omega

/-- **The bisecting mode.**  One more question is asked after the loop. -/
theorem bisectSearch_queries {start latest : Height} {o : Outcome Error (Option Height)}
    (hpath : (bisectSearch (Chain.trait info role).toIbcProvider h clientId start target
      latest).Path t o) :
    t.length ≤ latest.revisionHeight + 1 - start.revisionHeight ∧
      t.length ≤ failures t + Nat.log 2 (latest.revisionHeight - start.revisionHeight) + 1 := by
  unfold bisectSearch at hpath
  dsimp only at hpath
  split_ifs at hpath with hlt
  · obtain ⟨rfl, -⟩ := hpath
    exact ⟨Nat.zero_le _, Nat.zero_le _⟩
  rcases Prog.path_bind.mp hpath with ⟨t₁, t₂, found, rfl, hloop, hrest⟩ | ⟨o', hloop, hfail⟩
  · obtain ⟨hlength, hlog⟩ := bisectLoop_queries (not_lt.mp hlt) hloop
    have hlast : t₂.length ≤ 1 := by
      cases found with
      | none =>
          obtain ⟨rfl, -⟩ := hrest
          exact Nat.zero_le _
      | some found =>
          obtain ⟨lower, last⟩ := found
          dsimp only at hrest
          cases hnew : Height.new start.revisionNumber lower with
          | none =>
              rw [hnew] at hrest
              obtain ⟨rfl, -⟩ := hrest
              exact Nat.zero_le _
          | some height =>
              rw [hnew] at hrest
              simp only [Prog.expect, Prog.done_ok_bind] at hrest
              obtain ⟨t', hlen, ⟨e, -, hrest⟩ | ⟨response, -, hrest⟩⟩ :=
                queryClientConsensus_path hrest
              · obtain ⟨rfl, -⟩ := hrest
                exact hlen.le
              · dsimp only at hrest
                split at hrest
                · obtain ⟨rfl, -⟩ := hrest
                  exact hlen.le
                · split_ifs at hrest <;>
                  · obtain ⟨rfl, -⟩ := hrest
                    exact hlen.le
    have hfailures : failures t₁ ≤ failures (t₁ ++ t₂) := by
      rw [failures, failures, List.countP_append]
      exact Nat.le_add_right _ _
    rw [List.length_append]
    omega
  · obtain ⟨hlength, hlog⟩ := bisectLoop_queries (not_lt.mp hlt) hloop
    omega

/-- **The linear mode.**  All questions but the last have failed. -/
theorem linearSearch_queries {n lo : ℕ} {o : Outcome Error (Option Height)}
    (hpath : (linearSearch (Chain.trait info role).toIbcProvider h clientId rn n lo).Path t o) :
    t.length ≤ n ∧ t.length ≤ failures t + 1 := by
  induction n generalizing lo t with
  | zero =>
      obtain ⟨rfl, -⟩ := hpath
      exact ⟨Nat.zero_le _, Nat.zero_le _⟩
  | succ n ih =>
      rw [linearSearch] at hpath
      cases hnew : Height.new rn lo with
      | none =>
          rw [hnew] at hpath
          obtain ⟨rfl, -⟩ := hpath
          exact ⟨Nat.zero_le _, Nat.zero_le _⟩
      | some height =>
          rw [hnew] at hpath
          simp only [Prog.expect, Prog.done_ok_bind] at hpath
          obtain ⟨t', hlen, ⟨e, hfail, hpath⟩ | ⟨response, hfail, hpath⟩⟩ :=
            queryClientConsensus_path hpath
          · obtain ⟨hlength, hanswered⟩ := ih hpath
            omega
          · obtain ⟨rfl, -⟩ := hpath
            rw [List.length_nil] at hlen
            omega

/-- How many of its questions the search can have answered, over a range of heights. -/
def answeredAtMost (width : ℕ) : Option Timestamp → ℕ
  | none => 1
  | some _ => Nat.log 2 width + 1

/-- **What the search for a proof height costs**, whatever the chain answers: never more
questions than there are heights from the start to the latest one.  Without a timestamp all
questions but one fail; with a timestamp the number of those that do not fail is logarithmic. -/
theorem findSuitableProofHeight_queries (info : ChainInfo) (role : Role) (h : Height)
    (clientId : ClientId) (start latest : Height) (timestampToMatch : Option Timestamp)
    (t : List (Exchange TraitSig Error)) (o : Outcome Error (Option Height))
    (hpath : (findSuitableProofHeightForClient (Chain.trait info role).toIbcProvider h clientId
      start timestampToMatch latest).Path t o) :
    t.length ≤ latest.revisionHeight + 1 - start.revisionHeight ∧
      t.length - failures t ≤
        answeredAtMost (latest.revisionHeight - start.revisionHeight) timestampToMatch := by
  cases timestampToMatch with
  | none =>
      obtain ⟨hlength, hanswered⟩ := linearSearch_queries hpath
      refine ⟨hlength, ?_⟩
      rw [answeredAtMost]
      omega
  | some target =>
      obtain ⟨hlength, hanswered⟩ := bisectSearch_queries hpath
      refine ⟨hlength, ?_⟩
      rw [answeredAtMost]
      omega

end Search

/-! ### A chain with a consensus state at every height -/

/-- The consensus state of each height, with the height for its time. -/
def pacedAnswer : (o : TraitSig.Op) → Except Error (TraitSig.Res o)
  | (_, .queryClientConsensus _ _ t) => .ok (proven (some (.ok ⟨t.revisionHeight⟩)))
  | _ => .error (.rpcError "unavailable")

/-- The search for time 200 among the heights from 1 to 256. -/
def pacedSearch : Prog TraitSig Error (Option Height) :=
  findSuitableProofHeightForClient (Chain.trait (chainInfo "paced") .sink).toIbcProvider
    (height0 300) client0 (height0 1) (some (.fromNanoseconds 200)) (height0 256)

/-- The theorem at work: of 256 heights no more than eight are asked for. -/
theorem pacedSearch_queries : ∃ t o, pacedSearch.Path t o ∧ failures t = 0 ∧ t.length ≤ 256 ∧
    t.length - failures t ≤ Nat.log 2 255 + 1 := by
  have hfailures : failures (pacedSearch.exchanges pacedAnswer) = 0 := by decide +kernel
  exact ⟨_, _, Prog.path_eval pacedAnswer pacedSearch, hfailures,
    findSuitableProofHeight_queries (chainInfo "paced") .sink (height0 300) client0 (height0 1)
      (height0 256) (some (.fromNanoseconds 200)) _ _ (Prog.path_eval pacedAnswer pacedSearch)⟩

end HyperspaceLight
