/-
# Handshakes of four steps

Two parties hold ends under keys.  An end is opened; the opening is answered by a new
end of the other party; the first end takes the answer up and is open; the second
end follows.  The first three steps are announced, and an announcement can be relayed
to the other party at any time after it was made, any number of times and in any
order.  What the other party refuses changes nothing.

`Rules` says how ends arise, how far an end is and which end it names, and `Lawful` what ties an
end to the one that answers it (`Match`).  In every reachable state each end stands
where its announcements say (`Reachable.inv`): open ends name each other
(`Inv.mutual`).  Where nobody refuses what it could accept (`Live`), once
all announcements have been relayed every end that was opened is open, and so is its
peer (`Reachable.settled`).
-/

import Mathlib.Logic.Function.Basic
import Mathlib.Tactic.Common

namespace HyperspaceLight
namespace Handshake

/-- What a party announces: an end it has opened, an end that answers an opening, an
opened end that has taken up an answer. -/
inductive Announcement (K : Type) where
  | init (k : K)
  | tried (k : K)
  | acked (k : K)

/-- The end that an announcement is about. -/
def Announcement.key {K : Type} : Announcement K → K
  | .init k => k
  | .tried k => k
  | .acked k => k

/-- How far an end is. -/
inductive Phase where
  | init
  | tryOpen
  | open
  deriving DecidableEq

/-- The ends of both parties, what was announced, and what has been relayed. -/
structure State (K E : Type) where
  ends : K → Option E
  log : List (Announcement K)
  relayed : List (Announcement K)

namespace State

variable {K E : Type} {w : State K E} {k k' : K} {e : E} {announced : List (Announcement K)}
  {a : Announcement K}

/-- No ends. -/
def start : State K E := ⟨fun _ => none, [], []⟩

/-- An announcement was relayed. -/
def relay (w : State K E) (a : Announcement K) : State K E := { w with relayed := a :: w.relayed }

/-- Relaying changes no end. -/
@[simp] theorem relay_ends : (w.relay a).ends = w.ends := rfl

/-- Relaying announces nothing. -/
@[simp] theorem relay_log : (w.relay a).log = w.log := rfl

/-- Relaying is on record. -/
@[simp] theorem relay_relayed : (w.relay a).relayed = a :: w.relayed := rfl

/-- A fresh key is not one that has an end. -/
theorem ne_of_fresh (hk : w.ends k = none) (hk' : w.ends k' = some e) : k' ≠ k := by
  rintro rfl
  rw [hk] at hk'
  cases hk'

variable [DecidableEq K]

/-- An end is stored, and announced. -/
def put (w : State K E) (k : K) (e : E) (announced : List (Announcement K)) : State K E where
  ends := Function.update w.ends k (some e)
  log := announced ++ w.log
  relayed := w.relayed

/-- The end is put at its key. -/
@[simp] theorem put_ends_self : (w.put k e announced).ends k = some e :=
  Function.update_self ..

/-- The other ends stay. -/
@[simp] theorem put_ends_ne (h : k' ≠ k) : (w.put k e announced).ends k' = w.ends k' :=
  Function.update_of_ne h ..

/-- What is announced is on record. -/
@[simp] theorem put_log : (w.put k e announced).log = announced ++ w.log := rfl

/-- What was relayed stays. -/
@[simp] theorem put_relayed : (w.put k e announced).relayed = w.relayed := rfl

end State

/-- **The rules of a handshake.**  `Tries k e k' e'`: the opening of `k`, whose end is `e`, is
answered by the end `e'` at `k'`.  `Acks k' e' k e e₁`: on the answer `e'` at `k'` the end `e` at
`k` becomes `e₁`; `Confirms` is the same step of the other end. -/
structure Rules (K E : Type) where
  phase : E → Phase
  peer : K → E → Option K
  Opens : K → E → Prop
  Tries : K → E → K → E → Prop
  Acks : K → E → K → E → E → Prop
  Confirms : K → E → K → E → E → Prop

variable {K E : Type}

/-- No rule applies to the announcement. -/
def Rules.Refuses (R : Rules K E) (w : State K E) : Announcement K → Prop
  | .init k => ∀ e, w.ends k = some e → ∀ k' e', ¬R.Tries k e k' e'
  | .tried k' => ∀ e', w.ends k' = some e' → ∀ k e e₁, w.ends k = some e → ¬R.Acks k' e' k e e₁
  | .acked k => ∀ e, w.ends k = some e → ∀ k' e' e₁, w.ends k' = some e' →
      ¬R.Confirms k e k' e' e₁

/-- **What makes the rules sound**: `Match k e k' e'` ties an end to the one that answers it,
and lasts while the two ends advance. -/
structure Lawful (R : Rules K E) (Match : K → E → K → E → Prop) : Prop where
  match_phase {k k' : K} {e e' : E} (h : Match k e k' e') :
    R.phase e ≠ .tryOpen ∧ R.phase e' ≠ .init
  opens {k : K} {e : E} (h : R.Opens k e) : R.phase e = .init
  tries {k k' : K} {e e' : E} (h : R.Tries k e k' e') :
    R.phase e = .init ∧ R.phase e' = .tryOpen ∧ R.peer k' e' = some k
  tries_match {k k' : K} {e e' : E} (h : R.Tries k e k' e') (ho : R.Opens k e) : Match k e k' e'
  acks {k k' : K} {e e' e₁ : E} (h : R.Acks k' e' k e e₁) :
    R.peer k' e' = some k ∧ R.phase e = .init ∧ R.phase e₁ = .open ∧ R.peer k e₁ = some k'
  acks_match {k k' : K} {e e' e₁ : E} (h : R.Acks k' e' k e e₁) (hm : Match k e k' e') :
    ∀ k₂ e₂, Match k e k₂ e₂ → Match k e₁ k₂ e₂
  confirms {k k' : K} {e e' e₁ : E} (h : R.Confirms k e k' e' e₁) :
    R.phase e = .open ∧ R.peer k e = some k' ∧ R.phase e' = .tryOpen ∧ R.peer k' e' = some k ∧
      R.phase e₁ = .open ∧ R.peer k' e₁ = some k
  confirms_match {k k' : K} {e e' e₁ : E} (h : R.Confirms k e k' e' e₁) :
    ∀ k₂ e₂, Match k₂ e₂ k' e' → Match k₂ e₂ k' e₁

/-- The end at `k'` answers the one at `k`. -/
def Bond (R : Rules K E) (Match : K → E → K → E → Prop) (w : State K E) (k k' : K) (e e' : E) :
    Prop :=
  w.ends k = some e ∧ w.ends k' = some e' ∧ R.peer k' e' = some k ∧ Match k e k' e'

/-- **The invariant**: what was announced says where each end is. -/
structure Inv (R : Rules K E) (Match : K → E → K → E → Prop) (w : State K E) : Prop where
  init_end {k : K} (h : .init k ∈ w.log) :
    ∃ e, w.ends k = some e ∧ (R.Opens k e ∨ R.phase e = .open ∧ .acked k ∈ w.log)
  tried_end {k' : K} (h : .tried k' ∈ w.log) :
    ∃ k e e', .init k ∈ w.log ∧ Bond R Match w k k' e e' ∧
      (R.phase e' = .tryOpen ∨ R.phase e' = .open ∧ R.phase e = .open ∧ R.peer k e = some k')
  acked_end {k : K} (h : .acked k ∈ w.log) :
    ∃ k' e e', .tried k' ∈ w.log ∧ Bond R Match w k k' e e' ∧ R.phase e = .open ∧
      R.peer k e = some k'
  announced {k : K} {e : E} (h : w.ends k = some e) : .init k ∈ w.log ∨ .tried k ∈ w.log

section

variable {R : Rules K E} {Match : K → E → K → E → Prop} {w : State K E}

/-- An end in its first phase answers no other. -/
theorem Bond.ne_of_init {k k' k₁ : K} {e e' e₁ : E} (hR : Lawful R Match)
    (h : Bond R Match w k k' e e') (hk₁ : w.ends k₁ = some e₁) (hphase : R.phase e₁ = .init) :
    k' ≠ k₁ := by
  rintro rfl
  obtain ⟨-, hk', -, hm⟩ := h
  obtain rfl : e' = e₁ := Option.some.inj (hk'.symm.trans hk₁)
  exact (hR.match_phase hm).2 hphase

/-- An end that answers another opens nothing. -/
theorem Bond.ne_of_tryOpen {k k' k₁ : K} {e e' e₁ : E} (hR : Lawful R Match)
    (h : Bond R Match w k k' e e') (hk₁ : w.ends k₁ = some e₁) (hphase : R.phase e₁ = .tryOpen) :
    k ≠ k₁ := by
  rintro rfl
  obtain ⟨hk, -, -, hm⟩ := h
  obtain rfl : e = e₁ := Option.some.inj (hk.symm.trans hk₁)
  exact (hR.match_phase hm).1 hphase

/-- Nothing is announced at the start. -/
theorem inv_start : Inv R Match (.start : State K E) where
  init_end h := nomatch h
  tried_end h := nomatch h
  acked_end h := nomatch h
  announced h := nomatch h

/-- Only the ends and the log matter. -/
theorem Inv.relay (h : Inv R Match w) (a : Announcement K) : Inv R Match (w.relay a) where
  init_end := h.init_end
  tried_end := h.tried_end
  acked_end := h.acked_end
  announced := h.announced

/-- An end that answers is bound to the end it names. -/
theorem Inv.bond_of_tried (h : Inv R Match w) {k k' : K} {e e' : E} (told : .tried k' ∈ w.log)
    (hk' : w.ends k' = some e') (hpeer : R.peer k' e' = some k) (hk : w.ends k = some e) :
    .init k ∈ w.log ∧ Bond R Match w k k' e e' ∧
      (R.phase e' = .tryOpen ∨ R.phase e' = .open ∧ R.phase e = .open ∧ R.peer k e = some k') := by
  obtain ⟨k₀, e₀, e₀', hinit, ⟨hk₀, hk₀', hpeer₀, hm⟩, hphase⟩ := h.tried_end told
  obtain rfl : e₀' = e' := Option.some.inj (hk₀'.symm.trans hk')
  obtain rfl : k₀ = k := Option.some.inj (hpeer₀.symm.trans hpeer)
  obtain rfl : e₀ = e := Option.some.inj (hk₀.symm.trans hk)
  exact ⟨hinit, ⟨hk₀, hk₀', hpeer₀, hm⟩, hphase⟩

/-- **Open ends name each other.** -/
theorem Inv.mutual (hR : Lawful R Match) (h : Inv R Match w) {k : K} {e : E}
    (hk : w.ends k = some e) (hopen : R.phase e = .open) :
    ∃ k' e', R.peer k e = some k' ∧ w.ends k' = some e' ∧ R.peer k' e' = some k ∧
      (Match k e k' e' ∨ R.phase e' = .open ∧ Match k' e' k e) := by
  have hacked : .acked k ∈ w.log → ∃ k' e', R.peer k e = some k' ∧ w.ends k' = some e' ∧
      R.peer k' e' = some k ∧ (Match k e k' e' ∨ R.phase e' = .open ∧ Match k' e' k e) := by
    intro ha
    obtain ⟨k', e₀, e', -, ⟨hk₀, hk', hpeer', hm⟩, -, hpeer⟩ := h.acked_end ha
    obtain rfl : e₀ = e := Option.some.inj (hk₀.symm.trans hk)
    exact ⟨k', e', hpeer, hk', hpeer', .inl hm⟩
  rcases h.announced hk with hinit | htried
  · obtain ⟨e₀, hk₀, hend⟩ := h.init_end hinit
    obtain rfl : e₀ = e := Option.some.inj (hk₀.symm.trans hk)
    rcases hend with hopens | ⟨-, ha⟩
    · rw [hR.opens hopens] at hopen
      cases hopen
    · exact hacked ha
  · obtain ⟨k₀, e₀, e₁, -, ⟨hk₀, hk₁, hpeer, hm⟩, hphase⟩ := h.tried_end htried
    obtain rfl : e₁ = e := Option.some.inj (hk₁.symm.trans hk)
    rcases hphase with hp | ⟨-, hp, hpeer₀⟩
    · rw [hp] at hopen
      cases hopen
    · exact ⟨k₀, e₀, hpeer, hk₀, hpeer₀, .inr ⟨hp, hm⟩⟩

variable [DecidableEq K]

/-! ### What each step preserves -/

/-- An end is opened, or an announcement is relayed. -/
inductive Step (R : Rules K E) : State K E → State K E → Prop
  | opened {w : State K E} {k : K} {e : E} (fresh : w.ends k = none) (opens : R.Opens k e) :
      Step R w (w.put k e [.init k])
  | tried {w : State K E} {k k' : K} {e e' : E} (told : .init k ∈ w.log) (hk : w.ends k = some e)
      (tries : R.Tries k e k' e') (fresh : w.ends k' = none) :
      Step R w ((w.put k' e' [.tried k']).relay (.init k))
  | acked {w : State K E} {k k' : K} {e e' e₁ : E} (told : .tried k' ∈ w.log)
      (hk' : w.ends k' = some e') (hk : w.ends k = some e) (acks : R.Acks k' e' k e e₁) :
      Step R w ((w.put k e₁ [.acked k]).relay (.tried k'))
  | confirmed {w : State K E} {k k' : K} {e e' e₁ : E} (told : .acked k ∈ w.log)
      (hk : w.ends k = some e) (hk' : w.ends k' = some e') (confirms : R.Confirms k e k' e' e₁) :
      Step R w ((w.put k' e₁ []).relay (.acked k))
  | refused {w : State K E} {a : Announcement K} (told : a ∈ w.log) (refuses : R.Refuses w a) :
      Step R w (w.relay a)

inductive Reachable (R : Rules K E) : State K E → Prop
  | start : Reachable R .start
  | step {w w' : State K E} (h : Reachable R w) (hstep : Step R w w') : Reachable R w'

/-- A new end breaks no bond. -/
theorem Bond.put_fresh {k k' k₁ : K} {e e' e₁ : E} {l : List (Announcement K)}
    (h : Bond R Match w k k' e e') (fresh : w.ends k₁ = none) :
    Bond R Match (w.put k₁ e₁ l) k k' e e' := by
  obtain ⟨hk, hk', hrest⟩ := h
  refine ⟨?_, ?_, hrest⟩
  · rw [State.put_ends_ne (State.ne_of_fresh fresh hk)]
    exact hk
  · rw [State.put_ends_ne (State.ne_of_fresh fresh hk')]
    exact hk'

/-- A bond in which the end at `k₁` has no part. -/
theorem Bond.put_ne {k k' k₁ : K} {e e' e₁ : E} {l : List (Announcement K)}
    (h : Bond R Match w k k' e e') (hk : k ≠ k₁) (hk' : k' ≠ k₁) :
    Bond R Match (w.put k₁ e₁ l) k k' e e' := by
  rw [Bond, State.put_ends_ne hk, State.put_ends_ne hk']
  exact h

/-- **An init keeps the invariant**: no end is tied to a fresh key. -/
theorem Inv.opened (h : Inv R Match w) {k : K} {e : E}
    (fresh : w.ends k = none) (opens : R.Opens k e) : Inv R Match (w.put k e [.init k]) where
  init_end {k₂} h₂ := by
    rcases List.mem_cons.mp h₂ with heq | h₂
    · obtain rfl := Announcement.init.inj heq
      exact ⟨e, State.put_ends_self, .inl opens⟩
    · obtain ⟨e₂, hk₂, hend⟩ := h.init_end h₂
      refine ⟨e₂, ?_, hend.imp_right fun ⟨hp, ha⟩ => ⟨hp, List.mem_cons_of_mem _ ha⟩⟩
      rw [State.put_ends_ne (State.ne_of_fresh fresh hk₂)]
      exact hk₂
  tried_end {k₂} h₂ := by
    rcases List.mem_cons.mp h₂ with heq | h₂
    · cases heq
    · obtain ⟨k₁, e₁, e₂, hinit, hbond, hphase⟩ := h.tried_end h₂
      exact ⟨k₁, e₁, e₂, List.mem_cons_of_mem _ hinit, hbond.put_fresh fresh, hphase⟩
  acked_end {k₂} h₂ := by
    rcases List.mem_cons.mp h₂ with heq | h₂
    · cases heq
    · obtain ⟨k₁, e₂, e₁, htried, hbond, hphase⟩ := h.acked_end h₂
      exact ⟨k₁, e₂, e₁, List.mem_cons_of_mem _ htried, hbond.put_fresh fresh, hphase⟩
  announced {k₂ e₂} h₂ := by
    by_cases heq : k₂ = k
    · exact .inl (heq ▸ List.mem_cons_self ..)
    · rw [State.put_ends_ne heq] at h₂
      exact (h.announced h₂).imp (List.mem_cons_of_mem _) (List.mem_cons_of_mem _)

/-- **A try keeps the invariant**: the fresh end matches the one that was announced. -/
theorem Inv.tried (hR : Lawful R Match) (h : Inv R Match w) {k k' : K} {e e' : E}
    (told : .init k ∈ w.log) (hk : w.ends k = some e) (tries : R.Tries k e k' e')
    (fresh : w.ends k' = none) : Inv R Match (w.put k' e' [.tried k']) where
  init_end {k₂} h₂ := by
    rcases List.mem_cons.mp h₂ with heq | h₂
    · cases heq
    · obtain ⟨e₂, hk₂, hend⟩ := h.init_end h₂
      refine ⟨e₂, ?_, hend.imp_right fun ⟨hp, ha⟩ => ⟨hp, List.mem_cons_of_mem _ ha⟩⟩
      rw [State.put_ends_ne (State.ne_of_fresh fresh hk₂)]
      exact hk₂
  tried_end {k₂} h₂ := by
    rcases List.mem_cons.mp h₂ with heq | h₂
    · obtain rfl := Announcement.tried.inj heq
      -- the end that is answered is still as it was opened
      obtain ⟨e₀, hk₀, hend⟩ := h.init_end told
      obtain rfl : e₀ = e := Option.some.inj (hk₀.symm.trans hk)
      obtain ⟨hinit, hphase, hpeer⟩ := hR.tries tries
      have hopens : R.Opens k e₀ := by
        refine hend.resolve_right fun ⟨hopen, _⟩ => ?_
        rw [hinit] at hopen
        cases hopen
      have hm := hR.tries_match tries hopens
      refine ⟨k, e₀, e', List.mem_cons_of_mem _ told, ⟨?_, State.put_ends_self, hpeer, hm⟩,
        .inl hphase⟩
      rw [State.put_ends_ne (State.ne_of_fresh fresh hk)]
      exact hk
    · obtain ⟨k₁, e₁, e₂, hinit, hbond, hphase⟩ := h.tried_end h₂
      exact ⟨k₁, e₁, e₂, List.mem_cons_of_mem _ hinit, hbond.put_fresh fresh, hphase⟩
  acked_end {k₂} h₂ := by
    rcases List.mem_cons.mp h₂ with heq | h₂
    · cases heq
    · obtain ⟨k₁, e₂, e₁, htried, hbond, hphase⟩ := h.acked_end h₂
      exact ⟨k₁, e₂, e₁, List.mem_cons_of_mem _ htried, hbond.put_fresh fresh, hphase⟩
  announced {k₂ e₂} h₂ := by
    by_cases heq : k₂ = k'
    · exact .inr (heq ▸ List.mem_cons_self ..)
    · rw [State.put_ends_ne heq] at h₂
      exact (h.announced h₂).imp (List.mem_cons_of_mem _) (List.mem_cons_of_mem _)

/-- **An acknowledgement keeps the invariant**: the end that opens matches the one that was
tried. -/
theorem Inv.acked (hR : Lawful R Match) (h : Inv R Match w) {k k' : K} {e e' e₁ : E}
    (told : .tried k' ∈ w.log) (hk' : w.ends k' = some e') (hk : w.ends k = some e)
    (acks : R.Acks k' e' k e e₁) : Inv R Match (w.put k e₁ [.acked k]) := by
  obtain ⟨hpeer, hphase, hphase₁, hpeer₁⟩ := hR.acks acks
  obtain ⟨hinit, hbond, -⟩ := h.bond_of_tried told hk' hpeer hk
  -- bonds of the end that advances, and all others
  have hkeep : ∀ a b ea eb, Bond R Match w a b ea eb →
      Bond R Match (w.put k e₁ [.acked k]) a b (if a = k then e₁ else ea) eb := by
    intro a b ea eb hb
    have hbk : b ≠ k := hb.ne_of_init hR hk hphase
    by_cases hak : a = k
    · subst hak
      obtain ⟨ha, hb', hp, hm⟩ := hb
      obtain rfl : ea = e := Option.some.inj (ha.symm.trans hk)
      rw [if_pos rfl]
      refine ⟨State.put_ends_self, ?_, hp, hR.acks_match acks hbond.2.2.2 _ _ hm⟩
      rw [State.put_ends_ne hbk]
      exact hb'
    · rw [if_neg hak]
      exact hb.put_ne hak hbk
  exact {
    init_end := fun {k₂} h₂ => by
      rcases List.mem_cons.mp h₂ with heq | h₂
      · cases heq
      · by_cases heq : k₂ = k
        · subst heq
          exact ⟨e₁, Function.update_self .., .inr ⟨hphase₁, List.mem_cons_self ..⟩⟩
        · obtain ⟨e₂, hk₂, hend⟩ := h.init_end h₂
          refine ⟨e₂, ?_, hend.imp_right fun ⟨hp, ha⟩ => ⟨hp, List.mem_cons_of_mem _ ha⟩⟩
          rw [State.put_ends_ne heq]
          exact hk₂
    tried_end := fun {k₂} h₂ => by
      rcases List.mem_cons.mp h₂ with heq | h₂
      · cases heq
      · obtain ⟨k₀, e₀, e₂, hinit₀, hbond₀, hphase₀⟩ := h.tried_end h₂
        refine ⟨k₀, _, e₂, List.mem_cons_of_mem _ hinit₀, hkeep _ _ _ _ hbond₀, ?_⟩
        refine hphase₀.imp_right fun ⟨hopen₂, hopen₀, hpeer₀⟩ => ?_
        -- an open end is not the one that advances
        have hne : k₀ ≠ k := by
          rintro rfl
          obtain rfl : e₀ = e := Option.some.inj (hbond₀.1.symm.trans hk)
          rw [hphase] at hopen₀
          cases hopen₀
        rw [if_neg hne]
        exact ⟨hopen₂, hopen₀, hpeer₀⟩
    acked_end := fun {k₂} h₂ => by
      rcases List.mem_cons.mp h₂ with heq | h₂
      · obtain rfl := Announcement.acked.inj heq
        refine ⟨k', e₁, e', List.mem_cons_of_mem _ told, ?_, hphase₁, hpeer₁⟩
        have hb := hkeep _ _ _ _ hbond
        rwa [if_pos rfl] at hb
      · obtain ⟨k₁, e₂, e₃, htried, hbond₂, hopen, hpeer₂⟩ := h.acked_end h₂
        have hne : k₂ ≠ k := by
          rintro rfl
          obtain rfl : e₂ = e := Option.some.inj (hbond₂.1.symm.trans hk)
          rw [hphase] at hopen
          cases hopen
        have hb := hkeep _ _ _ _ hbond₂
        rw [if_neg hne] at hb
        exact ⟨k₁, e₂, e₃, List.mem_cons_of_mem _ htried, hb, hopen, hpeer₂⟩
    announced := fun {k₂ e₂} h₂ => by
      by_cases heq : k₂ = k
      · exact .inl (List.mem_cons_of_mem _ (heq ▸ hinit))
      · rw [State.put_ends_ne heq] at h₂
        exact (h.announced h₂).imp (List.mem_cons_of_mem _) (List.mem_cons_of_mem _) }

/-- **A confirmation keeps the invariant**: the two ends stay tied, and now both are open. -/
theorem Inv.confirmed (hR : Lawful R Match) (h : Inv R Match w) {k k' : K} {e e' e₁ : E}
    (hk : w.ends k = some e) (hk' : w.ends k' = some e') (confirms : R.Confirms k e k' e' e₁) :
    Inv R Match (w.put k' e₁ []) := by
  obtain ⟨hopen, hpeer, hphase', hpeer', hphase₁, hpeer₁⟩ := hR.confirms confirms
  have hkeep : ∀ a b ea eb, Bond R Match w a b ea eb →
      Bond R Match (w.put k' e₁ []) a b ea (if b = k' then e₁ else eb) := by
    intro a b ea eb hb
    have hak : a ≠ k' := hb.ne_of_tryOpen hR hk' hphase'
    by_cases hbk : b = k'
    · subst hbk
      obtain ⟨ha, hb', hp, hm⟩ := hb
      obtain rfl : eb = e' := Option.some.inj (hb'.symm.trans hk')
      rw [if_pos rfl]
      refine ⟨?_, State.put_ends_self, hpeer₁.trans (hpeer'.symm.trans hp),
        hR.confirms_match confirms _ _ hm⟩
      rw [State.put_ends_ne hak]
      exact ha
    · rw [if_neg hbk]
      exact hb.put_ne hak hbk
  have hnot : ∀ k₂ e₂, w.ends k₂ = some e₂ → R.phase e₂ ≠ .tryOpen → k₂ ≠ k' := by
    rintro k₂ e₂ hk₂ hne rfl
    obtain rfl : e₂ = e' := Option.some.inj (hk₂.symm.trans hk')
    exact hne hphase'
  exact {
    init_end := fun {k₂} h₂ => by
      obtain ⟨e₂, hk₂, hend⟩ := h.init_end h₂
      refine ⟨e₂, ?_, hend⟩
      have hne : R.phase e₂ ≠ .tryOpen := by
        rcases hend with hopens | ⟨hp, -⟩
        · rw [hR.opens hopens]
          decide
        · rw [hp]
          decide
      rw [State.put_ends_ne (hnot k₂ e₂ hk₂ hne)]
      exact hk₂
    tried_end := fun {k₂} h₂ => by
      obtain ⟨k₀, e₀, e₂, hinit₀, hbond₀, hphase₀⟩ := h.tried_end h₂
      refine ⟨k₀, e₀, _, hinit₀, hkeep _ _ _ _ hbond₀, ?_⟩
      by_cases heq : k₂ = k'
      · subst heq
        obtain rfl : e₂ = e' := Option.some.inj (hbond₀.2.1.symm.trans hk')
        obtain rfl : k₀ = k := Option.some.inj (hbond₀.2.2.1.symm.trans hpeer')
        obtain rfl : e₀ = e := Option.some.inj (hbond₀.1.symm.trans hk)
        rw [if_pos rfl]
        exact .inr ⟨hphase₁, hopen, hpeer⟩
      · rw [if_neg heq]
        exact hphase₀
    acked_end := fun {k₂} h₂ => by
      obtain ⟨k₁, e₂, e₃, htried, hbond₂, hrest⟩ := h.acked_end h₂
      exact ⟨k₁, e₂, _, htried, hkeep _ _ _ _ hbond₂, hrest⟩
    announced := fun {k₂ e₂} h₂ => by
      by_cases heq : k₂ = k'
      · exact h.announced (heq ▸ hk')
      · rw [State.put_ends_ne heq] at h₂
        exact h.announced h₂ }

/-- **Every step keeps the invariant.** -/
theorem Inv.step (hR : Lawful R Match) {w w' : State K E} (h : Inv R Match w)
    (hstep : Step R w w') : Inv R Match w' := by
  cases hstep with
  | opened fresh opens => exact h.opened fresh opens
  | tried told hk tries fresh => exact (h.tried hR told hk tries fresh).relay _
  | acked told hk' hk acks => exact (h.acked hR told hk' hk acks).relay _
  | confirmed told hk hk' confirms => exact (h.confirmed hR hk hk' confirms).relay _
  | refused told refuses => exact h.relay _

/-- **The invariant holds in every reachable state.** -/
theorem Reachable.inv (hR : Lawful R Match) (h : Reachable R w) : Inv R Match w := by
  induction h with
  | start => exact inv_start
  | step _ hstep ih => exact ih.step hR hstep

/-! ### Once everything has been relayed -/

/-- **Nobody refuses what it could accept.** -/
structure Live (R : Rules K E) (Match : K → E → K → E → Prop) : Prop where
  tries {k : K} {e : E} (h : R.Opens k e) : ∃ k' e', R.Tries k e k' e'
  acks {k k' : K} {e e' : E} (ho : R.Opens k e) (hm : Match k e k' e')
    (hphase : R.phase e' = .tryOpen) (hpeer : R.peer k' e' = some k) :
      ∃ e₁, R.Acks k' e' k e e₁
  confirms {k k' : K} {e e' : E} (hopen : R.phase e = .open) (hpeer : R.peer k e = some k')
    (hm : Match k e k' e') (hphase : R.phase e' = .tryOpen) (hpeer' : R.peer k' e' = some k) :
      ∃ e₁, R.Confirms k e k' e' e₁

/-- What a relayed announcement leads to: an opening is answered, an answer is taken
up, and the end that answered has followed. -/
def Followed (R : Rules K E) (w : State K E) : Announcement K → Prop
  | .init k => ∃ k' e', .tried k' ∈ w.log ∧ w.ends k' = some e' ∧ R.peer k' e' = some k
  | .tried k' => ∀ k e', w.ends k' = some e' → R.peer k' e' = some k → .acked k ∈ w.log
  | .acked k => ∀ k' e e', w.ends k = some e → R.peer k e = some k' → w.ends k' = some e' →
      R.phase e' = .open

/-- How an end changes in a step. -/
def Advances (R : Rules K E) (k : K) (e e' : E) : Prop :=
  e' = e ∨ R.phase e = .init ∨
    R.phase e = .tryOpen ∧ R.phase e' = .open ∧ R.peer k e' = R.peer k e

/-- In one step an end stays or advances. -/
theorem Step.advances (hR : Lawful R Match) {w w' : State K E} (hstep : Step R w w') {k : K} {e : E}
    (hk : w.ends k = some e) : ∃ e', w'.ends k = some e' ∧ Advances R k e e' := by
  have hput : ∀ k₁ e₁ l, k ≠ k₁ → ∃ e', (w.put k₁ e₁ l).ends k = some e' ∧ Advances R k e e' :=
    fun k₁ e₁ l hne => ⟨e, (State.put_ends_ne hne).trans hk, .inl rfl⟩
  cases hstep with
  | opened fresh opens => exact hput _ _ _ (State.ne_of_fresh fresh hk)
  | @tried k₁ k' e₁ e' told hk₁ tries fresh =>
      exact hput k' e' [.tried k'] (State.ne_of_fresh fresh hk)
  | @acked k₁ k' e₀ e' e₁ told hk' hk₁ acks =>
      by_cases heq : k = k₁
      · subst heq
        obtain rfl : e₀ = e := Option.some.inj (hk₁.symm.trans hk)
        exact ⟨e₁, Function.update_self .., .inr (.inl (hR.acks acks).2.1)⟩
      · exact hput k₁ e₁ [.acked k₁] heq
  | @confirmed k₁ k' e₀ e' e₁ told hk₁ hk' confirms =>
      by_cases heq : k = k'
      · subst heq
        obtain rfl : e' = e := Option.some.inj (hk'.symm.trans hk)
        obtain ⟨-, -, hphase, hpeer, hphase₁, hpeer₁⟩ := hR.confirms confirms
        exact ⟨e₁, Function.update_self .., .inr (.inr ⟨hphase, hphase₁, hpeer₁.trans hpeer.symm⟩)⟩
      · exact hput k' e₁ [] heq
  | refused told refuses => exact ⟨e, hk, .inl rfl⟩

/-- What was announced stays so. -/
theorem Step.log_mono {w w' : State K E} (hstep : Step R w w') {a : Announcement K}
    (h : a ∈ w.log) : a ∈ w'.log := by
  cases hstep with
  | confirmed => exact h
  | refused => exact h
  | _ => exact List.mem_cons_of_mem _ h

/-- An end that answers keeps its peer. -/
theorem Inv.tried_advances (hR : Lawful R Match) {w w' : State K E} (h : Inv R Match w)
    (hstep : Step R w w') {k' : K} (told : .tried k' ∈ w.log) :
    ∃ e e', w.ends k' = some e ∧ w'.ends k' = some e' ∧ R.peer k' e' = R.peer k' e ∧
      (R.phase e = .open → e' = e) := by
  obtain ⟨k, e₀, e, -, ⟨-, hk', -, hm⟩, -⟩ := h.tried_end told
  obtain ⟨e', hk₁, hadv⟩ := hstep.advances hR hk'
  refine ⟨e, e', hk', hk₁, ?_⟩
  rcases hadv with rfl | hinit | ⟨htry, -, hpeer⟩
  · exact ⟨rfl, fun _ => rfl⟩
  · exact absurd hinit (hR.match_phase hm).2
  · refine ⟨hpeer, fun hopen => ?_⟩
    rw [htry] at hopen
    cases hopen

/-- **What was followed up stays so.** -/
theorem Followed.step (hR : Lawful R Match) {w w' : State K E} (hinv : Inv R Match w)
    (hstep : Step R w w') {a : Announcement K} (told : a ∈ w.log) (h : Followed R w a) :
    Followed R w' a := by
  cases a with
  | init k =>
      obtain ⟨k', e', htried, hk', hpeer⟩ := h
      obtain ⟨e₀, e₁, hk₀, hk₁, hpeer₁, -⟩ := hinv.tried_advances hR hstep htried
      obtain rfl : e₀ = e' := Option.some.inj (hk₀.symm.trans hk')
      exact ⟨k', e₁, hstep.log_mono htried, hk₁, hpeer₁.trans hpeer⟩
  | tried k' =>
      intro k e' hk' hpeer
      obtain ⟨e₀, e₁, hk₀, hk₁, hpeer₁, -⟩ := hinv.tried_advances hR hstep told
      obtain rfl : e₁ = e' := Option.some.inj (hk₁.symm.trans hk')
      exact hstep.log_mono (h k e₀ hk₀ (hpeer₁.symm.trans hpeer))
  | acked k =>
      intro k' e e' hk hpeer hk'
      obtain ⟨k₁, e₀, e₁, htried, ⟨hk₀, hk₁, -, -⟩, hopen, hpeer₀⟩ := hinv.acked_end told
      -- the end that took up the answer is open, and stays as it is
      obtain ⟨e₂, hk₂, hadv⟩ := hstep.advances hR hk₀
      obtain rfl : e₂ = e := Option.some.inj (hk₂.symm.trans hk)
      obtain rfl : e₂ = e₀ := by
        rcases hadv with heq | hp | ⟨hp, -⟩
        · exact heq
        · rw [hp] at hopen
          cases hopen
        · rw [hp] at hopen
          cases hopen
      obtain rfl : k₁ = k' := Option.some.inj (hpeer₀.symm.trans hpeer)
      have hopen₁ : R.phase e₁ = .open := h k₁ e₂ e₁ hk₀ hpeer₀ hk₁
      obtain ⟨e₃, e₄, hk₃, hk₄, -, hsame⟩ := hinv.tried_advances hR hstep htried
      obtain rfl : e₃ = e₁ := Option.some.inj (hk₃.symm.trans hk₁)
      obtain rfl : e₄ = e' := Option.some.inj (hk₄.symm.trans hk')
      rw [hsame hopen₁]
      exact hopen₁

omit [DecidableEq K] in
/-- An announcement that is refused was followed up before. -/
theorem Inv.followed_of_refuses (hR : Lawful R Match) (hL : Live R Match)
    (h : Inv R Match w) {a : Announcement K}
    (told : a ∈ w.log) (refuses : R.Refuses w a) : Followed R w a := by
  cases a with
  | init k =>
      obtain ⟨e, hk, hend⟩ := h.init_end told
      rcases hend with hopens | ⟨-, hacked⟩
      · obtain ⟨k', e', htries⟩ := hL.tries hopens
        exact absurd htries (refuses e hk k' e')
      · obtain ⟨k', e₀, e', htried, ⟨-, hk', hpeer, -⟩, -⟩ := h.acked_end hacked
        exact ⟨k', e', htried, hk', hpeer⟩
  | tried k' =>
      intro k e' hk' hpeer
      obtain ⟨k₀, e, e₀, hinit, ⟨hk, hk₀, hpeer₀, hm⟩, hphase⟩ := h.tried_end told
      obtain rfl : e₀ = e' := Option.some.inj (hk₀.symm.trans hk')
      obtain rfl : k₀ = k := Option.some.inj (hpeer₀.symm.trans hpeer)
      obtain ⟨e₁, hk₁, hend⟩ := h.init_end hinit
      obtain rfl : e₁ = e := Option.some.inj (hk₁.symm.trans hk)
      rcases hend with hopens | ⟨-, hacked⟩
      · rcases hphase with htry | ⟨-, hopen, -⟩
        · obtain ⟨e₂, hacks⟩ := hL.acks hopens hm htry hpeer
          exact absurd hacks (refuses e₀ hk' k₀ e₁ e₂ hk)
        · rw [hR.opens hopens] at hopen
          cases hopen
      · exact hacked
  | acked k =>
      intro k' e e' hk hpeer hk'
      obtain ⟨k₁, e₀, e₁, htried, ⟨hk₀, hk₁, hpeer₁, hm⟩, hopen, hpeer₀⟩ := h.acked_end told
      obtain rfl : e₀ = e := Option.some.inj (hk₀.symm.trans hk)
      obtain rfl : k₁ = k' := Option.some.inj (hpeer₀.symm.trans hpeer)
      obtain rfl : e₁ = e' := Option.some.inj (hk₁.symm.trans hk')
      obtain ⟨-, -, hphase⟩ := h.bond_of_tried htried hk' hpeer₁ hk
      rcases hphase with htry | ⟨hopen₁, -⟩
      · obtain ⟨e₂, hconfirms⟩ := hL.confirms hopen hpeer hm htry hpeer₁
        exact absurd hconfirms (refuses e₀ hk k₁ e₁ e₂ hk')
      · exact hopen₁

/-- **Every relayed announcement has been followed up.** -/
theorem Reachable.followed (hR : Lawful R Match) (hL : Live R Match) (h : Reachable R w) :
    ∀ a ∈ w.relayed, a ∈ w.log ∧ Followed R w a := by
  induction h with
  | start => exact fun a ha => nomatch ha
  | @step w w' hreach hstep ih =>
      have hinv := hreach.inv hR
      have hold : ∀ a ∈ w.relayed, a ∈ w'.log ∧ Followed R w' a := fun a ha =>
        ⟨hstep.log_mono (ih a ha).1, (ih a ha).2.step hR hinv hstep (ih a ha).1⟩
      have hinv' := hinv.step hR hstep
      cases hstep with
      | opened fresh opens => exact hold
      | @tried k k' e e' told hk tries fresh =>
          intro a ha
          rcases List.mem_cons.mp ha with rfl | ha
          · exact ⟨List.mem_cons_of_mem _ told, k', e', List.mem_cons_self ..,
              Function.update_self .., (hR.tries tries).2.2⟩
          · exact hold a ha
      | @acked k k' e e' e₁ told hk' hk acks =>
          intro a ha
          rcases List.mem_cons.mp ha with rfl | ha
          · obtain ⟨hpeer, hphase, -⟩ := hR.acks acks
            obtain ⟨-, hbond, -⟩ := hinv.bond_of_tried told hk' hpeer hk
            refine ⟨List.mem_cons_of_mem _ told, fun k₂ e₂ hk₂ hpeer₂ => ?_⟩
            have hne : k' ≠ k := hbond.ne_of_init hR hk hphase
            rw [State.relay_ends, State.put_ends_ne hne] at hk₂
            obtain rfl : e' = e₂ := Option.some.inj (hk'.symm.trans hk₂)
            obtain rfl : k = k₂ := Option.some.inj (hpeer.symm.trans hpeer₂)
            exact List.mem_cons_self ..
          · exact hold a ha
      | @confirmed k k' e e' e₁ told hk hk' confirms =>
          intro a ha
          rcases List.mem_cons.mp ha with rfl | ha
          · obtain ⟨hopen, hpeer, hphase, -, hphase₁, -⟩ := hR.confirms confirms
            refine ⟨told, fun k₂ e₂ e₃ hk₂ hpeer₂ hk₃ => ?_⟩
            have hne : k ≠ k' := by
              rintro rfl
              obtain rfl : e = e' := Option.some.inj (hk.symm.trans hk')
              rw [hphase] at hopen
              cases hopen
            rw [State.relay_ends, State.put_ends_ne hne] at hk₂
            obtain rfl : e = e₂ := Option.some.inj (hk.symm.trans hk₂)
            obtain rfl : k' = k₂ := Option.some.inj (hpeer.symm.trans hpeer₂)
            rw [State.relay_ends, State.put_ends_self] at hk₃
            exact Option.some.inj hk₃ ▸ hphase₁
          · exact hold a ha
      | refused told refuses =>
          intro a ha
          rcases List.mem_cons.mp ha with rfl | ha
          · exact ⟨told, hinv.followed_of_refuses hR hL told refuses⟩
          · exact hold a ha

/-- **Once everything is relayed, every end that was opened is open, and so is the end it
names, which names it.** -/
theorem Reachable.settled (hR : Lawful R Match) (hL : Live R Match) (h : Reachable R w)
    (hall : ∀ a ∈ w.log, a ∈ w.relayed) {k : K} (hk : .init k ∈ w.log) :
    ∃ k' e e', w.ends k = some e ∧ w.ends k' = some e' ∧ R.phase e = .open ∧ R.phase e' = .open ∧
      R.peer k e = some k' ∧ R.peer k' e' = some k := by
  have hfollowed := h.followed hR hL
  have hinv := h.inv hR
  obtain ⟨k₁, e₁, htried, hk₁, hpeer₁⟩ := (hfollowed _ (hall _ hk)).2
  have hacked : .acked k ∈ w.log := (hfollowed _ (hall _ htried)).2 k e₁ hk₁ hpeer₁
  obtain ⟨k', e, e', -, ⟨he, he', hpeer', -⟩, hopen, hpeer⟩ := hinv.acked_end hacked
  exact ⟨k', e, e', he, he', hopen, (hfollowed _ (hall _ hacked)).2 k' e e' he hpeer he', hpeer,
    hpeer'⟩

end

end Handshake
end HyperspaceLight
