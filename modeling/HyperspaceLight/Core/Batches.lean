/-
# What a flush submits

`flush_message_batch` of `src/core/queue.rs`, for a sink known by its interface: any
answer to any question, any failure at any place.  A run is the list of its questions
with their answers, and what a flush can do is an inductive predicate on runs
(`FlushRun`, `flushMessageBatch_run`).

Whatever fails, the batch is conserved: the accepted pieces are an initial part of the
messages, the whole exactly if the flush succeeds, and at most one more piece was tried
(`flushMessageBatch_conserves`).

The pieces need not fit a block.  The weight of the batch over the maximum is a number of
blocks, and the source uses it, plus two, as the number of messages in a piece: the
heavier the batch, the longer its pieces (`flushMessageBatch_fits_iff`).
-/

import Mathlib.Data.List.Infix
import HyperspaceLight.Core.Queue
import HyperspaceLight.Interaction.Trace

namespace HyperspaceLight

open Interaction

/-! ### Runs -/

/-- The batch that is submitted, if one is. -/
def attemptOf : Exchange TraitSig Error → Option (List Any)
  | ⟨(.sink, .submit batch), _⟩ => some batch
  | _ => none

/-- The batch that is submitted and accepted, if one is. -/
def acceptedOf : Exchange TraitSig Error → Option (List Any)
  | ⟨(.sink, .submit batch), .ok _⟩ => some batch
  | _ => none

/-- The batches that a run submits. -/
def attempts (t : List (Exchange TraitSig Error)) : List (List Any) := t.filterMap attemptOf

/-- The batches that a run submits and the sink accepts. -/
def acceptedBatches (t : List (Exchange TraitSig Error)) : List (List Any) := t.filterMap acceptedOf

/-- **What the submission of a list of batches can do**: one after the other, up to the
first that is not accepted. -/
inductive SubmitRun : List (List Any) → List (Exchange TraitSig Error) → Outcome Error Unit → Prop
  | done : SubmitRun [] [] (.ok ())
  | refused (batch : List Any) (rest : List (List Any)) (e : Error) :
      SubmitRun (batch :: rest) [⟨(.sink, .submit batch), .error e⟩] (.err e)
  | next (batch : List Any) (rest : List (List Any)) (hash : TransactionId)
      (t : List (Exchange TraitSig Error)) (o : Outcome Error Unit) (h : SubmitRun rest t o) :
      SubmitRun (batch :: rest) (⟨(.sink, .submit batch), .ok hash⟩ :: t) o

/-- The pieces of a batch of the given weight. -/
def flushPieces (maxWeight weight : ℕ) (msgs : List Any) : List (List Any) :=
  if weight / maxWeight = 0 then [msgs] else chunks (pieceSize (weight / maxWeight)) msgs

/-- **What a flush can do**: fail to learn the weight, panic over it, or submit the
pieces. -/
inductive FlushRun (maxWeight : ℕ) (msgs : List Any) :
    List (Exchange TraitSig Error) → Outcome Error Unit → Prop
  | noWeight (e : Error) :
      FlushRun maxWeight msgs [⟨(.sink, .estimateWeight msgs), .error e⟩] (.err e)
  | overflow (weight : ℕ) (h : u64Bound ≤ weight / maxWeight + 2) :
      FlushRun maxWeight msgs [⟨(.sink, .estimateWeight msgs), .ok weight⟩]
        (.panic "attempt to add with overflow")
  | pieces (weight : ℕ) (t : List (Exchange TraitSig Error)) (o : Outcome Error Unit)
      (h : weight / maxWeight + 2 < u64Bound)
      (hrun : SubmitRun (flushPieces maxWeight weight msgs) t o) :
      FlushRun maxWeight msgs (⟨(.sink, .estimateWeight msgs), .ok weight⟩ :: t) o

section Flush

variable {info : ChainInfo} {maxWeight weight : ℕ} {msgs batch : List Any}
  {batches : List (List Any)} {t : List (Exchange TraitSig Error)} {o : Outcome Error Unit}

/-- A submission and what comes after it. -/
theorem submitBatch_run {f : Unit → Prog TraitSig Error Unit} :
    (submitBatch (Chain.trait info .sink) batch >>= f).Path t o ↔
      (∃ (hash : TransactionId) (t' : List (Exchange TraitSig Error)),
        t = ⟨(.sink, .submit batch), .ok hash⟩ :: t' ∧ (f ()).Path t' o) ∨
        ∃ e, t = [⟨(.sink, .submit batch), .error e⟩] ∧ .err e = o := by
  have hbind : submitBatch (Chain.trait info .sink) batch >>= f =
      Prog.ask (S := TraitSig) (.sink, .submit batch) >>= fun _ => f () := bind_assoc _ _ _
  rw [hbind]
  exact Prog.path_ask_bind

/-- **The loop over the batches**, call by call. -/
theorem submitBatches_run :
    (batches.foldlM (fun _ batch => submitBatch (Chain.trait info .sink) batch) ()).Path t o ↔
      SubmitRun batches t o := by
  induction batches generalizing t with
  | nil =>
      rw [List.foldlM_nil, Prog.path_pure]
      constructor
      · rintro ⟨rfl, rfl⟩
        exact .done
      · rintro ⟨⟩
        exact ⟨rfl, rfl⟩
  | cons batch rest ih =>
      rw [List.foldlM_cons, submitBatch_run]
      constructor
      · rintro (⟨hash, t', rfl, h⟩ | ⟨e, rfl, rfl⟩)
        · exact .next batch rest hash t' o (ih.mp h)
        · exact .refused batch rest e
      · intro h
        cases h with
        | refused _ _ e => exact .inr ⟨e, rfl, rfl⟩
        | next _ _ hash t' _ h => exact .inl ⟨hash, t', rfl, ih.mpr h⟩

/-- The flush of a batch whose weight is known. -/
theorem flushPieces_run :
    (if weight / maxWeight = 0 then submitBatch (Chain.trait info .sink) msgs
      else chunkSize (weight / maxWeight) >>= fun chunk => (chunks chunk msgs).foldlM
        (fun _ batch => submitBatch (Chain.trait info .sink) batch) ()).Path t o ↔
      if weight / maxWeight + 2 < u64Bound then
        SubmitRun (flushPieces maxWeight weight msgs) t o
      else t = [] ∧ .panic "attempt to add with overflow" = o := by
  by_cases hzero : weight / maxWeight = 0
  · have hone : submitBatch (Chain.trait info .sink) msgs =
        [msgs].foldlM (fun _ batch => submitBatch (Chain.trait info .sink) batch) () := by
      rw [List.foldlM_cons]
      exact (bind_pure _).symm
    have hfits : weight / maxWeight + 2 < u64Bound := by
      rw [hzero]
      decide
    rw [if_pos hzero, if_pos hfits, hone, submitBatches_run, flushPieces, if_pos hzero]
  · rw [if_neg hzero, chunkSize_eq]
    by_cases hfits : weight / maxWeight + 2 < u64Bound
    · rw [if_pos hfits, if_pos hfits, Prog.pure_bind', submitBatches_run, flushPieces,
        if_neg hzero]
    · rw [if_neg hfits, if_neg hfits]
      rfl

/-- **The runs of a flush.** -/
theorem flushMessageBatch_run (hmax : 0 < info.blockMaxWeight) :
    (flushMessageBatch msgs (Chain.trait info .sink)).Path t o ↔
      FlushRun info.blockMaxWeight msgs t o := by
  have hflush : flushMessageBatch msgs (Chain.trait info .sink) =
      Prog.ask (S := TraitSig) (.sink, .estimateWeight msgs) >>= fun weight : ℕ =>
        if weight / info.blockMaxWeight = 0 then submitBatch (Chain.trait info .sink) msgs
        else chunkSize (weight / info.blockMaxWeight) >>= fun chunk => (chunks chunk msgs).foldlM
          (fun _ batch => submitBatch (Chain.trait info .sink) batch) () := by
    refine congrArg (Prog.ask (S := TraitSig) (.sink, .estimateWeight msgs) >>= ·)
      (funext fun weight => ?_)
    show u64Div weight info.blockMaxWeight >>= _ = _
    rw [u64Div, if_pos hmax.ne']
    rfl
  rw [hflush]
  refine Prog.path_ask_bind.trans ?_
  constructor
  · rintro (⟨weight, t', rfl, h⟩ | ⟨e, rfl, rfl⟩)
    · have h := flushPieces_run.mp h
      split_ifs at h with hfits
      · exact .pieces weight t' o hfits h
      · obtain ⟨rfl, rfl⟩ := h
        exact .overflow weight (not_lt.mp hfits)
    · exact .noWeight e
  · intro h
    cases h with
    | noWeight e => exact .inr ⟨e, rfl, rfl⟩
    | overflow weight h =>
        refine .inl ⟨weight, [], rfl, flushPieces_run.mpr ?_⟩
        rw [if_neg (not_lt.mpr h)]
        exact ⟨rfl, rfl⟩
    | pieces weight t' _ hfits hrun =>
        refine .inl ⟨weight, t', rfl, flushPieces_run.mpr ?_⟩
        rw [if_pos hfits]
        exact hrun

/-! ### What is accepted -/

/-- Batches are attempted in order, from the first on. -/
theorem SubmitRun.attempts_initial (h : SubmitRun batches t o) : attempts t <+: batches := by
  induction h with
  | done => exact List.prefix_rfl
  | refused batch rest e => exact ⟨rest, rfl⟩
  | next batch rest hash t o _ ih => exact List.prefix_cons_inj batch |>.mpr ih

/-- At most one attempt is not accepted, and it is the last. -/
theorem SubmitRun.attempts_eq (h : SubmitRun batches t o) :
    ∃ last, attempts t = acceptedBatches t ++ last ∧ last.length ≤ 1 := by
  induction h with
  | done => exact ⟨[], rfl, Nat.zero_le 1⟩
  | refused batch rest e => exact ⟨[batch], rfl, le_rfl⟩
  | next batch rest hash t o _ ih =>
      obtain ⟨last, hattempts, hlast⟩ := ih
      exact ⟨last, congrArg (batch :: ·) hattempts, hlast⟩

/-- Batches are accepted in order, from the first on. -/
theorem SubmitRun.accepted_initial (h : SubmitRun batches t o) : acceptedBatches t <+: batches := by
  obtain ⟨last, hattempts, -⟩ := h.attempts_eq
  exact (List.prefix_append _ last).trans (hattempts ▸ h.attempts_initial)

/-- **All batches are accepted exactly if the submission succeeds.** -/
theorem SubmitRun.accepted_eq_iff (h : SubmitRun batches t o) :
    acceptedBatches t = batches ↔ o = .ok () := by
  induction h with
  | done => exact iff_of_true rfl rfl
  | refused batch rest e => exact iff_of_false (fun h => nomatch h) (fun h => nomatch h)
  | next batch rest hash t o _ ih =>
      show batch :: acceptedBatches t = batch :: rest ↔ o = .ok ()
      rw [List.cons_inj_right, ih]

/-- Cutting loses nothing and repeats nothing. -/
theorem flushPieces_flatten (maxWeight weight : ℕ) (msgs : List Any) :
    (flushPieces maxWeight weight msgs).flatten = msgs := by
  unfold flushPieces
  split_ifs
  · exact List.flatten_singleton
  · exact chunks_flatten (pieceSize_pos _) msgs

/-- No piece is empty. -/
theorem flushPieces_ne_nil (hmsgs : msgs ≠ []) (h : batch ∈ flushPieces maxWeight weight msgs) :
    batch ≠ [] := by
  unfold flushPieces at h
  split_ifs at h
  · rw [List.mem_singleton.mp h]
    exact hmsgs
  · exact chunks_ne_nil (pieceSize_pos _) h

/-- Nothing but empty pieces can be missing at the end of the same whole. -/
theorem eq_of_prefix_of_flatten_eq {pieces : List (List Any)} (hinitial : pieces <+: batches)
    (hne : ∀ batch ∈ batches, batch ≠ []) (hflatten : pieces.flatten = batches.flatten) :
    pieces = batches := by
  obtain ⟨rest, rfl⟩ := hinitial
  rw [List.flatten_append, List.self_eq_append_right, List.flatten_eq_nil_iff] at hflatten
  have hrest : rest = [] := by
    refine List.eq_nil_iff_forall_not_mem.mpr fun batch hbatch => ?_
    exact hne batch (List.mem_append_right _ hbatch) (hflatten batch hbatch)
  rw [hrest, List.append_nil]

/-- **A flush conserves the batch.**  Whatever the sink weighs and whatever fails: the
accepted pieces are an initial part of the messages, they are the whole exactly if the
flush succeeds, at most one more piece was tried, which continues them, and no piece
that was tried is empty. -/
theorem flushMessageBatch_conserves (info : ChainInfo) (hmax : 0 < info.blockMaxWeight)
    (msgs : List Any) (hmsgs : msgs ≠ []) (t : List (Exchange TraitSig Error))
    (o : Outcome Error Unit) (h : (flushMessageBatch msgs (Chain.trait info .sink)).Path t o) :
    (acceptedBatches t).flatten <+: msgs ∧
      ((acceptedBatches t).flatten = msgs ↔ o = .ok ()) ∧
      (∃ last, attempts t = acceptedBatches t ++ last ∧ last.length ≤ 1) ∧
      (attempts t).flatten <+: msgs ∧
      ∀ batch ∈ attempts t, batch ≠ [] := by
  cases (flushMessageBatch_run hmax).mp h with
  | noWeight e | overflow weight hsum =>
      -- nothing was submitted
      exact ⟨List.nil_prefix, iff_of_false (fun h => hmsgs h.symm) (fun h => nomatch h),
        ⟨[], rfl, Nat.zero_le 1⟩, List.nil_prefix, fun _ hbatch => absurd hbatch List.not_mem_nil⟩
  | pieces weight t o hsum hrun =>
      have hflatten := flushPieces_flatten info.blockMaxWeight weight msgs
      have haccepted := hrun.accepted_initial.flatten
      have hattempts := hrun.attempts_initial.flatten
      rw [hflatten] at haccepted hattempts
      have hne : ∀ batch ∈ flushPieces info.blockMaxWeight weight msgs, batch ≠ [] :=
        fun batch hbatch => flushPieces_ne_nil hmsgs hbatch
      refine ⟨haccepted, ?_, hrun.attempts_eq, hattempts,
        fun batch hbatch => hne batch (hrun.attempts_initial.subset hbatch)⟩
      show (acceptedBatches t).flatten = msgs ↔ o = .ok ()
      rw [← hrun.accepted_eq_iff]
      constructor
      · intro heq
        exact eq_of_prefix_of_flatten_eq hrun.accepted_initial hne (heq.trans hflatten.symm)
      · intro heq
        rw [heq, hflatten]

/-! ### What the pieces weigh -/

/-- The weight of a batch, as the sum of the weights of its messages. -/
def totalWeight (weightOf : Any → ℕ) (batch : List Any) : ℕ := (batch.map weightOf).sum

/-- The sink weighs a batch by the sum of the weights of its messages. -/
def WeighsBySum (weightOf : Any → ℕ) (x : Exchange TraitSig Error) : Prop :=
  ∀ (batch : List Any) (weight : ℕ), x = ⟨(.sink, .estimateWeight batch), .ok weight⟩ →
    weight = totalWeight weightOf batch

/-- The condition under which every piece fits a block: the batch is lighter than one, or
so heavy that the flush panics, or each block of `n` messages, counted from the start,
fits.  For a batch of `r` times the maximum `n` is `r + 2`, and two for one time. -/
def PiecesFit (weightOf : Any → ℕ) (maxWeight : ℕ) (msgs : List Any) : Prop :=
  let ratio := totalWeight weightOf msgs / maxWeight
  let n := if ratio = 1 then 2 else ratio + 2
  totalWeight weightOf msgs < maxWeight ∨ u64Bound ≤ ratio + 2 ∨
    ∀ i, totalWeight weightOf ((msgs.drop (i * n)).take n) ≤ maxWeight

/-- **When every piece fits**: a piece is a run of messages of the computed size. -/
theorem flushPieces_fit_iff {weightOf : Any → ℕ} (hmax : 0 < maxWeight)
    (hsum : totalWeight weightOf msgs / maxWeight + 2 < u64Bound) :
    (∀ batch ∈ flushPieces maxWeight (totalWeight weightOf msgs) msgs,
        totalWeight weightOf batch ≤ maxWeight) ↔ PiecesFit weightOf maxWeight msgs := by
  by_cases hlt : totalWeight weightOf msgs < maxWeight
  · refine iff_of_true (fun batch hbatch => ?_) (.inl hlt)
    rw [flushPieces, if_pos (Nat.div_eq_of_lt hlt), List.mem_singleton] at hbatch
    rw [hbatch]
    exact hlt.le
  · have hratio : totalWeight weightOf msgs / maxWeight ≠ 0 :=
      (Nat.div_pos (not_lt.mp hlt) hmax).ne'
    rw [flushPieces, if_neg hratio]
    constructor
    · intro hall
      refine .inr (.inr fun i => ?_)
      by_cases hi : i * pieceSize (totalWeight weightOf msgs / maxWeight) < msgs.length
      · exact hall _ ((mem_chunks (pieceSize_pos _)).mpr ⟨i, hi, rfl⟩)
      · -- a block after the end weighs nothing
        have hnil := List.drop_eq_nil_of_le (not_lt.mp hi)
        show totalWeight weightOf ((msgs.drop (i * pieceSize _)).take (pieceSize _)) ≤ maxWeight
        rw [hnil, List.take_nil]
        exact Nat.zero_le _
    · rintro (h | h | hblocks) batch hbatch
      · exact absurd h hlt
      · exact absurd hsum (not_lt.mpr h)
      · obtain ⟨i, -, rfl⟩ := (mem_chunks (pieceSize_pos _)).mp hbatch
        exact hblocks i

/-- A run in which every batch is accepted. -/
theorem SubmitRun.all (batches : List (List Any)) :
    SubmitRun batches (batches.map fun batch => ⟨(.sink, .submit batch), .ok (0 : TransactionId)⟩)
      (.ok ()) := by
  induction batches with
  | nil => exact .done
  | cons batch rest ih => exact .next batch rest 0 _ _ ih

/-- A flush that succeeds has attempted every batch. -/
theorem SubmitRun.attempts_of_ok (h : SubmitRun batches t (.ok ())) : attempts t = batches := by
  obtain ⟨last, hattempts, -⟩ := h.attempts_eq
  rw [h.accepted_eq_iff.mpr rfl] at hattempts
  have hle : batches.length ≤ (attempts t).length := by
    rw [hattempts, List.length_append]
    exact Nat.le_add_right _ _
  exact h.attempts_initial.eq_of_length_le hle

/-- **When every batch that a flush submits fits a block.** -/
theorem flushMessageBatch_fits_iff (info : ChainInfo) (hmax : 0 < info.blockMaxWeight)
    (weightOf : Any → ℕ) (msgs : List Any) :
    (∀ t o, (flushMessageBatch msgs (Chain.trait info .sink)).Path t o →
        (∀ x ∈ t, WeighsBySum weightOf x) →
          ∀ batch ∈ attempts t, totalWeight weightOf batch ≤ info.blockMaxWeight) ↔
      PiecesFit weightOf info.blockMaxWeight msgs := by
  constructor
  · intro hall
    by_cases hsum : totalWeight weightOf msgs / info.blockMaxWeight + 2 < u64Bound
    · rw [← flushPieces_fit_iff hmax hsum]
      -- the run in which everything is accepted submits all pieces
      have hrun := SubmitRun.all (flushPieces info.blockMaxWeight (totalWeight weightOf msgs) msgs)
      have hpath := (flushMessageBatch_run hmax).mpr (FlushRun.pieces _ _ _ hsum hrun)
      have hfits := hall _ _ hpath fun x hx => ?_
      · exact fun batch hbatch => hfits batch (hrun.attempts_of_ok.symm ▸ hbatch)
      · rcases List.mem_cons.mp hx with rfl | hx
        · rintro batch weight ⟨⟩
          rfl
        · obtain ⟨piece, -, rfl⟩ := List.mem_map.mp hx
          exact fun batch weight h => nomatch h
    · exact .inr (.inl (not_lt.mp hsum))
  · intro hfit t o h hweigh batch hbatch
    cases (flushMessageBatch_run hmax).mp h with
    | noWeight e => exact absurd hbatch List.not_mem_nil
    | overflow weight hsum => exact absurd hbatch List.not_mem_nil
    | pieces weight t o hsum hrun =>
        obtain rfl := hweigh _ (List.mem_cons_self ..) msgs weight rfl
        exact (flushPieces_fit_iff hmax hsum).mpr hfit batch (hrun.attempts_initial.subset hbatch)

end Flush

/-! ### Two flushes -/

/-- A message to be sent. -/
def queuedMessage : Any where
  typeUrl := "/ibc.core.channel.v1.MsgChannelOpenConfirm"
  value := []
  msg := .channelOpenConfirm
    ⟨transferPort, channel0, ⟨⟨[2], by decide⟩, none, none, none, height0 5⟩, "account"⟩
  origin := none

/-- Three messages that together weigh as much as a block.  The first two are accepted,
the last is refused. -/
def refusedRun : List (Exchange TraitSig Error) :=
  [⟨(.sink, .estimateWeight [queuedMessage, queuedMessage, queuedMessage]), .ok (1000 : ℕ)⟩,
    ⟨(.sink, .submit [queuedMessage, queuedMessage]), .ok (7 : TransactionId)⟩,
    ⟨(.sink, .submit [queuedMessage]), .error (.rpcError "refused")⟩]

/-- The run with a refused second piece. -/
theorem refusedRun_path :
    (flushMessageBatch [queuedMessage, queuedMessage, queuedMessage]
      (Chain.trait (chainInfo "sink") .sink)).Path refusedRun (.err (.rpcError "refused")) :=
  (flushMessageBatch_run (by decide)).mpr (.pieces 1000 _ _ (by decide)
    (.next _ _ 7 _ _ (.refused _ _ _)))

/-- Two of the three messages are accepted, and one attempt is not. -/
theorem refusedRun_conserves :
    acceptedBatches refusedRun = [[queuedMessage, queuedMessage]] ∧
      (acceptedBatches refusedRun).flatten <+: [queuedMessage, queuedMessage, queuedMessage] ∧
      ((acceptedBatches refusedRun).flatten = [queuedMessage, queuedMessage, queuedMessage] ↔
        (.err (.rpcError "refused") : Outcome Error Unit) = .ok ()) ∧
      (∃ last, attempts refusedRun = acceptedBatches refusedRun ++ last ∧ last.length ≤ 1) ∧
      (attempts refusedRun).flatten <+: [queuedMessage, queuedMessage, queuedMessage] ∧
      ∀ batch ∈ attempts refusedRun, batch ≠ [] :=
  ⟨rfl, flushMessageBatch_conserves (chainInfo "sink") (by decide) _ (by simp) refusedRun _
    refusedRun_path⟩

/-- The condition for two messages, each as heavy as a block. -/
theorem heavyMessages_fit_iff :
    (∀ t o, (flushMessageBatch [queuedMessage, queuedMessage]
          (Chain.trait (chainInfo "sink") .sink)).Path t o →
        (∀ x ∈ t, WeighsBySum (fun _ => 1000) x) →
          ∀ batch ∈ attempts t,
            totalWeight (fun _ => 1000) batch ≤ (chainInfo "sink").blockMaxWeight) ↔
      PiecesFit (fun _ => 1000) (chainInfo "sink").blockMaxWeight [queuedMessage, queuedMessage] :=
  flushMessageBatch_fits_iff (chainInfo "sink") (by decide) (fun _ => 1000)
    [queuedMessage, queuedMessage]

/-- The run in which both are accepted. -/
def heavyRun : List (Exchange TraitSig Error) :=
  [⟨(.sink, .estimateWeight [queuedMessage, queuedMessage]), .ok (2000 : ℕ)⟩,
    ⟨(.sink, .submit [queuedMessage, queuedMessage]), .ok (0 : TransactionId)⟩]

/-- **Two messages that fill a block each go into one batch.**  The batch is twice as
heavy as a block, and the pieces are of four messages. -/
theorem heavyMessages_do_not_fit :
    (flushMessageBatch [queuedMessage, queuedMessage]
        (Chain.trait (chainInfo "sink") .sink)).Path heavyRun (.ok ()) ∧
      (∀ x ∈ heavyRun, WeighsBySum (fun _ => 1000) x) ∧
      (∀ m ∈ [queuedMessage, queuedMessage],
        totalWeight (fun _ => 1000) [m] ≤ (chainInfo "sink").blockMaxWeight) ∧
      ∃ batch ∈ attempts heavyRun,
        (chainInfo "sink").blockMaxWeight < totalWeight (fun _ => 1000) batch := by
  refine ⟨?_, ?_, fun m _ => le_rfl, [queuedMessage, queuedMessage], ?_, by decide⟩
  · exact (flushMessageBatch_run (by decide)).mpr (.pieces 2000 _ _ (by decide)
      (.next _ _ 0 _ _ .done))
  · intro x hx
    rcases List.mem_cons.mp hx with rfl | hx
    · rintro batch weight ⟨⟩
      rfl
    · rw [List.mem_singleton.mp hx]
      exact fun batch weight h => nomatch h
  · exact List.mem_singleton.mpr rfl

end HyperspaceLight
