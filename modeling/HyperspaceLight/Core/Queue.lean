/-
# Flushing a batch of messages

`src/core/queue.rs`.  A batch lighter than the sink's block weight is submitted in one
piece, any other in pieces.  What the source calls the number of pieces is used as
the number of messages in each.
-/

import HyperspaceLight.Primitives.Traits

namespace HyperspaceLight

open Interaction

section Chunks

variable {α : Type}

/-- The first `fuel` pieces of `xs`, of `n` elements each but the last. -/
def chunksOf (n : ℕ) : (fuel : ℕ) → (xs : List α) → List (List α)
  | 0, _ => []
  | _ + 1, [] => []
  | fuel + 1, x :: xs => (x :: xs).take n :: chunksOf n fuel ((x :: xs).drop n)

/-- `slice::chunks`, of a size that is not zero. -/
def chunks (n : ℕ) (xs : List α) : List (List α) := chunksOf n xs.length xs

/-- With enough fuel the pieces are the list again. -/
theorem chunksOf_flatten {n fuel : ℕ} (hn : 0 < n) {xs : List α} (hfuel : xs.length ≤ fuel) :
    (chunksOf n fuel xs).flatten = xs := by
  induction fuel generalizing xs with
  | zero =>
      have h : xs = [] := List.eq_nil_of_length_eq_zero (Nat.le_zero.mp hfuel)
      rw [h]
      rfl
  | succ fuel ih =>
      match xs with
      | [] => rfl
      | x :: xs =>
          have hrest : ((x :: xs).drop n).length ≤ fuel := by
            rw [List.length_drop]
            simp only [List.length_cons] at hfuel ⊢
            omega
          rw [chunksOf, List.flatten_cons, ih hrest, List.take_append_drop]

/-- **The pieces together are the whole.** -/
theorem chunks_flatten {n : ℕ} (hn : 0 < n) (xs : List α) : (chunks n xs).flatten = xs :=
  chunksOf_flatten hn le_rfl

/-- The pieces begin at the multiples of their size. -/
theorem mem_chunksOf {n fuel : ℕ} (hn : 0 < n) {xs piece : List α} (hfuel : xs.length ≤ fuel) :
    piece ∈ chunksOf n fuel xs ↔ ∃ i, i * n < xs.length ∧ piece = (xs.drop (i * n)).take n := by
  induction fuel generalizing xs with
  | zero =>
      refine iff_of_false List.not_mem_nil fun ⟨i, hi, _⟩ => ?_
      omega
  | succ fuel ih =>
      match xs with
      | [] => exact iff_of_false List.not_mem_nil fun ⟨i, hi, _⟩ => absurd hi (Nat.not_lt_zero _)
      | x :: xs =>
          have hrest : ((x :: xs).drop n).length ≤ fuel := by
            rw [List.length_drop]
            simp only [List.length_cons] at hfuel ⊢
            omega
          rw [chunksOf, List.mem_cons, ih hrest]
          constructor
          · rintro (rfl | ⟨i, hi, rfl⟩)
            · exact ⟨0, by simp, by simp⟩
            · rw [List.length_drop] at hi
              refine ⟨i + 1, by rw [Nat.succ_mul]; omega, ?_⟩
              rw [List.drop_drop, Nat.succ_mul, Nat.add_comm n]
          · rintro ⟨i, hi, rfl⟩
            cases i with
            | zero => exact .inl (by simp)
            | succ i =>
                rw [Nat.succ_mul] at hi ⊢
                refine .inr ⟨i, by rw [List.length_drop]; omega, ?_⟩
                rw [List.drop_drop, Nat.add_comm n]

/-- **A piece is a block of `n` elements**, at a multiple of `n`. -/
theorem mem_chunks {n : ℕ} (hn : 0 < n) {xs piece : List α} :
    piece ∈ chunks n xs ↔ ∃ i, i * n < xs.length ∧ piece = (xs.drop (i * n)).take n :=
  mem_chunksOf hn le_rfl

/-- No piece is empty. -/
theorem chunks_ne_nil {n : ℕ} (hn : 0 < n) {xs piece : List α} (h : piece ∈ chunks n xs) :
    piece ≠ [] := by
  obtain ⟨i, hi, rfl⟩ := (mem_chunks hn).mp h
  have hlength : ((xs.drop (i * n)).take n).length = min n (xs.length - i * n) := by
    rw [List.length_take, List.length_drop]
  intro hnil
  rw [hnil, List.length_nil] at hlength
  omega

end Chunks

variable {S : Sig}

/-- `batch_weight / block_max_weight` on `u64`. -/
def u64Div (a b : ℕ) : Prog S Error ℕ :=
  if b ≠ 0 then pure (a / b) else .panic "attempt to divide by zero"

/-- `sink.submit(batch).await?`; the hash is only logged. -/
def submitBatch (sink : Chain S) (batch : List Any) : Prog S Error Unit := do
  let _ ← sink.submit batch
  return ()

/-- The number that the source computes from the weights, a `usize` of 64 bits: of pieces by
its comments, of messages in a piece by its use. -/
def chunkSize (ratio : ℕ) : Prog S Error ℕ :=
  if ratio = 1 then pure (ratio * 2) else u64Add ratio 2

/-- `flush_message_batch`. -/
def flushMessageBatch (msgs : List Any) (sink : Chain S) : Prog S Error Unit := do
  let blockMaxWeight := sink.blockMaxWeight
  let batchWeight ← sink.estimateWeight msgs
  let ratio ← u64Div batchWeight blockMaxWeight
  if ratio = 0 then submitBatch sink msgs
  else do
    let chunk ← chunkSize ratio
    (chunks chunk msgs).foldlM (fun _ batch => submitBatch sink batch) ()

/-- The number of messages in a piece, where it fits a `u64`. -/
def pieceSize (ratio : ℕ) : ℕ := if ratio = 1 then 2 else ratio + 2

/-- A piece has room for a message. -/
theorem pieceSize_pos (ratio : ℕ) : 0 < pieceSize ratio := by
  unfold pieceSize
  split_ifs <;> omega

/-- **The size of a piece**, or the panic of its sum. -/
theorem chunkSize_eq (ratio : ℕ) :
    (chunkSize ratio : Prog S Error ℕ) =
      if ratio + 2 < u64Bound then pure (pieceSize ratio)
      else .panic "attempt to add with overflow" := by
  unfold chunkSize pieceSize
  by_cases hone : ratio = 1
  · rw [if_pos hone, if_pos hone, hone]
    rfl
  · rw [if_neg hone, if_neg hone]
    rfl

end HyperspaceLight
