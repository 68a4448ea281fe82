/-
# Formats that are read from the front

A reader takes a value off the front of its input and leaves the rest.  It reads what a
writer writes if it does so whatever follows (`Reads`); then nothing else is
written in the same way (`Reads.unique`), blocks with their length before them are read
(`Reads.frame`), and so is a sequence that ends with its input (`Reads.all`).

A record is written as a sequence of fields.  A field has a number, and is itself a
number or a block; its key, the number times eight and the kind, comes first.  Whoever
reads a record looks its fields up by their numbers: the last one counts where one is
meant (`blockAt`, `numberAt`), all of them where many are (`blocksAt`), and a field that
is missing is empty or zero, so that an empty one need not be written (`optBlock`,
`optNumber`).
-/

import Mathlib.Data.List.Basic
import Mathlib.Tactic.Common

namespace HyperspaceLight
namespace Wire

variable {σ α β : Type}

/-- A computation that takes a value off the front of a list. -/
abbrev Reader (σ α : Type) : Type := StateT (List σ) Option α

/-- **`read` takes off what `write` puts on.** -/
def Reads (read : Reader σ α) (write : α → List σ) (P : α → Prop) : Prop :=
  ∀ a, P a → ∀ rest, read.run (write a ++ rest) = some (a, rest)

section

variable {read : Reader σ α} {write : α → List σ} {P Q : α → Prop}

/-- The value is read, and the next reader gets the rest. -/
theorem Reads.bind (h : Reads read write P) {a : α} (ha : P a) (next : α → Reader σ β)
    (rest : List σ) : (read >>= next).run (write a ++ rest) = (next a).run rest := by
  rw [StateT.run_bind, h a ha rest]
  rfl

/-- **Nothing else is written in the same way.** -/
theorem Reads.unique (h : Reads read write P) {a b : α} (ha : P a) (hb : P b)
    {rest rest' : List σ} (heq : write a ++ rest = write b ++ rest') : a = b ∧ rest = rest' := by
  have hread : some (a, rest) = some (b, rest') := by
    rw [← h a ha rest, ← h b hb rest', heq]
  simpa using hread

end

/-! ### Blocks -/

/-- Take `n` symbols. -/
def readBlock (n : ℕ) : Reader σ (List σ) := fun input =>
  if n ≤ input.length then some (input.take n, input.drop n) else none

/-- A block of a known length is read back. -/
theorem readBlock_append (block rest : List σ) :
    (readBlock block.length).run (block ++ rest) = some (block, rest) := by
  have hle : block.length ≤ (block ++ rest).length := by simp
  show (if _ then _ else _) = _
  rw [if_pos hle, List.take_left, List.drop_left]

/-- A block with its length before it. -/
def readFrame (number : Reader σ ℕ) : Reader σ (List σ) := do
  let n ← number
  readBlock n

def writeFrame (number : ℕ → List σ) (block : List σ) : List σ := number block.length ++ block

/-- **A block is read back from its frame.** -/
theorem Reads.frame {number : Reader σ ℕ} {write : ℕ → List σ} {P : ℕ → Prop}
    (h : Reads number write P) :
    Reads (readFrame number) (writeFrame write) fun block => P block.length := by
  intro block hblock rest
  rw [readFrame, writeFrame, List.append_assoc, h.bind hblock]
  exact readBlock_append block rest

/-! ### Sequences -/

/-- Read until the input has ended; `fuel` bounds the number of values. -/
def readMany (read : Reader σ α) : (fuel : ℕ) → List σ → Option (List α)
  | _, [] => some []
  | 0, _ :: _ => none
  | fuel + 1, s :: input => do
      let (a, rest) ← read.run (s :: input)
      let as ← readMany read fuel rest
      return a :: as

/-- Read until the input has ended. -/
def readAll (read : Reader σ α) (input : List σ) : Option (List α) :=
  readMany read input.length input

section

variable {read : Reader σ α} {write : α → List σ} {P : α → Prop} {as : List α}

/-- **A repeated value is read back**, if no value is written as nothing. -/
theorem Reads.many (h : Reads read write P) (hwrite : ∀ a, P a → write a ≠ [])
    (has : ∀ a ∈ as, P a) {fuel : ℕ} (hfuel : as.length ≤ fuel) :
    readMany read fuel (as.flatMap write) = some as := by
  induction as generalizing fuel with
  | nil => cases fuel <;> rfl
  | cons a as ih =>
      have ha : P a := has a (List.mem_cons_self ..)
      obtain ⟨fuel, rfl⟩ : ∃ m, fuel = m + 1 := ⟨fuel - 1, by simp at hfuel; omega⟩
      have hrest : readMany read fuel (as.flatMap write) = some as :=
        ih (fun b hb => has b (List.mem_cons_of_mem _ hb)) (by simpa using hfuel)
      rw [List.flatMap_cons]
      obtain ⟨s, rest, hs⟩ := List.exists_cons_of_ne_nil (hwrite a ha)
      have hread := h a ha (as.flatMap write)
      rw [hs, List.cons_append] at hread ⊢
      rw [readMany, hread]
      simp [hrest]

/-- Each value takes a symbol at least. -/
theorem length_le_flatMap (hwrite : ∀ a ∈ as, write a ≠ []) :
    as.length ≤ (as.flatMap write).length := by
  induction as with
  | nil => exact Nat.le_refl 0
  | cons a as ih =>
      have ha := List.length_pos_of_ne_nil (hwrite a (List.mem_cons_self ..))
      have has := ih fun b hb => hwrite b (List.mem_cons_of_mem _ hb)
      rw [List.flatMap_cons, List.length_append, List.length_cons]
      omega

/-- **A sequence is read back.** -/
theorem Reads.all (h : Reads read write P) (hwrite : ∀ a, P a → write a ≠ [])
    (has : ∀ a ∈ as, P a) : readAll read (as.flatMap write) = some as :=
  h.many hwrite has (length_le_flatMap fun a ha => hwrite a (has a ha))

end

/-! ### Fields -/

/-- What a field holds. -/
inductive Value (σ : Type) where
  | number (n : ℕ)
  | block (symbols : List σ)

/-- A field of a record. -/
structure Field (σ : Type) where
  number : ℕ
  value : Value σ

def readField (number : Reader σ ℕ) : Reader σ (Field σ) := do
  let key ← number
  if key % 8 = 0 then
    let n ← number
    return ⟨key / 8, .number n⟩
  else if key % 8 = 2 then
    let symbols ← readFrame number
    return ⟨key / 8, .block symbols⟩
  else
    failure

def writeField (number : ℕ → List σ) : Field σ → List σ
  | ⟨k, .number n⟩ => number (k * 8) ++ number n
  | ⟨k, .block symbols⟩ => number (k * 8 + 2) ++ writeFrame number symbols

/-- The key of a field and its number or its length can be written. -/
def Field.Fits (P : ℕ → Prop) : Field σ → Prop
  | ⟨k, .number n⟩ => P (k * 8) ∧ P n
  | ⟨k, .block symbols⟩ => P (k * 8 + 2) ∧ P symbols.length

/-- **A field is read back.** -/
theorem Reads.field {number : Reader σ ℕ} {write : ℕ → List σ} {P : ℕ → Prop}
    (h : Reads number write P) : Reads (readField number) (writeField write) (Field.Fits P) := by
  intro f hf rest
  obtain ⟨k, n | symbols⟩ := f
  · obtain ⟨hk, hn⟩ := hf
    have hkind : k * 8 % 8 = 0 := by omega
    have hnumber : k * 8 / 8 = k := by omega
    rw [readField, writeField, List.append_assoc, h.bind hk, if_pos hkind, h.bind hn, hnumber]
    rfl
  · obtain ⟨hk, hn⟩ := hf
    have hkind : ¬(k * 8 + 2) % 8 = 0 := by omega
    have hkind' : (k * 8 + 2) % 8 = 2 := by omega
    have hnumber : (k * 8 + 2) / 8 = k := by omega
    rw [readField, writeField, List.append_assoc, h.bind hk, if_neg hkind, if_pos hkind',
      h.frame.bind hn, hnumber]
    rfl

/-! ### Records -/

/-- The blocks under a number. -/
def blocksAt (k : ℕ) (fs : List (Field σ)) : List (List σ) :=
  fs.filterMap fun f => match f.value with
    | .block symbols => if f.number = k then some symbols else none
    | .number _ => none

/-- The numbers under a number. -/
def numbersAt (k : ℕ) (fs : List (Field σ)) : List ℕ :=
  fs.filterMap fun f => match f.value with
    | .number n => if f.number = k then some n else none
    | .block _ => none

/-- The last block under a number. -/
def blockAt (k : ℕ) (fs : List (Field σ)) : List σ := (blocksAt k fs).getLast?.getD []

/-- The last number under a number. -/
def numberAt (k : ℕ) (fs : List (Field σ)) : ℕ := (numbersAt k fs).getLast?.getD 0

/-- A block that is left out when it is empty. -/
def optBlock (k : ℕ) (symbols : List σ) : List (Field σ) :=
  if symbols.length = 0 then [] else [⟨k, .block symbols⟩]

/-- A number that is left out when it is zero. -/
def optNumber (k n : ℕ) : List (Field σ) := if n = 0 then [] else [⟨k, .number n⟩]

/-- Many blocks under one number. -/
def manyBlocks (k : ℕ) (blocks : List (List σ)) : List (Field σ) :=
  blocks.map fun symbols => ⟨k, .block symbols⟩

section

variable {k k' n : ℕ} {fs fs' : List (Field σ)} {symbols : List σ} {blocks : List (List σ)}

/-- The blocks under a key are in their order. -/
@[simp] theorem blocksAt_append : blocksAt k (fs ++ fs') = blocksAt k fs ++ blocksAt k fs' :=
  List.filterMap_append

/-- The numbers under a key are in their order. -/
@[simp] theorem numbersAt_append : numbersAt k (fs ++ fs') = numbersAt k fs ++ numbersAt k fs' :=
  List.filterMap_append

/-- A number is no block. -/
@[simp] theorem blocksAt_optNumber : blocksAt k (optNumber k' n : List (Field σ)) = [] := by
  unfold optNumber
  split_ifs <;> rfl

/-- A block is no number. -/
@[simp] theorem numbersAt_optBlock : numbersAt k (optBlock k' symbols) = [] := by
  unfold optBlock
  split_ifs <;> rfl

/-- A repeated block is no number. -/
@[simp] theorem numbersAt_manyBlocks : numbersAt k (manyBlocks k' blocks) = [] := by
  induction blocks with
  | nil => rfl
  | cons b bs ih => exact ih

/-- A block is found under its own number only. -/
theorem blocksAt_optBlock_ne (h : k' ≠ k) : blocksAt k (optBlock k' symbols) = [] := by
  unfold optBlock
  split_ifs
  · rfl
  · simp [blocksAt, h]

/-- A repeated block is found under its own number only. -/
theorem blocksAt_manyBlocks_ne (h : k' ≠ k) : blocksAt k (manyBlocks k' blocks) = [] := by
  induction blocks with
  | nil => rfl
  | cons b bs ih => simp [blocksAt, manyBlocks, h]

/-- **A block that may be left out is found.** -/
@[simp] theorem getLast_optBlock :
    (blocksAt k (optBlock k symbols)).getLast?.getD [] = symbols := by
  unfold optBlock
  split_ifs with h
  · exact (List.eq_nil_of_length_eq_zero h).symm
  · simp [blocksAt]

/-- **A number that may be left out is found.** -/
@[simp] theorem getLast_optNumber :
    (numbersAt k (optNumber k n : List (Field σ))).getLast?.getD 0 = n := by
  unfold optNumber
  split_ifs with h
  · exact h.symm
  · simp [numbersAt]

/-- **Many blocks are found, in their order.** -/
@[simp] theorem blocksAt_manyBlocks : blocksAt k (manyBlocks k blocks) = blocks := by
  induction blocks with
  | nil => rfl
  | cons b bs ih =>
      rw [manyBlocks, List.map_cons, blocksAt, List.filterMap_cons]
      simp only [if_true]
      exact congrArg (b :: ·) ih

end

/-- The keys and the numbers of a record are below `bound`. -/
def Below (bound : ℕ) (fs : List (Field σ)) : Prop :=
  ∀ f ∈ fs, f.number * 8 + 2 < bound ∧ ∀ n, f.value = .number n → n < bound

section

variable {bound k n : ℕ} {fs fs' : List (Field σ)} {symbols : List σ} {blocks : List (List σ)}

/-- Bounds hold of two lists of fields together. -/
theorem Below.append (h : Below bound fs) (h' : Below bound fs') : Below bound (fs ++ fs') :=
  List.forall_mem_append.mpr ⟨h, h'⟩

/-- A block is below the bound if its number is. -/
theorem Below.optBlock (hk : k * 8 + 2 < bound) : Below bound (optBlock k symbols) := by
  unfold Wire.optBlock
  split_ifs
  · exact List.forall_mem_nil _
  · rintro f hf
    obtain rfl := List.mem_singleton.mp hf
    exact ⟨hk, fun n hn => by cases hn⟩

/-- A number is below the bound if it and its field's number are. -/
theorem Below.optNumber (hk : k * 8 + 2 < bound) (hn : n < bound) :
    Below bound (optNumber k n : List (Field σ)) := by
  unfold Wire.optNumber
  split_ifs
  · exact List.forall_mem_nil _
  · rintro f hf
    obtain rfl := List.mem_singleton.mp hf
    exact ⟨hk, fun m hm => Value.number.inj hm ▸ hn⟩

/-- A repeated block is, if its number is. -/
theorem Below.manyBlocks (hk : k * 8 + 2 < bound) : Below bound (manyBlocks k blocks) := by
  rintro f hf
  obtain ⟨b, -, rfl⟩ := List.mem_map.mp hf
  exact ⟨hk, fun n hn => by cases hn⟩

/-- **A block is no longer than its record.** -/
theorem length_le_of_mem {write : ℕ → List σ} (h : ⟨k, .block symbols⟩ ∈ fs) :
    symbols.length ≤ (fs.flatMap (writeField write)).length := by
  induction fs with
  | nil => cases h
  | cons f fs ih =>
      rw [List.flatMap_cons, List.length_append]
      rcases List.mem_cons.mp h with rfl | h
      · simp only [writeField, writeFrame, List.length_append]
        omega
      · have hle := ih h
        omega

/-- So is a block that may be left out. -/
theorem length_le_of_optBlock {write : ℕ → List σ} (h : Wire.optBlock k symbols ⊆ fs) :
    symbols.length ≤ (fs.flatMap (writeField write)).length := by
  by_cases hempty : symbols.length = 0
  · omega
  · refine length_le_of_mem (k := k) (h ?_)
    rw [Wire.optBlock, if_neg hempty]
    exact List.mem_singleton_self _

/-- **Fields below the bound fit**, in a message that is below it. -/
theorem Below.fits {write : ℕ → List σ} (h : Below bound fs)
    (hlen : (fs.flatMap (writeField write)).length < bound) : ∀ f ∈ fs, f.Fits (· < bound) := by
  intro f hf
  obtain ⟨hkey, hnumber⟩ := h f hf
  obtain ⟨k, n | symbols⟩ := f
  · exact ⟨Nat.lt_of_le_of_lt (Nat.le_add_right ..) hkey, hnumber n rfl⟩
  · exact ⟨hkey, Nat.lt_of_le_of_lt (length_le_of_mem hf) hlen⟩

end

/-- **Each of many blocks is read back.** -/
theorem mapM_written {read : List σ → Option β} {write : α → List σ} {value : α → β} {as : List α}
    (h : ∀ a ∈ as, read (write a) = some (value a)) :
    (as.map write).mapM read = some (as.map value) := by
  induction as with
  | nil => rfl
  | cons a as ih =>
      have ha := h a (List.mem_cons_self ..)
      have has := ih fun b hb => h b (List.mem_cons_of_mem _ hb)
      rw [List.map_cons, List.map_cons, List.mapM_cons, ha, has]
      rfl

/-- The fields of a record that is written field by field. -/
def readRecord (number : Reader σ ℕ) (input : List σ) : Option (List (Field σ)) :=
  readAll (readField number) input

/-- **A record is read back field by field.** -/
theorem Reads.record {number : Reader σ ℕ} {write : ℕ → List σ} {bound : ℕ}
    (h : Reads number write (· < bound)) (hwrite : ∀ n, write n ≠ []) {fs : List (Field σ)}
    (hfs : Below bound fs) (hlen : (fs.flatMap (writeField write)).length < bound) :
    readRecord number (fs.flatMap (writeField write)) = some fs := by
  refine h.field.all (fun f _ => ?_) (hfs.fits hlen)
  obtain ⟨k, n | symbols⟩ := f
  · exact List.append_ne_nil_of_left_ne_nil (hwrite _) _
  · exact List.append_ne_nil_of_left_ne_nil (hwrite _) _

end Wire
end HyperspaceLight
