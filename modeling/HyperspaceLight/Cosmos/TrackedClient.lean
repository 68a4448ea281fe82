/-
# A light client as it is stored

Its latest height and the heights at which it has a consensus state, of which the
latest is the largest.  Heights are of any linear order: `Height` where the revision
matters, `ℕ` where the client tracks one chain in one revision.
-/

import Mathlib.Order.Basic
import Mathlib.Order.Lattice

namespace HyperspaceLight

/-- A light client: the latest height is the largest one with a consensus state. -/
structure TrackedClient (α : Type) [LinearOrder α] where
  latest : α
  consensus : List α
  latest_mem : latest ∈ consensus
  le_latest : ∀ h ∈ consensus, h ≤ latest

namespace TrackedClient

variable {α : Type} [LinearOrder α]

/-- An accepted update stores a consensus state at the height of its header. -/
def update (c : TrackedClient α) (h : α) : TrackedClient α where
  latest := max c.latest h
  consensus := h :: c.consensus
  latest_mem := by
    rcases le_total c.latest h with hle | hle
    · rw [max_eq_right hle]
      exact List.mem_cons_self ..
    · rw [max_eq_left hle]
      exact List.mem_cons_of_mem _ c.latest_mem
  le_latest := by
    intro h' hmem
    rcases List.mem_cons.mp hmem with rfl | hmem
    · exact le_max_right _ _
    · exact (c.le_latest h' hmem).trans (le_max_left _ _)

/-- An update raises the latest height, and never lowers it. -/
@[simp] theorem update_latest (c : TrackedClient α) (h : α) :
    (c.update h).latest = max c.latest h := rfl

/-- An update stores a consensus state. -/
@[simp] theorem update_consensus (c : TrackedClient α) (h : α) :
    (c.update h).consensus = h :: c.consensus := rfl

/-- A client with one consensus state. -/
def single (h : α) : TrackedClient α :=
  ⟨h, [h], List.mem_singleton_self h, fun _ hmem => (List.mem_singleton.mp hmem).le⟩

/-- `c'` has all that `c` has: a later state of the same client. -/
structure Extends (c' c : TrackedClient α) : Prop where
  latest_le : c.latest ≤ c'.latest
  consensus_subset : c.consensus ⊆ c'.consensus

/-- `Extends` is reflexive. -/
theorem Extends.rfl {c : TrackedClient α} : c.Extends c := ⟨le_rfl, fun _ h => h⟩

/-- `Extends` is transitive. -/
theorem Extends.trans {c c' c'' : TrackedClient α} (h : c''.Extends c') (h' : c'.Extends c) :
    c''.Extends c :=
  ⟨h'.latest_le.trans h.latest_le, fun _ hmem => h.consensus_subset (h'.consensus_subset hmem)⟩

/-- **An update loses nothing.** -/
theorem update_extends (c : TrackedClient α) (h : α) : (c.update h).Extends c :=
  ⟨le_max_left _ _, fun _ hmem => List.mem_cons_of_mem _ hmem⟩

end TrackedClient
end HyperspaceLight
