/-
# Attribute lists where the last value counts

An attribute list gives values to keys, a key may come up more than once.  A
reader folds over the list: it starts from default values, and an attribute that
it knows overwrites a part of what it has or is refused.  What such a reader
returns depends on the list only through the values under each key
(`valuesAt`), and of these only the last one counts: `of` makes the result from
the map of last values, and one more attribute updates the map at its key
(`Overwrites`).
-/

import HyperspaceLight.Interaction.Program
import Mathlib.Data.List.Induction

namespace HyperspaceLight
namespace Wire

open Interaction

variable {κ ν σ ε : Type} [DecidableEq κ] {S : Sig}

/-- The values under a key, in their order. -/
def valuesAt (tags : List (κ × ν)) (k : κ) : List ν :=
  tags.filterMap fun tag => if tag.1 = k then some tag.2 else none

/-- Without attributes there is no value. -/
@[simp] theorem valuesAt_nil (k : κ) : valuesAt ([] : List (κ × ν)) k = [] := rfl

/-- The values are in the order of the attributes. -/
theorem valuesAt_append (tags tags' : List (κ × ν)) (k : κ) :
    valuesAt (tags ++ tags') k = valuesAt tags k ++ valuesAt tags' k :=
  List.filterMap_append ..

/-- A value of a key is an attribute. -/
@[simp] theorem mem_valuesAt {tags : List (κ × ν)} {k : κ} {v : ν} :
    v ∈ valuesAt tags k ↔ (k, v) ∈ tags := by
  simp only [valuesAt, List.mem_filterMap, Option.ite_none_right_eq_some, Option.some.injEq]
  constructor
  · rintro ⟨tag, htag, rfl, rfl⟩
    exact htag
  · exact fun h => ⟨(k, v), h, rfl, rfl⟩

/-- The last value under a key. -/
def lastValue (tags : List (κ × ν)) (k : κ) : Option ν := (valuesAt tags k).getLast?

/-- **One more attribute updates the last values at its key.** -/
theorem lastValue_concat (tags : List (κ × ν)) (tag : κ × ν) :
    lastValue (tags ++ [tag]) = Function.update (lastValue tags) tag.1 (some tag.2) := by
  funext k
  rw [lastValue, valuesAt_append]
  by_cases hk : k = tag.1
  · subst hk
    simp [valuesAt]
  · rw [Function.update_of_ne hk]
    simp [valuesAt, Ne.symm hk, lastValue]

/-- The first value under a key. -/
theorem find?_eq_head? (tags : List (κ × ν)) (k : κ) :
    (tags.find? fun tag => decide (tag.1 = k)).map Prod.snd = (valuesAt tags k).head? := by
  induction tags with
  | nil => rfl
  | cons tag tags ih =>
      by_cases hk : tag.1 = k
      · simp [valuesAt, hk]
      · simpa [valuesAt, hk] using ih

/-- A reader of attributes: it goes on from what `of` makes of the last values so far
to what it makes of the updated ones, and it refuses what it does not accept. -/
def Overwrites (step : σ → κ × ν → Prog S ε σ) (accepts : κ → ν → Prop)
    (of : (κ → Option ν) → σ) : Prop :=
  ∀ last tag s, (step (of last) tag).Returns s ↔
    accepts tag.1 tag.2 ∧ of (Function.update last tag.1 (some tag.2)) = s

/-- **The last value under each key is read.** -/
theorem Overwrites.returns_iff {step : σ → κ × ν → Prog S ε σ} {accepts : κ → ν → Prop}
    (of : (κ → Option ν) → σ) (h : Overwrites step accepts of) (tags : List (κ × ν)) (s : σ) :
    (tags.foldlM step (of fun _ => none)).Returns s ↔
      (∀ k, ∀ v ∈ valuesAt tags k, accepts k v) ∧ of (lastValue tags) = s := by
  induction tags using List.reverseRecOn generalizing s with
  | nil =>
      have hlast : lastValue ([] : List (κ × ν)) = fun _ => none := rfl
      simp [Prog.Returns, hlast]
  | append_singleton tags tag ih =>
      have hsplit : (∀ k, ∀ v ∈ valuesAt (tags ++ [tag]) k, accepts k v) ↔
          (∀ k, ∀ v ∈ valuesAt tags k, accepts k v) ∧ accepts tag.1 tag.2 := by
        simp only [mem_valuesAt, List.mem_append, List.mem_singleton]
        constructor
        · exact fun hall => ⟨fun k v hv => hall k v (.inl hv), hall _ _ (.inr rfl)⟩
        · rintro ⟨hall, htag⟩ k v (hv | rfl)
          · exact hall k v hv
          · exact htag
      have hsteps : ((tags ++ [tag]).foldlM step (of fun _ => none)).Returns s ↔
          ∃ s', (tags.foldlM step (of fun _ => none)).Returns s' ∧ (step s' tag).Returns s := by
        simp only [List.foldlM_append, List.foldlM_cons, List.foldlM_nil, bind_pure,
          Prog.Returns, Prog.leaf_bind_ok]
      rw [hsteps, hsplit, lastValue_concat]
      constructor
      · rintro ⟨s', hs', hstep⟩
        obtain ⟨hall, rfl⟩ := (ih s').mp hs'
        obtain ⟨htag, hs⟩ := (h _ _ _).mp hstep
        exact ⟨⟨hall, htag⟩, hs⟩
      · rintro ⟨⟨hall, htag⟩, hs⟩
        exact ⟨_, (ih _).mpr ⟨hall, rfl⟩, (h _ _ _).mpr ⟨htag, hs⟩⟩

end Wire
end HyperspaceLight
