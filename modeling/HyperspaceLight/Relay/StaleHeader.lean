/-
# Updates that do not advance the client

`msg_update_client_header` of `src/cosmos/client.rs` fetches the highest light block first and
the one after the trusted height second, and compares neither with the other.  The second fetch
succeeds only if there is a block above the trusted height; where the first was answered before
that block was made, the header is for the trusted height itself
(`msgUpdateClientHeader_advances_iff`).
-/

import HyperspaceLight.Relay.Driver
import HyperspaceLight.Relay.Steps

namespace HyperspaceLight

open Interaction

/-- `w'` comes after `w`, and the relayer has asked nothing in between. -/
structure Elsewhere (w w' : World) : Prop where
  height_le : ∀ s, w.height s ≤ w'.height s
  trace_eq : w'.trace = w.trace
  current_eq : w'.current = w.current

/-- `Elsewhere` is reflexive. -/
theorem Elsewhere.refl (w : World) : Elsewhere w w := ⟨fun _ => le_rfl, rfl, rfl⟩

/-- `Elsewhere` is transitive. -/
theorem Elsewhere.trans {w w' w'' : World} (h : Elsewhere w w') (h' : Elsewhere w' w'') :
    Elsewhere w w'' where
  height_le s := (h.height_le s).trans (h'.height_le s)
  trace_eq := h'.trace_eq.trans h.trace_eq
  current_eq := h'.current_eq.trans h.current_eq

/-- A move of a node is one elsewhere. -/
theorem Tick.elsewhere {foreign : Prop} {w w' : World} (h : Tick foreign w w') : Elsewhere w w' where
  height_le := h.still.height_le
  trace_eq := by cases h <;> rfl
  current_eq := h.still.current_eq

section

variable [Crates] {X : Chains} {foreign : Prop} {w w' : World}

/-- Being elsewhere survives the moves of the nodes. -/
theorem elsewhere_stable (w : World) : (relayEnv X foreign).Stable (Elsewhere w) :=
  fun _ _ hw h => hw.trans h.elsewhere

/-- Any number of moves is one elsewhere. -/
theorem elsewhere_of_ticks (h : (relayEnv X foreign).Ticks w w') : Elsewhere w w' :=
  (elsewhere_stable w).ticks h (Elsewhere.refl w)

/-- **A light block is fetched** from the node as it is when it answers, and the fetch is on
record. -/
theorem wp_fetch {s : Side} {height : AtHeight} {context : Error → Error}
    {Q : LightBlock → World → Prop}
    (h : ∀ v block, Elsewhere w v → v.Honest X (.node s (.lightBlock height)) block →
      Q block (v.after (.node s (.lightBlock height)))) :
    (relayEnv X foreign).wp (fun _ => True) (fun _ => True)
      (s.ask (.lightBlock height) context) Q w :=
  Env.wp_mapErr (Env.wp_ask (Elsewhere w) (elsewhere_stable w) (Elsewhere.refl w)
    (fun _ _ => trivial)
    (fun v block v' hv hanswer => by
      obtain ⟨rfl, hhonest⟩ := hanswer
      exact h v block hv (hhonest block rfl))
    fun _ _ _ _ _ => trivial)

/-- What the two fetches have found: the node's heights when it answered them, and the header
that is made of their blocks. -/
structure Fetched (X : Chains) (side : Side) (trustedHeight : Height) (w w' : World)
    (header : Header) (first second : ℕ) : Prop where
  trace_eq : w'.trace = w.trace ++ [⟨w.current, side, .lightBlock .highest, first⟩,
    ⟨w.current, side, .lightBlock (.at (trustedHeight.revisionHeight + 1)), second⟩]
  start_le : w.height side ≤ first
  first_le : first ≤ second
  above : trustedHeight.revisionHeight < second
  height_eq : header.signedHeader.height = first
  trusted_eq : header.trustedHeight = trustedHeight
  validators_eq : header.trustedValidatorSet =
    (X.lightBlock side (trustedHeight.revisionHeight + 1)).validators

omit [Crates] in
/-- What was fetched stays so. -/
theorem Fetched.elsewhere {side : Side} {trustedHeight : Height} {header : Header}
    {first second : ℕ} {w'' : World} (h : Fetched X side trustedHeight w w' header first second)
    (hw : Elsewhere w' w'') : Fetched X side trustedHeight w w'' header first second :=
  { h with trace_eq := hw.trace_eq.trans h.trace_eq }

/-- A height that fits is passed on. -/
theorem wp_tryFrom {n : ℕ} {g : Error → Error} {Q : ℕ → World → Prop} (h : Q n w) :
    (relayEnv X foreign).wp (fun _ => True) (fun _ => True) ((TmHeight.tryFrom n).mapErr g) Q w := by
  unfold TmHeight.tryFrom
  split_ifs
  · exact h
  · trivial

/-- The successor of a height that fits is passed on. -/
theorem wp_increment {n : ℕ} {Q : ℕ → World → Prop} (h : Q (n + 1) w) :
    (relayEnv X foreign).wp (fun _ => True) (fun _ => True) (TmHeight.increment n) Q w := by
  unfold TmHeight.increment TmHeight.tryFrom
  split_ifs
  · exact h
  · trivial

/-- **The two fetches of the update.** -/
theorem msgUpdateClientHeader_wp {self : CosmosClient} {trustedHeight : Height} :
    (relayEnv X foreign).wp (fun _ => True) (fun _ => True)
      (self.msgUpdateClientHeader trustedHeight)
      (fun r w' => ∃ first second,
        Fetched X self.side trustedHeight w w' r.1 first second) w := by
  refine Env.wp_bind.mpr (wp_fetch fun v highest hv hhighest => ?_)
  refine Env.wp_bind.mpr (wp_tryFrom (Env.wp_bind.mpr (wp_increment ?_)))
  refine Env.wp_bind.mpr (wp_fetch fun u trusted hu htrusted => ?_)
  obtain rfl : highest = X.lightBlock self.side (v.height self.side) := hhighest
  obtain ⟨hle, rfl⟩ := htrusted
  refine ⟨v.height self.side, u.height self.side, ?_, hv.height_le _, hu.height_le _, hle,
    X.lightBlock_height _ _, rfl, rfl⟩
  calc u.trace ++ [⟨u.current, self.side, _, u.height self.side⟩]
    _ = (v.trace ++ [⟨v.current, self.side, _, v.height self.side⟩]) ++
        [⟨v.current, self.side, _, u.height self.side⟩] := by
      rw [hu.trace_eq, hu.current_eq]
      rfl
    _ = _ := by
      rw [hv.trace_eq, hv.current_eq, List.append_assoc]
      rfl

end

/-- **When an update advances the client.**  For every two chains, every interleaving with the
nodes, every trusted height, and every run of `msg_update_client_header` that returns a header:
`first` and `second` are the heights of the node when it answered the two fetches.  There is a
block above the trusted height by the second fetch, and the header is above it exactly if there
was one at the first. -/
theorem msgUpdateClientHeader_advances_iff [Crates] (X : Chains) (foreign : Prop)
    (self : CosmosClient) (trustedHeight : Height) (w w' : World) (header : Header)
    (updateType : UpdateType)
    (hrun : (relayEnv X foreign).Runs (w, self.msgUpdateClientHeader trustedHeight)
      (w', .done (.ok (header, updateType)))) :
    ∃ first second,
      w'.trace = w.trace ++ [⟨w.current, self.side, .lightBlock .highest, first⟩,
        ⟨w.current, self.side, .lightBlock (.at (trustedHeight.revisionHeight + 1)), second⟩] ∧
      w.height self.side ≤ first ∧ first ≤ second ∧ trustedHeight.revisionHeight < second ∧
      (header.trustedHeight.revisionHeight < header.signedHeader.height ∧
          header.trustedValidatorSet =
            (X.lightBlock self.side (trustedHeight.revisionHeight + 1)).validators ↔
        trustedHeight.revisionHeight < first) := by
  obtain ⟨w₀, hticks, first, second, hfetched⟩ := Env.wp_returns msgUpdateClientHeader_wp hrun
  have h := hfetched.elsewhere (elsewhere_of_ticks hticks)
  refine ⟨first, second, h.trace_eq, h.start_le, h.first_le, h.above, ?_⟩
  rw [h.trusted_eq, h.height_eq, and_iff_left h.validators_eq]

/-! ### A client at the tip -/

/-- The fetches from a node at height 2, with a block between them if `grows`. -/
def headerRun (trustedHeight : Height) (grows : Bool) :
    World × Prog Net Error (Header × UpdateType) :=
  let _ := Crates.reference
  let V := relayDriver strayChains (relayerFor channel7) False
  let c := V.answers 1 strayStart ((cosmosClient .a client0).msgUpdateClientHeader trustedHeight)
  let w := if grows then
    c.1.setNode .a { c.1.nodes .a with height := (c.1.nodes .a).height + 1 } else c.1
  V.answers 1 w c.2

/-- The run of the example. -/
theorem headerRun_runs (trustedHeight : Height) (grows : Bool) : let _ := Crates.reference
    (relayEnv strayChains False).Runs
      (strayStart, (cosmosClient .a client0).msgUpdateClientHeader trustedHeight)
      (headerRun trustedHeight grows) := by
  intro _
  let V := relayDriver strayChains (relayerFor channel7) False
  have hfirst := V.answers_runs 1 strayStart
    ((cosmosClient .a client0).msgUpdateClientHeader trustedHeight)
  refine hfirst.trans ?_
  cases grows with
  | true => exact .head (.tick (.block .a)) (V.answers_runs 1 _ _)
  | false => exact V.answers_runs 1 _ _

/-- The header of a client at height 1. -/
theorem behindTip_advances : let _ := Crates.reference
    ∃ w' header updateType, (relayEnv strayChains False).Runs
        (strayStart, (cosmosClient .a client0).msgUpdateClientHeader (height0 1))
        (w', .done (.ok (header, updateType))) ∧
      header.trustedHeight.revisionHeight < header.signedHeader.height := by
  intro _
  have hrun := headerRun_runs (height0 1) false
  refine ⟨_, _, _, hrun, ?_⟩
  obtain ⟨first, second, -, hstart, -, -, hadvances⟩ :=
    msgUpdateClientHeader_advances_iff strayChains False _ (height0 1) strayStart _ _ _ hrun
  exact (hadvances.mpr hstart).1

/-- **A client at the tip is not advanced** if a block is made between the two fetches: the
header is for the trusted height. -/
theorem atTip_not_advanced : let _ := Crates.reference
    ¬∀ (X : Chains) (foreign : Prop) (self : CosmosClient) (trustedHeight : Height)
      (w w' : World) (header : Header) (updateType : UpdateType),
      trustedHeight.revisionHeight ≤ w.height self.side →
        (relayEnv X foreign).Runs (w, self.msgUpdateClientHeader trustedHeight)
          (w', .done (.ok (header, updateType))) →
        header.trustedHeight.revisionHeight < header.signedHeader.height ∧
          header.trustedValidatorSet =
            (X.lightBlock self.side (trustedHeight.revisionHeight + 1)).validators := by
  intro _ h
  have hadvances := h strayChains False (cosmosClient .a client0) (height0 2) strayStart _ _ _
    le_rfl (headerRun_runs (height0 2) true)
  exact absurd hadvances.1 (lt_irrefl 2)

end HyperspaceLight
