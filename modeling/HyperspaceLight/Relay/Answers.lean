/-
# What the answers of a run say

An answer given somewhere on the way of a run is true of the world at that moment
(`given_honest`).  So a scan returns the events of the blocks between a height that the
light client had, and a height that the node had, while it was made
(`scan_world`).
-/

import HyperspaceLight.Relay.Round
import HyperspaceLight.Relay.Steps

namespace HyperspaceLight

open Interaction

/-- The latest height of the light client that a scan of the chain of `s` reads. -/
def World.clientHeight (R : Relayer) (w : World) (s : Side) : ℕ :=
  ((w.nodes s.other).clients (R.client s.other).clientId).latest

/-- The client of a chain is never set back. -/
theorem Later.clientHeight_le {R : Relayer} {w w' : World} (h : Later w w') (s : Side) :
    w.clientHeight R s ≤ w'.clientHeight R s :=
  (h.clients_extend s.other _).latest_le

/-! ### Answers -/

section

variable [Crates] {X : Chains} {R : Relayer} {foreign : Prop} {w w' : World}

/-- **An answer is true of some moment on the way.** -/
theorem given_honest {o : Net.Op} {a : Net.Res o}
    (h : (relayEnv X foreign).Given Passive w w' o (.ok a)) (ho : Passive o) :
    ∃ w₁, Later w w₁ ∧ Later w₁ w' ∧ w₁.Honest X o a := by
  obtain ⟨w₁, w₂, h₁, ⟨rfl, hhonest⟩, h₂⟩ := h
  exact ⟨w₁, later_of_meanwhile h₁, (later_after ho).trans (later_of_meanwhile h₂), hhonest a rfl⟩

/-- **A node's answer is on record**, with the height of the node at that moment. -/
theorem given_asked {s : Side} {op : NodeOp} {a : op.Res}
    (h : (relayEnv X foreign).Given Passive w w' (.node s op) (.ok a)) (ho : Passive (.node s op)) :
    ∃ w₁, Later w w₁ ∧ Later w₁ w' ∧ w₁.Honest X (.node s op) a ∧
      ⟨w₁.current, s, op, w₁.height s⟩ ∈ w'.trace := by
  obtain ⟨w₁, w₂, h₁, ⟨rfl, hhonest⟩, h₂⟩ := h
  refine ⟨w₁, later_of_meanwhile h₁, (later_after ho).trans (later_of_meanwhile h₂), hhonest a rfl,
    (later_of_meanwhile h₂).trace ?_⟩
  cases op with
  | broadcastTxSync tx messages => exact ho.elim
  | _ => exact List.mem_append_right _ (List.mem_singleton_self _)

/-- **An event that was logged is processed.** -/
theorem given_processed {ev : IbcEventWithHeight}
    (h : (relayEnv X foreign).Given Passive w w' (.log (.processing ev)) (.ok ())) :
    (w.source, ev) ∈ w'.processed := by
  obtain ⟨w₁, w₂, h₁, ⟨rfl, -⟩, h₂⟩ := h
  refine (later_of_meanwhile h₂).processed (List.mem_append_right _ ?_)
  rw [(later_of_meanwhile h₁).source_eq]
  exact List.mem_singleton_self _

/-! ### A scan -/

/-- The heights at which a node was asked for its status. -/
def statusHeights (trace : List Asked) (s : Side) : List ℕ :=
  trace.filterMap fun asked => match asked.op with
    | .status => if asked.side = s then some asked.height else none
    | _ => none

/-- The heights at which a node was asked for its highest light block. -/
def headerHeights (trace : List Asked) (s : Side) : List ℕ :=
  trace.filterMap fun asked => match asked.op with
    | .lightBlock .highest => if asked.side = s then some asked.height else none
    | _ => none

omit [Crates] in
/-- The status heights on record stay there. -/
theorem statusHeights_subset {trace trace' : List Asked} (h : trace <+: trace') (s : Side) :
    statusHeights trace s ⊆ statusHeights trace' s :=
  (h.filterMap _).subset

omit [Crates] in
/-- The header heights on record stay there. -/
theorem headerHeights_subset {trace trace' : List Asked} (h : trace <+: trace') (s : Side) :
    headerHeights trace s ⊆ headerHeights trace' s :=
  (h.filterMap _).subset

/-- **What a scan of the chain of `s` has read between `w` and `w'`**: a height `c` of the light
client and a height `l` of the node, between which its events lie, and the node's height for
the header of its update. -/
structure Scanned (X : Chains) (R : Relayer) (s : Side) (w w' : World) (update : Any)
    (events : List IbcEventWithHeight) (c l : ℕ) (u : MsgUpdateClient) : Prop where
  clientHeight_le : w.clientHeight R s ≤ c
  le_clientHeight : c ≤ w'.clientHeight R s
  height_le : w.height s ≤ l
  le_height : l ≤ w'.height s
  events_eq : events = X.events s c l
  update_origin : update.origin = none
  update_msg : update.msg = .updateClient u
  update_client : u.clientId = (R.client s).clientId
  height_le_header : w.height s ≤ u.header.signedHeader.height
  header_le_height : u.header.signedHeader.height ≤ w'.height s
  status_asked : l ∈ statusHeights w'.trace s
  header_asked : u.header.signedHeader.height ∈ headerHeights w'.trace s

/-- **A scan in a run.** -/
theorem scan_world {s : Side} {finalityEvent : FinalityEvent} {update : Any}
    {events : List IbcEventWithHeight} {updateType : UpdateType}
    (h : ((R.client s).queryLatestIbcEvents finalityEvent (R.client s.other).provider).Leaf
      ((relayEnv X foreign).Given Passive w w') (.ok (update, events, updateType))) :
    ∃ c l u, Scanned X R s w w' update events c l u := by
  obtain ⟨clientHeight, status, highest, trusted, hscan, -⟩ := queryLatestIbcEvents_returns h
  obtain ⟨answer, cs, hclient, hvalue, rfl⟩ := hscan.client_answered
  have hstatus := hscan.status_answered
  have hhighest := hscan.highest_answered
  rw [R.client_side] at hclient hstatus hhighest
  obtain ⟨w₁, hc, hc', -, cs', hcs', hlatest⟩ := given_honest hclient trivial
  obtain rfl : cs = cs' := Except.ok.inj (Option.some.inj (hvalue.symm.trans hcs'))
  obtain ⟨w₂, hl, hl', ⟨hnetwork, hheight⟩, hasked⟩ := given_asked hstatus trivial
  obtain ⟨w₃, hn, hn', rfl, hasked'⟩ := given_asked hhighest trivial
  have hheader := X.lightBlock_height s (w₃.height s)
  refine ⟨cs.latestHeight.revisionHeight, status.latestBlockHeight, _, {
    update_msg := hscan.update_msg
    clientHeight_le := (hc.clientHeight_le s).trans hlatest.ge
    le_clientHeight := hlatest.le.trans (hc'.clientHeight_le s)
    height_le := (hl.height_le s).trans hheight.ge
    le_height := hheight.le.trans (hl'.height_le s)
    events_eq := by
      rw [Chains.events, Chains.revision, ← hnetwork]
      refine hscan.events_eq fun n results hresults => ?_
      rw [R.client_side] at hresults
      obtain ⟨_, -, -, -, hblock⟩ := given_honest hresults trivial
      exact hblock
    update_origin := hscan.update_origin
    update_client := rfl
    height_le_header := (hn.height_le s).trans hheader.ge
    header_le_height := hheader.le.trans (hn'.height_le s)
    status_asked := List.mem_filterMap.mpr ⟨_, hasked, by simp [hheight]⟩
    header_asked := List.mem_filterMap.mpr ⟨_, hasked', by simp [hheader]⟩ }⟩

end

end HyperspaceLight
