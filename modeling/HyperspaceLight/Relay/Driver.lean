/-
# Computed runs of the relay loop

Two nodes that serve: every call is answered with what the node knows (`World.serve`),
blocks and transactions come when a schedule says so (`NodeMove`).  A schedule that
executes is a run of the relay loop (`relayDriver`).
-/

import HyperspaceLight.Relay.World

namespace HyperspaceLight

open Interaction

/-- A move of a node: a block, or the success of a transaction. -/
inductive NodeMove where
  | block (s : Side)
  | commit (s : Side) (i : ℕ)

def NodeMove.apply : NodeMove → World → Option World
  | .block s, w => some (w.setNode s { w.nodes s with height := (w.nodes s).height + 1 })
  | .commit s i, w =>
      match (w.nodes s).txs[i]? with
      | some ⟨messages, none⟩ =>
          some (w.setNode s ((w.nodes s).commit w.now i ⟨messages, none⟩ ⟨0, "", []⟩))
      | _ => none

/-- A move of the driver is one of the node. -/
theorem NodeMove.apply_sound {foreign : Prop} {m : NodeMove} {w w' : World}
    (h : m.apply w = some w') : Tick foreign w w' := by
  cases m with
  | block s =>
      obtain rfl := Option.some.inj h
      exact .block s
  | commit s i =>
      rw [apply] at h
      split at h
      · next messages htx =>
          obtain rfl := Option.some.inj h
          exact .commit s i ⟨messages, none⟩ ⟨0, "", []⟩ htx rfl
      · cases h

section

variable [Crates]

/-- A gRPC answer, with the height of the node. -/
def World.grpc {α : Type} (X : Chains) (w : World) (s : Side) (value : α) : GrpcResponse α :=
  ⟨value, some ⟨X.revision s, w.height s⟩⟩

/-- What a node does not serve. -/
def notServed : Error := .external "unavailable"

/-- The answers of nodes that serve. -/
def World.serve (X : Chains) (w : World) : (o : Net.Op) → Except Error (Net.Res o)
  | .node s .status => .ok ⟨X.network s, false, w.height s, w.now⟩
  | .node s (.blockResults n) => if n ≤ w.height s then .ok (X.blocks s n) else .error notServed
  | .node s (.lightBlock .highest) => .ok (X.lightBlock s (w.height s))
  | .node s (.lightBlock (.at n)) =>
      if n ≤ w.height s then .ok (X.lightBlock s n) else .error notServed
  | .node _ (.abciQuery _ _ _) => .ok ⟨0, "", [], some [1]⟩
  | .node s (.broadcastTxSync _ _) => .ok (w.nodes s).txs.length
  | .node s (.txSearch hash) =>
      match (w.nodes s).txs[hash]? with
      | some ⟨_, some result⟩ => .ok [⟨hash, result⟩]
      | _ => .ok []
  | .node _ .connect => .ok ()
  | .node _ (.account _) => .ok (some (.ok ⟨1, 1⟩))
  | .node s (.clientState id) =>
      match Height.new (X.revision s.other) ((w.nodes s).clients id).latest with
      | some h => .ok (w.grpc X s (some (.ok ⟨h⟩)))
      | none => .error notServed
  | .node s (.connection id) => .ok (w.grpc X s (((w.nodes s).connections id).map .ok))
  | .node s (.channel p c) => .ok (w.grpc X s (((w.nodes s).channels p c).map .ok))
  | .node s (.packetCommitment _ _ _) => .ok (w.grpc X s [1])
  | .node s (.packetAcknowledgement _ _ _) => .ok (w.grpc X s [1])
  | .now => .ok w.now
  | .sleep _ => .ok ()
  | .log _ => .ok ()
  | _ => .error notServed

/-- The answers are true. -/
theorem World.serve_honest (X : Chains) (w : World) (o : Net.Op) (a : Net.Res o)
    (h : w.serve X o = .ok a) : w.Honest X o a := by
  unfold serve at h
  split at h
  · obtain rfl := Except.ok.inj h
    exact ⟨rfl, rfl⟩
  · next s n =>
      split_ifs at h with hn
      exact ⟨hn, (Except.ok.inj h).symm⟩
  · exact (Except.ok.inj h).symm
  · next s n =>
      split_ifs at h with hn
      exact ⟨hn, (Except.ok.inj h).symm⟩
  · trivial
  · exact (Except.ok.inj h).symm
  · next s hash =>
      intro t ht
      split at h
      · next messages result htx =>
          obtain rfl := Except.ok.inj h
          rw [List.mem_singleton.mp ht]
          exact ⟨rfl, _, htx, rfl⟩
      · obtain rfl := Except.ok.inj h
        cases ht
  · trivial
  · trivial
  · next s id =>
      split at h
      · next height hheight =>
          obtain rfl := Except.ok.inj h
          exact ⟨rfl, ⟨height⟩, rfl, (Height.new_eq_some.mp hheight).2⟩
      · cases h
  · obtain rfl := Except.ok.inj h
    exact ⟨rfl, rfl⟩
  · obtain rfl := Except.ok.inj h
    exact ⟨rfl, rfl⟩
  · obtain rfl := Except.ok.inj h
    rfl
  · obtain rfl := Except.ok.inj h
    rfl
  · trivial
  · trivial
  · trivial
  · cases h

/-- The relay loop between nodes that serve. -/
def relayDriver (X : Chains) (R : Relayer) (foreign : Prop) :
    Driver (relayLoop X R foreign) NodeMove (Side × FinalityEvent) where
  tick m w := m.apply w
  start d w := some (processFinalityEvent R.fuel (R.chain d.1) (R.chain d.1.other) d.2, w.start d.1)
  answer w o := (w.serve X o, w.after o)
  tick_sound _ _ _ h := NodeMove.apply_sound h
  start_sound d w p w' h := by
    obtain ⟨rfl, rfl⟩ := Prod.mk.inj (Option.some.inj h)
    exact ⟨d.1, d.2, rfl, rfl⟩
  answer_sound w o := ⟨rfl, fun a h => w.serve_honest X o a h⟩

end

/-! ### A packet over `channel-7` -/

def channel7 : ChannelId := ⟨"channel-7", by decide⟩

/-- In block 2 of the first chain a packet is sent over `channel-7`. -/
def strayBlocks : Side → ℕ → BlockResults
  | .a, 2 => ⟨none, some [⟨0, "", [⟨"send_packet", [("packet_sequence", "1"),
      ("packet_src_port", "transfer"), ("packet_src_channel", "channel-7"),
      ("packet_dst_port", "transfer"), ("packet_dst_channel", "channel-0")]⟩]⟩], none⟩
  | _, _ => ⟨none, none, none⟩

def strayChains : Chains where
  network _ := "chain"
  blocks := strayBlocks
  lightBlock _ n := ⟨⟨n, seconds n⟩, [], []⟩
  lightBlock_height _ _ := rfl

/-- The event of the packet is the only one. -/
theorem stray_events {s : Side} {c l : ℕ} {ev : IbcEventWithHeight}
    (h : ev ∈ @Chains.events Crates.reference strayChains s c l) :
    @blockEvents Crates.reference 0 2 (strayBlocks .a 2) = [ev] := by
  let _ := Crates.reference
  obtain ⟨n, -, -, hev⟩ := mem_chainEvents.mp h
  have hblock : ev ∈ blockEvents 0 n (strayBlocks s n) := hev
  unfold strayBlocks at hblock
  split at hblock
  · have hlength : (blockEvents 0 2 (strayBlocks .a 2)).length = 1 := by decide +kernel
    obtain ⟨ev', hev'⟩ := List.length_eq_one_iff.mp hlength
    have hmem : ev ∈ [ev'] := hev' ▸ hblock
    rw [hev', List.mem_singleton.mp hmem]
  · cases hblock

/-- Every channel is open, on a connection without delay; the clients are at height 1. -/
def strayNode : NodeState where
  height := 2
  clients _ := .single 1
  channels _ _ := some (openEnd .unordered)
  connections _ := some (openConnection 0)
  txs := []
  executed := []

def strayStart : World where
  nodes _ := strayNode
  now := 0
  source := .a
  trace := []
  current := none
  processed := []
  submissions := []

/-- A relayer for one channel. -/
def relayerFor (channel : ChannelId) : Relayer where
  client s := { cosmosClient s client0 with channelWhitelist := [(channel, transferPort)] }
  client_side _ := rfl
  fuel := 1

/-- The packet is translated, the proof's block is made, and the batch is submitted. -/
def straySchedule : List (Act NodeMove (Side × FinalityEvent)) :=
  [.start (.a, 0), .answers 18, .tick (.block .a), .answers 15]

end HyperspaceLight
