/-
# Two nodes and the relayer between them

The environment of the relay loop.  `World` is the state of two Cosmos nodes, each
with the light clients it stores and the transactions it knows, and a record of
what the relayer has asked, processed and submitted; nothing reads the record.

The nodes produce blocks, execute transactions and change their channels on their
own between any two calls of the relayer (`Tick`).  A call may fail; an answer is
what the node knows when it is asked (`World.Honest`), and nothing more is assumed of
the answers.  What the blocks contain is fixed for a run, but arbitrary.
-/

import HyperspaceLight.Relay.Reads
import HyperspaceLight.Cosmos.TrackedClient
import HyperspaceLight.Interaction.Interleaving
import Mathlib.Logic.Function.Basic

namespace HyperspaceLight

open Interaction

/-- The two chains: their names and their blocks, those to come included. -/
structure Chains where
  network : Side → String
  blocks : Side → ℕ → BlockResults
  lightBlock : Side → ℕ → LightBlock
  lightBlock_height : ∀ s n, (lightBlock s n).signedHeader.height = n

/-- The revision number of a chain. -/
def Chains.revision [Crates] (X : Chains) (s : Side) : ℕ := Crates.chainVersion (X.network s)

/-- The events of a chain in the blocks above `c` up to `l`. -/
def Chains.events [Crates] (X : Chains) (s : Side) (c l : ℕ) : List IbcEventWithHeight :=
  chainEvents (X.revision s) (X.blocks s) c l

/-- The relayer: a client for each chain, and how often its loops may go round. -/
structure Relayer where
  client : Side → CosmosClient
  client_side : ∀ s, (client s).side = s
  fuel : ℕ

/-- The chain of a side, as the relay loop gets it. -/
def Relayer.chain [Crates] (R : Relayer) (s : Side) : Chain Net := (R.client s).chain R.fuel

/-! ### Nodes -/

/-- A transaction a node has received, with its result once it is in a block. -/
structure Tx where
  messages : List Any
  result : Option DeliverTx

/-- A message that was executed, when and in which block. -/
structure Executed where
  msg : Msg
  time : Time
  height : ℕ

/-- What a node knows.  Its light clients track the other chain, in one revision. -/
structure NodeState where
  height : ℕ
  clients : ClientId → TrackedClient ℕ
  channels : PortId → ChannelId → Option ChannelEnd
  connections : ConnectionId → Option ConnectionEnd
  txs : List Tx
  executed : List Executed

namespace NodeState

/-- A message is executed; an update stores a consensus state at its header's height. -/
def exec (n : NodeState) (now : Time) (m : Msg) : NodeState :=
  { n with
    clients := match m with
      | .updateClient u => Function.update n.clients u.clientId
          ((n.clients u.clientId).update u.header.signedHeader.height)
      | _ => n.clients
    executed := n.executed ++ [⟨m, now, n.height⟩] }

def execAll (n : NodeState) (now : Time) (ms : List Msg) : NodeState :=
  ms.foldl (fun n m => n.exec now m) n

/-- A transaction gets its result; if it succeeds, its messages are executed. -/
def commit (n : NodeState) (now : Time) (i : ℕ) (tx : Tx) (result : DeliverTx) : NodeState :=
  let n' := { n with txs := n.txs.set i { tx with result := some result } }
  if result.code = 0 then n'.execAll now (tx.messages.map Any.msg) else n'

/-- A message makes no block. -/
@[simp] theorem exec_height (n : NodeState) (now : Time) (m : Msg) :
    (n.exec now m).height = n.height := rfl

/-- A message is no transaction. -/
@[simp] theorem exec_txs (n : NodeState) (now : Time) (m : Msg) :
    (n.exec now m).txs = n.txs := rfl

/-- A message takes nothing from a client. -/
theorem exec_clients_extend (n : NodeState) (now : Time) (m : Msg) (id : ClientId) :
    ((n.exec now m).clients id).Extends (n.clients id) := by
  cases m with
  | updateClient u =>
      by_cases hid : id = u.clientId
      · subst hid
        simp only [exec, Function.update_self]
        exact TrackedClient.update_extends _ _
      · simp only [exec, Function.update_of_ne hid]
        exact .rfl
  | _ => exact .rfl

/-- An update is on record. -/
theorem exec_consensus (n : NodeState) (now : Time) (u : MsgUpdateClient) :
    u.header.signedHeader.height ∈
      ((n.exec now (.updateClient u)).clients u.clientId).consensus := by
  simp only [exec, Function.update_self, TrackedClient.update_consensus]
  exact List.mem_cons_self ..

/-- Messages make no block. -/
@[simp] theorem execAll_height (n : NodeState) (now : Time) (ms : List Msg) :
    (n.execAll now ms).height = n.height := by
  induction ms generalizing n with
  | nil => rfl
  | cons m ms ih => exact ih (n.exec now m)

/-- Messages are no transactions. -/
@[simp] theorem execAll_txs (n : NodeState) (now : Time) (ms : List Msg) :
    (n.execAll now ms).txs = n.txs := by
  induction ms generalizing n with
  | nil => rfl
  | cons m ms ih => exact ih (n.exec now m)

/-- Messages take nothing from a client. -/
theorem execAll_clients_extend (n : NodeState) (now : Time) (ms : List Msg) (id : ClientId) :
    ((n.execAll now ms).clients id).Extends (n.clients id) := by
  induction ms generalizing n with
  | nil => exact .rfl
  | cons m ms ih => exact (ih (n.exec now m)).trans (n.exec_clients_extend now m id)

/-- **Every update among the messages is on record.** -/
theorem execAll_consensus (n : NodeState) (now : Time) {ms : List Msg} {u : MsgUpdateClient}
    (h : .updateClient u ∈ ms) :
    u.header.signedHeader.height ∈ ((n.execAll now ms).clients u.clientId).consensus := by
  induction ms generalizing n with
  | nil => cases h
  | cons m ms ih =>
      rcases List.mem_cons.mp h with rfl | h
      · exact ((n.exec now _).execAll_clients_extend now ms _).consensus_subset
          (n.exec_consensus now u)
      · exact ih (n.exec now m) h

/-- A transaction makes no block. -/
@[simp] theorem commit_height (n : NodeState) (now : Time) (i : ℕ) (tx : Tx) (r : DeliverTx) :
    (n.commit now i tx r).height = n.height := by
  unfold commit
  split_ifs <;> simp

/-- A transaction gets its result. -/
@[simp] theorem commit_txs (n : NodeState) (now : Time) (i : ℕ) (tx : Tx) (r : DeliverTx) :
    (n.commit now i tx r).txs = n.txs.set i { tx with result := some r } := by
  unfold commit
  split_ifs <;> simp

/-- A transaction takes nothing from a client. -/
theorem commit_clients_extend (n : NodeState) (now : Time) (i : ℕ) (tx : Tx) (r : DeliverTx)
    (id : ClientId) : ((n.commit now i tx r).clients id).Extends (n.clients id) := by
  unfold commit
  split_ifs
  · exact execAll_clients_extend _ now _ id
  · exact .rfl

end NodeState

/-! ### The world -/

/-- A question on record: the event the relayer was at, the node it asked and the
height of that node. -/
structure Asked where
  event : Option IbcEventWithHeight
  side : Side
  op : NodeOp
  height : ℕ

/-- A batch on record: the source of the iteration, the node that got the batch, the
heights its clients had consensus states at, and what the iteration had asked. -/
structure Submission where
  source : Side
  sink : Side
  messages : List Any
  known : ClientId → List ℕ
  trace : List Asked

/-- The state of both nodes, and the record of the relayer: the source of the current
iteration and what it has asked, the event it is at, the events it has processed and
the batches it has submitted. -/
structure World where
  nodes : Side → NodeState
  now : Time
  source : Side
  trace : List Asked
  current : Option IbcEventWithHeight
  processed : List (Side × IbcEventWithHeight)
  submissions : List Submission

namespace World

/-- The height of a node. -/
def height (w : World) (s : Side) : ℕ := (w.nodes s).height

def setNode (w : World) (s : Side) (n : NodeState) : World :=
  { w with nodes := Function.update w.nodes s n }

/-- The node is set. -/
theorem setNode_self (w : World) (s : Side) (n : NodeState) : (w.setNode s n).nodes s = n :=
  Function.update_self ..

/-- The other node stays. -/
theorem setNode_of_ne (w : World) {s t : Side} (h : t ≠ s) (n : NodeState) :
    (w.setNode s n).nodes t = w.nodes t :=
  Function.update_of_ne h ..

/-- A node receives a transaction of the relayer. -/
def broadcast (w : World) (s : Side) (messages : List Any) : World :=
  { w.setNode s { w.nodes s with txs := (w.nodes s).txs ++ [⟨messages, none⟩] } with
    submissions := w.submissions ++
      [⟨w.source, s, messages, fun id => ((w.nodes s).clients id).consensus, w.trace⟩] }

/-- What the calls of the relayer leave behind. -/
def after (w : World) : NetOp → World
  | .node s (.broadcastTxSync _ messages) => w.broadcast s messages
  | .node s op => { w with trace := w.trace ++ [⟨w.current, s, op, w.height s⟩] }
  | .log (.processing ev) =>
      { w with current := some ev, processed := w.processed ++ [(w.source, ev)] }
  | .now => w
  | .sleep _ => w

/-- The start of an iteration. -/
def start (w : World) (s : Side) : World :=
  { w with source := s, trace := [], current := none }

/-- The proof height of a gRPC answer is the height of the node. -/
def ProofHeight [Crates] (X : Chains) (w : World) (s : Side) (h : Option RawHeight) : Prop :=
  h = some ⟨X.revision s, w.height s⟩

/-- The transactions found by a search are in a block, with these results. -/
def Found (w : World) (s : Side) (hash : TransactionId) (txs : List TxResponse) : Prop :=
  ∀ t ∈ txs, t.hash = hash ∧
    ∃ tx, (w.nodes s).txs[hash]? = some tx ∧ tx.result = some t.txResult

/-- The answer `r` to a call is true of the nodes. -/
def Honest [Crates] (X : Chains) (w : World) : (o : Net.Op) → Net.Res o → Prop
  | .node s .status, r => r.network = X.network s ∧ r.latestBlockHeight = w.height s
  | .node s (.blockResults n), r => n ≤ w.height s ∧ r = X.blocks s n
  | .node s (.lightBlock .highest), r => r = X.lightBlock s (w.height s)
  | .node s (.lightBlock (.at n)), r => n ≤ w.height s ∧ r = X.lightBlock s n
  | .node s (.txSearch hash), r => w.Found s hash r
  | .node s (.broadcastTxSync _ _), r => r = (w.nodes s).txs.length
  | .node s (.clientState id), r => w.ProofHeight X s r.proofHeight ∧
      ∃ cs : ClientState, r.value = some (.ok cs) ∧
        cs.latestHeight.revisionHeight = ((w.nodes s).clients id).latest
  | .node s (.connection id), r => w.ProofHeight X s r.proofHeight ∧
      r.value = ((w.nodes s).connections id).map .ok
  | .node s (.channel p c), r => w.ProofHeight X s r.proofHeight ∧
      r.value = ((w.nodes s).channels p c).map .ok
  | .node s (.packetCommitment _ _ _), r => w.ProofHeight X s r.proofHeight
  | .node s (.packetAcknowledgement _ _ _), r => w.ProofHeight X s r.proofHeight
  | _, _ => True

end World

/-- What happens between the calls of the relayer.  Others execute messages only where
`foreign` holds. -/
inductive Tick (foreign : Prop) : World → World → Prop
  | time {w : World} (t : Time) (h : w.now ≤ t) : Tick foreign w { w with now := t }
  | block {w : World} (s : Side) :
      Tick foreign w (w.setNode s { w.nodes s with height := (w.nodes s).height + 1 })
  | commit {w : World} (s : Side) (i : ℕ) (tx : Tx) (r : DeliverTx)
      (htx : (w.nodes s).txs[i]? = some tx) (hpending : tx.result = none) :
      Tick foreign w (w.setNode s ((w.nodes s).commit w.now i tx r))
  | others {w : World} (hforeign : foreign) (s : Side) (ms : List Msg) :
      Tick foreign w (w.setNode s ((w.nodes s).execAll w.now ms))
  | channels {w : World} (s : Side) (channels : PortId → ChannelId → Option ChannelEnd)
      (connections : ConnectionId → Option ConnectionEnd) :
      Tick foreign w (w.setNode s { w.nodes s with channels, connections })

section

variable [Crates] (X : Chains) (R : Relayer) (foreign : Prop)

/-- The environment of the relayer: any call may fail. -/
def relayEnv : Env Net Error World where
  tick := Tick foreign
  answer w o r w' := w' = w.after o ∧ ∀ a, r = .ok a → w.Honest X o a

/-- The relay loop: any finality event of either chain starts an iteration. -/
def relayLoop : Loop Net Error World where
  env := relayEnv X foreign
  start w p w' := ∃ s finalityEvent, w' = w.start s ∧
    p = processFinalityEvent R.fuel (R.chain s) (R.chain s.other) finalityEvent

end

end HyperspaceLight
