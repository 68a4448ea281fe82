/-
# What a Cosmos node is asked

The calls that `src/cosmos` makes: Tendermint RPC (`HttpClient`, and `ProdIo` for
light blocks), gRPC queries, the clock, and the log.  Two nodes are asked, one
for each chain of the relayer, so a question of the signature `Net` names its
side.

A gRPC query of the source first connects and then sends its request: two
questions (`Side.grpc`).
-/

import HyperspaceLight.Cosmos.Events
import HyperspaceLight.Interaction.Trace
import HyperspaceLight.Primitives.Traits

namespace HyperspaceLight

open Interaction

/-- The two chains of a relayer. -/
inductive Side where
  | a
  | b
  deriving DecidableEq

def Side.other : Side → Side
  | a => b
  | b => a

/-- The other side of the other side is the side. -/
@[simp] theorem Side.other_other (s : Side) : s.other.other = s := by cases s <;> rfl

/-- `tendermint::abci::DeliverTx`. -/
structure DeliverTx where
  code : ℕ
  log : String
  events : List AbciEvent

/-- `endpoint::block_results::Response`. -/
structure BlockResults where
  beginBlockEvents : Option (List AbciEvent)
  txsResults : Option (List DeliverTx)
  endBlockEvents : Option (List AbciEvent)

/-- `endpoint::status::Response`. -/
structure Status where
  network : String
  catchingUp : Bool
  latestBlockHeight : ℕ
  latestBlockTime : Time

/-- `endpoint::abci_query::AbciQuery`; the proof operations are kept as bytes. -/
structure AbciQuery where
  code : ℕ
  log : String
  value : Bytes
  proof : Option Bytes

/-- `endpoint::tx::Response`. -/
structure TxResponse where
  hash : TransactionId
  txResult : DeliverTx

/-- A gRPC response with a proof height.  Its proof is not asked for, and is empty. -/
structure GrpcResponse (α : Type) where
  value : α
  proofHeight : Option RawHeight

/-- A page of sequences, and where the next page starts. -/
structure SequencePage where
  sequences : List ℕ
  nextKey : Option Bytes

/-- `cosmos::auth::v1beta1::BaseAccount`. -/
structure BaseAccount where
  accountNumber : ℕ
  sequence : ℕ

/-- `components::io::AtHeight`. -/
inductive AtHeight where
  | highest
  | at (height : ℕ)

/-- The calls to one node. -/
inductive NodeOp where
  | status
  | block (height : ℕ)
  | blockResults (height : ℕ)
  | lightBlock (height : AtHeight)
  | abciQuery (data : Bytes) (height : Option ℕ) (prove : Bool)
  /-- `broadcast_tx_sync`; `messages` is what the bytes of the transaction encode. -/
  | broadcastTxSync (tx : Bytes) (messages : List Any)
  | txSearch (hash : TransactionId)
  | blockSearch (portId : PortId) (channelId : ChannelId) (sequence : ℕ)
  /-- `QueryClient::connect`. -/
  | connect
  | account (address : String)
  | clientState (clientId : ClientId)
  | consensusState (clientId : ClientId) (revisionNumber revisionHeight : ℕ)
  | connection (connectionId : ConnectionId)
  | channel (portId : PortId) (channelId : ChannelId)
  | packetCommitment (portId : PortId) (channelId : ChannelId) (sequence : ℕ)
  | packetAcknowledgement (portId : PortId) (channelId : ChannelId) (sequence : ℕ)
  | nextSequenceReceive (portId : PortId) (channelId : ChannelId)
  | packetReceipt (portId : PortId) (channelId : ChannelId) (sequence : ℕ)
  | packetCommitments (portId : PortId) (channelId : ChannelId)
  | packetAcknowledgements (portId : PortId) (channelId : ChannelId)
  | unreceivedPackets (portId : PortId) (channelId : ChannelId) (sequences : List ℕ)
  | unreceivedAcks (portId : PortId) (channelId : ChannelId) (sequences : List ℕ)

/-- The answers to them. -/
def NodeOp.Res : NodeOp → Type
  | status => Status
  | block _ => Time
  | blockResults _ => BlockResults
  | lightBlock _ => LightBlock
  | abciQuery .. => AbciQuery
  | broadcastTxSync .. => TransactionId
  | txSearch _ => List TxResponse
  | blockSearch .. => Unit
  | connect => Unit
  | account _ => Option (Raw BaseAccount)
  | clientState _ => GrpcResponse (Option (Raw ClientState))
  | consensusState .. => GrpcResponse (Option (Raw ConsensusState))
  | connection _ => GrpcResponse (Option (Raw ConnectionEnd))
  | channel .. => GrpcResponse (Option (Raw ChannelEnd))
  | packetCommitment .. => GrpcResponse Bytes
  | packetAcknowledgement .. => GrpcResponse Bytes
  | nextSequenceReceive .. => GrpcResponse ℕ
  | packetReceipt .. => GrpcResponse Bool
  | packetCommitments .. => SequencePage
  | packetAcknowledgements .. => SequencePage
  | unreceivedPackets .. => List ℕ
  | unreceivedAcks .. => List ℕ

/-- The calls of the relayer. -/
inductive NetOp where
  | node (side : Side) (op : NodeOp)
  | now
  | sleep (duration : Duration)
  | log (line : LogLine)

/-- The answers to them. -/
def NetOp.Res : NetOp → Type
  | node _ op => op.Res
  | now => Time
  | sleep _ => Unit
  | log _ => Unit

/-- The signature of the relayer between two Cosmos chains. -/
abbrev Net : Sig := ⟨NetOp, NetOp.Res⟩

instance : Logger Net := ⟨fun line => .ask (S := Net) (.log line)⟩

/-- `Instant::now`. -/
def instantNow : Prog Net Error Time := .ask (S := Net) .now

/-- `tokio::time::sleep`. -/
def sleep (duration : Duration) : Prog Net Error Unit := .ask (S := Net) (.sleep duration)

/-- Ask the node of a side; `context` makes the error. -/
def Side.ask (s : Side) (op : NodeOp) (context : Error → Error) : Prog Net Error op.Res :=
  (Prog.ask (S := Net) (.node s op)).mapErr context

/-- `|e| Error::from(e.to_string())`. -/
def Error.ofDisplay (e : Error) : Error := .custom e.text

/-- A gRPC query: connect, then send the request. -/
def Side.grpc (s : Side) (op : NodeOp) : Prog Net Error op.Res := do
  s.ask .connect .ofDisplay
  s.ask op .ofDisplay

/-- `|e| Error::RpcError(format!("{:?}", e))`. -/
def Error.ofRpc (e : Error) : Error := .rpcError e.text

/-- `|e| Error::from(format!("{context}{:?}", e))`. -/
def Error.within (context : String) (e : Error) : Error := .custom (context ++ e.text)

/-- The largest `tendermint::block::Height`. -/
def TmHeight.last : ℕ := 2 ^ 63 - 1

/-- `TmHeight::try_from(u64)`. -/
def TmHeight.tryFrom {S : Sig} (height : ℕ) : Prog S Error ℕ :=
  if height ≤ TmHeight.last then pure height else .fail (.external "integer overflow")

/-- A height that is accepted is the height. -/
theorem TmHeight.tryFrom_returns {S : Sig} {A : (o : S.Op) → Except Error (S.Res o) → Prop}
    {height h : ℕ} (hr : (tryFrom height : Prog S Error ℕ).Leaf A (.ok h)) : h = height := by
  unfold tryFrom at hr
  split_ifs at hr
  · simpa [eq_comm] using hr
  · cases hr

/-- The conversion asks for nothing. -/
theorem TmHeight.tryFrom_asks {S : Sig} {A : (o : S.Op) → Except Error (S.Res o) → Prop}
    {C : S.Op → Prop} {height : ℕ} : (tryFrom height : Prog S Error ℕ).Asks A C := by
  unfold tryFrom
  split_ifs <;> trivial

/-- `TmHeight::increment`. -/
def TmHeight.increment {S : Sig} (height : ℕ) : Prog S Error ℕ :=
  (TmHeight.tryFrom (height + 1)).unwrap "height overflow"

/-- A call of a node returns its answer. -/
@[simp] theorem Side.leaf_ask_ok {A : (o : Net.Op) → Except Error (Net.Res o) → Prop} {s : Side}
    {op : NodeOp} {context : Error → Error} {r : op.Res} :
    (s.ask op context).Leaf A (.ok r) ↔ A (.node s op) (.ok r) :=
  Prog.leaf_mapErr_ok.trans Prog.leaf_ask_ok

/-- A call of a node is one exchange. -/
theorem Side.path_ask_ok {t : List (Exchange Net Error)} {s : Side} {op : NodeOp}
    {context : Error → Error} {r : op.Res} :
    (s.ask op context).Path t (.ok r) ↔ t = [⟨.node s op, .ok r⟩] :=
  Prog.path_mapErr_ok.trans Prog.path_ask_ok

/-- A gRPC call returns the answer to its second question. -/
theorem Side.leaf_grpc_ok {A : (o : Net.Op) → Except Error (Net.Res o) → Prop} {s : Side}
    {op : NodeOp} {r : op.Res} (h : (s.grpc op).Leaf A (.ok r)) : A (.node s op) (.ok r) := by
  obtain ⟨_, -, hop⟩ := Prog.leaf_bind_ok.mp h
  exact Side.leaf_ask_ok.mp hop

/-- A call of a node asks its question. -/
theorem Side.ask_asks {A : (o : Net.Op) → Except Error (Net.Res o) → Prop} {C : Net.Op → Prop}
    {s : Side} {op : NodeOp} {context : Error → Error} (h : C (.node s op)) :
    (s.ask op context).Asks A C :=
  ((Prog.asks_ask (S := Net) (.node s op)).mpr h).mapErr

/-- A gRPC call connects and asks its question. -/
theorem Side.grpc_asks {A : (o : Net.Op) → Except Error (Net.Res o) → Prop} {C : Net.Op → Prop}
    {s : Side} {op : NodeOp} (hconnect : C (.node s .connect)) (h : C (.node s op)) :
    (s.grpc op).Asks A C :=
  (Side.ask_asks hconnect).bind fun _ _ => Side.ask_asks h

end HyperspaceLight
