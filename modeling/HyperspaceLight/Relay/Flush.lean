/-
# Flushing to a Cosmos chain

`flush_message_batch` splits a batch by the weight that the sink estimates, but a
Cosmos chain has no weight for a batch that does not fit into one transaction: its
estimate fails, the flush fails with it, and nothing is submitted.  So a flush sends
exactly the batches that need no splitting (`sends_iff`).
-/

import HyperspaceLight.Cosmos.Weight
import HyperspaceLight.Relay.Reads

namespace HyperspaceLight

open Interaction

/-! ### Submitted transactions -/

/-- A transaction that a node has accepted: its bytes and its messages. -/
def accepted : Exchange Net Error → Option (Bytes × List Any)
  | ⟨.node _ (.broadcastTxSync tx messages), .ok _⟩ => some (tx, messages)
  | _ => none

/-- The transactions of a run, in order. -/
def submitted (t : List (Exchange Net Error)) : List (Bytes × List Any) := t.filterMap accepted

/-- What two parts of a run submit is what both submit. -/
theorem submitted_append (t t' : List (Exchange Net Error)) :
    submitted (t ++ t') = submitted t ++ submitted t' :=
  List.filterMap_append

/-- A run that only reads submits nothing. -/
theorem submitted_of_reads {t : List (Exchange Net Error)} (h : ∀ x ∈ t, Passive x.1) :
    submitted t = [] := by
  refine List.filterMap_eq_nil_iff.mpr fun x hx => ?_
  have hpassive := h x hx
  unfold accepted
  split
  · exact hpassive.elim
  · rfl

/-- A part that reads submits nothing. -/
theorem submitted_nil {α : Type} {p : Prog Net Error α} {t : List (Exchange Net Error)}
    {o : Outcome Error α} (h : p.Path t o) (hp : p.Asks (fun _ _ => True) Reads) :
    submitted t = [] :=
  submitted_of_reads fun x hx => passive_iff.mpr (.inl (h.asks hp x hx))

/-! ### A node that serves -/

/-- Every call of a flush succeeds: the account is `info`, a transaction that is found
has succeeded, and no wait is longer than thirty seconds. -/
def RpcSucceeds (info : BaseAccount) (since : Time) :
    (o : Net.Op) → Except Error (Net.Res o) → Prop
  | .node _ .connect, r => r = .ok ()
  | .node _ (.account _), r => r = .ok (some (.ok info))
  | .node _ (.broadcastTxSync _ _), r => ∃ hash, r = .ok hash
  | .node _ (.txSearch _), r => ∃ txs : List TxResponse, r = .ok txs ∧
      ∀ tx ∈ txs, tx.txResult.code = 0
  | .now, r => ∃ now : Time, r = .ok now ∧ since ≤ now ∧ now ≤ since + confirmTimeout
  | .sleep _, r => r = .ok ()
  | _, _ => True

/-- The account is answered. -/
theorem RpcSucceeds.account {info : BaseAccount} {since : Time} {o : Net.Op}
    {r : Except Error (Net.Res o)} (h : RpcSucceeds info since o r) : AccountAnswered info o r := by
  cases o with
  | node s op => cases op <;> first | exact h | trivial
  | _ => trivial

section

variable {info : BaseAccount} {since : Time} {self : CosmosClient} {fuel : ℕ}

/-- A call that is answered is safe. -/
theorem Side.ask_safe {A : (o : Net.Op) → Except Error (Net.Res o) → Prop} {s : Side} {op : NodeOp}
    {context : Error → Error} (h : ∀ r, A (.node s op) r → ∃ a, r = .ok a) :
    (s.ask op context).Safe A :=
  (Prog.safe_ask (S := Net) h).mapErr

/-- The account is found. -/
theorem queryAccount_safe : self.queryAccount.Safe (RpcSucceeds info since) := by
  refine (Side.ask_safe fun r hr => ⟨_, hr⟩).bind fun _ _ => ?_
  refine (Side.ask_safe fun r hr => ⟨_, hr⟩).bind fun account haccount => ?_
  have hsome : account = some (.ok info) := Except.ok.inj (Side.leaf_ask_ok.mp haccount)
  rw [hsome]
  exact Prog.safe_pure info

/-- A round of the confirmation does not time out. -/
theorem confirmTxStep_safe {s : Side} {hash : TransactionId} {start : Time} (hstart : since ≤ start) :
    (confirmTxStep s hash start).Safe (RpcSucceeds info since) := by
  refine (Side.ask_safe fun r hr => ⟨_, hr.choose_spec.1⟩).bind fun txs _ => ?_
  split
  · exact Prog.safe_pure _
  · refine (Prog.safe_ask (S := Net) fun r hr => ⟨_, hr.choose_spec.1⟩).bind
      fun (now : Time) hnow => ?_
    obtain ⟨now', hnow', -, hlate⟩ := (Prog.leaf_ask_ok (S := Net)).mp hnow
    have heq : now = now' := Except.ok.inj hnow'
    have helapsed : ¬confirmTimeout < now - start := by
      rw [heq, Nat.not_lt, Nat.sub_le_iff_le_add]
      exact hlate.trans ((Nat.add_le_add_right hstart _).trans_eq (Nat.add_comm _ _))
    dsimp only
    rw [if_neg helapsed]
    exact (Prog.safe_ask (S := Net) fun r hr => ⟨_, hr⟩).bind fun _ _ => Prog.safe_pure _

/-- A round of the confirmation ends with a transaction that was found. -/
theorem confirmTxStep_found {A : (o : Net.Op) → Except Error (Net.Res o) → Prop} {s : Side}
    {hash : TransactionId} {start : Time} {response : TxResponse}
    (h : (confirmTxStep s hash start).Leaf A (.ok (some response))) :
    ∃ txs : List TxResponse, A (.node s (.txSearch hash)) (.ok txs) ∧ response ∈ txs := by
  obtain ⟨txs, htxs, h⟩ := Prog.leaf_bind_ok.mp h
  refine ⟨txs, Side.leaf_ask_ok.mp htxs, ?_⟩
  split at h
  · next found hfound =>
      obtain rfl := Option.some.inj (Outcome.ok.inj h)
      exact List.mem_of_mem_head? hfound
  · obtain ⟨now, -, h⟩ := Prog.leaf_bind_ok.mp h
    dsimp only at h
    split_ifs at h
    · cases h
    · obtain ⟨_, -, h⟩ := Prog.leaf_bind_ok.mp h
      cases h

/-- A transaction is confirmed without an error. -/
theorem confirmTx_safe {s : Side} {hash : TransactionId} :
    (confirmTx fuel s hash).Safe (RpcSucceeds info since) := by
  refine (Prog.safe_ask (S := Net) fun r hr => ⟨_, hr.choose_spec.1⟩).bind fun start hstart => ?_
  obtain ⟨start', hstart', hle, -⟩ := (Prog.leaf_ask_ok (S := Net)).mp hstart
  obtain rfl : start = start' := Except.ok.inj hstart'
  refine (Prog.Safe.repeatUntil (confirmTxStep_safe hle) fuel).bind fun response hresponse => ?_
  obtain ⟨txs, ⟨txs', htxs', hcode⟩, hmem⟩ :=
    confirmTxStep_found (Prog.leaf_repeatUntil hresponse)
  obtain rfl : txs = txs' := Except.ok.inj htxs'
  rw [Prog.require, if_pos (hcode response hmem)]
  exact Prog.safe_pure _

variable [Crates] {n : ℕ} {messages : List Any}

/-- A batch is submitted without an error. -/
theorem submitCall_safe (hkey : Signs self.keybase n) :
    (self.submitCall fuel messages).Safe (RpcSucceeds info since) := by
  refine queryAccount_safe.bind fun account _ => ?_
  obtain ⟨signature, -, hsign⟩ := signTx_eq hkey self.chainId account messages
  rw [hsign, Prog.pure_bind']
  refine Prog.Safe.bind (Side.ask_safe fun r hr => hr) fun hash _ => ?_
  exact confirmTx_safe

/-- **What a submission submits**: one transaction, of the messages. -/
theorem submitCall_path (hkey : Signs self.keybase n) {t : List (Exchange Net Error)}
    {hash : TransactionId} (ht : ∀ x ∈ t, RpcSucceeds info since x.1 x.2)
    (h : (self.submitCall fuel messages).Path t (.ok hash)) :
    ∃ tx, submitted t = [(tx, messages)] ∧
      tx.length = enveloped (envelope self.keybase info n) (bodyLen messages) := by
  obtain ⟨t₁, t₂, account, rfl, haccount, h⟩ := Prog.path_bind_ok.mp h
  -- the account is the one the node answers
  have hinfo : account = info := by
    have hleaf := haccount.leaf_of (A := AccountAnswered info) fun x hx => ?_
    · exact Outcome.ok.inj (queryAccount_leaf.mp hleaf)
    · exact (ht x (List.mem_append_left _ hx)).account
  obtain ⟨signature, rfl, hsign⟩ := signTx_eq hkey self.chainId account messages
  rw [hsign, Prog.pure_bind'] at h
  obtain ⟨t₂, t₃, hash', rfl, hbroadcast, h⟩ := Prog.path_bind_ok.mp h
  refine ⟨(encodeTx (encodeTxBody messages).2 (authInfoBytes self.keybase account) signature).2,
    ?_, by rw [encodeTx_length, hinfo]⟩
  rw [submitted_append, submitted_append, submitted_nil haccount queryAccount_reads,
    submitted_nil h confirmTx_reads]
  have hasked := Side.path_ask_ok.mp hbroadcast
  rw [hasked]
  rfl

/-! ### The flush -/

/-- **What a flush to a Cosmos chain computes.**  A batch that fits is submitted in one
piece: its weight is below the maximum. -/
theorem flushMessageBatch_eq (hkey : Signs self.keybase n) (hmax : 0 < self.maxTxSize) :
    flushMessageBatch messages (self.chain fuel) = self.queryAccount >>= fun info =>
      if Fits self info n messages then
        if bodyLen messages < self.maxTxSize then submitBatch (self.chain fuel) messages
        else pure ()
      else .fail (.custom "Too many messages") := by
  show (self.estimateWeight messages >>= fun batchWeight => u64Div batchWeight self.maxTxSize >>=
    fun ratio => if ratio = 0 then submitBatch (self.chain fuel) messages
      else chunkSize ratio >>= fun chunk => (chunks chunk messages).foldlM
        (fun _ batch => submitBatch (self.chain fuel) batch) ()) = _
  rw [estimateWeight_eq hkey, bind_assoc]
  refine congrArg (self.queryAccount >>= ·) (funext fun info => ?_)
  split_ifs with hfits hweight
  · rw [Prog.pure_bind', u64Div, if_pos hmax.ne', Prog.pure_bind',
      if_pos (Nat.div_eq_of_lt hweight)]
  · -- only an empty batch can weigh as much as a whole transaction
    have hempty : messages = [] := by
      rcases hfits with h | ⟨-, h⟩
      · exact h
      · unfold enveloped at h
        omega
    have hratio : bodyLen messages / self.maxTxSize ≠ 0 :=
      (Nat.div_pos (Nat.not_lt.mp hweight) hmax).ne'
    have hfits : bodyLen messages / self.maxTxSize + 2 < u64Bound := by
      have hbody : bodyLen [] + 2 < u64Bound := by decide
      have hdiv : bodyLen messages / self.maxTxSize ≤ bodyLen messages := Nat.div_le_self _ _
      rw [hempty] at hdiv ⊢
      omega
    rw [Prog.pure_bind', u64Div, if_pos hmax.ne', Prog.pure_bind', if_neg hratio, chunkSize_eq,
      if_pos hfits, hempty]
    rfl
  · rfl

/-- **A submitted batch is one transaction**, as long as computed. -/
theorem submitBatch_path (hkey : Signs self.keybase n) {t : List (Exchange Net Error)}
    (ht : ∀ x ∈ t, RpcSucceeds info since x.1 x.2)
    (h : (submitBatch (self.chain fuel) messages).Path t (.ok ())) :
    ∃ tx, submitted t = [(tx, messages)] ∧
      tx.length = enveloped (envelope self.keybase info n) (bodyLen messages) := by
  obtain ⟨t₁, t₂, hash, rfl, hsubmit, h⟩ := Prog.path_bind_ok.mp h
  obtain ⟨rfl, -⟩ := Prog.path_pure.mp h
  rw [List.append_nil] at ht ⊢
  exact submitCall_path hkey ht hsubmit

omit [Crates] in
/-- The account of a run is the one the node answers. -/
theorem queryAccount_info {t : List (Exchange Net Error)} {account : BaseAccount}
    (ht : ∀ x ∈ t, RpcSucceeds info since x.1 x.2)
    (h : self.queryAccount.Path t (.ok account)) : account = info :=
  Outcome.ok.inj (queryAccount_leaf.mp (h.leaf_of fun x hx => (ht x hx).account))

/-- **A flush that fits succeeds.** -/
theorem flushMessageBatch_safe (hkey : Signs self.keybase n) (hmax : 0 < self.maxTxSize)
    (hfits : Fits self info n messages) :
    (flushMessageBatch messages (self.chain fuel)).Safe (RpcSucceeds info since) := by
  rw [flushMessageBatch_eq hkey hmax]
  refine queryAccount_safe.bind fun account haccount => ?_
  obtain rfl : account = info := Outcome.ok.inj
    (queryAccount_leaf.mp (haccount.mono fun _ _ => RpcSucceeds.account))
  rw [if_pos hfits]
  split_ifs
  · exact (submitCall_safe hkey).bind fun _ _ => Prog.safe_pure _
  · exact Prog.safe_pure _

/-- **What a flush that returns has submitted.** -/
theorem flushMessageBatch_path (hkey : Signs self.keybase n) (hmax : 0 < self.maxTxSize)
    {t : List (Exchange Net Error)} (ht : ∀ x ∈ t, RpcSucceeds info since x.1 x.2)
    (h : (flushMessageBatch messages (self.chain fuel)).Path t (.ok ())) :
    Fits self info n messages ∧
      if bodyLen messages < self.maxTxSize then
        ∃ tx, submitted t = [(tx, messages)] ∧
          tx.length = enveloped (envelope self.keybase info n) (bodyLen messages)
      else submitted t = [] := by
  rw [flushMessageBatch_eq hkey hmax] at h
  obtain ⟨t₁, t₂, account, rfl, haccount, h⟩ := Prog.path_bind_ok.mp h
  obtain rfl := queryAccount_info (fun x hx => ht x (List.mem_append_left _ hx)) haccount
  rw [submitted_append, submitted_nil haccount queryAccount_reads, List.nil_append]
  by_cases hfits : Fits self account n messages
  · rw [if_pos hfits] at h
    refine ⟨hfits, ?_⟩
    split_ifs at h ⊢
    · exact submitBatch_path hkey (fun x hx => ht x (List.mem_append_right _ hx)) h
    · obtain ⟨rfl, -⟩ := Prog.path_pure.mp h
      rfl
  · rw [if_neg hfits] at h
    exact nomatch h.2

/-- The submitted transactions hold the messages, once each and in order, and are not
too long. -/
structure SentAll (sink : CosmosClient) (messages : List Any) (t : List (Exchange Net Error)) :
    Prop where
  in_order : (submitted t).flatMap (fun tx => tx.2) = messages
  size_le : ∀ tx ∈ submitted t, tx.1.length ≤ sink.maxTxSize
  count_le : ∀ tx ∈ submitted t, tx.2.length ≤ 30

/-- **The batch is sent**: where every call succeeds, the flush does not fail, and it
has submitted the batch when it returns; and it does return. -/
def Sends (self : CosmosClient) (fuel : ℕ) (info : BaseAccount) (since : Time)
    (messages : List Any) : Prop :=
  (∀ t o, (flushMessageBatch messages (self.chain fuel)).Path t o →
    (∀ x ∈ t, RpcSucceeds info since x.1 x.2) →
      o = .spin ∨ o = .ok () ∧ SentAll self messages t) ∧
  ∃ t, (∀ x ∈ t, RpcSucceeds info since x.1 x.2) ∧
    (flushMessageBatch messages (self.chain fuel)).Path t (.ok ())

/-- Nodes that serve at once. -/
def promptAnswer (info : BaseAccount) (since : Time) : (o : Net.Op) → Except Error (Net.Res o)
  | .node _ .connect => .ok ()
  | .node _ (.account _) => .ok (some (.ok info))
  | .node _ (.broadcastTxSync _ _) => .ok (0 : TransactionId)
  | .node _ (.txSearch hash) => .ok [(⟨hash, ⟨0, "", []⟩⟩ : TxResponse)]
  | .now => .ok since
  | .sleep _ => .ok ()
  | _ => .error (.external "unavailable")

omit [Crates] in
/-- The example node answers every call. -/
theorem promptAnswer_succeeds (o : Net.Op) : RpcSucceeds info since o (promptAnswer info since o) := by
  cases o with
  | node s op =>
      cases op with
      | txSearch hash => exact ⟨_, rfl, fun tx htx => by rw [List.mem_singleton.mp htx]⟩
      | broadcastTxSync tx messages => exact ⟨_, rfl⟩
      | _ => first | exact rfl | trivial
  | now => exact ⟨since, rfl, le_rfl, Nat.le_add_right _ _⟩
  | sleep d => exact rfl
  | log line => trivial

/-- The example node takes a batch. -/
theorem submitCall_eval (hkey : Signs self.keybase n) :
    (self.submitCall (fuel + 1) messages).eval (promptAnswer info since) = .ok 0 := by
  have haccount : self.queryAccount.eval (promptAnswer info since) = .ok info := rfl
  refine (Prog.eval_bind_ok haccount).trans ?_
  obtain ⟨signature, -, hsign⟩ := signTx_eq hkey self.chainId info messages
  rw [hsign]
  rfl

/-- The example node takes a flush that fits. -/
theorem flushMessageBatch_eval (hkey : Signs self.keybase n) (hmax : 0 < self.maxTxSize)
    (hfits : Fits self info n messages) :
    (flushMessageBatch messages (self.chain (fuel + 1))).eval (promptAnswer info since) =
      .ok () := by
  have haccount : self.queryAccount.eval (promptAnswer info since) = .ok info := rfl
  rw [flushMessageBatch_eq hkey hmax, Prog.eval_bind_ok haccount, if_pos hfits]
  split_ifs
  · exact (Prog.eval_bind_ok (submitCall_eval hkey)).trans rfl
  · rfl

end

/-- **A batch is sent exactly if it needs no splitting.**  For every client with a key
that signs, a maximal size above zero and at least one round of waiting, every account
and every list of messages: the flush sends the messages if and only if there are at
most thirty and one transaction of at most `max_tx_size` bytes holds them all, or if
there are none and no size for them either, when nothing is submitted. -/
theorem sends_iff [Crates] (self : CosmosClient) (fuel : ℕ) (info : BaseAccount) (since : Time)
    (n : ℕ) (messages : List Any) (hkey : Signs self.keybase n) (hmax : 0 < self.maxTxSize)
    (hfuel : 0 < fuel) :
    Sends self fuel info since messages ↔
      messages.length ≤ 30 ∧
          enveloped (envelope self.keybase info n) (bodyLen messages) ≤ self.maxTxSize ∨
        messages = [] ∧ self.maxTxSize ≤ bodyLen [] := by
  constructor
  · rintro ⟨hall, t, ht, hpath⟩
    obtain ⟨hfits, hsubmitted⟩ := flushMessageBatch_path hkey hmax ht hpath
    rcases hall t _ hpath ht with h | ⟨-, hsent⟩
    · cases h
    split_ifs at hsubmitted with hweight
    · obtain ⟨tx, htx, hlength⟩ := hsubmitted
      have hmem : (tx, messages) ∈ submitted t := htx ▸ List.mem_singleton_self _
      exact .inl ⟨hsent.count_le _ hmem, hlength ▸ hsent.size_le _ hmem⟩
    · have hempty : messages = [] := by
        rw [← hsent.in_order, hsubmitted, List.flatMap_nil]
      exact .inr ⟨hempty, hempty ▸ Nat.not_lt.mp hweight⟩
  · intro hcond
    have hfits : Fits self info n messages := hcond.elim .inr fun h => .inl h.1
    obtain ⟨fuel, rfl⟩ : ∃ k, fuel = k + 1 := ⟨fuel - 1, by omega⟩
    refine ⟨fun t o hpath ht => ?_, ?_⟩
    · rcases flushMessageBatch_safe hkey hmax hfits o (hpath.leaf_of ht) with rfl | ⟨u, rfl⟩
      · exact .inl rfl
      · refine .inr ⟨rfl, ?_⟩
        obtain ⟨-, hsubmitted⟩ := flushMessageBatch_path hkey hmax ht hpath
        rcases hcond with ⟨hcount, hlength⟩ | ⟨rfl, hweight⟩
        · have hweight : bodyLen messages < self.maxTxSize := by
            unfold enveloped at hlength
            omega
          rw [if_pos hweight] at hsubmitted
          obtain ⟨tx, htx, htxlength⟩ := hsubmitted
          refine ⟨by rw [htx, List.flatMap_singleton], fun tx' htx' => ?_, fun tx' htx' => ?_⟩
          · rw [htx, List.mem_singleton] at htx'
            rw [htx', htxlength]
            exact hlength
          · rw [htx, List.mem_singleton] at htx'
            rw [htx']
            exact hcount
        · rw [if_neg (Nat.not_lt.mpr hweight)] at hsubmitted
          refine ⟨by rw [hsubmitted, List.flatMap_nil], fun tx' htx' => ?_, fun tx' htx' => ?_⟩ <;>
            · rw [hsubmitted] at htx'
              cases htx'
    · refine ⟨_, fun x hx => ?_, flushMessageBatch_eval hkey hmax hfits ▸ Prog.path_eval
        (promptAnswer info since) _⟩
      rw [Prog.exchanges_answer x hx]
      exact promptAnswer_succeeds x.1

/-- The hypotheses of `sends_iff` can be met. -/
theorem twoMessages_sent :
    @Sends Crates.reference (cosmosClient .b client0) 1 ⟨1, 1⟩ 0 twoMessages := by
  let _ := Crates.reference
  exact (sends_iff (cosmosClient .b client0) 1 ⟨1, 1⟩ 0 64 twoMessages (signs_reference _)
    (by decide) (by decide)).mpr (.inl ⟨by decide, by decide +kernel⟩)

/-- **Thirty-one small messages are not sent**, though each alone fits: no run of the flush
returns. -/
theorem thirtyOne_not_sent :
    (∀ m ∈ List.replicate 31 smallMessage,
      enveloped (envelope (cosmosClient .b client0).keybase ⟨1, 1⟩ 64) (bodyLen [m]) ≤
        (cosmosClient .b client0).maxTxSize) ∧
    ¬@Sends Crates.reference (cosmosClient .b client0) 1 ⟨1, 1⟩ 0
      (List.replicate 31 smallMessage) := by
  let _ := Crates.reference
  refine ⟨fun m hm => ?_, fun ⟨_, t, ht, hpath⟩ => ?_⟩
  · rw [List.eq_of_mem_replicate hm]
    decide
  · obtain ⟨hfits, -⟩ := flushMessageBatch_path (signs_reference _) (by decide) ht hpath
    exact absurd (hfits.elim (fun h => nomatch h) fun h => h.1) (by decide)

end HyperspaceLight
