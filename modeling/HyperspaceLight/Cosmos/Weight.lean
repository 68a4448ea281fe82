/-
# The weight of a batch

`estimate_weight` signs an empty transaction, takes the length of what does not
depend on the messages from it (the envelope) and adds the messages one by one, each
with its tag and its length before it.  The sum is the length of the body that
`encode_tx_body` produces, and the test after each message is the test of the whole
transaction: a body never gets shorter, and neither does its length prefix
(`lengthDelimiterLen_mono`).
-/

import HyperspaceLight.Cosmos.Chain
import Mathlib.Algebra.BigOperators.Group.List.Basic

namespace HyperspaceLight

open Interaction

/-! ### Lengths -/

/-- A larger number is not written shorter. -/
theorem varintBytes_length_mono {fuel a b : ℕ} (h : a ≤ b) :
    (varintBytes fuel a).length ≤ (varintBytes fuel b).length := by
  induction fuel generalizing a b with
  | zero => exact le_rfl
  | succ fuel ih =>
      unfold varintBytes
      split_ifs with ha hb hb
      · exact le_rfl
      · simp
      · omega
      · simp only [List.length_cons]
        exact Nat.succ_le_succ (ih (Nat.div_le_div_right h))

/-- **A longer value has no shorter length prefix.** -/
theorem lengthDelimiterLen_mono {a b : ℕ} (h : a ≤ b) :
    lengthDelimiterLen a ≤ lengthDelimiterLen b :=
  varintBytes_length_mono h

/-- Below 128 a byte is enough. -/
theorem encodeVarint_length_one {n : ℕ} (h : n < 128) : (encodeVarint n).length = 1 := by
  rw [encodeVarint, varintBytes, if_pos h]
  rfl

/-- A field whose tag is one byte. -/
theorem encodeMessageField_length {tag : ℕ} (h : tag * 8 + 2 < 128) (value : Bytes) :
    (encodeMessageField tag value).length =
      1 + lengthDelimiterLen value.length + value.length := by
  rw [encodeMessageField, List.length_append, List.length_append, encodeVarint_length_one h,
    lengthDelimiterLen, Nat.add_assoc]

/-- What a message adds to the length of a body. -/
def taggedLen (any : Any) : ℕ :=
  1 + lengthDelimiterLen any.encode.length + any.encode.length

/-- The length of the body of a transaction. -/
def bodyLen (messages : List Any) : ℕ := (encodeTxBody messages).2.length

/-- The body is the messages, and the rest. -/
theorem encodeTxBody_append (messages : List Any) :
    (encodeTxBody messages).2 =
      messages.flatMap (fun any => encodeMessageField 1 any.encode) ++ (encodeTxBody []).2 := rfl

/-- The body is not empty. -/
theorem encodeTxBody_ne_nil (messages : List Any) : (encodeTxBody messages).2 ≠ [] := by
  rw [encodeTxBody_append]
  -- the memo is there without messages
  have hmemo : (encodeTxBody []).2 ≠ [] := by decide
  exact fun h => hmemo (List.append_eq_nil_iff.mp h).2

/-- **The length of a body is the sum of what the messages add.** -/
theorem bodyLen_eq (messages : List Any) :
    bodyLen messages = bodyLen [] + (messages.map taggedLen).sum := by
  induction messages with
  | nil => simp
  | cons m ms ih =>
      have hcons : bodyLen (m :: ms) = taggedLen m + bodyLen ms := by
        rw [bodyLen, encodeTxBody_append, List.flatMap_cons, List.append_assoc,
          ← encodeTxBody_append, List.length_append, encodeMessageField_length (by decide)]
        rfl
      rw [hcons, ih, List.map_cons, List.sum_cons]
      omega

/-! ### The loop -/

section Loop

variable {S : Sig} {self : CosmosClient}

/-- The length of a transaction with a body of `n` bytes. -/
def enveloped (envelopeLen n : ℕ) : ℕ := envelopeLen + 1 + lengthDelimiterLen n + n

/-- A longer body makes a longer transaction. -/
theorem enveloped_mono {envelopeLen a b : ℕ} (h : a ≤ b) :
    enveloped envelopeLen a ≤ enveloped envelopeLen b := by
  have := lengthDelimiterLen_mono h
  unfold enveloped
  omega

/-- One message. -/
theorem estimateWeightStep_eq {envelopeLen count len : ℕ} {any : Any} :
    (self.estimateWeightStep envelopeLen (count, len) any : Prog S Error (ℕ × ℕ)) =
      if count < 30 ∧ enveloped envelopeLen (len + taggedLen any) ≤ self.maxTxSize then
        pure (count + 1, len + taggedLen any)
      else .fail (.custom "Too many messages") := by
  have hne : len + taggedLen any ≠ 0 := by
    unfold taggedLen
    omega
  have hlen : (txLen envelopeLen (len + taggedLen any) : Prog S Error ℕ) =
      pure (enveloped envelopeLen (len + taggedLen any)) := by
    rw [txLen, if_pos hne]
    rfl
  unfold CosmosClient.estimateWeightStep
  dsimp only
  by_cases hcount : 30 ≤ count
  · rw [if_pos hcount, if_neg fun h => absurd h.1 (by omega)]
    rfl
  · have hstep : (txLen envelopeLen (len + taggedLen any) >>= fun n =>
        (pure (decide (self.maxTxSize < n)) : Prog S Error Bool) >>= fun tooLong =>
          if tooLong = true then .fail (.custom "Too many messages")
          else pure (count + 1, len + taggedLen any)) =
        if self.maxTxSize < enveloped envelopeLen (len + taggedLen any) then
          .fail (.custom "Too many messages")
        else pure (count + 1, len + taggedLen any) := by
      rw [hlen]
      simp only [Prog.pure_bind', decide_eq_true_eq]
    rw [if_neg hcount]
    refine hstep.trans ?_
    by_cases hfits : self.maxTxSize < enveloped envelopeLen (len + taggedLen any)
    · rw [if_pos hfits, if_neg fun h => absurd h.2 (by omega)]
    · rw [if_neg hfits, if_pos ⟨by omega, by omega⟩]

/-- **The test after each message is the test of the whole.** -/
theorem estimateWeight_foldlM {envelopeLen count len : ℕ} {messages : List Any} :
    (messages.foldlM (self.estimateWeightStep envelopeLen) (count, len) :
        Prog S Error (ℕ × ℕ)) =
      if messages = [] ∨ (count + messages.length ≤ 30 ∧
          enveloped envelopeLen (len + (messages.map taggedLen).sum) ≤ self.maxTxSize) then
        pure (count + messages.length, len + (messages.map taggedLen).sum)
      else .fail (.custom "Too many messages") := by
  induction messages generalizing count len with
  | nil => simp
  | cons m ms ih =>
      rw [List.foldlM_cons, estimateWeightStep_eq]
      have hsum : len + ((m :: ms).map taggedLen).sum =
          len + taggedLen m + (ms.map taggedLen).sum := by
        rw [List.map_cons, List.sum_cons, Nat.add_assoc]
      have hlength : count + (m :: ms).length = count + 1 + ms.length := by
        rw [List.length_cons]
        omega
      rw [hsum, hlength]
      by_cases hm : count < 30 ∧ enveloped envelopeLen (len + taggedLen m) ≤ self.maxTxSize
      · rw [if_pos hm, Prog.pure_bind', ih]
        cases ms with
        | nil => simp [hm, Nat.succ_le_of_lt hm.1]
        | cons m' ms => simp
      · -- what does not fit now does not fit later
        rw [if_neg hm, if_neg]
        · rfl
        · rintro (h | ⟨hcount, hfits⟩)
          · cases h
          · have hmono : enveloped envelopeLen (len + taggedLen m) ≤
                enveloped envelopeLen (len + taggedLen m + (ms.map taggedLen).sum) :=
              enveloped_mono (Nat.le_add_right _ _)
            exact hm ⟨by omega, by omega⟩

end Loop

/-! ### The transaction -/

section Transaction

variable [Crates] {key : KeyEntry} {n : ℕ} {messages : List Any}

/-- The key signs every document, with `n` bytes. -/
def Signs (key : KeyEntry) (n : ℕ) : Prop :=
  ∀ document, ∃ signature, Crates.sign key.privateKey document = .ok signature ∧
    signature.length = n

/-- The bytes of the `AuthInfo` of a transaction. -/
def authInfoBytes (key : KeyEntry) (info : BaseAccount) : Bytes :=
  encodeAuthInfo (encodeSignerInfo info.sequence (encodeKeyBytes key)) txFee

/-- The length of what does not depend on the messages. -/
def envelope (key : KeyEntry) (info : BaseAccount) (n : ℕ) : ℕ :=
  (encodeBytesField 2 (authInfoBytes key info)).length + (1 + lengthDelimiterLen n + n)

/-- **A signed transaction**, but for the bytes of its signature. -/
theorem signTx_eq (hkey : Signs key n) (chainId : String) (info : BaseAccount)
    (messages : List Any) : ∃ signature : Bytes, signature.length = n ∧ ∀ S : Sig,
      (signTx key chainId info messages txFee : Prog S Error (TxRaw × Bytes)) =
        pure (encodeTx (encodeTxBody messages).2 (authInfoBytes key info) signature) := by
  obtain ⟨signature, hsign, hlength⟩ := hkey (encodeBytesField 1 (encodeTxBody messages).2 ++
    (encodeBytesField 2 (authInfoBytes key info) ++
      (encodeBytesField 3 (utf8 chainId) ++ encodeUintField 4 info.accountNumber)))
  refine ⟨signature, hlength, fun S => ?_⟩
  have hdoc : (encodeSignDoc key (encodeTxBody messages).2 (authInfoBytes key info) chainId
      info.accountNumber : Prog S Error Bytes) = pure signature := by
    simp only [encodeSignDoc, hsign]
  show (encodeSignDoc key (encodeTxBody messages).2 (authInfoBytes key info) chainId
      info.accountNumber >>= fun signatureBytes => (pure (encodeTx (encodeTxBody messages).2
        (authInfoBytes key info) signatureBytes) : Prog S Error (TxRaw × Bytes))) = _
  rw [hdoc]
  rfl

omit [Crates] in
/-- **The length of a transaction** is that of its envelope and its body. -/
theorem encodeTx_length {info : BaseAccount} {signature : Bytes} :
    (encodeTx (encodeTxBody messages).2 (authInfoBytes key info) signature).2.length =
      enveloped (envelope key info signature.length) (bodyLen messages) := by
  have hraw : (encodeTx (encodeTxBody messages).2 (authInfoBytes key info) signature).2 =
      encodeBytesField 1 (encodeTxBody messages).2 ++
        (encodeBytesField 2 (authInfoBytes key info) ++ encodeMessageField 3 signature) := by
    simp only [encodeTx, TxRaw.encode, List.flatMap_singleton]
  rw [hraw, List.length_append, List.length_append, encodeBytesField,
    if_neg (encodeTxBody_ne_nil messages), encodeMessageField_length (by decide),
    encodeMessageField_length (by decide), enveloped, envelope, bodyLen]
  omega

variable {self : CosmosClient}

/-- The messages fit into one transaction. -/
def Fits (self : CosmosClient) (info : BaseAccount) (n : ℕ) (messages : List Any) : Prop :=
  messages = [] ∨ (messages.length ≤ 30 ∧
    enveloped (envelope self.keybase info n) (bodyLen messages) ≤ self.maxTxSize)

instance (info : BaseAccount) (messages : List Any) : Decidable (Fits self info n messages) :=
  inferInstanceAs (Decidable (_ ∨ _))

/-- **What `estimate_weight` computes.**  No subtraction fails. -/
theorem estimateWeight_eq (hkey : Signs self.keybase n) :
    self.estimateWeight messages = self.queryAccount >>= fun info =>
      if Fits self info n messages then pure (bodyLen messages)
      else .fail (.custom "Too many messages") := by
  unfold CosmosClient.estimateWeight
  refine congrArg (self.queryAccount >>= ·) (funext fun info => ?_)
  obtain ⟨signature, rfl, hsign⟩ := signTx_eq hkey self.chainId info []
  rw [hsign, Prog.pure_bind']
  dsimp only
  have hbody : (encodeTx (encodeTxBody []).2 (authInfoBytes self.keybase info)
      signature).1.bodyBytes.length = bodyLen [] := rfl
  have htotal : (encodeTx (encodeTxBody []).2 (authInfoBytes self.keybase info)
      signature).1.encode.length =
        enveloped (envelope self.keybase info signature.length) (bodyLen []) := encodeTx_length
  have hne : bodyLen [] ≠ 0 := fun h =>
    encodeTxBody_ne_nil [] (List.eq_nil_of_length_eq_zero h)
  have hsub : ∀ {a b : ℕ}, b ≤ a → (u64Sub a b : Prog Net Error ℕ) = pure (a - b) :=
    fun h => if_pos h
  rw [hbody, htotal, if_neg hne, hsub, Prog.pure_bind', hsub, Prog.pure_bind', hsub,
    Prog.pure_bind']
  · have henvelope : enveloped (envelope self.keybase info signature.length) (bodyLen []) - 1 -
        lengthDelimiterLen (bodyLen []) - bodyLen [] =
          envelope self.keybase info signature.length := by
      unfold enveloped
      omega
    rw [henvelope, estimateWeight_foldlM, Nat.zero_add, ← bodyLen_eq]
    show _ = if messages = [] ∨ (messages.length ≤ 30 ∧ enveloped (envelope self.keybase info
      signature.length) (bodyLen messages) ≤ self.maxTxSize) then _ else _
    split_ifs <;> rfl
  all_goals unfold enveloped; omega

/-- The nodes answer queries for the account with `info`. -/
def AccountAnswered (info : BaseAccount) : (o : Net.Op) → Except Error (Net.Res o) → Prop
  | .node _ .connect, r => r = .ok ()
  | .node _ (.account _), r => r = .ok (some (.ok info))
  | _, _ => True

omit [Crates] in
/-- The account is the one that is answered. -/
theorem queryAccount_leaf {info : BaseAccount} {o : Outcome Error BaseAccount} :
    self.queryAccount.Leaf (AccountAnswered info) o ↔ o = .ok info := by
  constructor
  · rintro ⟨r, hr, h⟩
    obtain rfl : r = .ok () := hr
    obtain ⟨r, hr, h⟩ := h
    obtain rfl : r = .ok (some (.ok info)) := hr
    exact h.symm
  · rintro rfl
    exact ⟨.ok (), rfl, .ok (some (.ok info)), rfl, rfl⟩

omit [Crates] in
/-- The account is queried without a panic. -/
theorem queryAccount_no_panic {A : (o : Net.Op) → Except Error (Net.Res o) → Prop} {text : String} :
    ¬self.queryAccount.Leaf A (.panic text) := by
  have hask : ∀ op context, ¬(self.side.ask op context).Leaf A (.panic text) := by
    rintro op context ⟨r, -, h⟩
    cases r <;> cases h
  intro h
  rcases Prog.leaf_bind_panic.mp h with h | ⟨_, -, h⟩
  · exact hask _ _ h
  rcases Prog.leaf_bind_panic.mp h with h | ⟨account, -, h⟩
  · exact hask _ _ h
  rcases Prog.leaf_bind_panic.mp h with h | ⟨raw, -, h⟩
  · cases account <;> cases h
  · cases raw <;> cases h

/-- **When a signed transaction fits**: its length depends on the body alone. -/
theorem signTx_returns_iff (hkey : Signs key n) {chainId : String} {info : BaseAccount} {bound : ℕ} :
    (∃ raw bytes, (signTx key chainId info messages txFee : Prog Static Error _).Returns
      (raw, bytes) ∧ bytes = raw.encode ∧ bytes.length ≤ bound) ↔
        enveloped (envelope key info n) (bodyLen messages) ≤ bound := by
  obtain ⟨signature, rfl, hsign⟩ := signTx_eq hkey chainId info messages
  rw [hsign, ← encodeTx_length]
  constructor
  · rintro ⟨raw, bytes, hr, -, hlength⟩
    obtain ⟨rfl, rfl⟩ := Prod.mk.inj (Outcome.ok.inj hr)
    exact hlength
  · exact fun h => ⟨_, _, rfl, rfl, h⟩

end Transaction

/-- **The estimate is the encoder's size.**  For every client with a key that signs,
every account and every list of messages, `estimate_weight` succeeds exactly if there
are at most thirty messages and the transaction that `sign_tx` makes of them, where
there are any, has at most `max_tx_size` bytes.  The weight is then the length of the
encoded body.  It never panics, whatever the node answers. -/
theorem estimateWeight_ok_iff [Crates] (self : CosmosClient) (info : BaseAccount) (n : ℕ)
    (messages : List Any) (hkey : Signs self.keybase n) :
    (∀ weight, (self.estimateWeight messages).Leaf (AccountAnswered info) (.ok weight) ↔
      (messages.length ≤ 30 ∧ (messages = [] ∨ ∃ raw bytes,
        (signTx self.keybase self.chainId info messages txFee : Prog Static Error _).Returns
          (raw, bytes) ∧ bytes = raw.encode ∧ bytes.length ≤ self.maxTxSize)) ∧
      weight = (encodeTxBody messages).2.length) ∧
    ∀ A text, ¬(self.estimateWeight messages).Leaf A (.panic text) := by
  rw [estimateWeight_eq hkey]
  refine ⟨fun weight => ?_, fun A text h => ?_⟩
  · have hfits : Fits self info n messages ↔ messages.length ≤ 30 ∧ (messages = [] ∨
        enveloped (envelope self.keybase info n) (bodyLen messages) ≤ self.maxTxSize) := by
      constructor
      · rintro (rfl | ⟨hcount, hlength⟩)
        · exact ⟨Nat.zero_le _, .inl rfl⟩
        · exact ⟨hcount, .inr hlength⟩
      · rintro ⟨hcount, rfl | hlength⟩
        · exact .inl rfl
        · exact .inr ⟨hcount, hlength⟩
    rw [signTx_returns_iff hkey, ← hfits]
    simp only [Prog.leaf_bind_ok, queryAccount_leaf, Outcome.ok.injEq, exists_eq_left]
    split_ifs with h
    · simp only [Prog.leaf_pure, Outcome.ok.injEq, h, true_and]
      exact eq_comm
    · simp [h]
  · rcases Prog.leaf_bind_panic.mp h with h | ⟨info, -, h⟩
    · exact queryAccount_no_panic h
    · split_ifs at h <;> cases h

/-- A message whose value has three bytes. -/
def smallMessage : Any where
  typeUrl := ""
  value := [1, 2, 3]
  msg := .channelOpenConfirm
    ⟨transferPort, channel0, ⟨⟨[1], by decide⟩, none, none, none, height0 5⟩, "account"⟩
  origin := none

/-- A message whose value has 200 bytes, so that its length takes two. -/
def longMessage : Any := { smallMessage with value := List.replicate 200 7 }

/-- A short message and a long one. -/
def twoMessages : List Any := [smallMessage, longMessage]

/-- Every key signs with 64 bytes. -/
theorem signs_reference (key : KeyEntry) : @Signs Crates.reference key 64 :=
  fun _ => ⟨List.replicate 64 0, rfl, rfl⟩

/-- The hypothesis of `estimateWeight_ok_iff` can be met; the weight counts the second byte of
the long message's two lengths. -/
theorem twoMessages_weight :
    (@CosmosClient.estimateWeight (cosmosClient .a client0) Crates.reference twoMessages).Leaf
      (AccountAnswered ⟨1, 1⟩) (.ok 218) := by
  let _ := Crates.reference
  refine ((estimateWeight_ok_iff (cosmosClient .a client0) ⟨1, 1⟩ 64 twoMessages
    (signs_reference _)).1 218).mpr ⟨⟨by decide, .inr ⟨_, _, rfl, rfl, ?_⟩⟩, by decide +kernel⟩
  decide +kernel

end HyperspaceLight
