/-
# What the bytes of a transaction say

The encoders of `src/cosmos/encode.rs` read backwards.  A protobuf message is a
record (`Wire.readRecord`) whose numbers are written to base 128.  The decoders of
this module take a transaction apart again: its messages, its signer, its fee and
the document that was signed.

Every encoder is undone by its decoder, as long as the bytes and the numbers are
shorter than `2 ^ 64`, which a length and a `u64` always are.  So nothing of what
`sign_tx` is given is lost in the transaction (`signTx_decodes`), and what it signs
fixes all of it (`signedDocument_eq_iff`).
-/

import HyperspaceLight.Cosmos.Weight
import HyperspaceLight.Wire.Format

namespace HyperspaceLight

open Interaction

/-! ### Numbers -/

/-- Read a number to base 128; `fuel` bounds the number of bytes. -/
def readVarintBytes : (fuel : ℕ) → Bytes → Option (ℕ × Bytes)
  | 0, _ => none
  | _ + 1, [] => none
  | fuel + 1, b :: bytes =>
      if b.toNat < 128 then some (b.toNat, bytes)
      else (readVarintBytes fuel bytes).map fun (n, rest) => (b.toNat - 128 + 128 * n, rest)

/-- `prost::encoding::decode_varint`. -/
def readVarint : Wire.Reader UInt8 ℕ := fun input =>
  (readVarintBytes 10 input).filter fun (n, _) => n < u64Bound

/-- A number below `128 ^ fuel` is read back. -/
theorem readVarintBytes_write {fuel n : ℕ} (hn : n < 128 ^ fuel) (hfuel : 0 < fuel)
    (rest : Bytes) : readVarintBytes fuel (varintBytes fuel n ++ rest) = some (n, rest) := by
  induction fuel generalizing n with
  | zero => cases hfuel
  | succ fuel ih =>
      rw [varintBytes]
      split_ifs with hlt
      · have hbyte : (UInt8.ofNat n).toNat = n := by
          rw [UInt8.toNat_ofNat']
          omega
        simp [readVarintBytes, hbyte, hlt]
      · have hbyte : (UInt8.ofNat (n % 128 + 128)).toNat = n % 128 + 128 := by
          rw [UInt8.toNat_ofNat']
          omega
        have hpow : 128 ^ (fuel + 1) = 128 * 128 ^ fuel := Nat.pow_succ'
        have hdiv : n / 128 < 128 ^ fuel := by
          rw [Nat.div_lt_iff_lt_mul (by omega)]
          omega
        -- more than one byte is only written where there is fuel for it
        have hpos : 0 < fuel := by
          rcases Nat.eq_zero_or_pos fuel with rfl | hpos
          · simp only [Nat.pow_zero] at hdiv
            omega
          · exact hpos
        have hge : ¬n % 128 + 128 < 128 := by omega
        have hvalue : n % 128 + 128 - 128 + 128 * (n / 128) = n := by omega
        rw [List.cons_append, readVarintBytes, hbyte, if_neg hge, ih hdiv hpos]
        simp only [Option.map_some, hvalue]

/-- **The varint is a prefix code for the numbers below 2 ^ 64.** -/
theorem readVarint_reads : Wire.Reads readVarint encodeVarint (· < u64Bound) := by
  intro n hn rest
  have hlt : n < 128 ^ 10 := Nat.lt_of_lt_of_le hn (by decide)
  show (readVarintBytes 10 (varintBytes 10 n ++ rest)).filter _ = _
  rw [readVarintBytes_write hlt (by omega)]
  simpa using hn

/-- A varint has a byte at least. -/
theorem encodeVarint_ne_nil (n : ℕ) : encodeVarint n ≠ [] := by
  rw [encodeVarint, varintBytes]
  split_ifs <;> simp

/-! ### Fields -/

/-- The bytes of a record. -/
def encodeFields (fs : List (Wire.Field UInt8)) : Bytes := fs.flatMap (Wire.writeField encodeVarint)

/-- The fields of a message. -/
def readFields (bytes : Bytes) : Option (List (Wire.Field UInt8)) :=
  Wire.readRecord readVarint bytes

/-- **Fields are read back**, from a message shorter than 2 ^ 64. -/
theorem readFields_encode {fs : List (Wire.Field UInt8)} (hfs : Wire.Below u64Bound fs)
    (hlen : (encodeFields fs).length < u64Bound) : readFields (encodeFields fs) = some fs :=
  readVarint_reads.record encodeVarint_ne_nil hfs hlen

/-- Fields are written one after the other. -/
@[simp] theorem encodeFields_append (fs fs' : List (Wire.Field UInt8)) :
    encodeFields (fs ++ fs') = encodeFields fs ++ encodeFields fs' :=
  List.flatMap_append

/-- A bytes field of the source is a block that may be left out. -/
theorem encodeFields_optBlock (tag : ℕ) (value : Bytes) :
    encodeFields (Wire.optBlock tag value) = encodeBytesField tag value := by
  unfold Wire.optBlock encodeBytesField
  by_cases h : value = []
  · rw [if_pos (List.length_eq_zero_iff.mpr h), if_pos h]
    rfl
  · rw [if_neg (mt List.length_eq_zero_iff.mp h), if_neg h]
    exact List.append_nil _

/-- An integer field of the source is a number that may be left out. -/
theorem encodeFields_optNumber (tag value : ℕ) :
    encodeFields (Wire.optNumber tag value) = encodeUintField tag value := by
  unfold Wire.optNumber encodeUintField
  split_ifs
  · rfl
  · exact List.append_nil _

/-- A repeated message of the source is a block for each value. -/
theorem encodeFields_manyBlocks (tag : ℕ) (values : List Bytes) :
    encodeFields (Wire.manyBlocks tag values) = values.flatMap (encodeMessageField tag) := by
  induction values with
  | nil => rfl
  | cons value values ih =>
      rw [List.flatMap_cons, ← ih]
      rfl

/-! ### Texts -/

/-- `String::from_utf8`. -/
def decodeText (bytes : Bytes) : Option String := String.fromUTF8? ⟨bytes.toArray⟩

/-- Text is read back. -/
@[simp] theorem decodeText_utf8 (s : String) : decodeText (utf8 s) = some s := by
  have hbytes : (⟨(utf8 s).toArray⟩ : ByteArray) = s.toUTF8 := by
    simp [utf8]
  have hvalid : s.toUTF8.IsValidUTF8 := s.isValidUTF8
  rw [decodeText, hbytes, String.fromUTF8?, dif_pos hvalid]
  rfl

/-! ### Messages and fees -/

/-- What is read of a `google::protobuf::Any`. -/
structure WireAny where
  typeUrl : String
  value : Bytes
  deriving DecidableEq

/-- What is written of an `Any`. -/
def Any.wire (any : Any) : WireAny := ⟨any.typeUrl, any.value⟩

def WireAny.decode (bytes : Bytes) : Option WireAny := do
  let fs ← readFields bytes
  let typeUrl ← decodeText (Wire.blockAt 1 fs)
  return ⟨typeUrl, Wire.blockAt 2 fs⟩

/-- The tags of the source are small. -/
theorem key_lt {tag : ℕ} (h : tag < 4096) : tag * 8 + 2 < u64Bound := by
  have hbound : u64Bound = 18446744073709551616 := rfl
  omega

/-- **A record is read back field by field.** -/
theorem readFields_of_eq {bytes : Bytes} {fs : List (Wire.Field UInt8)}
    (hbytes : bytes = encodeFields fs) (hfs : Wire.Below u64Bound fs)
    (hlen : bytes.length < u64Bound) : readFields bytes = some fs := by
  rw [hbytes] at hlen ⊢
  exact readFields_encode hfs hlen

/-- A block is shorter than its record. -/
theorem block_length_lt (tag : ℕ) {bytes block : Bytes} {fs : List (Wire.Field UInt8)}
    (hbytes : bytes = encodeFields fs) (hlen : bytes.length < u64Bound)
    (h : ⟨tag, .block block⟩ ∈ fs) : block.length < u64Bound := by
  rw [hbytes] at hlen
  exact Nat.lt_of_le_of_lt (Wire.length_le_of_mem h) hlen

/-- A block of a message that fits, fits. -/
theorem optBlock_length_lt (tag : ℕ) {bytes block : Bytes} {fs : List (Wire.Field UInt8)}
    (hbytes : bytes = encodeFields fs) (hlen : bytes.length < u64Bound)
    (h : Wire.optBlock tag block ⊆ fs) : block.length < u64Bound := by
  rw [hbytes] at hlen
  exact Nat.lt_of_le_of_lt (Wire.length_le_of_optBlock h) hlen

/-- A type URL and a value are read back. -/
theorem WireAny.decode_encode {typeUrl : String} {value : Bytes}
    (hlen : (encodeBytesField 1 (utf8 typeUrl) ++ encodeBytesField 2 value).length < u64Bound) :
    WireAny.decode (encodeBytesField 1 (utf8 typeUrl) ++ encodeBytesField 2 value)
      = some ⟨typeUrl, value⟩ := by
  have hbytes : encodeBytesField 1 (utf8 typeUrl) ++ encodeBytesField 2 value
      = encodeFields (Wire.optBlock 1 (utf8 typeUrl) ++ Wire.optBlock 2 value) := by
    rw [encodeFields_append, encodeFields_optBlock, encodeFields_optBlock]
  have hbelow : Wire.Below u64Bound
      (Wire.optBlock 1 (utf8 typeUrl) ++ Wire.optBlock 2 value) :=
    (Wire.Below.optBlock (key_lt (by omega))).append (.optBlock (key_lt (by omega)))
  rw [WireAny.decode, readFields_of_eq hbytes hbelow hlen]
  simp [Wire.blockAt, Wire.blocksAt_optBlock_ne]

/-- An encoded message is read back. -/
theorem Any.decode_encode {any : Any} (hlen : any.encode.length < u64Bound) :
    WireAny.decode any.encode = some any.wire :=
  WireAny.decode_encode hlen

def Coin.decode (bytes : Bytes) : Option Coin := do
  let fs ← readFields bytes
  let denom ← decodeText (Wire.blockAt 1 fs)
  let amount ← decodeText (Wire.blockAt 2 fs)
  return ⟨denom, amount⟩

/-- A coin is read back. -/
theorem Coin.decode_encode {coin : Coin} (hlen : coin.encode.length < u64Bound) :
    Coin.decode coin.encode = some coin := by
  have hbytes : coin.encode = encodeFields
      (Wire.optBlock 1 (utf8 coin.denom) ++ Wire.optBlock 2 (utf8 coin.amount)) := by
    rw [encodeFields_append, encodeFields_optBlock, encodeFields_optBlock, Coin.encode]
  have hbelow : Wire.Below u64Bound
      (Wire.optBlock 1 (utf8 coin.denom) ++ Wire.optBlock 2 (utf8 coin.amount)) :=
    (Wire.Below.optBlock (key_lt (by omega))).append (.optBlock (key_lt (by omega)))
  rw [Coin.decode, readFields_of_eq hbytes hbelow hlen]
  simp [Wire.blockAt, Wire.blocksAt_optBlock_ne]

def Fee.fields (fee : Fee) : List (Wire.Field UInt8) :=
  Wire.manyBlocks 1 (fee.amount.map Coin.encode) ++ (Wire.optNumber 2 fee.gasLimit ++
    (Wire.optBlock 3 (utf8 fee.payer) ++ Wire.optBlock 4 (utf8 fee.granter)))

/-- The fee, field by field. -/
theorem Fee.encode_eq (fee : Fee) : fee.encode = encodeFields fee.fields := by
  rw [Fee.fields, encodeFields_append, encodeFields_append, encodeFields_append,
    encodeFields_manyBlocks, encodeFields_optNumber, encodeFields_optBlock,
    encodeFields_optBlock, List.flatMap_map, Fee.encode]

def Fee.decode (bytes : Bytes) : Option Fee := do
  let fs ← readFields bytes
  let amount ← (Wire.blocksAt 1 fs).mapM Coin.decode
  let payer ← decodeText (Wire.blockAt 3 fs)
  let granter ← decodeText (Wire.blockAt 4 fs)
  return ⟨amount, Wire.numberAt 2 fs, payer, granter⟩

/-- The fee is read back. -/
theorem Fee.decode_encode {fee : Fee} (hgas : fee.gasLimit < u64Bound)
    (hlen : fee.encode.length < u64Bound) : Fee.decode fee.encode = some fee := by
  have hbelow : Wire.Below u64Bound fee.fields :=
    (Wire.Below.manyBlocks (key_lt (by omega))).append
      ((Wire.Below.optNumber (key_lt (by omega)) hgas).append
        ((Wire.Below.optBlock (key_lt (by omega))).append (.optBlock (key_lt (by omega)))))
  have hcoins : (fee.amount.map Coin.encode).mapM Coin.decode = some (fee.amount.map id) := by
    refine Wire.mapM_written fun coin hcoin => Coin.decode_encode ?_
    refine block_length_lt 1 fee.encode_eq hlen (List.mem_append_left _ ?_)
    exact List.mem_map.mpr ⟨coin.encode, List.mem_map_of_mem hcoin, rfl⟩
  rw [Fee.decode, readFields_of_eq fee.encode_eq hbelow hlen]
  simp [Fee.fields, Wire.blockAt, Wire.numberAt, Wire.blocksAt_optBlock_ne,
    Wire.blocksAt_manyBlocks_ne, hcoins]

/-! ### Signers -/

/-- What is read of a `SignerInfo`: the type and the bytes of the key, the signing mode
and the sequence. -/
structure WireSigner where
  keyType : String
  publicKey : Bytes
  mode : ℕ
  sequence : ℕ

def WireSigner.decode (bytes : Bytes) : Option WireSigner := do
  let fs ← readFields bytes
  let key ← WireAny.decode (Wire.blockAt 1 fs)
  let keyFields ← readFields key.value
  let modeFields ← readFields (Wire.blockAt 2 fs)
  let single ← readFields (Wire.blockAt 1 modeFields)
  return ⟨key.typeUrl, Wire.blockAt 1 keyFields, Wire.numberAt 1 single, Wire.numberAt 3 fs⟩

def SignerInfo.fields (info : SignerInfo) : List (Wire.Field UInt8) :=
  Wire.manyBlocks 1 [info.publicKey] ++ (Wire.manyBlocks 2 [info.modeInfo] ++
    Wire.optNumber 3 info.sequence)

/-- The signer, field by field. -/
theorem SignerInfo.encode_eq (info : SignerInfo) : info.encode = encodeFields info.fields := by
  rw [SignerInfo.fields, encodeFields_append, encodeFields_append, encodeFields_manyBlocks,
    encodeFields_manyBlocks, encodeFields_optNumber, List.flatMap_singleton,
    List.flatMap_singleton, SignerInfo.encode]

/-- The mode of every signer: a single signature, made directly. -/
theorem modeInfo_read :
    readFields (encodeMessageField 1 (encodeUintField 1 1))
      = some (Wire.manyBlocks 1 [encodeUintField 1 1]) := by
  have hbytes : encodeMessageField 1 (encodeUintField 1 1)
      = encodeFields (Wire.manyBlocks 1 [encodeUintField 1 1]) := by
    rw [encodeFields_manyBlocks, List.flatMap_singleton]
  exact readFields_of_eq hbytes (.manyBlocks (key_lt (by omega))) (by decide)

/-- The sign mode of a single signer has one field. -/
theorem singleMode_read : readFields (encodeUintField 1 1) = some (Wire.optNumber 1 1) :=
  readFields_of_eq (encodeFields_optNumber 1 1).symm
    (.optNumber (key_lt (by omega)) (by decide)) (by decide)

/-- The key of a signer has one field. -/
theorem encodeKeyBytes_read {key : KeyEntry} (hlen : (encodeKeyBytes key).length < u64Bound) :
    readFields (encodeKeyBytes key) = some (Wire.optBlock 1 key.publicKey) :=
  readFields_of_eq (encodeFields_optBlock 1 key.publicKey).symm
    (.optBlock (key_lt (by omega))) hlen

/-- The value of an `Any` is shorter than the `Any`. -/
theorem value_length_lt {typeUrl : String} {value : Bytes}
    (hlen : (encodeBytesField 1 (utf8 typeUrl) ++ encodeBytesField 2 value).length < u64Bound) :
    value.length < u64Bound := by
  have hbytes : encodeBytesField 1 (utf8 typeUrl) ++ encodeBytesField 2 value
      = encodeFields (Wire.optBlock 1 (utf8 typeUrl) ++ Wire.optBlock 2 value) := by
    rw [encodeFields_append, encodeFields_optBlock, encodeFields_optBlock]
  exact optBlock_length_lt 2 hbytes hlen (List.subset_append_right ..)

/-- **The signer is read back**: its key, signing mode 1 and the sequence. -/
theorem encodeSignerInfo_decode {key : KeyEntry} {sequence : ℕ} (hsequence : sequence < u64Bound)
    (hlen : (encodeSignerInfo sequence (encodeKeyBytes key)).encode.length < u64Bound) :
    WireSigner.decode (encodeSignerInfo sequence (encodeKeyBytes key)).encode
      = some ⟨"/cosmos.crypto.secp256k1.PubKey", key.publicKey, 1, sequence⟩ := by
  have heq := (encodeSignerInfo sequence (encodeKeyBytes key)).encode_eq
  have hbelow : Wire.Below u64Bound (encodeSignerInfo sequence (encodeKeyBytes key)).fields :=
    (Wire.Below.manyBlocks (key_lt (by omega))).append
      ((Wire.Below.manyBlocks (key_lt (by omega))).append
        (Wire.Below.optNumber (key_lt (by omega)) hsequence))
  -- the key is an `Any` around a record of one field
  have hany : (encodeSignerInfo sequence (encodeKeyBytes key)).publicKey.length < u64Bound :=
    block_length_lt 1 heq hlen (List.mem_append_left _ (List.mem_singleton_self _))
  have hkey := WireAny.decode_encode hany
  have hkeyFields := encodeKeyBytes_read (value_length_lt hany)
  rw [WireSigner.decode, readFields_of_eq heq hbelow hlen]
  simp only [SignerInfo.fields, encodeSignerInfo, Wire.blockAt, Wire.numberAt]
  simp [Wire.blocksAt_manyBlocks_ne, hkey, hkeyFields, modeInfo_read, singleMode_read]

/-! ### Bodies and transactions -/

/-- What is read of a `TxBody`. -/
structure WireBody where
  messages : List WireAny
  memo : String
  timeoutHeight : ℕ
  extensionOptions : List WireAny
  nonCriticalExtensionOptions : List WireAny

def WireBody.decode (bytes : Bytes) : Option WireBody := do
  let fs ← readFields bytes
  let messages ← (Wire.blocksAt 1 fs).mapM WireAny.decode
  let memo ← decodeText (Wire.blockAt 2 fs)
  let extensionOptions ← (Wire.blocksAt 1023 fs).mapM WireAny.decode
  let nonCriticalExtensionOptions ← (Wire.blocksAt 2047 fs).mapM WireAny.decode
  return ⟨messages, memo, Wire.numberAt 3 fs, extensionOptions, nonCriticalExtensionOptions⟩

def TxBody.wire (body : TxBody) : WireBody where
  messages := body.messages.map Any.wire
  memo := body.memo
  timeoutHeight := body.timeoutHeight
  extensionOptions := body.extensionOptions.map Any.wire
  nonCriticalExtensionOptions := body.nonCriticalExtensionOptions.map Any.wire

def TxBody.fields (body : TxBody) : List (Wire.Field UInt8) :=
  Wire.manyBlocks 1 (body.messages.map Any.encode) ++ (Wire.optBlock 2 (utf8 body.memo) ++
    (Wire.optNumber 3 body.timeoutHeight ++
      (Wire.manyBlocks 1023 (body.extensionOptions.map Any.encode) ++
        Wire.manyBlocks 2047 (body.nonCriticalExtensionOptions.map Any.encode))))

/-- The body, field by field. -/
theorem TxBody.encode_eq (body : TxBody) : body.encode = encodeFields body.fields := by
  simp only [TxBody.fields, encodeFields_append, encodeFields_manyBlocks, encodeFields_optBlock,
    encodeFields_optNumber, List.flatMap_map]
  rfl

/-- The messages of a field of the body. -/
theorem TxBody.mapM_decode {body : TxBody} (hlen : body.encode.length < u64Bound) (tag : ℕ)
    (anys : List Any) (h : ∀ f ∈ Wire.manyBlocks tag (anys.map Any.encode), f ∈ body.fields) :
    (anys.map Any.encode).mapM WireAny.decode = some (anys.map Any.wire) := by
  refine Wire.mapM_written fun any hany => Any.decode_encode ?_
  refine block_length_lt tag body.encode_eq hlen (h _ ?_)
  exact List.mem_map.mpr ⟨any.encode, List.mem_map_of_mem hany, rfl⟩

/-- **A body is read back.** -/
theorem TxBody.decode_encode {body : TxBody} (hheight : body.timeoutHeight < u64Bound)
    (hlen : body.encode.length < u64Bound) : WireBody.decode body.encode = some body.wire := by
  have hbelow : Wire.Below u64Bound body.fields :=
    (Wire.Below.manyBlocks (key_lt (by omega))).append
      ((Wire.Below.optBlock (key_lt (by omega))).append
        ((Wire.Below.optNumber (key_lt (by omega)) hheight).append
          ((Wire.Below.manyBlocks (key_lt (by omega))).append
            (.manyBlocks (key_lt (by omega))))))
  have hmessages := TxBody.mapM_decode hlen 1 body.messages
    fun f hf => by simp [TxBody.fields, hf]
  have hextensions := TxBody.mapM_decode hlen 1023 body.extensionOptions
    fun f hf => by simp [TxBody.fields, hf]
  have hnonCritical := TxBody.mapM_decode hlen 2047
    body.nonCriticalExtensionOptions fun f hf => by simp [TxBody.fields, hf]
  rw [WireBody.decode, readFields_of_eq body.encode_eq hbelow hlen]
  simp [TxBody.fields, TxBody.wire, Wire.blockAt, Wire.numberAt, Wire.blocksAt_optBlock_ne,
    Wire.blocksAt_manyBlocks_ne, hmessages, hextensions, hnonCritical]

def TxRaw.fields (raw : TxRaw) : List (Wire.Field UInt8) :=
  Wire.optBlock 1 raw.bodyBytes ++ (Wire.optBlock 2 raw.authInfoBytes ++
    Wire.manyBlocks 3 raw.signatures)

/-- The raw transaction, field by field. -/
theorem TxRaw.encode_eq (raw : TxRaw) : raw.encode = encodeFields raw.fields := by
  simp only [TxRaw.fields, encodeFields_append, encodeFields_manyBlocks, encodeFields_optBlock]
  rfl

def TxRaw.decode (bytes : Bytes) : Option TxRaw := do
  let fs ← readFields bytes
  return ⟨Wire.blockAt 1 fs, Wire.blockAt 2 fs, Wire.blocksAt 3 fs⟩

/-- **A transaction is read back.** -/
theorem TxRaw.decode_encode {raw : TxRaw} (hlen : raw.encode.length < u64Bound) :
    TxRaw.decode raw.encode = some raw := by
  have hbelow : Wire.Below u64Bound raw.fields :=
    (Wire.Below.optBlock (key_lt (by omega))).append
      ((Wire.Below.optBlock (key_lt (by omega))).append (.manyBlocks (key_lt (by omega))))
  rw [TxRaw.decode, readFields_of_eq raw.encode_eq hbelow hlen]
  simp [TxRaw.fields, Wire.blockAt, Wire.blocksAt_optBlock_ne, Wire.blocksAt_manyBlocks_ne]

/-- **The messages of a body are read back**, with the memo of the relayer. -/
theorem encodeTxBody_decode {messages : List Any}
    (hlen : (encodeTxBody messages).2.length < u64Bound) :
    WireBody.decode (encodeTxBody messages).2 = some ⟨messages.map Any.wire, "ibc", 0, [], []⟩ := by
  have hheight : (encodeTxBody messages).1.timeoutHeight < u64Bound := (by decide : 0 < u64Bound)
  exact TxBody.decode_encode hheight hlen

/-- The body of a transaction that fits, fits. -/
theorem TxRaw.body_length_lt {raw : TxRaw} (hlen : raw.encode.length < u64Bound) :
    raw.bodyBytes.length < u64Bound :=
  optBlock_length_lt 1 raw.encode_eq hlen (List.subset_append_left ..)

/-- The authentication of a transaction that fits, fits. -/
theorem TxRaw.authInfo_length_lt {raw : TxRaw} (hlen : raw.encode.length < u64Bound) :
    raw.authInfoBytes.length < u64Bound :=
  optBlock_length_lt 2 raw.encode_eq hlen fun f hf => by simp [TxRaw.fields, hf]

/-- What is read of an `AuthInfo`. -/
structure WireAuthInfo where
  signers : List WireSigner
  fee : Fee

def WireAuthInfo.decode (bytes : Bytes) : Option WireAuthInfo := do
  let fs ← readFields bytes
  let signers ← (Wire.blocksAt 1 fs).mapM WireSigner.decode
  let fee ← Fee.decode (Wire.blockAt 2 fs)
  return ⟨signers, fee⟩

/-- What the relayer writes into an `AuthInfo`. -/
def authInfoOf (key : KeyEntry) (sequence : ℕ) (fee : Fee) : WireAuthInfo where
  signers := [⟨"/cosmos.crypto.secp256k1.PubKey", key.publicKey, 1, sequence⟩]
  fee

/-- **Signer and fee are read back.** -/
theorem encodeAuthInfo_decode {key : KeyEntry} {sequence : ℕ} {fee : Fee}
    (hsequence : sequence < u64Bound) (hgas : fee.gasLimit < u64Bound)
    (hlen : (encodeAuthInfo (encodeSignerInfo sequence (encodeKeyBytes key)) fee).length
      < u64Bound) :
    WireAuthInfo.decode (encodeAuthInfo (encodeSignerInfo sequence (encodeKeyBytes key)) fee)
      = some (authInfoOf key sequence fee) := by
  generalize hsigner : encodeSignerInfo sequence (encodeKeyBytes key) = signer at hlen ⊢
  have hbytes : encodeAuthInfo signer fee
      = encodeFields (Wire.manyBlocks 1 [signer.encode] ++ Wire.manyBlocks 2 [fee.encode]) := by
    rw [encodeFields_append, encodeFields_manyBlocks, encodeFields_manyBlocks,
      List.flatMap_singleton, List.flatMap_singleton, encodeAuthInfo]
  have hbelow : Wire.Below u64Bound
      (Wire.manyBlocks 1 [signer.encode] ++ Wire.manyBlocks 2 [fee.encode]) :=
    (Wire.Below.manyBlocks (key_lt (by omega))).append (.manyBlocks (key_lt (by omega)))
  have hsignerLen : signer.encode.length < u64Bound :=
    block_length_lt 1 hbytes hlen (List.mem_append_left _ (List.mem_singleton_self _))
  have hfeeLen : fee.encode.length < u64Bound :=
    block_length_lt 2 hbytes hlen (List.mem_append_right _ (List.mem_singleton_self _))
  have hread : WireSigner.decode signer.encode
      = some ⟨"/cosmos.crypto.secp256k1.PubKey", key.publicKey, 1, sequence⟩ := by
    subst hsigner
    exact encodeSignerInfo_decode hsequence hsignerLen
  rw [WireAuthInfo.decode, readFields_of_eq hbytes hbelow hlen]
  simp [Wire.blockAt, Wire.blocksAt_manyBlocks_ne, hread, Fee.decode_encode hgas hfeeLen,
    authInfoOf]

/-! ### Signing -/

/-- `cosmos::tx::v1beta1::SignDoc`. -/
structure SignDoc where
  bodyBytes : Bytes
  authInfoBytes : Bytes
  chainId : String
  accountNumber : ℕ

def SignDoc.fields (doc : SignDoc) : List (Wire.Field UInt8) :=
  Wire.optBlock 1 doc.bodyBytes ++ (Wire.optBlock 2 doc.authInfoBytes ++
    (Wire.optBlock 3 (utf8 doc.chainId) ++ Wire.optNumber 4 doc.accountNumber))

def SignDoc.encode (doc : SignDoc) : Bytes := encodeFields doc.fields

def SignDoc.decode (bytes : Bytes) : Option SignDoc := do
  let fs ← readFields bytes
  let chainId ← decodeText (Wire.blockAt 3 fs)
  return ⟨Wire.blockAt 1 fs, Wire.blockAt 2 fs, chainId, Wire.numberAt 4 fs⟩

/-- **The signed document is read back.** -/
theorem SignDoc.decode_encode {doc : SignDoc} (hnumber : doc.accountNumber < u64Bound)
    (hlen : doc.encode.length < u64Bound) : SignDoc.decode doc.encode = some doc := by
  have hbelow : Wire.Below u64Bound doc.fields :=
    (Wire.Below.optBlock (key_lt (by omega))).append
      ((Wire.Below.optBlock (key_lt (by omega))).append
        ((Wire.Below.optBlock (key_lt (by omega))).append
          (.optNumber (key_lt (by omega)) hnumber)))
  rw [SignDoc.decode, SignDoc.encode, readFields_encode hbelow hlen]
  simp [SignDoc.fields, Wire.blockAt, Wire.numberAt, Wire.blocksAt_optBlock_ne]

/-- The document that `sign_tx` signs. -/
def signedDocument (key : KeyEntry) (chainId : String) (accountInfo : BaseAccount)
    (messages : List Any) (fee : Fee) : SignDoc where
  bodyBytes := (encodeTxBody messages).2
  authInfoBytes :=
    encodeAuthInfo (encodeSignerInfo accountInfo.sequence (encodeKeyBytes key)) fee
  chainId
  accountNumber := accountInfo.accountNumber

section

variable [Crates] {key key' : KeyEntry} {chainId chainId' : String} {info info' : BaseAccount}
  {messages messages' : List Any} {fee fee' : Fee} {raw : TxRaw} {bytes : Bytes}

/-- A signature is one of the encoded document. -/
theorem encodeSignDoc_returns {S : Sig} {A : (o : S.Op) → Except Error (S.Res o) → Prop}
    {bodyBytes authInfoBytes signature : Bytes} {accountNumber : ℕ}
    (h : (encodeSignDoc key bodyBytes authInfoBytes chainId accountNumber :
      Prog S Error Bytes).Leaf A (.ok signature)) :
    Crates.sign key.privateKey
      (SignDoc.encode ⟨bodyBytes, authInfoBytes, chainId, accountNumber⟩) = .ok signature := by
  simp only [SignDoc.encode, SignDoc.fields, encodeFields_append, encodeFields_optBlock,
    encodeFields_optNumber]
  simp only [encodeSignDoc] at h
  split at h
  · rename_i s hs
    simp only [Prog.leaf_pure, Outcome.ok.injEq] at h
    rw [hs, h]
  · cases h

/-- A signed transaction: its parts, and the signature of its document. -/
theorem signTx_returns {S : Sig} {A : (o : S.Op) → Except Error (S.Res o) → Prop}
    (h : (signTx key chainId info messages fee : Prog S Error (TxRaw × Bytes)).Leaf A
      (.ok (raw, bytes))) :
    ∃ signature, Crates.sign key.privateKey
        (signedDocument key chainId info messages fee).encode = .ok signature ∧
      raw = ⟨(encodeTxBody messages).2,
        encodeAuthInfo (encodeSignerInfo info.sequence (encodeKeyBytes key)) fee,
        [signature]⟩ ∧ bytes = raw.encode := by
  obtain ⟨signature, hsign, hraw⟩ := Prog.leaf_bind_ok.mp h
  simp only [Prog.leaf_pure, Outcome.ok.injEq, encodeTx, Prod.mk.injEq] at hraw
  obtain ⟨rfl, rfl⟩ := hraw
  exact ⟨signature, encodeSignDoc_returns hsign, rfl, rfl⟩

/-- **A signed transaction says what it was made from.** -/
theorem signTx_decodes {S : Sig} {A : (o : S.Op) → Except Error (S.Res o) → Prop}
    (h : (signTx key chainId info messages fee : Prog S Error (TxRaw × Bytes)).Leaf A
      (.ok (raw, bytes)))
    (hlen : bytes.length < u64Bound) (hsequence : info.sequence < u64Bound)
    (hgas : fee.gasLimit < u64Bound) :
    TxRaw.decode bytes = some raw ∧
      WireBody.decode raw.bodyBytes = some ⟨messages.map Any.wire, "ibc", 0, [], []⟩ ∧
      WireAuthInfo.decode raw.authInfoBytes = some (authInfoOf key info.sequence fee) ∧
      ∃ signature, raw.signatures = [signature] ∧ Crates.sign key.privateKey
        (signedDocument key chainId info messages fee).encode = .ok signature := by
  obtain ⟨signature, hsign, rfl, rfl⟩ := signTx_returns h
  refine ⟨TxRaw.decode_encode hlen, ?_, ?_, signature, rfl, hsign⟩
  · exact encodeTxBody_decode (TxRaw.body_length_lt hlen)
  · exact encodeAuthInfo_decode hsequence hgas (TxRaw.authInfo_length_lt hlen)

end

/-- The theorem at work: two messages and a signature of 64 bytes. -/
theorem twoMessages_decodes : ∃ raw bytes, TxRaw.decode bytes = some raw ∧
    WireBody.decode raw.bodyBytes = some ⟨twoMessages.map Any.wire, "ibc", 0, [], []⟩ := by
  let _ := Crates.reference
  let raw : TxRaw := ⟨(encodeTxBody twoMessages).2,
    encodeAuthInfo (encodeSignerInfo 7 (encodeKeyBytes ⟨[2], [1], "account"⟩)) txFee,
    [List.replicate 64 0]⟩
  have hlen : raw.encode.length < u64Bound := by decide +kernel
  have hreturns : (signTx ⟨[2], [1], "account"⟩ "chain" ⟨5, 7⟩ twoMessages txFee :
      Prog Sig.none Error (TxRaw × Bytes)).Leaf (fun _ _ => True) (.ok (raw, raw.encode)) := rfl
  have h := signTx_decodes hreturns hlen (by decide) (by decide)
  exact ⟨raw, raw.encode, h.1, h.2.1⟩

/-- The body is made from what is written of the messages. -/
theorem encodeTxBody_congr {messages messages' : List Any}
    (h : messages.map Any.wire = messages'.map Any.wire) :
    (encodeTxBody messages).2 = (encodeTxBody messages').2 := by
  have hencode : ∀ ms : List Any, ms.map Any.encode = (ms.map Any.wire).map fun any =>
      encodeBytesField 1 (utf8 any.typeUrl) ++ encodeBytesField 2 any.value := by
    intro ms
    rw [List.map_map]
    rfl
  have hmessages : messages.map Any.encode = messages'.map Any.encode := by
    rw [hencode, hencode, h]
  show TxBody.encode _ = TxBody.encode _
  rw [TxBody.encode_eq, TxBody.encode_eq]
  simp only [TxBody.fields, hmessages]

/-- **A signature is for one transaction**: two documents are the same exactly if they are for
the same chain, account, key, sequence and fee and hold the same messages. -/
theorem signedDocument_eq_iff (key key' : KeyEntry) (chainId chainId' : String)
    (info info' : BaseAccount) (messages messages' : List Any) (fee fee' : Fee)
    (hlen : (signedDocument key chainId info messages fee).encode.length < u64Bound)
    (hinfo : info.accountNumber < u64Bound ∧ info.sequence < u64Bound)
    (hinfo' : info'.accountNumber < u64Bound ∧ info'.sequence < u64Bound)
    (hgas : fee.gasLimit < u64Bound) (hgas' : fee'.gasLimit < u64Bound) :
    (signedDocument key chainId info messages fee).encode
        = (signedDocument key' chainId' info' messages' fee').encode ↔
      chainId = chainId' ∧ info = info' ∧ key.publicKey = key'.publicKey ∧ fee = fee' ∧
        messages.map Any.wire = messages'.map Any.wire := by
  constructor
  · intro heq
    have hlen' := heq ▸ hlen
    have hdoc : some (signedDocument key chainId info messages fee)
        = some (signedDocument key' chainId' info' messages' fee') := by
      rw [← SignDoc.decode_encode hinfo.1 hlen, ← SignDoc.decode_encode hinfo'.1 hlen', heq]
    obtain ⟨hbody, hauth, hchain, hnumber⟩ := SignDoc.mk.inj (Option.some.inj hdoc)
    -- the parts are shorter than the document
    have hbodyLen : (encodeTxBody messages).2.length < u64Bound :=
      optBlock_length_lt 1 rfl hlen fun f hf => by
        simp [SignDoc.fields, signedDocument, hf]
    have hauthLen :
        (encodeAuthInfo (encodeSignerInfo info.sequence (encodeKeyBytes key)) fee).length
          < u64Bound :=
      optBlock_length_lt 2 rfl hlen fun f hf => by
        simp [SignDoc.fields, signedDocument, hf]
    have hauthInfo : some (authInfoOf key info.sequence fee)
        = some (authInfoOf key' info'.sequence fee') := by
      rw [← encodeAuthInfo_decode hinfo.2 hgas hauthLen,
        ← encodeAuthInfo_decode hinfo'.2 hgas' (hauth ▸ hauthLen), hauth]
    have hmessages : some (⟨messages.map Any.wire, "ibc", 0, [], []⟩ : WireBody)
        = some ⟨messages'.map Any.wire, "ibc", 0, [], []⟩ := by
      rw [← encodeTxBody_decode hbodyLen, ← encodeTxBody_decode (hbody ▸ hbodyLen)]
      exact congrArg WireBody.decode hbody
    obtain ⟨hsigner, hfee⟩ := WireAuthInfo.mk.inj (Option.some.inj hauthInfo)
    obtain ⟨-, hkey, -, hsequence⟩ := WireSigner.mk.inj (List.cons.inj hsigner).1
    obtain ⟨hwire, -⟩ := WireBody.mk.inj (Option.some.inj hmessages)
    refine ⟨hchain, ?_, hkey, hfee, hwire⟩
    cases info
    cases info'
    exact congrArg₂ BaseAccount.mk hnumber hsequence
  · rintro ⟨rfl, rfl, hkey, rfl, hwire⟩
    have hkeyBytes : encodeKeyBytes key = encodeKeyBytes key' := congrArg (encodeBytesField 1) hkey
    simp only [signedDocument, encodeTxBody_congr hwire, hkeyBytes]

/-- With the messages in the other order the document is another one. -/
theorem twoMessages_binds :
    (signedDocument ⟨[2], [1], "account"⟩ "chain" ⟨5, 7⟩ twoMessages txFee).encode
      ≠ (signedDocument ⟨[2], [1], "account"⟩ "chain" ⟨5, 7⟩ twoMessages.reverse txFee).encode := by
  intro heq
  have h := (signedDocument_eq_iff ⟨[2], [1], "account"⟩ ⟨[2], [1], "account"⟩ "chain" "chain"
    ⟨5, 7⟩ ⟨5, 7⟩ twoMessages twoMessages.reverse txFee txFee (by decide +kernel) (by decide)
    (by decide) (by decide) (by decide)).mp heq
  exact absurd h.2.2.2.2 (by decide)

end HyperspaceLight
