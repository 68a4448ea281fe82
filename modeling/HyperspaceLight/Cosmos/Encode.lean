/-
# The bytes of a transaction

`src/cosmos/encode.rs`.  The messages of a transaction, its fee and its signer are
encoded as protobuf messages; the bytes are those of `prost`, which leaves out a
field with the default value.  Encoding into a vector does not fail, so the only
error left is that of the private key.
-/

import HyperspaceLight.RelayerTypes.Messages

namespace HyperspaceLight

open Interaction

/-! ### Protobuf -/

/-- Base 128, the least significant digit first; `fuel` bounds the number of bytes. -/
def varintBytes : (fuel : ℕ) → ℕ → Bytes
  | 0, _ => []
  | fuel + 1, n =>
      if n < 128 then [UInt8.ofNat n]
      else UInt8.ofNat (n % 128 + 128) :: varintBytes fuel (n / 128)

/-- `prost::encoding::encode_varint` of a `u64`: ten bytes at most. -/
def encodeVarint (n : ℕ) : Bytes := varintBytes 10 n

/-- `prost::length_delimiter_len`. -/
def lengthDelimiterLen (n : ℕ) : ℕ := (encodeVarint n).length

/-- A field with its length before it, whatever its value. -/
def encodeMessageField (tag : ℕ) (value : Bytes) : Bytes :=
  encodeVarint (tag * 8 + 2) ++ (encodeVarint value.length ++ value)

/-- A `bytes` or `string` field. -/
def encodeBytesField (tag : ℕ) (value : Bytes) : Bytes :=
  if value = [] then [] else encodeMessageField tag value

/-- A `uint64` field, or an enumeration. -/
def encodeUintField (tag value : ℕ) : Bytes :=
  if value = 0 then [] else encodeVarint (tag * 8) ++ encodeVarint value

/-- `Message::encode` for `Any`. -/
def Any.encode (any : Any) : Bytes :=
  encodeBytesField 1 (utf8 any.typeUrl) ++ encodeBytesField 2 any.value

/-! ### Keys, fees and transactions -/

/-- `key_provider::KeyEntry`; the keys are kept as bytes. -/
structure KeyEntry where
  publicKey : Bytes
  privateKey : Bytes
  account : String

/-- `cosmos::base::v1beta1::Coin`. -/
structure Coin where
  denom : String
  amount : String

/-- `cosmos::tx::v1beta1::Fee`. -/
structure Fee where
  amount : List Coin
  gasLimit : ℕ
  payer : String
  granter : String

/-- `cosmos::tx::v1beta1::SignerInfo`, with its public key and its mode as bytes. -/
structure SignerInfo where
  publicKey : Bytes
  modeInfo : Bytes
  sequence : ℕ

/-- `cosmos::tx::v1beta1::TxBody`. -/
structure TxBody where
  messages : List Any
  memo : String
  timeoutHeight : ℕ
  extensionOptions : List Any
  nonCriticalExtensionOptions : List Any

/-- `cosmos::tx::v1beta1::TxRaw`. -/
structure TxRaw where
  bodyBytes : Bytes
  authInfoBytes : Bytes
  signatures : List Bytes

def Coin.encode (coin : Coin) : Bytes :=
  encodeBytesField 1 (utf8 coin.denom) ++ encodeBytesField 2 (utf8 coin.amount)

def Fee.encode (fee : Fee) : Bytes :=
  fee.amount.flatMap (fun coin => encodeMessageField 1 coin.encode) ++
    (encodeUintField 2 fee.gasLimit ++
      (encodeBytesField 3 (utf8 fee.payer) ++ encodeBytesField 4 (utf8 fee.granter)))

def SignerInfo.encode (info : SignerInfo) : Bytes :=
  encodeMessageField 1 info.publicKey ++
    (encodeMessageField 2 info.modeInfo ++ encodeUintField 3 info.sequence)

def TxBody.encode (body : TxBody) : Bytes :=
  body.messages.flatMap (fun any => encodeMessageField 1 any.encode) ++
    (encodeBytesField 2 (utf8 body.memo) ++
      (encodeUintField 3 body.timeoutHeight ++
        (body.extensionOptions.flatMap (fun any => encodeMessageField 1023 any.encode) ++
          body.nonCriticalExtensionOptions.flatMap fun any =>
            encodeMessageField 2047 any.encode)))

def TxRaw.encode (raw : TxRaw) : Bytes :=
  encodeBytesField 1 raw.bodyBytes ++
    (encodeBytesField 2 raw.authInfoBytes ++ raw.signatures.flatMap (encodeMessageField 3))

/-- `encode_key_bytes`: the key as a `BytesValue`. -/
def encodeKeyBytes (key : KeyEntry) : Bytes := encodeBytesField 1 key.publicKey

/-- `encode_signer_info`. -/
def encodeSignerInfo (sequence : ℕ) (keyBytes : Bytes) : SignerInfo where
  publicKey := encodeBytesField 1 (utf8 "/cosmos.crypto.secp256k1.PubKey") ++
    encodeBytesField 2 keyBytes
  modeInfo := encodeMessageField 1 (encodeUintField 1 1)
  sequence

/-- `encode_auth_info`; there is no tip. -/
def encodeAuthInfo (signerInfo : SignerInfo) (fee : Fee) : Bytes :=
  encodeMessageField 1 signerInfo.encode ++ encodeMessageField 2 fee.encode

/-- `encode_tx_body`. -/
def encodeTxBody (messages : List Any) : TxBody × Bytes :=
  let body : TxBody := {
    messages
    memo := "ibc"
    timeoutHeight := 0
    extensionOptions := []
    nonCriticalExtensionOptions := [] }
  (body, body.encode)

/-- `encode_sign_doc`: the signature of the encoded `SignDoc`. -/
def encodeSignDoc {S : Sig} [Crates] (key : KeyEntry) (bodyBytes authInfoBytes : Bytes)
    (chainId : String) (accountNumber : ℕ) : Prog S Error Bytes :=
  let signDoc := encodeBytesField 1 bodyBytes ++ (encodeBytesField 2 authInfoBytes ++
    (encodeBytesField 3 (utf8 chainId) ++ encodeUintField 4 accountNumber))
  match Crates.sign key.privateKey signDoc with
  | .ok signature => return signature
  | .error e => .fail (.custom e)

/-- `encode_tx`. -/
def encodeTx (bodyBytes authInfoBytes signatureBytes : Bytes) : TxRaw × Bytes :=
  let txRaw : TxRaw := ⟨bodyBytes, authInfoBytes, [signatureBytes]⟩
  (txRaw, txRaw.encode)

end HyperspaceLight
