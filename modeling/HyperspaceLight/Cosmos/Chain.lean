/-
# A Cosmos chain

`src/cosmos/chain.rs`: `Chain for CosmosClient`.  The weight of a batch is the
length of its transaction body; a batch of more than thirty messages, or one whose
transaction is longer than `max_tx_size`, has no weight but an error.
-/

import HyperspaceLight.Cosmos.Provider

namespace HyperspaceLight

open Interaction

/-- `tx_len`: the length of a transaction with a body of `bodyLen` bytes. -/
def txLen {S : Sig} (envelopeLen bodyLen : ℕ) : Prog S Error ℕ :=
  if bodyLen ≠ 0 then return envelopeLen + 1 + lengthDelimiterLen bodyLen + bodyLen
  else .panic "assertion failed: body_len != 0"

namespace CosmosClient

variable (self : CosmosClient)

/-- One round of the loop over the messages: how many there are, and the length of
the body so far. -/
def estimateWeightStep {S : Sig} (envelopeLen : ℕ) (acc : ℕ × ℕ) (message : Any) :
    Prog S Error (ℕ × ℕ) := do
  let (currentCount, currentLen) := acc
  let messageLen := message.encode.length
  let taggedLen := 1 + lengthDelimiterLen messageLen + messageLen
  -- the length is only computed where the count allows the message
  let tooLong ←
    if 30 ≤ currentCount then pure true
    else do
      let len ← txLen envelopeLen (currentLen + taggedLen)
      pure (decide (self.maxTxSize < len))
  if tooLong then .fail (.custom "Too many messages")
  else return (currentCount + 1, currentLen + taggedLen)

/-- `estimate_weight`. -/
def estimateWeight [Crates] (messages : List Any) : Prog Net Error ℕ := do
  let accountInfo ← self.queryAccount
  let (txRaw, _) ← signTx self.keybase self.chainId accountInfo [] txFee
  let totalLen := txRaw.encode.length
  let bodyBytesLen := txRaw.bodyBytes.length
  let envelopeLen ←
    if bodyBytesLen = 0 then pure totalLen
    else do
      let len ← u64Sub totalLen 1
      let len ← u64Sub len (lengthDelimiterLen bodyBytesLen)
      u64Sub len bodyBytesLen
  let (_, currentLen) ←
    messages.foldlM (self.estimateWeightStep envelopeLen) (0, bodyBytesLen)
  return currentLen

/-- `Chain for CosmosClient`; `fuel` bounds the rounds of waiting for a transaction. -/
def chain [Crates] (fuel : ℕ) : Chain Net where
  toIbcProvider := self.provider
  name := self.name
  blockMaxWeight := self.maxTxSize
  estimateWeight := self.estimateWeight
  submit := self.submitCall fuel
  queryLatestIbcEvents := self.queryLatestIbcEvents

end CosmosClient
end HyperspaceLight
