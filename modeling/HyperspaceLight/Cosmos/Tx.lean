/-
# Signing, broadcasting and confirming a transaction

`src/cosmos/tx.rs`.  A transaction is broadcast once; `confirm_tx` then asks for it
until it is found or thirty seconds have passed, and succeeds only if the
transaction did.
-/

import HyperspaceLight.Cosmos.Encode
import HyperspaceLight.Cosmos.Node

namespace HyperspaceLight

open Interaction

/-- `sign_tx`, without the `Tx` that only a simulation would read. -/
def signTx {S : Sig} [Crates] (key : KeyEntry) (chainId : String) (accountInfo : BaseAccount)
    (messages : List Any) (fee : Fee) : Prog S Error (TxRaw × Bytes) := do
  let signerInfo := encodeSignerInfo accountInfo.sequence (encodeKeyBytes key)
  let authInfoBytes := encodeAuthInfo signerInfo fee
  let (_, bodyBytes) := encodeTxBody messages
  let signatureBytes ←
    encodeSignDoc key bodyBytes authInfoBytes chainId accountInfo.accountNumber
  return encodeTx bodyBytes authInfoBytes signatureBytes

/-- `broadcast_tx`. -/
def broadcastTx (rpcClient : Side) (txBytes : Bytes) (messages : List Any) :
    Prog Net Error TransactionId :=
  rpcClient.ask (.broadcastTxSync txBytes messages) (.within "failed to broadcast transaction ")

/-- The time a transaction has to appear in a block. -/
def confirmTimeout : Duration := 30000 * 1000000

/-- `WAIT_BACKOFF`. -/
def waitBackoff : Duration := 300 * 1000000

/-- One round of the loop of `confirm_tx`. -/
def confirmTxStep (rpcClient : Side) (txHash : TransactionId) (startTime : Time) :
    Prog Net Error (Option TxResponse) := do
  let txs ← rpcClient.ask (.txSearch txHash) (.within "failed to search for transaction ")
  match txs.head? with
  | some response => return some response
  | none => do
      let elapsed := (← instantNow) - startTime
      if confirmTimeout < elapsed then
        .fail (.custom ("transaction " ++ toString txHash ++ " not found after "
          ++ toString (elapsed / 1000000000) ++ " seconds"))
      else do
        sleep waitBackoff
        return none

/-- `confirm_tx`. -/
def confirmTx (fuel : ℕ) (rpcClient : Side) (txHash : TransactionId) :
    Prog Net Error TransactionId := do
  let startTime ← instantNow
  let response ← .repeatUntil (confirmTxStep rpcClient txHash startTime) fuel
  .require (response.txResult.code = 0) (.custom ("transaction " ++ toString txHash
    ++ " failed with code Err(" ++ toString response.txResult.code ++ ")"))
  return response.hash

end HyperspaceLight
