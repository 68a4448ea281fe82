/-
# The Cosmos client

`src/cosmos/client.rs`.  The three connections of a `CosmosClient` (RPC, gRPC and
light client) lead to the node of one chain, its `side`.  `client_id` is optional
in the source's struct, but `CosmosClient::new` always sets it.

`msg_update_client_header` fetches the highest light block first and the one after
the trusted height second; the update is optional in both branches.
-/

import HyperspaceLight.Cosmos.Tx

namespace HyperspaceLight

open Interaction

/-- `CosmosClient`, with the signer that `account_id` derives from the key's address
and the account prefix. -/
structure CosmosClient where
  name : String
  side : Side
  chainId : String
  /-- The id of this chain's light client on the counterparty. -/
  clientId : ClientId
  keybase : KeyEntry
  accountId : Signer
  commitmentPrefix : StorePrefix
  maxTxSize : ℕ
  channelWhitelist : List (ChannelId × PortId)

/-- The fee of every transaction. -/
def txFee : Fee where
  amount := [⟨"stake", "4000"⟩]
  gasLimit := 400000
  payer := ""
  granter := ""

namespace CosmosClient

variable (self : CosmosClient)

/-- `query_account`. -/
def queryAccount : Prog Net Error BaseAccount := do
  self.side.ask .connect (.within "GRPC client error: ")
  let account ← self.side.ask (.account self.keybase.account) .ofDisplay
  let account ← .okOr (.custom "Account not found") account
  account.tryFrom.mapErr (.within "Failed to decode account ")

/-- `submit_call`. -/
def submitCall [Crates] (fuel : ℕ) (messages : List Any) : Prog Net Error TransactionId := do
  let accountInfo ← self.queryAccount
  let (_, txBytes) ← signTx self.keybase self.chainId accountInfo messages txFee
  let hash ← broadcastTx self.side txBytes messages
  confirmTx fuel self.side hash

/-- `msg_update_client_header`. -/
def msgUpdateClientHeader (trustedHeight : Height) : Prog Net Error (Header × UpdateType) := do
  let fetchError := Error.within
    ("Failed to fetch light block for chain " ++ self.name ++ " with error ")
  let latestLightBlock ← self.side.ask (.lightBlock .highest) fetchError
  let height ← (TmHeight.tryFrom trustedHeight.revisionHeight).mapErr
    (.within ("Failed to convert height for chain " ++ self.name ++ " with error "))
  let height ← TmHeight.increment height
  let trustedLightBlock ← self.side.ask (.lightBlock (.at height)) fetchError
  let updateType : UpdateType :=
    if latestLightBlock.validators = latestLightBlock.nextValidators then .optional else .optional
  return ({
    signedHeader := latestLightBlock.signedHeader
    validatorSet := latestLightBlock.validators
    trustedHeight
    trustedValidatorSet := trustedLightBlock.validators }, updateType)

/-- `query_path`; a height of zero asks for the latest. -/
def queryPath [Crates] (data : Bytes) (heightQuery : Height) (prove : Bool) :
    Prog Net Error (AbciQuery × Bytes) := do
  let height ← (TmHeight.tryFrom heightQuery.revisionHeight).mapErr (.within "Invalid height ")
  let height := if height = 0 then none else some height
  let response ← self.side.ask (.abciQuery data height prove)
    (.within ("Failed to query chain " ++ self.name ++ " with error "))
  .require (response.code = 0) (.custom ("Query failed with code Err("
    ++ toString response.code ++ ") and log " ++ response.log))
  .require (¬(prove = true ∧ response.proof = none))
    (.custom ("Query failed due to empty proof for chain " ++ self.name))
  let proof ← .expect "called `Option::unwrap()` on a `None` value" response.proof
  let merkleProof ← .okOr (.custom "bad client state proof") (Crates.convertProof proof).toOption
  let proof ← (CommitmentProofBytes.tryFrom merkleProof).mapErr
    (.within "bad client state proof: ")
  return (response, proof.bytes)

end CosmosClient

/-- A client of the chain of a side, with its light client `clientId` on the
counterparty. -/
def cosmosClient (side : Side) (clientId : ClientId) : CosmosClient where
  name := "chain"
  side
  chainId := "chain"
  clientId
  keybase := ⟨[2], [1], "account"⟩
  accountId := "account"
  commitmentPrefix := ibcPrefix
  maxTxSize := 100000
  channelWhitelist := [(channel0, transferPort)]

end HyperspaceLight
