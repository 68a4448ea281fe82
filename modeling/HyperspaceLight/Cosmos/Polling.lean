/-
# Waiting for a transaction

`confirm_tx` (`src/cosmos/tx.rs`) and `query_client_id_from_tx_hash`
(`src/cosmos/provider.rs`) search a transaction again and again until it is found
or thirty seconds have passed, and sleep between two searches.  The loops differ in
the texts of their errors only (`searchStep`).

By a clock that does not go back and counts the sleeps (`ClockRuns`), there are at
most 102 searches, and the loop does not run out of the rounds it is given
(`confirmTx_outcome`).  The last search alone decides how it ends.
-/

import HyperspaceLight.Cosmos.Client
import HyperspaceLight.Cosmos.DecodeAborts
import HyperspaceLight.Cosmos.Provider

namespace HyperspaceLight

open Interaction

/-! ### The loop -/

/-- One round: search, and where nothing is found look at the time and sleep. -/
def searchStep (rpcClient : Side) (txHash : TransactionId) (context : Error → Error)
    (timedOut : Duration → Error) (startTime : Time) : Prog Net Error (Option TxResponse) := do
  let txs ← rpcClient.ask (.txSearch txHash) context
  match txs.head? with
  | some response => return some response
  | none => do
      let elapsed := (← instantNow) - startTime
      if confirmTimeout < elapsed then .fail (timedOut elapsed)
      else do
        sleep waitBackoff
        return none

/-- The loop of `confirm_tx` is an instance. -/
theorem confirmTxStep_eq (rpcClient : Side) (txHash : TransactionId) (startTime : Time) :
    confirmTxStep rpcClient txHash startTime = searchStep rpcClient txHash
      (.within "failed to search for transaction ") (fun elapsed => .custom ("transaction "
        ++ toString txHash ++ " not found after " ++ toString (elapsed / 1000000000)
        ++ " seconds")) startTime := rfl

/-- An event of the transaction: the clients created so far, by their ids.  One that does not
decode is left out. -/
def createdStep [Crates] (result : List ClientId) (event : AbciEvent) :
    Prog Net Error (List ClientId) := do
  let ibcEvent ← Prog.lift (ibcEventTryFromAbciEvent event).attempt
  match ibcEvent.toOption with
  | some (.createClient attributes) => return result ++ [attributes.clientId]
  | _ => return result

/-- A character inside the debug format of a text. -/
def escapeDebug (c : Char) : String :=
  match c.toNat with
  | 0 => "\\0"
  | 9 => "\\t"
  | 10 => "\\n"
  | 13 => "\\r"
  | 34 => "\\\""
  | 92 => "\\\\"
  | n =>
      if n < 32 ∨ n = 127 then "\\u\x7b" ++ String.ofList (Nat.toDigits 16 n) ++ "\x7d"
      else c.toString

/-- The debug format of a text; what is not ASCII stands for itself. -/
def debugText (s : String) : String :=
  "\"" ++ String.join (s.toList.map escapeDebug) ++ "\""

/-- The error of a transaction that failed. -/
def DeliverTx.failure (result : DeliverTx) : Error :=
  .custom ("Transaction failed with code Err(" ++ toString result.code ++ ") and log "
    ++ debugText result.log)

/-- `query_client_id_from_tx_hash`. -/
def CosmosClient.queryClientIdFromTxHash [Crates] (self : CosmosClient) (fuel : ℕ)
    (txId : TransactionId) : Prog Net Error ClientId := do
  let startTime ← instantNow
  let response ← .repeatUntil (searchStep self.side txId (.within "Failed to query tx hash: ")
    (fun _ => .custom ("Timeout waiting for tx " ++ toString txId ++ " to be included in a block"))
    startTime) fuel
  if response.txResult.code = 0 then
    let result ← response.txResult.events.foldlM createdStep []
    match result with
    | [clientId] => return clientId
    | _ => .fail (.custom ("Expected exactly one CreateClient event, found "
        ++ toString result.length))
  else
    .fail response.txResult.failure

/-! ### The clock -/

/-- A clock that goes on from the given time: it does not go back, and a sleep takes at least
as long as was asked for. -/
def ClockRuns : Time → List (Exchange Net Error) → Prop
  | _, [] => True
  | clock, ⟨.now, r⟩ :: t => ∃ now : Time, r = .ok now ∧ clock ≤ now ∧ ClockRuns now t
  | clock, ⟨.sleep duration, r⟩ :: t => r = .ok () ∧ ClockRuns (clock + duration) t
  | clock, ⟨.node _ _, _⟩ :: t => ClockRuns clock t
  | clock, ⟨.log _, _⟩ :: t => ClockRuns clock t

/-- The answers to the searches, in their order. -/
def searches (t : List (Exchange Net Error)) : List (Except Error (List TxResponse)) :=
  t.filterMap fun
    | ⟨.node _ (.txSearch _), r⟩ => some r
    | _ => none

/-- A round that finds nothing. -/
def emptyRound (s : Side) (hash : TransactionId) (now : Time) : List (Exchange Net Error) :=
  [⟨.node s (.txSearch hash), .ok []⟩, ⟨.now, .ok now⟩, ⟨.sleep waitBackoff, .ok ()⟩]

section

variable {s : Side} {hash : TransactionId} {context : Error → Error} {timedOut : Duration → Error}
  {start clock : Time} {t t' : List (Exchange Net Error)}

/-- A clock goes on after the first part of a trace. -/
theorem ClockRuns.append (h : ClockRuns clock (t ++ t')) :
    ClockRuns clock t ∧ ∃ clock', clock ≤ clock' ∧ ClockRuns clock' t' := by
  induction t generalizing clock with
  | nil => exact ⟨trivial, clock, le_rfl, h⟩
  | cons x t ih =>
      obtain ⟨o, r⟩ := x
      cases o with
      | now =>
          obtain ⟨now, hr, hle, h⟩ := h
          obtain ⟨ht, clock', hle', h'⟩ := ih h
          exact ⟨⟨now, hr, hle, ht⟩, clock', hle.trans hle', h'⟩
      | sleep duration =>
          obtain ⟨hr, h⟩ := h
          obtain ⟨ht, clock', hle', h'⟩ := ih h
          exact ⟨⟨hr, ht⟩, clock', (Nat.le_add_right _ _).trans hle', h'⟩
      | node side op => exact ih h
      | log line => exact ih h

/-- Searches are made in the order of the calls. -/
theorem searches_append (t t' : List (Exchange Net Error)) :
    searches (t ++ t') = searches t ++ searches t' :=
  List.filterMap_append ..

/-- **Each empty round takes the time of its sleep.** -/
theorem clockRuns_rounds {rounds : List (List (Exchange Net Error))}
    (hrounds : ∀ r ∈ rounds, ∃ now, now - start ≤ confirmTimeout ∧ r = emptyRound s hash now)
    (hne : rounds ≠ []) (h : ClockRuns clock rounds.flatten) :
    clock + (rounds.length - 1) * waitBackoff ≤ start + confirmTimeout := by
  induction rounds generalizing clock with
  | nil => exact absurd rfl hne
  | cons r rounds ih =>
      obtain ⟨⟨now, hnow, rfl⟩, htail⟩ := List.forall_mem_cons.mp hrounds
      obtain ⟨now', hnow', hclock, -, hrest⟩ := h
      obtain rfl := Except.ok.inj hnow'
      cases rounds with
      | nil =>
          have hle : now ≤ start + confirmTimeout := Nat.sub_le_iff_le_add'.mp hnow
          simpa using hclock.trans hle
      | cons r rounds =>
          have harith : ∀ c n w : ℕ, c + (n + 1) * w = c + w + n * w := by
            intro c n w
            rw [Nat.add_mul, Nat.one_mul]
            omega
          calc clock + (rounds.length + 1) * waitBackoff
              = clock + waitBackoff + rounds.length * waitBackoff := harith ..
            _ ≤ now + waitBackoff + rounds.length * waitBackoff :=
                Nat.add_le_add_right (Nat.add_le_add_right hclock _) _
            _ ≤ start + confirmTimeout := ih htail (List.cons_ne_nil r rounds) hrest

/-- How a search that is the last one ends the wait. -/
inductive SearchEnds (context : Error → Error) (timedOut : Duration → Error) :
    Except Error (List TxResponse) → Outcome Error TxResponse → Prop
  | refused (e : Error) : SearchEnds context timedOut (.error e) (.err (context e))
  | found (response : TxResponse) (rest : List TxResponse) :
      SearchEnds context timedOut (.ok (response :: rest)) (.ok response)
  | late (elapsed : Duration) (h : confirmTimeout < elapsed) :
      SearchEnds context timedOut (.ok []) (.err (timedOut elapsed))

/-- **A round** finds nothing in time, or it is the last one. -/
theorem searchStep_path {o : Outcome Error (Option TxResponse)}
    (h : (searchStep s hash context timedOut start).Path t o) (hclock : ClockRuns clock t) :
    (∃ now, now - start ≤ confirmTimeout ∧ t = emptyRound s hash now ∧ o = .ok none) ∨
      ∃ answer found, searches t = [answer] ∧ SearchEnds context timedOut answer found ∧
        ((∃ response, found = .ok response ∧ o = .ok (some response)) ∨
          ∃ e, found = .err e ∧ o = .err e) := by
  obtain ⟨answer, t, rfl, h⟩ := h
  rcases answer with e | _ | ⟨response, rest⟩
  · obtain ⟨rfl, rfl⟩ := h
    exact .inr ⟨.error e, _, rfl, .refused e, .inr ⟨_, rfl, rfl⟩⟩
  · obtain ⟨time, t, rfl, h⟩ := h
    obtain ⟨now, rfl, -, hclock⟩ := hclock
    change (if confirmTimeout < now - start then _ else _ : Prog Net Error _).Path t o at h
    split_ifs at h with hlate
    · obtain ⟨rfl, rfl⟩ := h
      exact .inr ⟨.ok [], _, rfl, .late _ hlate, .inr ⟨_, rfl, rfl⟩⟩
    · obtain ⟨slept, t, rfl, h⟩ := h
      obtain ⟨rfl, -⟩ := hclock
      obtain ⟨rfl, rfl⟩ := h
      exact .inl ⟨now, Nat.le_of_not_lt hlate, rfl, rfl⟩
  · obtain ⟨rfl, rfl⟩ := h
    exact .inr ⟨.ok (response :: rest), _, rfl, .found response rest, .inl ⟨_, rfl, rfl⟩⟩

/-- Over rounds one after the other the clock runs in each. -/
theorem ClockRuns.of_mem_flatten {rounds : List (List (Exchange Net Error))}
    (h : ClockRuns clock rounds.flatten) : ∀ r ∈ rounds, ∃ clock', ClockRuns clock' r := by
  induction rounds generalizing clock with
  | nil => exact List.forall_mem_nil _
  | cons r rounds ih =>
      obtain ⟨hr, clock', -, hrounds⟩ := h.append
      exact List.forall_mem_cons.mpr ⟨⟨clock, hr⟩, ih hrounds⟩

/-- Rounds that find nothing are as many empty searches. -/
theorem searches_flatten {rounds : List (List (Exchange Net Error))}
    (h : ∀ r ∈ rounds, searches r = [.ok []]) :
    searches rounds.flatten = List.replicate rounds.length (.ok []) := by
  induction rounds with
  | nil => rfl
  | cons r rounds ih =>
      obtain ⟨hr, hrounds⟩ := List.forall_mem_cons.mp h
      rw [List.flatten_cons, searches_append, hr, ih hrounds]
      rfl

/-- **A wait ends within 102 searches**, and the last one decides how. -/
theorem search_outcome {fuel : ℕ} {o : Outcome Error TxResponse} (hfuel : 102 ≤ fuel)
    (h : (Prog.repeatUntil (searchStep s hash context timedOut start) fuel).Path t o)
    (hclock : ClockRuns start t) :
    ∃ polls ≤ 101, ∃ answer, searches t = List.replicate polls (.ok []) ++ [answer] ∧
      SearchEnds context timedOut answer o := by
  obtain ⟨rounds, hrounds, hend⟩ := Prog.path_repeatUntil h
  have hprefix : ClockRuns start rounds.flatten := by
    rcases hend with ⟨-, rfl, -⟩ | ⟨last, -, rfl, -⟩
    · exact hclock
    · exact hclock.append.1
  -- a round that goes on is an empty one
  have hempty : ∀ r ∈ rounds, ∃ now, now - start ≤ confirmTimeout ∧ r = emptyRound s hash now := by
    intro r hr
    obtain ⟨clock', hclock'⟩ := hprefix.of_mem_flatten r hr
    rcases searchStep_path (hrounds r hr) hclock' with
      ⟨now, hnow, hr, -⟩ | ⟨_, _, -, -, ⟨_, -, ho⟩ | ⟨_, -, ho⟩⟩
    · exact ⟨now, hnow, hr⟩
    · cases ho
    · cases ho
  have hpolls : rounds.length ≤ 101 := by
    by_cases hne : rounds = []
    · simp [hne]
    · have htime := clockRuns_rounds hempty hne hprefix
      have hbound : (rounds.length - 1) * waitBackoff ≤ confirmTimeout :=
        Nat.le_of_add_le_add_left htime
      have hle : rounds.length - 1 ≤ 100 :=
        Nat.le_of_mul_le_mul_right hbound (by decide : 0 < waitBackoff)
      omega
  rcases hend with ⟨hlen, -, -⟩ | ⟨last, -, rfl, hlast⟩
  · omega
  refine ⟨rounds.length, hpolls, ?_⟩
  have hsearches : searches rounds.flatten = List.replicate rounds.length (.ok []) :=
    searches_flatten fun r hr => by
      obtain ⟨now, -, rfl⟩ := hempty r hr
      rfl
  rw [searches_append, hsearches]
  obtain ⟨-, clock', -, hclock'⟩ := hclock.append
  rcases hlast with ⟨response, hbody, rfl⟩ | ⟨o', hbody, hsame⟩
  · rcases searchStep_path hbody hclock' with
      ⟨_, -, -, ho⟩ | ⟨answer, found, hanswer, hends, ⟨_, rfl, ho⟩ | ⟨_, -, ho⟩⟩
    · cases ho
    · obtain rfl := Option.some.inj (Outcome.ok.inj ho)
      exact ⟨answer, congrArg _ hanswer, hends⟩
    · cases ho
  · rcases searchStep_path hbody hclock' with
      ⟨_, -, -, rfl⟩ | ⟨answer, found, hanswer, hends, ⟨_, -, rfl⟩ | ⟨e, rfl, rfl⟩⟩
    · cases hsame
    · cases hsame
    · cases hsame
      exact ⟨answer, congrArg _ hanswer, hends⟩

/-! ### Confirmation -/

/-- How the last search ends a confirmation. -/
inductive ConfirmEnds (hash : TransactionId) :
    Except Error (List TxResponse) → Outcome Error TransactionId → Prop
  | refused (e : Error) :
      ConfirmEnds hash (.error e) (.err (.within "failed to search for transaction " e))
  | confirmed (response : TxResponse) (rest : List TxResponse)
      (h : response.txResult.code = 0) :
      ConfirmEnds hash (.ok (response :: rest)) (.ok response.hash)
  | failed (response : TxResponse) (rest : List TxResponse) (h : response.txResult.code ≠ 0) :
      ConfirmEnds hash (.ok (response :: rest)) (.err (.custom ("transaction " ++ toString hash
        ++ " failed with code Err(" ++ toString response.txResult.code ++ ")")))
  | notFound (elapsed : Duration) (h : confirmTimeout < elapsed) :
      ConfirmEnds hash (.ok []) (.err (.custom ("transaction " ++ toString hash
        ++ " not found after " ++ toString (elapsed / 1000000000) ++ " seconds")))

/-- **A confirmation ends within 102 searches**: with the transaction where the last one found
it and it succeeded, and else with the error that says why not. -/
theorem confirmTx_outcome (s : Side) (hash : TransactionId) (fuel : ℕ) (hfuel : 102 ≤ fuel)
    (t : List (Exchange Net Error)) (o : Outcome Error TransactionId)
    (h : (confirmTx fuel s hash).Path t o) (hclock : ClockRuns 0 t) :
    ∃ polls ≤ 101, ∃ answer, searches t = List.replicate polls (.ok []) ++ [answer] ∧
      ConfirmEnds hash answer o := by
  rcases (Prog.path_ask_bind (S := Net)).mp h with ⟨(start : Time), t, rfl, hrun⟩ | ⟨e, rfl, -⟩
  · obtain ⟨_, hstart, -, hclock⟩ := hclock
    obtain rfl := Except.ok.inj hstart
    simp only [confirmTxStep_eq] at hrun
    rcases Prog.path_bind.mp hrun with ⟨t₁, t₂, response, rfl, hloop, hcode⟩ | ⟨o', hloop, hsame⟩
    · obtain ⟨polls, hpolls, answer, hanswer, hends⟩ :=
        search_outcome hfuel hloop hclock.append.1
      refine ⟨polls, hpolls, answer, ?_⟩
      cases hends with
      | found _ rest =>
          unfold Prog.require at hcode
          split_ifs at hcode with hzero
          · obtain ⟨rfl, rfl⟩ := hcode
            rw [List.append_nil]
            exact ⟨hanswer, .confirmed response rest hzero⟩
          · obtain ⟨rfl, rfl⟩ := hcode
            rw [List.append_nil]
            exact ⟨hanswer, .failed response rest hzero⟩
    · obtain ⟨polls, hpolls, answer, hanswer, hends⟩ := search_outcome hfuel hloop hclock
      refine ⟨polls, hpolls, answer, hanswer, ?_⟩
      cases hends with
      | refused e =>
          cases hsame
          exact .refused e
      | found _ _ => cases hsame
      | late elapsed hlate =>
          cases hsame
          exact .notFound elapsed hlate
  · obtain ⟨_, he, -⟩ := hclock
    cases he

end

/-- The transaction is found at the second search. -/
theorem confirmTx_second : ∃ polls ≤ 101, ∃ answer,
    searches [⟨.now, .ok (0 : ℕ)⟩, ⟨.node .a (.txSearch 7), .ok []⟩, ⟨.now, .ok (5 : ℕ)⟩,
      ⟨.sleep waitBackoff, .ok ()⟩, ⟨.node .a (.txSearch 7), .ok [⟨7, ⟨0, "", []⟩⟩]⟩] =
        List.replicate polls (.ok []) ++ [answer] ∧ ConfirmEnds 7 answer (.ok 7) := by
  refine confirmTx_outcome .a 7 102 le_rfl _ (.ok 7) ?_ ?_
  · exact ⟨_, _, rfl, _, _, rfl, _, _, rfl, _, _, rfl, _, _, rfl, rfl, rfl⟩
  · exact ⟨0, rfl, le_rfl, 5, rfl, Nat.zero_le 5, rfl, trivial⟩

/-! ### The id of a created client -/

section

variable [Crates]

/-- The client that an event creates; one that does not decode creates none. -/
def createdClient (event : AbciEvent) : Option ClientId :=
  match decoded event with
  | some (.createClient attributes) => some attributes.clientId
  | _ => none

/-- One event: it adds the client that it creates, or it ends the search as it ends the
decoder. -/
theorem createdStep_eq (result : List ClientId) (event : AbciEvent) :
    ¬FatalEvent event ∧
        createdStep result event = pure (result ++ (createdClient event).toList) ∨
      FatalEvent event ∧ ∃ o : Outcome Error (List ClientId),
        (ibcEventTryFromAbciEvent event).outcome.SameFailure o ∧
          createdStep result event = .done o := by
  have hfatal : (ibcEventTryFromAbciEvent event).outcome.Abrupt ↔ FatalEvent event :=
    Prog.aborts_none_iff.symm.trans (ibcEventTryFromAbciEvent_aborts_iff (A := fun _ _ => True))
  unfold createdStep createdClient decoded
  generalize ibcEventTryFromAbciEvent event = p at hfatal
  have hskip : (pure result : Prog Net Error (List ClientId)) = pure (result ++ []) := by
    rw [List.append_nil]
  rcases p with o | ⟨op, k⟩
  · cases o with
    | ok ev =>
        cases ev with
        | createClient attributes => exact .inl ⟨fun h => hfatal.mpr h, rfl⟩
        | _ => exact .inl ⟨fun h => hfatal.mpr h, hskip⟩
    | err e => exact .inl ⟨fun h => hfatal.mpr h, hskip⟩
    | panic m => exact .inr ⟨hfatal.mp trivial, .panic m, .panic m, rfl⟩
    | spin => exact .inr ⟨hfatal.mp trivial, .spin, .spin, rfl⟩
  · exact op.elim

/-- **The first event that stops the decoder**, which ends with `o`. -/
def StopsWith {α : Type} (events : List AbciEvent) (o : Outcome Error α) : Prop :=
  ∃ seen event later, events = seen ++ event :: later ∧ (∀ e ∈ seen, ¬FatalEvent e) ∧
    FatalEvent event ∧ (ibcEventTryFromAbciEvent event).outcome.SameFailure o

/-- **The created clients**, or the end of the search where an event stops the decoder. -/
theorem createdClients_path {events : List AbciEvent} {result : List ClientId}
    {t : List (Exchange Net Error)} {o : Outcome Error (List ClientId)}
    (h : (events.foldlM createdStep result).Path t o) :
    t = [] ∧ ((∀ event ∈ events, ¬FatalEvent event) ∧
        o = .ok (result ++ events.filterMap createdClient) ∨ StopsWith events o) := by
  induction events generalizing result with
  | nil =>
      obtain ⟨rfl, rfl⟩ := h
      exact ⟨rfl, .inl (by simp)⟩
  | cons event events ih =>
      rw [List.foldlM_cons] at h
      rcases createdStep_eq result event with ⟨hsafe, heq⟩ | ⟨hfatal, o', hends, heq⟩
      · rw [heq] at h
        obtain ⟨rfl, ⟨hrest, ho⟩ | ⟨seen, e, later, rfl, hseen, hstop⟩⟩ := ih h
        · refine ⟨rfl, .inl ⟨List.forall_mem_cons.mpr ⟨hsafe, hrest⟩, ?_⟩⟩
          rw [ho]
          cases hclient : createdClient event <;> simp [hclient]
        · exact ⟨rfl, .inr ⟨event :: seen, e, later, rfl,
            List.forall_mem_cons.mpr ⟨hsafe, hseen⟩, hstop⟩⟩
      · rw [heq] at h
        have hstops : StopsWith (event :: events) o' :=
          ⟨[], event, events, rfl, List.forall_mem_nil _, hfatal, hends⟩
        cases o' with
        | ok _ => exact absurd hends Outcome.not_sameFailure_ok
        | err _ | panic _ | spin =>
            obtain ⟨rfl, rfl⟩ := h
            exact ⟨rfl, .inr hstops⟩

/-- How the last search ends the query of a client's id. -/
inductive ClientIdEnds (txId : TransactionId) :
    Except Error (List TxResponse) → Outcome Error ClientId → Prop
  | refused (e : Error) :
      ClientIdEnds txId (.error e) (.err (.within "Failed to query tx hash: " e))
  | notFound (elapsed : Duration) (h : confirmTimeout < elapsed) :
      ClientIdEnds txId (.ok []) (.err (.custom ("Timeout waiting for tx " ++ toString txId
        ++ " to be included in a block")))
  | failed (response : TxResponse) (rest : List TxResponse) (h : response.txResult.code ≠ 0) :
      ClientIdEnds txId (.ok (response :: rest)) (.err response.txResult.failure)
  /-- One event of the transaction creates a client, and none stops the decoder. -/
  | created (response : TxResponse) (rest : List TxResponse) (clientId : ClientId)
      (h : response.txResult.code = 0)
      (hsafe : ∀ event ∈ response.txResult.events, ¬FatalEvent event)
      (hone : response.txResult.events.filterMap createdClient = [clientId]) :
      ClientIdEnds txId (.ok (response :: rest)) (.ok clientId)
  | notOne (response : TxResponse) (rest : List TxResponse) (h : response.txResult.code = 0)
      (hsafe : ∀ event ∈ response.txResult.events, ¬FatalEvent event)
      (hnot : (response.txResult.events.filterMap createdClient).length ≠ 1) :
      ClientIdEnds txId (.ok (response :: rest)) (.err (.custom
        ("Expected exactly one CreateClient event, found "
          ++ toString (response.txResult.events.filterMap createdClient).length)))
  /-- An event of the transaction stops the decoder, and the query in the same way. -/
  | fatal (response : TxResponse) (rest : List TxResponse) (o : Outcome Error ClientId)
      (h : response.txResult.code = 0) (hstops : StopsWith response.txResult.events o) :
      ClientIdEnds txId (.ok (response :: rest)) o

/-- **The id of a created client**: that of the one event of the transaction that creates one,
within 102 searches, unless an event of the transaction stops the decoder. -/
theorem queryClientIdFromTxHash_outcome (self : CosmosClient) (txId : TransactionId) (fuel : ℕ)
    (hfuel : 102 ≤ fuel) (t : List (Exchange Net Error)) (o : Outcome Error ClientId)
    (h : (self.queryClientIdFromTxHash fuel txId).Path t o) (hclock : ClockRuns 0 t) :
    ∃ polls ≤ 101, ∃ answer, searches t = List.replicate polls (.ok []) ++ [answer] ∧
      ClientIdEnds txId answer o := by
  rcases (Prog.path_ask_bind (S := Net)).mp h with ⟨(start : Time), t, rfl, hrun⟩ | ⟨e, rfl, -⟩
  · obtain ⟨_, hstart, -, hclock⟩ := hclock
    obtain rfl := Except.ok.inj hstart
    rcases Prog.path_bind.mp hrun with ⟨t₁, t₂, response, rfl, hloop, hrest⟩ | ⟨o', hloop, hsame⟩
    · obtain ⟨polls, hpolls, answer, hanswer, hends⟩ :=
        search_outcome hfuel hloop hclock.append.1
      refine ⟨polls, hpolls, answer, ?_⟩
      cases hends with
      | found _ rest =>
          split_ifs at hrest with hzero
          · rcases Prog.path_bind.mp hrest with
              ⟨t₃, t₄, result, rfl, hresult, hend⟩ | ⟨o', ho', hsame⟩
            · obtain ⟨rfl, ⟨hsafe, heq⟩ | hstops⟩ := createdClients_path hresult
              · rw [List.nil_append, Outcome.ok.injEq] at heq
                split at hend
                · rename_i clientId
                  obtain ⟨rfl, rfl⟩ := hend
                  simp only [List.append_nil]
                  exact ⟨hanswer, .created response rest clientId hzero hsafe heq.symm⟩
                · rename_i hnot
                  obtain ⟨rfl, rfl⟩ := hend
                  subst heq
                  simp only [List.append_nil]
                  refine ⟨hanswer, .notOne response rest hzero hsafe fun hlen => ?_⟩
                  obtain ⟨clientId, hone⟩ := List.length_eq_one_iff.mp hlen
                  exact hnot clientId hone
              · -- a search that ends so returns no clients
                obtain ⟨_, _, _, _, _, _, hfailure⟩ := hstops
                exact absurd hfailure Outcome.not_sameFailure_ok
            · obtain ⟨rfl, ⟨-, rfl⟩ | ⟨seen, event, later, hevents, hseen, hfatal, hends⟩⟩ :=
                createdClients_path ho'
              · cases hsame
              · rw [List.append_nil]
                exact ⟨hanswer, .fatal response rest o hzero
                  ⟨seen, event, later, hevents, hseen, hfatal, hends.trans hsame⟩⟩
          · obtain ⟨rfl, rfl⟩ := hrest
            rw [List.append_nil]
            exact ⟨hanswer, .failed response rest hzero⟩
    · obtain ⟨polls, hpolls, answer, hanswer, hends⟩ := search_outcome hfuel hloop hclock
      refine ⟨polls, hpolls, answer, hanswer, ?_⟩
      cases hends with
      | refused e =>
          cases hsame
          exact .refused e
      | found _ _ => cases hsame
      | late elapsed hlate =>
          cases hsame
          exact .notFound elapsed hlate
  · obtain ⟨_, he, -⟩ := hclock
    cases he

end

/-- A transaction that creates one client. -/
theorem defaultClient_created : let _ := Crates.reference
    ∃ polls ≤ 101, ∃ answer,
      searches [⟨.now, .ok (0 : ℕ)⟩,
          ⟨.node .a (.txSearch 7), .ok [⟨7, ⟨0, "", [⟨"create_client", []⟩]⟩⟩]⟩]
        = List.replicate polls (.ok []) ++ [answer] ∧
      ClientIdEnds 7 answer (.ok defaultClient) := by
  intro _
  refine queryClientIdFromTxHash_outcome (cosmosClient .a client0) 7 102 le_rfl _ _ ?_ ?_
  · exact ⟨_, _, rfl, _, _, rfl, rfl, rfl⟩
  · exact ⟨0, rfl, le_rfl, trivial⟩

end HyperspaceLight
