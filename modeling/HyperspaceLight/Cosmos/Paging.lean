/-
# Sequences beyond the first page

`query_packet_commitments` and `query_packet_acknowledgements` of `src/cosmos/provider.rs` send
a request without pagination and drop the `next_key` of the response, so they see one page of
the store.  What `query_undelivered_sequences` and `query_undelivered_acks` of
`src/primitives/funcs.rs` make of it has every pending sequence exactly if none is beyond that
page (`pendingSequences_survive_iff`).  Acknowledgements stay in the store, so that page may
hold received ones only.
-/

import HyperspaceLight.Cosmos.ProofQueries
import HyperspaceLight.Primitives.Funcs

namespace HyperspaceLight

open Interaction

/-- The sequences that are stored for a channel, in the order of their keys. -/
structure SequenceStore where
  sequences : List ℕ
  nodup : sequences.Nodup

/-- The answer to a request without pagination: as many sequences as the server's limit allows,
and the key of the next one if there is one. -/
def SequenceStore.firstPage (store : SequenceStore) (limit : ℕ) : SequencePage where
  sequences := store.sequences.take limit
  nextKey := store.sequences[limit]?.map fun seq => utf8 (toString seq)

/-- A channel: its end and its two stores on the source, and what the sink has received. -/
structure PagedChannel where
  channelEnd : ChannelEnd
  commitments : SequenceStore
  acknowledgements : SequenceStore
  received : ℕ → Bool
  acknowledged : ℕ → Bool

/-- `ns` are those of the sequences `seqs` that have not been received. -/
def Unreceived (received : ℕ → Bool) (seqs ns : List ℕ) : Prop :=
  ∀ n, n ∈ ns ↔ n ∈ seqs ∧ received n = false

/-- The two nodes answer from `X`, in pages of `limit`; any call may fail.  That the sink returns
the sequences it has not received is its documentation. -/
def PagedChannel.Answers (X : PagedChannel) (source sink : Side) (limit : ℕ) :
    (o : Net.Op) → Except Error (Net.Res o) → Prop
  | .node s (.channel _ _), .ok r => s = source → r.value = some (.ok X.channelEnd)
  | .node s (.packetCommitments _ _), .ok r => s = source → r = X.commitments.firstPage limit
  | .node s (.packetAcknowledgements _ _), .ok r =>
      s = source → r = X.acknowledgements.firstPage limit
  | .node s (.unreceivedPackets _ _ seqs), .ok r =>
      s = sink → Unreceived X.received seqs r
  | .node s (.unreceivedAcks _ _ seqs), .ok r =>
      s = sink → Unreceived X.acknowledged seqs r
  | _, _ => True

section

variable [Crates] {X : PagedChannel} {source sink : CosmosClient} {limit : ℕ}
  {sourceHeight sinkHeight : Height} {c : ChannelId} {p : PortId} {ns : List ℕ}

/-- The channel end is the one that is stored. -/
theorem channelEnd_answered {response : QueryChannelResponse}
    (h : (source.queryChannelEnd sourceHeight c p).Leaf (X.Answers source.side sink.side limit)
      (.ok response)) : response.value = some (.ok X.channelEnd) := by
  obtain ⟨answer, hanswer, hvalue, -⟩ := queryThenProve_returns h
  exact hvalue.trans (hanswer rfl)

/-- **One page of commitments is asked about.** -/
theorem queryUndeliveredSequences_page (hord : X.channelEnd.ordering = .unordered)
    (h : (queryUndeliveredSequences sourceHeight sinkHeight c p source.provider
      sink.provider).Leaf (X.Answers source.side sink.side limit) (.ok ns)) :
    Unreceived X.received (X.commitments.sequences.take limit) ns := by
  obtain ⟨response, hresponse, h⟩ := Prog.leaf_bind_ok.mp h
  obtain ⟨raw, hraw, h⟩ := Prog.leaf_bind_ok.mp h
  obtain ⟨channelEnd, hend, h⟩ := Prog.leaf_bind_ok.mp h
  rw [Prog.leaf_okOr_ok, channelEnd_answered hresponse] at hraw
  rw [← Option.some.inj hraw, Prog.leaf_mapErr_ok, Raw.leaf_tryFrom_ok] at hend
  obtain rfl := Except.ok.inj hend
  obtain ⟨seqs, hseqs, h⟩ := Prog.leaf_bind_ok.mp h
  obtain ⟨page, hpage, hreturn⟩ := Prog.leaf_bind_ok.mp hseqs
  obtain rfl := Outcome.ok.inj hreturn
  obtain ⟨c', -, h⟩ := Prog.leaf_bind_ok.mp h
  obtain rfl : page = X.commitments.firstPage limit := Side.leaf_grpc_ok hpage rfl
  rw [if_pos hord] at h
  exact Side.leaf_grpc_ok h rfl

/-- **One page of acknowledgements is asked about.** -/
theorem queryUndeliveredAcks_page
    (h : (queryUndeliveredAcks sourceHeight sinkHeight c p source.provider sink.provider).Leaf
      (X.Answers source.side sink.side limit) (.ok ns)) :
    Unreceived X.acknowledged (X.acknowledgements.sequences.take limit) ns := by
  obtain ⟨response, -, h⟩ := Prog.leaf_bind_ok.mp h
  obtain ⟨raw, -, h⟩ := Prog.leaf_bind_ok.mp h
  obtain ⟨channelEnd, -, h⟩ := Prog.leaf_bind_ok.mp h
  obtain ⟨seqs, hseqs, h⟩ := Prog.leaf_bind_ok.mp h
  obtain ⟨page, hpage, hreturn⟩ := Prog.leaf_bind_ok.mp hseqs
  obtain rfl := Outcome.ok.inj hreturn
  obtain ⟨c', -, h⟩ := Prog.leaf_bind_ok.mp h
  obtain rfl : page = X.acknowledgements.firstPage limit := Side.leaf_grpc_ok hpage rfl
  exact Side.leaf_grpc_ok h rfl

omit [Crates] in
/-- **What one page has of the pending sequences.** -/
theorem SequenceStore.page_complete_iff {store : SequenceStore} {received : ℕ → Bool}
    (h : Unreceived received (store.sequences.take limit) ns) :
    (∀ n ∈ store.sequences, received n = false → n ∈ ns) ↔
      ∀ n ∈ store.sequences.drop limit, received n = true := by
  have hnodup := store.nodup
  rw [← List.take_append_drop limit store.sequences, List.nodup_append] at hnodup
  constructor
  · intro hcomplete n hn
    by_contra hpending
    have hmem := hcomplete n (List.mem_of_mem_drop hn) (Bool.not_eq_true _ ▸ hpending)
    exact hnodup.2.2 n ((h n).mp hmem).1 n hn rfl
  · intro hreceived n hn hpending
    rw [← List.take_append_drop limit store.sequences, List.mem_append] at hn
    rcases hn with hn | hn
    · exact (h n).mpr ⟨hn, hpending⟩
    · rw [hreceived n hn] at hpending
      cases hpending

end

/-- **When the pending sequences survive paging.**  For every two Cosmos chains, every channel,
all stored sequences, every limit of the server, and every list that
`query_undelivered_sequences` (on an unordered channel) or `query_undelivered_acks` returns: it
has every commitment, or acknowledgement, that the sink has not received if and only if the sink
has received all that are stored beyond the first page. -/
theorem pendingSequences_survive_iff [Crates] (X : PagedChannel) (source sink : CosmosClient)
    (limit : ℕ) (sourceHeight sinkHeight : Height) (c : ChannelId) (p : PortId) :
    (X.channelEnd.ordering = .unordered → ∀ ns,
        (queryUndeliveredSequences sourceHeight sinkHeight c p source.provider
          sink.provider).Leaf (X.Answers source.side sink.side limit) (.ok ns) →
        ((∀ n ∈ X.commitments.sequences, X.received n = false → n ∈ ns) ↔
          ∀ n ∈ X.commitments.sequences.drop limit, X.received n = true)) ∧
      ∀ ns,
        (queryUndeliveredAcks sourceHeight sinkHeight c p source.provider sink.provider).Leaf
          (X.Answers source.side sink.side limit) (.ok ns) →
        ((∀ n ∈ X.acknowledgements.sequences, X.acknowledged n = false → n ∈ ns) ↔
          ∀ n ∈ X.acknowledgements.sequences.drop limit, X.acknowledged n = true) := by
  refine ⟨fun hord ns h => ?_, fun ns h => ?_⟩
  · exact SequenceStore.page_complete_iff (queryUndeliveredSequences_page hord h)
  · exact SequenceStore.page_complete_iff (queryUndeliveredAcks_page h)

/-! ### Two sequences, and pages of one -/

/-- A channel that stores the sequences 1 and 2, one of which is pending. -/
def twoStored (pending : ℕ) : PagedChannel where
  channelEnd := openEnd .unordered
  commitments := ⟨[1, 2], by decide⟩
  acknowledgements := ⟨[1, 2], by decide⟩
  received n := n != pending
  acknowledged n := n != pending

/-- Its nodes, with a limit of one. -/
def twoStoredAnswer (pending : ℕ) : (o : Net.Op) → Except Error (Net.Res o)
  | .node _ .connect => .ok ()
  | .node _ (.channel _ _) => .ok ⟨some (.ok (openEnd .unordered)), some ⟨0, 8⟩⟩
  | .node _ (.abciQuery _ _ _) => .ok ⟨0, "", [], some [1]⟩
  | .node _ (.packetCommitments _ _) => .ok ((twoStored pending).commitments.firstPage 1)
  | .node _ (.packetAcknowledgements _ _) => .ok ((twoStored pending).acknowledgements.firstPage 1)
  | .node _ (.unreceivedPackets _ _ seqs) => .ok (seqs.filter fun n => n == pending)
  | .node _ (.unreceivedAcks _ _ seqs) => .ok (seqs.filter fun n => n == pending)
  | _ => .error (.external "unavailable")

/-- The example nodes answer from their stores, in pages of one. -/
theorem twoStoredAnswer_answers (pending : ℕ) (source sink : Side) (o : Net.Op) :
    (twoStored pending).Answers source sink 1 o (twoStoredAnswer pending o) := by
  have hsink : ∀ seqs : List ℕ, Unreceived (fun n => n != pending) seqs
      (seqs.filter fun n => n == pending) := fun seqs n => by
    simp [List.mem_filter]
  cases o with
  | node s op =>
      cases op with
      | channel p c | packetCommitments p c | packetAcknowledgements p c => exact fun _ => rfl
      | unreceivedPackets p c seqs | unreceivedAcks p c seqs => exact fun _ => hsink seqs
      | _ => trivial
  | _ => trivial

/-- The undelivered sequences, as they are computed. -/
def twoStoredSequences : Prog Net Error (List ℕ) :=
  let _ := Crates.reference
  queryUndeliveredSequences (height0 8) (height0 8) channel0 transferPort
    (cosmosClient .a client0).provider (cosmosClient .b client0).provider

/-- What the example run returns it may return. -/
theorem twoStoredSequences_leaf {pending : ℕ} {ns : List ℕ}
    (h : twoStoredSequences.eval (twoStoredAnswer pending) = .ok ns) :
    twoStoredSequences.Leaf ((twoStored pending).Answers .a .b 1) (.ok ns) :=
  h ▸ Prog.leaf_eval (twoStoredAnswer_answers pending .a .b) twoStoredSequences

/-- Only the first of the two sequences is pending. -/
theorem firstStored_survives :
    ∃ ns, twoStoredSequences.Leaf ((twoStored 1).Answers .a .b 1) (.ok ns) ∧
      ∀ n ∈ (twoStored 1).commitments.sequences, (twoStored 1).received n = false → n ∈ ns := by
  let _ := Crates.reference
  have hreturns : twoStoredSequences.eval (twoStoredAnswer 1) = .ok [1] := by decide +kernel
  have hleaf := twoStoredSequences_leaf hreturns
  refine ⟨[1], hleaf, ?_⟩
  refine ((pendingSequences_survive_iff (twoStored 1) (cosmosClient .a client0)
    (cosmosClient .b client0) 1 (height0 8) (height0 8) channel0 transferPort).1 rfl [1]
    hleaf).mpr ?_
  decide

/-- **A pending sequence beyond the first page is lost.** -/
theorem secondStored_lost : let _ := Crates.reference
    ¬∀ (X : PagedChannel) (source sink : CosmosClient) (limit : ℕ)
      (sourceHeight sinkHeight : Height) (c : ChannelId) (p : PortId), 1 ≤ limit →
      (X.channelEnd.ordering = .unordered → ∀ ns,
          (queryUndeliveredSequences sourceHeight sinkHeight c p source.provider
            sink.provider).Leaf (X.Answers source.side sink.side limit) (.ok ns) →
          ∀ n ∈ X.commitments.sequences, X.received n = false → n ∈ ns) ∧
        ∀ ns,
          (queryUndeliveredAcks sourceHeight sinkHeight c p source.provider sink.provider).Leaf
            (X.Answers source.side sink.side limit) (.ok ns) →
          ∀ n ∈ X.acknowledgements.sequences, X.acknowledged n = false → n ∈ ns := by
  intro _ h
  have hreturns : twoStoredSequences.eval (twoStoredAnswer 2) = .ok [] := by decide +kernel
  have hlost := (h (twoStored 2) (cosmosClient .a client0) (cosmosClient .b client0) 1 (height0 8)
    (height0 8) channel0 transferPort le_rfl).1 rfl [] (twoStoredSequences_leaf hreturns) 2
    (by decide) (by decide)
  exact List.not_mem_nil hlost

end HyperspaceLight
