/-
# Which packets are undelivered

A packet is undelivered if the source has committed to it and the sink has not
received it.  What "received" means depends on the ordering of the channel: on
an unordered channel the sink stores a receipt, on an ordered channel every
sequence below `nextSequenceRecv` has been received (`ReceiveState.notReceived`).

`query_undelivered_sequences` gets the first notion from the sink and computes
the second one itself.  The comparison leaves out the boundary: the sequence
that the sink accepts next is missing from the result, so the result is what it
should be exactly if the channel is unordered or that sequence has not been
committed.
-/

import HyperspaceLight.Primitives.Funcs

namespace HyperspaceLight

open Interaction

/-- A channel: the source's end with the packets committed there, and what the
sink has received. -/
structure ReceiveState where
  channelEnd : ChannelEnd
  commitments : List ℕ
  receipts : ℕ → Bool
  nextSequenceRecv : ℕ

namespace ReceiveState

/-- The sink has not received packet `n`. -/
def notReceived (w : ReceiveState) (n : ℕ) : Bool :=
  if w.channelEnd.ordering = .unordered then !w.receipts n
  else decide (w.nextSequenceRecv ≤ n)

/-- The two chains answer from `w`.  That `query_unreceived_packets` returns the
sequences without a receipt is its documentation. -/
structure AnsweredBy (w : ReceiveState) (source sink : IbcProvider Static)
    (sourceHeight sinkHeight : Height) (c : ChannelId) (p : PortId) : Prop where
  channelEnd : Decoded (source.queryChannelEnd sourceHeight c p) w.channelEnd
  commitments : (source.queryPacketCommitments sourceHeight c p).Returns w.commitments
  sink : ∃ c', w.channelEnd.counterparty.channelId = some c' ∧
    (∀ ns, ∃ ms, (sink.queryUnreceivedPackets sinkHeight c' w.channelEnd.counterparty.portId
      ns).Returns ms ∧ ∀ n, n ∈ ms ↔ n ∈ ns ∧ w.receipts n = false) ∧
    ∃ r, (sink.queryNextSequenceRecv sinkHeight w.channelEnd.counterparty.portId c').Returns r ∧
      r.value = w.nextSequenceRecv

/-- A source that answers from a receive state. -/
def asSource (w : ReceiveState) : IbcProvider Static :=
  { (Chain.unavailable (chainInfo "source") : Chain Static).toIbcProvider with
    queryChannelEnd := fun _ _ _ => pure (proven (some (.ok w.channelEnd)))
    queryPacketCommitments := fun _ _ _ => pure w.commitments }

/-- A sink that answers from a receive state. -/
def asSink (w : ReceiveState) : IbcProvider Static :=
  { (Chain.unavailable (chainInfo "sink") : Chain Static).toIbcProvider with
    queryUnreceivedPackets := fun _ _ _ ns => pure (ns.filter fun n => !w.receipts n)
    queryNextSequenceRecv := fun _ _ _ => pure (proven w.nextSequenceRecv) }

variable {w : ReceiveState} {source sink : IbcProvider Static} {sourceHeight sinkHeight : Height}
  {c : ChannelId} {p : PortId}

/-- **On an unordered channel the result is exact.** -/
theorem queryUndeliveredSequences_unordered
    (hw : w.AnsweredBy source sink sourceHeight sinkHeight c p)
    (hord : w.channelEnd.ordering = .unordered) :
    ∃ ns, (queryUndeliveredSequences sourceHeight sinkHeight c p source sink).Returns ns ∧
      ∀ n, n ∈ ns ↔ n ∈ w.commitments ∧ w.receipts n = false := by
  obtain ⟨response, hresponse, hvalue⟩ := hw.channelEnd
  obtain ⟨c', hc', hunreceived, -⟩ := hw.sink
  obtain ⟨ms, hms, hmem⟩ := hunreceived w.commitments
  refine ⟨ms, ?_, hmem⟩
  simp only [queryUndeliveredSequences, Prog.Returns, Prog.leaf_bind_ok, Prog.leaf_okOr_ok,
    Prog.leaf_mapErr_ok, Raw.leaf_tryFrom_ok]
  refine ⟨response, hresponse, _, hvalue, w.channelEnd, rfl, w.commitments, hw.commitments, c',
    hc', ?_⟩
  rw [if_pos hord]
  exact hms

/-- **On any other channel the result is what lies above `nextSequenceRecv`.** -/
theorem queryUndeliveredSequences_ordered
    (hw : w.AnsweredBy source sink sourceHeight sinkHeight c p)
    (hord : w.channelEnd.ordering ≠ .unordered) :
    (queryUndeliveredSequences sourceHeight sinkHeight c p source sink).Returns
      (w.commitments.filter fun n => decide (w.nextSequenceRecv < n)) := by
  obtain ⟨response, hresponse, hvalue⟩ := hw.channelEnd
  obtain ⟨c', hc', -, r, hr, hnext⟩ := hw.sink
  simp only [queryUndeliveredSequences, Prog.Returns, Prog.leaf_bind_ok, Prog.leaf_okOr_ok,
    Prog.leaf_mapErr_ok, Raw.leaf_tryFrom_ok]
  refine ⟨response, hresponse, _, hvalue, w.channelEnd, rfl, w.commitments, hw.commitments, c',
    hc', ?_⟩
  rw [if_neg hord, Prog.leaf_bind_ok]
  exact ⟨r, hr, by rw [hnext]; rfl⟩

/-- **When the result is exactly the undelivered sequences**: the channel is
unordered, or the packet that the sink accepts next is not committed. -/
theorem queryUndeliveredSequences_exact_iff (w : ReceiveState) (source sink : IbcProvider Static)
    (sourceHeight sinkHeight : Height) (c : ChannelId) (p : PortId)
    (hw : w.AnsweredBy source sink sourceHeight sinkHeight c p) :
    ∃ ns, (queryUndeliveredSequences sourceHeight sinkHeight c p source sink).Returns ns ∧
      ((∀ n, n ∈ ns ↔ n ∈ w.commitments ∧ w.notReceived n = true) ↔
        w.channelEnd.ordering = .unordered ∨ w.nextSequenceRecv ∉ w.commitments) := by
  by_cases hord : w.channelEnd.ordering = .unordered
  · obtain ⟨ns, hns, hmem⟩ := queryUndeliveredSequences_unordered hw hord
    refine ⟨ns, hns, ?_⟩
    have hexact : ∀ n, n ∈ ns ↔ n ∈ w.commitments ∧ w.notReceived n = true := by
      intro n
      rw [hmem n, notReceived, if_pos hord, Bool.not_eq_true']
    exact ⟨fun _ => .inl hord, fun _ => hexact⟩
  · refine ⟨_, queryUndeliveredSequences_ordered hw hord, ?_⟩
    simp only [notReceived, if_neg hord, List.mem_filter, decide_eq_true_eq]
    constructor
    · -- the boundary: `nextSequenceRecv` is undelivered, and never in the result
      intro hexact
      right
      intro hnext
      have hin := (hexact w.nextSequenceRecv).mpr ⟨hnext, le_rfl⟩
      exact absurd hin.2 (lt_irrefl _)
    · rintro (h | hnext) n
      · exact absurd h hord
      · constructor
        · exact fun h => ⟨h.1, h.2.le⟩
        · rintro ⟨hn, hle⟩
          refine ⟨hn, lt_of_le_of_ne hle ?_⟩
          rintro rfl
          exact hnext hn

/-- These chains answer from the state they are built from. -/
theorem answeredBy_self {c' : ChannelId} (hc' : w.channelEnd.counterparty.channelId = some c')
    (sourceHeight sinkHeight : Height) (c : ChannelId) (p : PortId) :
    w.AnsweredBy w.asSource w.asSink sourceHeight sinkHeight c p where
  channelEnd := ⟨proven (some (.ok w.channelEnd)), rfl, rfl⟩
  commitments := rfl
  sink := by
    refine ⟨c', hc', fun ns => ⟨_, rfl, fun n => ?_⟩, proven w.nextSequenceRecv, rfl, rfl⟩
    rw [List.mem_filter, Bool.not_eq_true']

/-- The first packet of an ordered channel: committed, and accepted next. -/
def firstOrderedPacket : ReceiveState where
  channelEnd := openEnd .ordered
  commitments := [1]
  receipts _ := false
  nextSequenceRecv := 1

/-- The condition at work: the first ordered packet is left out. -/
theorem firstOrderedPacket_exact_iff :
    ∃ ns, (queryUndeliveredSequences (height0 10) (height0 10) channel0 transferPort
        firstOrderedPacket.asSource firstOrderedPacket.asSink).Returns ns ∧
      ((∀ n, n ∈ ns ↔ n ∈ [1] ∧ firstOrderedPacket.notReceived n = true) ↔
        (openEnd .ordered).ordering = .unordered ∨ 1 ∉ [1]) :=
  queryUndeliveredSequences_exact_iff firstOrderedPacket firstOrderedPacket.asSource
    firstOrderedPacket.asSink (height0 10) (height0 10) channel0 transferPort
    (answeredBy_self rfl (height0 10) (height0 10) channel0 transferPort)

/-- **The first packet of an ordered channel is not reported.**  The source has
committed to it and the sink waits for it, and the result is empty. -/
theorem firstOrderedPacket_not_reported :
    firstOrderedPacket.AnsweredBy firstOrderedPacket.asSource firstOrderedPacket.asSink
        (height0 10) (height0 10) channel0 transferPort ∧
      ∃ ns, (queryUndeliveredSequences (height0 10) (height0 10) channel0 transferPort
          firstOrderedPacket.asSource firstOrderedPacket.asSink).Returns ns ∧
        (1 ∈ firstOrderedPacket.commitments ∧ firstOrderedPacket.notReceived 1 = true) ∧
          1 ∉ ns := by
  refine ⟨answeredBy_self rfl (height0 10) (height0 10) channel0 transferPort, [], rfl, ?_, ?_⟩
  · exact ⟨List.mem_singleton.mpr rfl, rfl⟩
  · exact List.not_mem_nil

end ReceiveState
end HyperspaceLight
