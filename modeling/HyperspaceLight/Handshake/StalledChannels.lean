/-
# Channels over a connection with two ids

Where the two chains call the connection under a channel the same, every end that was opened
and has not taken up an answer can be relayed until it is open, and so can the end that
answers it: there is always a channel id that the other chain has not given out
(`Link.Reachable.exists_fresh`).  Where they do not, the first message of the channel
handshake is refused, whatever is relayed and in whatever order, and no end ever leaves
`Init` (`channels_open_or_stall`).  So an open end is proof that the ids are the same, and
it has a peer that it agrees with (`Link.Reachable.open_end`).
-/

import HyperspaceLight.Handshake.Channel
import Mathlib.Data.Set.Finite.Basic
import Mathlib.Logic.Relation

namespace HyperspaceLight

open Interaction Handshake

namespace Link

/-- Every end is as it was opened, and nothing but openings was announced. -/
structure Stalled (link : Link) (w : Channels) : Prop where
  ends : ∀ k e, w.ends k = some e → link.InitEnd k e
  log : ∀ a ∈ w.log, ∃ k, a = .init k

/-- Two ends that name each other, with one ordering and one version, over the connection. -/
structure NameEachOther (link : Link) (k : ChannelKey) (e : ChannelEnd) (k' : ChannelKey)
    (e' : ChannelEnd) : Prop where
  first : e.counterparty = ⟨k'.2.1, some k'.2.2⟩
  second : e'.counterparty = ⟨k.2.1, some k.2.2⟩
  ordering : e.ordering = e'.ordering
  version : e.version = e'.version
  hops : e.connectionHops = [link.connectionId k.1]
  otherHops : e'.connectionHops = [link.connectionId k'.1]

section

variable [Crates] {link : Link} {w w' : Channels} {k k' : ChannelKey} {e e' : ChannelEnd}

omit [Crates] in
/-- Ends of different sides have different keys. -/
theorem ne_of_sides (h : k'.1 = k.1.other) : k' ≠ k := by
  rintro rfl
  generalize k'.1 = s at h
  cases s <;> cases h

/-! ### Where the ids differ -/

/-- **A step of stalled chains** opens one more end, or is refused. -/
theorem Stalled.step (h : link.Stalled w) (hid : link.connectionId .a ≠ link.connectionId .b)
    (hstep : link.Step w w') : link.Stalled w' := by
  cases hstep with
  | @openInit k e fresh init =>
      refine ⟨fun k' e' he' => ?_, fun a ha => ?_⟩
      · by_cases hk : k' = k
        · subst hk
          rw [State.put_ends_self] at he'
          exact Option.some.inj he' ▸ init
        · rw [State.put_ends_ne hk] at he'
          exact h.ends k' e' he'
      · rw [State.put_log] at ha
        rcases List.mem_append.mp ha with ha | ha
        · exact ⟨k, List.mem_singleton.mp ha⟩
        · exact h.log a ha
  | relay told derives accepts =>
      -- what is relayed is an opening, whose message names the wrong connection
      exfalso
      obtain ⟨k, rfl⟩ := h.log _ told
      obtain ⟨e, he, m, rfl, -, -, hchannel, -⟩ := derives.msg
      cases accepts with
      | openTry checks fresh =>
          have hsame := connectionId_eq_of_passes he (h.ends k e he) hchannel checks
          obtain ⟨s, p, c⟩ := k
          cases s with
          | a => exact hid hsame
          | b => exact hid hsame.symm
  | refuse => exact ⟨h.ends, h.log⟩

/-- **Where the ids differ the chains stall.** -/
theorem Reachable.stalled (h : link.Reachable w)
    (hid : link.connectionId .a ≠ link.connectionId .b) : link.Stalled w := by
  induction h with
  | start => exact ⟨fun k e he => (nomatch he), fun a ha => (nomatch ha)⟩
  | step _ hstep ih => exact ih.step hid hstep

/-- **An open end** is one of two that name each other, and both chains call the connection the
same. -/
theorem Reachable.open_end (h : link.Reachable w) (he : w.ends k = some e)
    (hopen : e.state = .open) :
    link.connectionId .a = link.connectionId .b ∧
      ∃ k' e', k'.1 = k.1.other ∧ w.ends k' = some e' ∧ link.NameEachOther k e k' e' := by
  have hid : link.connectionId .a = link.connectionId .b := by
    by_contra hne
    have hinit := ((h.stalled hne).ends k e he).state
    rw [hopen] at hinit
    cases hinit
  obtain ⟨k', e', hpeer, he', hpeer', hm⟩ :=
    ((h.refines hid).inv (link.rules_lawful hid)).mutual (link.rules_lawful hid) he
      (phase_eq_open.mpr hopen)
  obtain ⟨hside, hcp⟩ := peer_eq_some.mp hpeer
  have hcp' := (peer_eq_some.mp hpeer').2
  rcases hm with hm | ⟨-, hm⟩
  · exact ⟨hid, k', e', hside, he',
      ⟨hcp, hcp', hm.ordering.symm, hm.version.symm, hm.hops, hm.otherHops⟩⟩
  · exact ⟨hid, k', e', hside, he',
      ⟨hcp, hcp', hm.ordering, hm.version, hm.otherHops, hm.hops⟩⟩

/-! ### Where they are the same -/

omit [Crates] in
/-- An end that is stored is answered with a proof. -/
theorem leaf_channelEndWithProof {source : ChainInfo} {arm missingHeight : String}
    (mode : DecodeMode) (he : w.ends k = some e) :
    (channelEndWithProof arm mode missingHeight (Chain.trait source .source).toIbcProvider
      (height0 5) k.2.2 k.2.1).Leaf (Answers w k.1)
        (.ok (e, ⟨utf8 "proof", by decide⟩, height0 1)) := by
  refine Prog.leaf_bind_ok.mpr ⟨proven (some (.ok e)), ?_, by cases mode <;> rfl⟩
  refine (Prog.leaf_ask_ok (S := TraitSig)).mpr ?_
  show some (Except.ok e) = (w.ends k).map Except.ok
  rw [he]
  rfl

/-- The end of an arm whose message encodes. -/
theorem exists_toAny {A : (o : TraitSig.Op) → Except Error (TraitSig.Res o) → Prop}
    (hencode : ∀ m, ∃ bytes, Crates.encodeVec m = .ok bytes) (m : Msg) (context : String)
    (ev : IbcEventWithHeight) :
    ∃ any, (m.toAny context (some ev) : Prog TraitSig Error Any).Leaf A (.ok any) ∧
      any.msg = m := by
  obtain ⟨bytes, hbytes⟩ := hencode m
  refine ⟨⟨m.typeUrl, bytes, m, some ev⟩, ?_, rfl⟩
  rw [Msg.toAny, hbytes]
  rfl

/-- An answer is relayed. -/
theorem exists_derives_tried (hencode : ∀ m, ∃ bytes, Crates.encodeVec m = .ok bytes)
    (he : w.ends k = some e) {c : ChannelId} (hc : e.counterparty.channelId = some c) :
    ∃ m, link.Derives w (.tried k) m := by
  let ev := inBlock (.openTryChannel ⟨k.2.1, some k.2.2, link.connectionId k.1,
    e.counterparty.portId, some c⟩)
  obtain ⟨any, hany, hmsg⟩ := exists_toAny hencode (.channelOpenAck {
    portId := e.counterparty.portId
    channelId := c
    counterpartyChannelId := k.2.2
    counterpartyVersion := e.version
    proofs := ⟨⟨utf8 "proof", by decide⟩, none, none, none, height0 1⟩
    signer := (link.chain k.1.other).accountId }) (encodingContext "open_chan_try") ev
  exact ⟨_, ev, any, height0 1, ⟨rfl, rfl⟩,
    Prog.leaf_bind_ok.mpr ⟨_, leaf_channelEndWithProof .expect he,
      Prog.leaf_bind_ok.mpr ⟨c, Prog.leaf_expect_ok.mpr hc,
        Prog.leaf_bind_ok.mpr ⟨any, hany, rfl⟩⟩⟩, hmsg⟩

/-- An opened end is relayed. -/
theorem exists_derives_acked (hencode : ∀ m, ∃ bytes, Crates.encodeVec m = .ok bytes)
    (he : w.ends k = some e) {c : ChannelId} (hc : e.counterparty.channelId = some c) :
    ∃ m, link.Derives w (.acked k) m := by
  let ev := inBlock (.openAckChannel ⟨k.2.1, some k.2.2, link.connectionId k.1,
    e.counterparty.portId, some c⟩)
  obtain ⟨any, hany, hmsg⟩ := exists_toAny hencode (.channelOpenConfirm {
    portId := e.counterparty.portId
    channelId := c
    proofs := ⟨⟨utf8 "proof", by decide⟩, none, none, none, height0 1⟩
    signer := (link.chain k.1.other).accountId }) (encodingContext "open_chan_ack") ev
  exact ⟨_, ev, any, height0 1, ⟨rfl, rfl⟩,
    Prog.leaf_bind_ok.mpr ⟨_, leaf_channelEndWithProof .question he,
      Prog.leaf_bind_ok.mpr ⟨c, Prog.leaf_expect_ok.mpr hc,
        Prog.leaf_bind_ok.mpr ⟨any, hany, rfl⟩⟩⟩, hmsg⟩

/-- A run leads from a reachable state to reachable states. -/
theorem Reachable.run (h : link.Reachable w) (hrun : Relation.ReflTransGen link.Step w w') :
    link.Reachable w' := by
  induction hrun with
  | refl => exact h
  | tail _ hstep ih => exact ih.step hstep

omit [Crates] in
/-- Who stores an end stores one. -/
theorem finite_update (h : {k | w.ends k ≠ none}.Finite) :
    {k' | Function.update w.ends k (some e) k' ≠ none}.Finite := by
  refine (h.insert k).subset fun k' hk' => ?_
  by_cases heq : k' = k
  · exact .inl heq
  · exact .inr fun hnone => hk' ((Function.update_of_ne heq ..).trans hnone)

/-- **There are finitely many ends** in every reachable state. -/
theorem Reachable.finite (h : link.Reachable w) : {k | w.ends k ≠ none}.Finite := by
  induction h with
  | start => exact Set.finite_empty.subset fun k hk => hk rfl
  | step _ hstep ih =>
      cases hstep with
      | openInit fresh init => exact finite_update ih
      | relay told derives accepts =>
          cases accepts with
          | openTry | openAck | openConfirm => exact finite_update ih
      | refuse => exact ih

instance : Infinite ChannelId :=
  .of_injective (fun n => ⟨String.ofList (List.replicate n 'a'), by simp⟩ : ℕ → ChannelId)
    fun m n h => by simpa using congrArg (fun c : ChannelId => c.text.length) h

/-- **A chain always has an id for one more channel.** -/
theorem Reachable.exists_fresh (h : link.Reachable w) (s : Side) (p : PortId) :
    ∃ c, w.ends (s, p, c) = none := by
  by_contra hnone
  have hinjective : Function.Injective fun c : ChannelId => ((s, p, c) : ChannelKey) :=
    fun c c' h => (Prod.mk.inj (Prod.mk.inj h).2).2
  exact Set.infinite_of_injective_forall_mem hinjective
    (fun c => show w.ends (s, p, c) ≠ none from fun hc => hnone ⟨c, hc⟩) h.finite

/-- An end in its first state was announced, and is as it was opened. -/
theorem Reachable.init_end (h : link.Reachable w) (hid : link.connectionId .a = link.connectionId .b)
    (he : w.ends k = some e) (hinit : e.state = .init) : .init k ∈ w.log ∧ link.InitEnd k e := by
  have hinv := (h.refines hid).inv (link.rules_lawful hid)
  have hphase := phase_of_init hinit
  rcases hinv.announced he with told | told
  · obtain ⟨e₀, he₀, hopens | ⟨hopen, -⟩⟩ := hinv.init_end told
    · obtain rfl := Option.some.inj (he.symm.trans he₀)
      exact ⟨told, hopens⟩
    · obtain rfl := Option.some.inj (he.symm.trans he₀)
      exact nomatch hphase.symm.trans hopen
  · -- an end that answers another has left its first state
    obtain ⟨k₀, e₀, e₁, -, ⟨-, he₁, -, -⟩, htry | ⟨hopen, -⟩⟩ := hinv.tried_end told
    · obtain rfl := Option.some.inj (he.symm.trans he₁)
      exact nomatch hphase.symm.trans htry
    · obtain rfl := Option.some.inj (he.symm.trans he₁)
      exact nomatch hphase.symm.trans hopen

/-- **The first step**: an end that was opened is answered on the other chain. -/
theorem Reachable.answered (h : link.Reachable w)
    (hencode : ∀ m, ∃ bytes, Crates.encodeVec m = .ok bytes)
    (hid : link.connectionId .a = link.connectionId .b) (he : w.ends k = some e)
    (hinit : e.state = .init) :
    ∃ w' c, link.Step w w' ∧ .tried (k.1.other, e.counterparty.portId, c) ∈ w'.log ∧
      w'.ends k = some e ∧
      w'.ends (k.1.other, e.counterparty.portId, c) = some (answer k e) := by
  obtain ⟨told, -⟩ := h.init_end hid he hinit
  obtain ⟨m, hm⟩ := exists_derives_init hencode he
  have hpasses := passes_of_inv hid ((h.refines hid).inv (link.rules_lawful hid)) told
    ⟨e, he, hinit⟩ hm
  obtain ⟨e₀, he₀, m', rfl, -, hport, hchannel, -⟩ := hm.msg
  obtain rfl : e = e₀ := Option.some.inj (he.symm.trans he₀)
  obtain ⟨c, hfresh⟩ := h.exists_fresh k.1.other m'.portId
  rw [← hport]
  refine ⟨_, c, .relay told hm (.openTry hpasses hfresh), List.mem_cons_self .., ?_, ?_⟩
  · rw [State.relay_ends, State.put_ends_ne (ne_of_sides rfl).symm]
    exact he
  · exact (Function.update_self ..).trans (congrArg some hchannel)

/-- **The second step**: the end takes up its answer. -/
theorem Reachable.takenUp (h : link.Reachable w)
    (hencode : ∀ m, ∃ bytes, Crates.encodeVec m = .ok bytes)
    (hid : link.connectionId .a = link.connectionId .b) (he : w.ends k = some e)
    (hinit : e.state = .init) {c : ChannelId}
    (told : .tried (k.1.other, e.counterparty.portId, c) ∈ w.log)
    (he' : w.ends (k.1.other, e.counterparty.portId, c) = some (answer k e)) :
    ∃ w', link.Step w w' ∧ .acked k ∈ w'.log ∧ w'.ends k = some (takeUp e c e.version) ∧
      w'.ends (k.1.other, e.counterparty.portId, c) = some (answer k e) := by
  obtain ⟨m, hm⟩ := exists_derives_tried hencode he' rfl
  have hpasses := passes_of_inv hid ((h.refines hid).inv (link.rules_lawful hid)) told
    ⟨_, he', rfl⟩ hm
  obtain ⟨e₀, he₀, m', rfl, hcp, hc, hversion⟩ := hm.msg
  obtain rfl : answer k e = e₀ := Option.some.inj (he'.symm.trans he₀)
  obtain ⟨channel, checks⟩ := hpasses
  -- the message is about the end that was opened
  obtain ⟨hport, hchannel⟩ := ChanCounterparty.mk.inj hcp
  have hkey : (k.1.other.other, m'.portId, m'.channelId) = k := by
    rw [Side.other_other, ← hport, ← Option.some.inj hchannel]
  have hstored : w.ends (k.1.other.other, m'.portId, m'.channelId) = some channel := checks.stored
  rw [hkey] at hstored
  obtain rfl : e = channel := Option.some.inj (he.symm.trans hstored)
  have htaken : link.Step w ((w.put (k.1.other.other, m'.portId, m'.channelId)
      (takeUp e m'.counterpartyChannelId m'.counterpartyVersion)
      [.acked (k.1.other.other, m'.portId, m'.channelId)]).relay
        (.tried (k.1.other, e.counterparty.portId, c))) :=
    .relay told hm (.openAck checks hinit)
  rw [hkey, hc, hversion] at htaken
  refine ⟨_, htaken, List.mem_cons_self .., ?_, ?_⟩
  · rw [State.relay_ends, State.put_ends_self]
    rfl
  · rw [State.relay_ends, State.put_ends_ne (ne_of_sides rfl)]
    exact he'

/-- **The third step**: the end that answered follows. -/
theorem Reachable.confirmed (h : link.Reachable w)
    (hencode : ∀ m, ∃ bytes, Crates.encodeVec m = .ok bytes)
    (hid : link.connectionId .a = link.connectionId .b) {c : ChannelId}
    (told : .acked k ∈ w.log) (he : w.ends k = some (takeUp e c e.version))
    (he' : w.ends (k.1.other, e.counterparty.portId, c) = some (answer k e)) :
    ∃ w', link.Step w w' ∧ w'.ends k = some (takeUp e c e.version) ∧
      w'.ends (k.1.other, e.counterparty.portId, c) =
        some { answer k e with state := .open } := by
  obtain ⟨m, hm⟩ := exists_derives_acked hencode he rfl
  have hpasses := passes_of_inv hid ((h.refines hid).inv (link.rules_lawful hid)) told
    ⟨_, he, rfl⟩ hm
  obtain ⟨e₀, he₀, m', rfl, hcp⟩ := hm.msg
  obtain rfl : takeUp e c e.version = e₀ := Option.some.inj (he.symm.trans he₀)
  obtain ⟨channel, checks⟩ := hpasses
  -- the message is about the end that answered
  obtain ⟨hport, hchannel⟩ := ChanCounterparty.mk.inj hcp
  have hkey : (k.1.other, m'.portId, m'.channelId) =
      ((k.1.other, e.counterparty.portId, c) : ChannelKey) := by
    rw [← hport, ← Option.some.inj hchannel]
  have hstored : w.ends (k.1.other, m'.portId, m'.channelId) = some channel := checks.stored
  rw [hkey] at hstored
  obtain rfl : answer k e = channel := Option.some.inj (he'.symm.trans hstored)
  have hconfirmed : link.Step w ((w.put (k.1.other, m'.portId, m'.channelId)
      { answer k e with state := .open } []).relay (.acked k)) :=
    .relay told hm (.openConfirm checks rfl)
  rw [hkey] at hconfirmed
  refine ⟨_, hconfirmed, ?_, ?_⟩
  · rw [State.relay_ends, State.put_ends_ne (ne_of_sides rfl).symm]
    exact he
  · rw [State.relay_ends, State.put_ends_self]

omit [Crates] in
/-- The two ends name each other then. -/
theorem InitEnd.nameEachOther (h : link.InitEnd k e)
    (hid : link.connectionId .a = link.connectionId .b) (c : ChannelId) :
    link.NameEachOther k (takeUp e c e.version) (k.1.other, e.counterparty.portId, c)
      { answer k e with state := .open } where
  first := rfl
  second := rfl
  ordering := rfl
  version := rfl
  hops := h.hops
  otherHops := h.hops.trans (congrArg (fun id => [id]) (link.connectionId_eq hid _ _))

/-- **Every end that was opened can become open**, and so can its answer. -/
theorem Reachable.opens (h : link.Reachable w)
    (hencode : ∀ m, ∃ bytes, Crates.encodeVec m = .ok bytes)
    (hid : link.connectionId .a = link.connectionId .b) (he : w.ends k = some e)
    (hinit : e.state = .init) :
    ∃ w' c, Relation.ReflTransGen link.Step w w' ∧ w'.ends k = some (takeUp e c e.version) ∧
      w'.ends (k.1.other, e.counterparty.portId, c) =
        some { answer k e with state := .open } := by
  obtain ⟨w₁, c, hstep₁, told, he₁, he₁'⟩ := h.answered hencode hid he hinit
  have h₁ := h.step hstep₁
  obtain ⟨w₂, hstep₂, told', he₂, he₂'⟩ := h₁.takenUp hencode hid he₁ hinit told he₁'
  obtain ⟨w₃, hstep₃, he₃, he₃'⟩ := (h₁.step hstep₂).confirmed hencode hid told' he₂ he₂'
  exact ⟨w₃, c, ((Relation.ReflTransGen.single hstep₁).tail hstep₂).tail hstep₃, he₃, he₃'⟩

end

end Link

/-- **Channels open or stall.**  Where both chains call the connection the same, every end in
`Init` of every reachable state, on either chain, can be relayed until it is open, with the port,
the ordering and the version it was opened with, and so is the end of its counterparty port that
it names.  Where they do not, in every state of every run each end is still as it was opened, and
nothing but openings was announced. -/
theorem channels_open_or_stall [Crates] (link : Link)
    (hencode : ∀ m, ∃ bytes, Crates.encodeVec m = .ok bytes) :
    (link.connectionId .a = link.connectionId .b → ∀ w, link.Reachable w → ∀ k e,
      w.ends k = some e → e.state = .init → ∃ w' c, Relation.ReflTransGen link.Step w w' ∧
        w'.ends k = some { e with
          state := .open
          counterparty := ⟨e.counterparty.portId, some c⟩ } ∧
        w'.ends (k.1.other, e.counterparty.portId, c) = some { e with
          state := .open
          counterparty := ⟨k.2.1, some k.2.2⟩ }) ∧
    (link.connectionId .a ≠ link.connectionId .b → ∀ w, link.Reachable w → link.Stalled w) :=
  ⟨fun hid _ h _ _ he hinit => h.opens hencode hid he hinit, fun hid _ h => h.stalled hid⟩

/-- A channel that is opened on the first of two fresh chains. -/
def freshChannel : ChannelEnd :=
  ⟨.init, .unordered, ⟨transferPort, none⟩, [connection0], "ics20-1"⟩

/-- The theorem at work: it can be opened, with its ordering and its version. -/
theorem freshLink_opens : let _ := Crates.reference
    ∃ w' c, Relation.ReflTransGen freshLink.Step (State.start.put (.a, transferPort, channel0)
        freshChannel [.init (.a, transferPort, channel0)]) w' ∧
      w'.ends (.a, transferPort, channel0) =
        some ⟨.open, .unordered, ⟨transferPort, some c⟩, [connection0], "ics20-1"⟩ ∧
      w'.ends (.b, transferPort, c) =
        some ⟨.open, .unordered, ⟨transferPort, some channel0⟩, [connection0], "ics20-1"⟩ := by
  intro _
  have hopened : freshLink.InitEnd (.a, transferPort, channel0) freshChannel := ⟨rfl, rfl, rfl⟩
  exact (channels_open_or_stall freshLink fun _ => ⟨_, rfl⟩).1 rfl _
    (.step .start (.openInit rfl hopened)) (.a, transferPort, channel0) freshChannel
    State.put_ends_self rfl

end HyperspaceLight
