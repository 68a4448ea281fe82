/-
# Heights, timestamps, identifiers and store paths

The data of `ibc-relayer-types` that the relayer computes with.  The crate is
not in the repository; what stands here is its documented behaviour.

* A `Height` is a revision number and a revision height that is not zero;
  `Height::new` is the only way to make one.  Heights are compared by the
  revision number first.
* A `Timestamp` may be absent; its `nanoseconds` are then `0`.
* An identifier (`PortId`, `ChannelId`, `ConnectionId`, `ClientId`) is a string
  without the separator of paths.  Which of these strings name something is for
  the crate to say: its `FromStr` is a parameter (`Crates.validIdentifier`).
* A `Path` is a place in the ICS-24 store; `Path.display` is its text, and
  `utf8` the key bytes.  `Path.acks_display_inj` is what the missing separator
  is for: two acknowledgement paths of one sequence are the same text only if
  they name the same channel end.

Arithmetic on `u64` is that of a build with overflow checks: a sum or
difference that does not fit is a panic (`u64Add`, `u64Sub`).
-/

import HyperspaceLight.Interaction.Program
import Mathlib.Algebra.GroupWithZero.Nat
import Mathlib.Data.Prod.Lex
import Mathlib.Order.Basic

namespace HyperspaceLight

open Interaction

/-- `Vec<u8>`. -/
abbrev Bytes := List UInt8

/-- `str::as_bytes`. -/
def utf8 (s : String) : Bytes := s.toUTF8.data.toList

/-- Texts of the same bytes are the same. -/
theorem utf8_inj {s t : String} (h : utf8 s = utf8 t) : s = t := by
  have h₁ : s.toUTF8.data = t.toUTF8.data := Array.toList_inj.mp h
  have h₂ : s.toUTF8 = t.toUTF8 := ByteArray.ext h₁
  exact String.toByteArray_inj.mp h₂

/-- `core::error::Error`, and the errors of other crates that `?` turns into an
`anyhow::Error` without a text of the relayer's own. -/
inductive Error where
  | rpcError (text : String)
  | custom (text : String)
  | external (text : String)
  deriving DecidableEq

/-- The text an error shows. -/
def Error.text : Error → String
  | rpcError t => "Rpc client error: " ++ t
  | custom t => t
  | external t => t

/-! ### Machine arithmetic -/

/-- One past the largest `u64`. -/
def u64Bound : ℕ := 2 ^ 64

variable {S : Sig}

/-- `a + b` on `u64`. -/
def u64Add (a b : ℕ) : Prog S Error ℕ :=
  if a + b < u64Bound then pure (a + b) else .panic "attempt to add with overflow"

/-- `a - b` on `u64`. -/
def u64Sub (a b : ℕ) : Prog S Error ℕ :=
  if b ≤ a then pure (a - b) else .panic "attempt to subtract with overflow"

/-- A sum that is returned is the sum. -/
theorem u64Add_returns {A : (o : S.Op) → Except Error (S.Res o) → Prop} {a b c : ℕ}
    (h : (u64Add a b : Prog S Error ℕ).Leaf A (.ok c)) : c = a + b := by
  unfold u64Add at h
  split_ifs at h
  · simpa [eq_comm] using h
  · cases h

/-- A sum asks for nothing. -/
theorem u64Add_asks {A : (o : S.Op) → Except Error (S.Res o) → Prop} {C : S.Op → Prop} {a b : ℕ} :
    (u64Add a b : Prog S Error ℕ).Asks A C := by
  unfold u64Add
  split_ifs <;> trivial

/-- The value of decimal digits, after those read so far. -/
def digitsValue : List Char → ℕ → Option ℕ
  | [], n => some n
  | c :: cs, n => if c.isDigit then digitsValue cs (n * 10 + (c.toNat - '0'.toNat)) else none

/-- `str::parse::<u64>`: digits, at least one, with an optional sign before them. -/
def parseU64 (s : String) : Option ℕ :=
  let digits := match s.toList with
    | '+' :: cs => cs
    | cs => cs
  match digits with
  | [] => none
  | _ => (digitsValue digits 0).filter (· < u64Bound)

/-! ### Heights and timestamps -/

/-- `core::ics02_client::height::Height`. -/
structure Height where
  revisionNumber : ℕ
  revisionHeight : ℕ
  pos : 0 < revisionHeight
  deriving DecidableEq

namespace Height

/-- A height is its two numbers. -/
theorem ext {a b : Height} (h₁ : a.revisionNumber = b.revisionNumber)
    (h₂ : a.revisionHeight = b.revisionHeight) : a = b := by
  cases a; cases b; simp_all

/-- `Height::new`; `none` is `HeightError::ZeroHeight`. -/
def new (revisionNumber revisionHeight : ℕ) : Option Height :=
  if h : 0 < revisionHeight then some ⟨revisionNumber, revisionHeight, h⟩ else none

/-- A height is made of two numbers, the second not zero. -/
@[simp] theorem new_eq_some {n m : ℕ} {h : Height} :
    new n m = some h ↔ h.revisionNumber = n ∧ h.revisionHeight = m := by
  obtain ⟨rn, rh, hpos⟩ := h
  unfold new
  split_ifs with hm
  · simp [eq_comm]
  · simp only [false_iff, not_and]
    rintro - rfl
    exact hm hpos

/-- The derived order: revision numbers first. -/
instance : LinearOrder Height :=
  LinearOrder.lift' (fun h => toLex (h.revisionNumber, h.revisionHeight)) fun a b h => by
    have h' := Prod.mk.inj (toLex.injective h)
    exact ext h'.1 h'.2

/-- Heights are ordered by revision first. -/
theorem lt_iff {a b : Height} : a < b ↔ a.revisionNumber < b.revisionNumber ∨
    a.revisionNumber = b.revisionNumber ∧ a.revisionHeight < b.revisionHeight :=
  Prod.Lex.toLex_lt_toLex

/-- Heights are ordered by revision first, for at most. -/
theorem le_iff {a b : Height} : a ≤ b ↔ a.revisionNumber < b.revisionNumber ∨
    a.revisionNumber = b.revisionNumber ∧ a.revisionHeight ≤ b.revisionHeight :=
  Prod.Lex.toLex_le_toLex

/-- `Height::add`: the revision height grows. -/
def add (h : Height) (delta : ℕ) : Prog S Error Height := do
  let sum ← u64Add h.revisionHeight delta
  .expect "attempt to add with overflow" (new h.revisionNumber sum)

/-- A sum stays in the revision. -/
theorem add_returns {A : (o : S.Op) → Except Error (S.Res o) → Prop} {h h' : Height} {d : ℕ}
    (hr : (h.add d : Prog S Error Height).Leaf A (.ok h')) :
    h'.revisionNumber = h.revisionNumber ∧ h'.revisionHeight = h.revisionHeight + d := by
  simp only [add, Prog.leaf_bind_ok, Prog.leaf_expect_ok, new_eq_some] at hr
  obtain ⟨s, hs, h₁, h₂⟩ := hr
  exact ⟨h₁, h₂.trans (u64Add_returns hs)⟩

end Height

/-- `ibc_proto`'s height: two numbers, either of them possibly zero. -/
structure RawHeight where
  revisionNumber : ℕ
  revisionHeight : ℕ
  deriving DecidableEq

/-- `Duration`, in nanoseconds. -/
abbrev Duration := ℕ

/-- `Duration::from_secs`. -/
def Duration.fromSecs (s : ℕ) : Duration := s * 1000000000

/-- `tendermint::Time`, in nanoseconds since the epoch. -/
abbrev Time := ℕ

/-- The last instant of the year 9999, the end of `tendermint::Time`. -/
def Time.last : Time := 253402300799999999999

/-- `ibc_relayer_types::timestamp::Timestamp`. -/
structure Timestamp where
  time : Option Time
  deriving DecidableEq

namespace Timestamp

/-- `Timestamp::from(Time)`. -/
def ofTime (t : Time) : Timestamp := ⟨some t⟩

/-- `Timestamp::from_nanoseconds`: zero is no timestamp. -/
def fromNanoseconds (n : ℕ) : Timestamp := if n = 0 then ⟨none⟩ else ⟨some n⟩

/-- `Timestamp::nanoseconds`. -/
def nanoseconds (t : Timestamp) : ℕ := t.time.getD 0

/-- `Timestamp::after`: never true of an absent timestamp. -/
def after (t u : Timestamp) : Bool :=
  match t.time, u.time with
  | some a, some b => decide (b < a)
  | _, _ => false

/-- `Timestamp + Duration`; `none` is a `TimestampOverflowError`. -/
def add (t : Timestamp) (d : Duration) : Option Timestamp :=
  match t.time with
  | none => some t
  | some a => if a + d ≤ Time.last then some ⟨some (a + d)⟩ else none

end Timestamp

/-! ### Identifiers -/

/-- What an identifier names. -/
inductive IdKind where
  | port
  | channel
  | connection
  | client
  deriving DecidableEq

/-- The name of the identifier's type. -/
def IdKind.typeName : IdKind → String
  | port => "PortId"
  | channel => "ChannelId"
  | connection => "ConnectionId"
  | client => "ClientId"

/-- The lengths ICS-24 allows. -/
def IdKind.bounds : IdKind → ℕ × ℕ
  | port => (2, 128)
  | channel => (8, 64)
  | connection => (10, 64)
  | client => (9, 64)

/-- The alphabet and the lengths of ICS-24, which are about texts of one byte a character. -/
def ics24Identifier (k : IdKind) (s : String) : Bool :=
  decide (k.bounds.1 ≤ s.utf8ByteSize) && decide (s.utf8ByteSize ≤ k.bounds.2) &&
    s.toList.all fun c => c.isAlphanum || c ∈ ['.', '_', '+', '-', '#', '[', ']', '<', '>']

/-- An identifier of kind `k`. -/
structure Ident (k : IdKind) where
  text : String
  slash_notMem : '/' ∉ text.toList
  deriving DecidableEq

abbrev PortId := Ident .port
abbrev ChannelId := Ident .channel
abbrev ConnectionId := Ident .connection
abbrev ClientId := Ident .client

namespace Ident

variable {k : IdKind}

/-- An identifier is its text. -/
theorem ext {a b : Ident k} (h : a.text = b.text) : a = b := by
  cases a; cases b; simp_all

/-- The derived `Debug`: the name of the type around the quoted text. -/
def debug (a : Ident k) : String := k.typeName ++ "(" ++ a.text.quote ++ ")"

end Ident

/-! ### Store paths -/

/-- `ics24_host::path::Path`, as far as the relayer uses it. -/
inductive Path where
  | clientState (clientId : ClientId)
  | clientConsensusState (clientId : ClientId) (epoch height : ℕ)
  | connections (connectionId : ConnectionId)
  | channelEnds (portId : PortId) (channelId : ChannelId)
  | seqRecvs (portId : PortId) (channelId : ChannelId)
  | commitments (portId : PortId) (channelId : ChannelId) (sequence : ℕ)
  | acks (portId : PortId) (channelId : ChannelId) (sequence : ℕ)
  | receipts (portId : PortId) (channelId : ChannelId) (sequence : ℕ)
  deriving DecidableEq

namespace Path

/-- `ports/{}/channels/{}`. -/
def channelText (portId : PortId) (channelId : ChannelId) : String :=
  "ports/" ++ portId.text ++ "/channels/" ++ channelId.text

/-- `Display for Path`. -/
def display : Path → String
  | clientState id => "clients/" ++ id.text ++ "/clientState"
  | clientConsensusState id epoch height =>
      "clients/" ++ id.text ++ "/consensusStates/" ++ toString epoch ++ "-" ++ toString height
  | connections id => "connections/" ++ id.text
  | channelEnds p c => "channelEnds/" ++ channelText p c
  | seqRecvs p c => "nextSequenceRecv/" ++ channelText p c
  | commitments p c n => "commitments/" ++ channelText p c ++ "/sequences/" ++ toString n
  | acks p c n => "acks/" ++ channelText p c ++ "/sequences/" ++ toString n
  | receipts p c n => "receipts/" ++ channelText p c ++ "/sequences/" ++ toString n

/-- The key of a path: `path.to_string().into_bytes()`. -/
def key (p : Path) : Bytes := utf8 p.display

/-- Two texts that agree up to a `/` none of their first parts contains agree
on both sides of it. -/
theorem split_slash {a a' b b' : List Char} (ha : '/' ∉ a) (ha' : '/' ∉ a')
    (h : a ++ '/' :: b = a' ++ '/' :: b') : a = a' ∧ b = b' := by
  induction a generalizing a' with
  | nil =>
      cases a' with
      | nil => exact ⟨rfl, by simpa using h⟩
      | cons c a' =>
          simp only [List.nil_append, List.cons_append, List.cons.injEq] at h
          exact absurd (List.mem_cons.mpr (.inl h.1)) ha'
  | cons c a ih =>
      cases a' with
      | nil =>
          simp only [List.nil_append, List.cons_append, List.cons.injEq] at h
          exact absurd (List.mem_cons.mpr (.inl h.1.symm)) ha
      | cons c' a' =>
          simp only [List.cons_append, List.cons.injEq] at h
          simp only [List.mem_cons, not_or] at ha ha'
          obtain ⟨h₁, h₂⟩ := ih ha.2 ha'.2 h.2
          exact ⟨by rw [h.1, h₁], h₂⟩

/-- The path of an acknowledgement, part by part. -/
theorem acks_toList (p : PortId) (c : ChannelId) (n : ℕ) : (acks p c n).display.toList =
    "acks/ports/".toList ++ (p.text.toList ++ ("/channels/".toList ++
      (c.text.toList ++ ("/sequences/".toList ++ (toString n).toList)))) := by
  have hdisplay : (acks p c n).display =
      "acks/" ++ channelText p c ++ "/sequences/" ++ toString n := rfl
  rw [hdisplay, channelText]
  simp only [String.toList_append, List.append_assoc]
  rfl

/-- **An acknowledgement path names its channel end.** -/
theorem acks_display_inj {p p' : PortId} {c c' : ChannelId} {n : ℕ}
    (h : (acks p c n).display = (acks p' c' n).display) : p = p' ∧ c = c' := by
  have h' := congrArg String.toList h
  rw [acks_toList, acks_toList, List.append_cancel_left_eq] at h'
  have e₁ : "/channels/".toList = '/' :: "channels/".toList := by decide
  have e₂ : "/sequences/".toList = '/' :: "sequences/".toList := by decide
  rw [e₁, e₂] at h'
  simp only [List.cons_append] at h'
  obtain ⟨hp, h'⟩ := split_slash p.slash_notMem p'.slash_notMem h'
  rw [List.append_cancel_left_eq] at h'
  obtain ⟨hc, -⟩ := split_slash c.slash_notMem c'.slash_notMem h'
  exact ⟨Ident.ext (String.toList_inj.mp hp), Ident.ext (String.toList_inj.mp hc)⟩

end Path

end HyperspaceLight
