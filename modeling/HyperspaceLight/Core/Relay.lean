/-
# The relay loop

`src/core/macros.rs`: `process_finality_event!`, what the relay loop does with one
finality event of `source`.  The events of a first scan are translated; the loop
waits until the source has reached the largest proof height; a second scan is made
for its client update, and its events are dropped.

A scan that fails and a notification that is skipped end the iteration without an
error (`continue`); any other error ends the loop (`?`).
-/

import HyperspaceLight.Core.Events
import HyperspaceLight.Core.Queue

namespace HyperspaceLight

open Interaction

variable {S : Sig}

/-- A signature whose programs can wait. -/
class Timer (S : Sig) where
  sleep : Duration → Prog S Error Unit

/-- One round of waiting for the source to reach a height. -/
def waitStep [Timer S] (source : Chain S) (proofHeightRef : Height) :
    Prog S Error (Option Unit) := do
  let (height, _) ← source.latestHeightAndTimestamp
  if height < proofHeightRef then do
    Timer.sleep (Duration.fromSecs 2)
    return none
  else
    return some ()

/-- What an iteration computes from its first scan: the messages, the timeouts, the
height to wait for and the types of the events; nothing if the scan fails. -/
def iterationMessages [Logger S] [Crates] (source sink : Chain S) (finalityEvent : FinalityEvent) :
    Prog S Error (Option (List Any × List Any × Height × List IbcEventType)) := do
  match ← (source.queryLatestIbcEvents finalityEvent sink.toIbcProvider).attempt with
  | .error _ => return none
  | .ok (_, events, _) => do
      let eventTypes := events.map fun ev => ev.event.eventType
      let (messages, timeouts, proofHeightRef) ←
        parseEvents source.toIbcProvider sink.toIbcProvider events
      return some (messages, timeouts, proofHeightRef, eventTypes)

/-- What an iteration does with its messages: it waits, scans again for the client
update, and submits. -/
def deliverMessages [Timer S] (fuel : ℕ) (source sink : Chain S) (finalityEvent : FinalityEvent)
    (messages timeouts : List Any) (proofHeightRef : Height) (eventTypes : List IbcEventType) :
    Prog S Error Unit := do
  if timeouts ≠ [] then
    flushMessageBatch timeouts source
  .repeatUntil (waitStep source proofHeightRef) fuel
  match ← (source.queryLatestIbcEvents finalityEvent sink.toIbcProvider).attempt with
  | .error _ => return ()
  | .ok (msgUpdateClient, _, updateType) =>
      match updateType.isOptional, hasPacketEvents eventTypes, messages.isEmpty with
      | true, false, true => return ()
      | _, _, _ => flushMessageBatch (msgUpdateClient :: messages) sink

/-- `process_finality_event!`. -/
def processFinalityEvent [Logger S] [Timer S] [Crates] (fuel : ℕ) (source sink : Chain S)
    (finalityEvent : FinalityEvent) : Prog S Error Unit := do
  match ← iterationMessages source sink finalityEvent with
  | none => return ()
  | some (messages, timeouts, proofHeightRef, eventTypes) =>
      deliverMessages fuel source sink finalityEvent messages timeouts proofHeightRef eventTypes

end HyperspaceLight
