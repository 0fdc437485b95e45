import LteUe.Config.Basic
import LteUe.Layers.Radio
import LteUe.Log
import LteUe.Stack.Lifecycle

/-!
# Detaching

Whoever detaches asks the stack to do so. A graceful detach asks for a switch-off, and then polls the
channel of signalling until nothing waits there or its time is up. The loop is written for any caller
with a clock, so that it can be judged without a stack.
-/

namespace LteUe

/-- What one who detaches can do. -/
structure Detacher (σ : Type) where
  /-- Asks for a detach, a switch-off or not, and whether it could be sent. -/
  request : Bool → σ → Except StackError Bool × σ
  /-- Asks whether signalling waits to be sent. -/
  poll : σ → Except StackError Bool × σ
  readClock : σ → Span × σ
  sleep : Span → σ → σ
  report : Log.Event → σ → σ

namespace Detacher

variable {σ : Type} (d : Detacher σ)

def requestFailed (e : StackError) : Log.Event where
  level := .warn
  target := .nas
  message := s!"detach request failed: {e.message}"

/-- Asks for a detach. Without an answer it counts as not sent. -/
def ask (switchOff : Bool) (s : σ) : Bool × σ :=
  match d.request switchOff s with
  | (.ok sent, s) => (sent, s)
  | (.error e, s) => (false, d.report (requestFailed e) s)

def pollFailed (e : StackError) : Log.Event where
  level := .warn
  target := .nas
  message := s!"cannot poll SRB1: {e.message}"

def timeUp (c : DetachConfig) : Log.Event where
  level := .warn
  target := .nas
  message := "detach couldn't be sent before the deadline"
  fields := [("timeout_ms", .num c.timeoutMillis)]

/-- Polls at most `n` times, until nothing waits or the deadline is reached. There is no answer if the
polls run out before. -/
def awaitSent (c : DetachConfig) (deadline : Span) : Nat → σ → Option Bool × σ
  | 0, s => (none, s)
  | n + 1, s =>
    match d.poll s with
    | (.error e, s) => (some false, d.report (pollFailed e) s)
    | (.ok false, s) => (some true, s)
    | (.ok true, s) =>
      let (now, s) := d.readClock s
      if deadline ≤ now then (some false, d.report (timeUp c) s)
      else awaitSent c deadline n (d.sleep (min c.pollInterval (deadline - now)) s)

/-- The most polls before time is up: one at the start, and one after each sleep. -/
def mostPolls (c : DetachConfig) : Nat :=
  (c.timeout.nanos + c.pollInterval.nanos - 1) / c.pollInterval.nanos + 1

/-- Detaches gracefully, and says whether all signalling has been sent in time. -/
def graceful (c : DetachConfig) (s : σ) : Bool × σ :=
  let (_, s) := d.ask true s
  let (start, s) := d.readClock s
  let (sent, s) := d.awaitSent c (start + c.timeout) (mostPolls c) s
  (sent.getD false, s)

def detach (c : DetachConfig) (gracefully : Bool) (s : σ) : Bool × σ :=
  if gracefully then d.graceful c s else d.ask false s

end Detacher

end LteUe
