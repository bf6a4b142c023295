import Mathlib.Algebra.Order.Ring.Nat

/-!
# Exponential backoff

How connection attempts end, how many of the newest have failed without a session, and delays that
double up to a cap. A history lists the outcomes newest first.
-/

namespace PhoneBridge.Library.Backoff

/-- How a connection attempt has ended. -/
inductive Outcome
  /-- no session -/
  | failed
  /-- a session that ended normally -/
  | closed
  /-- a session that ended by an error -/
  | broken
  deriving DecidableEq, Repr

/-- The failed attempts since the last session. -/
def failures : List Outcome → Nat
  | .failed :: past => failures past + 1
  | _ => 0

/-- How the newest session has ended. -/
def lastSession : List Outcome → Option Outcome
  | .failed :: past => lastSession past
  | [] => none
  | session :: _ => some session

/-- A delay that has doubled `n` times, up to a cap. -/
def doubled (base cap n : Nat) : Nat := min (base * 2 ^ n) cap

theorem doubled_succ (base cap n : Nat) :
    min (doubled base cap n * 2) cap = doubled base cap (n + 1) := by
  rw [doubled, doubled, pow_succ, ← mul_assoc]
  omega

end PhoneBridge.Library.Backoff
