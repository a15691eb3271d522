namespace SqlSelect

inductive Phase where
  | waiting
  | admitted
  | connecting
  | running (connection : Nat)
  | succeeded (connection : Nat)
  | leaving
  | ended
  deriving DecidableEq, Repr

/-- A step of the call with the given number; `arrive` begins a new call. A statement that is broken off concludes as one
that failed. -/
inductive PoolStep where
  | arrive
  | takeSlot (call : Nat)
  | checkOut (call : Nat)
  | connect (call : Nat) (ok : Bool)
  | conclude (call : Nat) (ok : Bool)
  | putBack (call : Nat)
  | release (call : Nat)
  deriving DecidableEq, Repr

/-- The free slots, the idle connections from the one put back last, the phases of all calls, how many connections were
made, and the connections that were closed. Connections are numbered as they are made. -/
structure Pool where
  free : Nat
  idle : List Nat := []
  calls : List Phase := []
  opened : Nat := 0
  closed : List Nat := []
  deriving DecidableEq, Repr

namespace Phase

def holdsSlot : Phase → Bool
  | waiting | ended => false
  | _ => true

def connection? : Phase → Option Nat
  | running connection | succeeded connection => some connection
  | _ => none

end Phase

namespace Pool

def start (maxConcurrency : Nat) : Pool := { free := max 1 maxConcurrency }

def phase? (pool : Pool) (call : Nat) : Option Phase := pool.calls[call]?

def setPhase (pool : Pool) (call : Nat) (phase : Phase) : Pool :=
  { pool with calls := pool.calls.set call phase }

def step? (pool : Pool) : PoolStep → Option Pool
  | .arrive => some { pool with calls := pool.calls ++ [.waiting] }
  | .takeSlot call =>
    match pool.phase? call, pool.free with
    | some .waiting, free + 1 => some { pool.setPhase call .admitted with free := free }
    | _, _ => none
  | .checkOut call =>
    match pool.phase? call, pool.idle with
    | some .admitted, [] => some (pool.setPhase call .connecting)
    | some .admitted, connection :: idle =>
      some { pool.setPhase call (.running connection) with idle := idle }
    | _, _ => none
  | .connect call ok =>
    match pool.phase? call, ok with
    | some .connecting, true =>
      some { pool.setPhase call (.running pool.opened) with opened := pool.opened + 1 }
    | some .connecting, false => some (pool.setPhase call .leaving)
    | _, _ => none
  | .conclude call ok =>
    match pool.phase? call, ok with
    | some (.running connection), true => some (pool.setPhase call (.succeeded connection))
    | some (.running connection), false =>
      some { pool.setPhase call .leaving with closed := connection :: pool.closed }
    | _, _ => none
  | .putBack call =>
    match pool.phase? call with
    | some (.succeeded connection) =>
      some { pool.setPhase call .leaving with idle := connection :: pool.idle }
    | _ => none
  | .release call =>
    match pool.phase? call with
    | some .leaving => some { pool.setPhase call .ended with free := pool.free + 1 }
    | _ => none

def slots (pool : Pool) : Nat := pool.free + pool.calls.countP Phase.holdsSlot

end Pool
end SqlSelect
