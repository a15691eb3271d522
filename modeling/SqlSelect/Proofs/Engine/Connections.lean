import SqlSelect.Proofs.Engine.Slots

namespace SqlSelect.Pool

def made? (after : Pool) : PoolStep → Option Nat
  | .connect call true => (after.phase? call).bind Phase.connection?
  | _ => none

def failed? (before : Pool) : PoolStep → Option Nat
  | .conclude call false => (before.phase? call).bind Phase.connection?
  | _ => none

def madeIn (pool : Pool) : List PoolStep → List Nat
  | [] => []
  | step :: steps =>
    match pool.step? step with
    | some after => (after.made? step).toList ++ after.madeIn steps
    | none => []

def failedIn (pool : Pool) : List PoolStep → List Nat
  | [] => []
  | step :: steps =>
    match pool.step? step with
    | some after => (pool.failed? step).toList ++ after.failedIn steps
    | none => []

theorem mem_closed_of_move (pool after : Pool) (step : PoolStep) (move : pool.Move step after) (connection : Nat) :
    connection ∈ after.closed ↔ connection ∈ pool.closed ∨ pool.failed? step = some connection := by
  cases move with
  | fail call closed found =>
    rw [failed?, found, Option.bind_some, Phase.connection?, Option.some.injEq]
    show connection ∈ closed :: pool.closed ↔ _
    rw [List.mem_cons, or_comm, eq_comm]
  | arrive | takeSlot | reuse | begin | made | refused | succeed | putBack | release =>
    exact (or_iff_left (by simp [failed?])).symm

theorem lt_opened_of_move (pool after : Pool) (step : PoolStep) (move : pool.Move step after) (connection : Nat) :
    connection < after.opened ↔ connection < pool.opened ∨ after.made? step = some connection := by
  cases move with
  | made call found =>
    have inside := (List.getElem?_eq_some_iff.mp found).1
    have turned : (pool.calls.set call (.running pool.opened))[call]? = some (.running pool.opened) := by
      rw [List.getElem?_set_self inside]
    rw [made?, phase?, setPhase]
    rw [turned, Option.bind_some, Phase.connection?, Option.some.injEq]
    show connection < pool.opened + 1 ↔ _
    omega
  | arrive | takeSlot | reuse | begin | refused | succeed | fail | putBack | release =>
    exact (or_iff_left (by simp [made?])).symm

theorem mem_closed_of_run (pool after : Pool) (steps : List PoolStep) (run : pool.run? steps = some after)
    (connection : Nat) :
    connection ∈ after.closed ↔ connection ∈ pool.closed ∨ connection ∈ pool.failedIn steps := by
  induction steps generalizing pool with
  | nil =>
    cases run
    simp [failedIn]
  | cons step steps ih =>
    obtain ⟨middle, possible, rest⟩ := Option.bind_eq_some_iff.mp run
    have first := mem_closed_of_move pool middle step (move_of_step? pool middle step possible) connection
    rw [ih middle rest, first, failedIn, possible]
    simp only [List.mem_append, Option.mem_toList, or_assoc]

theorem lt_opened_of_run (pool after : Pool) (steps : List PoolStep) (run : pool.run? steps = some after)
    (connection : Nat) :
    connection < after.opened ↔ connection < pool.opened ∨ connection ∈ pool.madeIn steps := by
  induction steps generalizing pool with
  | nil =>
    cases run
    simp [madeIn]
  | cons step steps ih =>
    obtain ⟨middle, possible, rest⟩ := Option.bind_eq_some_iff.mp run
    have first := lt_opened_of_move pool middle step (move_of_step? pool middle step possible) connection
    rw [ih middle rest, first, madeIn, possible]
    simp only [List.mem_append, Option.mem_toList, or_assoc]

theorem Sound.gone_of_closed (limit : Nat) (pool : Pool) (sound : pool.Sound limit) (connection : Nat)
    (closed : connection ∈ pool.closed) :
    connection ∉ pool.idle ∧ ∀ call, ¬ pool.Uses call connection := by
  have place := sound.places_le_one limit pool connection
  have counted := List.count_pos_iff.mpr closed
  rw [Pool.places] at place
  constructor
  · intro idle
    have pooled := List.count_pos_iff.mpr idle
    omega
  · intro call uses
    have taken := uses.counted pool call connection
    omega

def AtRest (pool : Pool) : Prop := ∀ phase ∈ pool.calls, phase.holdsSlot = false

theorem Sound.idle_of_atRest (limit : Nat) (pool : Pool) (sound : pool.Sound limit) (rest : pool.AtRest) :
    pool.free = limit ∧
      ∀ connection, connection ∈ pool.idle ↔ connection < pool.opened ∧ connection ∉ pool.closed := by
  have unheld : pool.calls.countP Phase.holdsSlot = 0 := by
    rw [List.countP_eq_zero]
    intro phase member
    simp [rest phase member]
  constructor
  · have slots := sound.slots
    rw [Pool.slots] at slots
    omega
  · intro connection
    have unused : pool.calls.countP (Phase.uses connection) = 0 := by
      rw [List.countP_eq_zero]
      intro phase member held
      have slot := rest phase member
      cases phase with
      | running | succeeded => cases slot
      | waiting | admitted | connecting | leaving | ended => cases held
    have place := sound.places connection
    rw [Pool.places, owed, unused] at place
    rw [← List.count_pos_iff, ← List.count_pos_iff]
    split at place <;> omega

/-- In every state that any number of calls reach in any interleaving, with any failures: a connection on which a
statement failed is neither idle nor with a call; and where no call is under way, all slots are free, and the idle
connections are, each once, those that were made and on which no statement failed. -/
theorem idle_of_run (maxConcurrency : Nat) (steps : List PoolStep) (pool : Pool)
    (run : (start maxConcurrency).run? steps = some pool) :
    (∀ connection ∈ (start maxConcurrency).failedIn steps,
        connection ∉ pool.idle ∧ ∀ call, ¬ pool.Uses call connection) ∧
      (pool.AtRest → pool.free = max 1 maxConcurrency ∧ pool.idle.Nodup ∧
        ∀ connection, connection ∈ pool.idle ↔
          connection ∈ (start maxConcurrency).madeIn steps ∧ connection ∉ (start maxConcurrency).failedIn steps) := by
  have sound := (sound_start maxConcurrency).run _ _ pool steps run
  have closed := mem_closed_of_run (start maxConcurrency) pool steps run
  have opened := lt_opened_of_run (start maxConcurrency) pool steps run
  have closed : ∀ connection, connection ∈ pool.closed ↔ connection ∈ (start maxConcurrency).failedIn steps := by
    intro connection
    rw [closed, or_iff_right (by simp [start])]
  have opened : ∀ connection, connection < pool.opened ↔ connection ∈ (start maxConcurrency).madeIn steps := by
    intro connection
    rw [opened, or_iff_right (by simp [start])]
  constructor
  · intro connection failed
    exact sound.gone_of_closed _ pool connection ((closed connection).mpr failed)
  · intro rest
    obtain ⟨free, idle⟩ := sound.idle_of_atRest _ pool rest
    refine ⟨free, (sound.exclusive _ pool).idle, ?_⟩
    intro connection
    rw [idle, opened, closed]

/-- Of two connections that were made at one time one has failed, and after that making a third; the last call was not
let in yet. -/
theorem idle_of_run_failed :
    let steps := [.arrive, .arrive, .takeSlot 0, .checkOut 0, .takeSlot 1, .checkOut 1, .connect 1 true, .connect 0 true,
      .conclude 0 true, .conclude 1 false, .release 1, .arrive, .takeSlot 2, .checkOut 2, .connect 2 false, .putBack 0,
      .arrive, .release 2, .release 0]
    let pool := { free := 2, idle := [1], calls := [.ended, .ended, .ended, .waiting], opened := 2, closed := [0] }
    (start 2).run? steps = some pool ∧ 0 ∈ (start 2).failedIn steps ∧ pool.AtRest ∧
      (0 ∉ pool.idle ∧ ∀ call, ¬ pool.Uses call 0) ∧
      pool.free = max 1 2 ∧ pool.idle.Nodup ∧
        ∀ connection, connection ∈ pool.idle ↔
          connection ∈ (start 2).madeIn steps ∧ connection ∉ (start 2).failedIn steps := by
  intro steps pool
  have run : (start 2).run? steps = some pool := by rfl
  have failed : 0 ∈ (start 2).failedIn steps := by decide
  have rest : pool.AtRest := by
    unfold AtRest
    decide
  obtain ⟨gone, idle⟩ := idle_of_run 2 steps pool run
  exact ⟨run, failed, rest, gone 0 failed, idle rest⟩

end SqlSelect.Pool
