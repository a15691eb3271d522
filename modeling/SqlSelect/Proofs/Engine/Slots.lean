import Mathlib.Data.List.Nodup
import SqlSelect.Engine.Pool

namespace SqlSelect

namespace Phase

def uses (connection : Nat) (phase : Phase) : Bool := phase.connection? == some connection

def occupies : Phase → Bool
  | connecting | running _ | succeeded _ => true
  | _ => false

theorem holdsSlot_of_occupies (phase : Phase) (occupied : phase.occupies = true) : phase.holdsSlot = true := by
  cases phase with
  | connecting | running | succeeded => rfl
  | waiting | admitted | leaving | ended => cases occupied

end Phase

namespace Pool

inductive Move (pool : Pool) : PoolStep → Pool → Prop where
  | arrive : Move pool .arrive { pool with calls := pool.calls ++ [.waiting] }
  | takeSlot (call free : Nat) (found : pool.phase? call = some .waiting) (spare : pool.free = free + 1) :
    Move pool (.takeSlot call) { pool.setPhase call .admitted with free := free }
  | reuse (call connection : Nat) (idle : List Nat) (found : pool.phase? call = some .admitted)
    (first : pool.idle = connection :: idle) :
    Move pool (.checkOut call) { pool.setPhase call (.running connection) with idle := idle }
  | begin (call : Nat) (found : pool.phase? call = some .admitted) (empty : pool.idle = []) :
    Move pool (.checkOut call) (pool.setPhase call .connecting)
  | made (call : Nat) (found : pool.phase? call = some .connecting) :
    Move pool (.connect call true)
      { pool.setPhase call (.running pool.opened) with opened := pool.opened + 1 }
  | refused (call : Nat) (found : pool.phase? call = some .connecting) :
    Move pool (.connect call false) (pool.setPhase call .leaving)
  | succeed (call connection : Nat) (found : pool.phase? call = some (.running connection)) :
    Move pool (.conclude call true) (pool.setPhase call (.succeeded connection))
  | fail (call connection : Nat) (found : pool.phase? call = some (.running connection)) :
    Move pool (.conclude call false)
      { pool.setPhase call .leaving with closed := connection :: pool.closed }
  | putBack (call connection : Nat) (found : pool.phase? call = some (.succeeded connection)) :
    Move pool (.putBack call) { pool.setPhase call .leaving with idle := connection :: pool.idle }
  | release (call : Nat) (found : pool.phase? call = some .leaving) :
    Move pool (.release call) { pool.setPhase call .ended with free := pool.free + 1 }

theorem move_of_step? (pool after : Pool) (step : PoolStep) (possible : pool.step? step = some after) :
    pool.Move step after := by
  cases step with
  | arrive =>
    cases possible
    exact .arrive
  | takeSlot call =>
    simp only [step?] at possible
    split at possible <;> cases possible
    rename_i free found spare
    exact .takeSlot call free found spare
  | checkOut call =>
    simp only [step?] at possible
    split at possible <;> cases possible
    · rename_i found empty
      exact .begin call found empty
    · rename_i connection idle found first
      exact .reuse call connection idle found first
  | connect call ok =>
    simp only [step?] at possible
    split at possible <;> cases possible
    · rename_i found
      exact .made call found
    · rename_i found
      exact .refused call found
  | conclude call ok =>
    simp only [step?] at possible
    split at possible <;> cases possible
    · rename_i connection found
      exact .succeed call connection found
    · rename_i connection found
      exact .fail call connection found
  | putBack call =>
    simp only [step?] at possible
    split at possible <;> cases possible
    rename_i connection found
    exact .putBack call connection found
  | release call =>
    simp only [step?] at possible
    split at possible <;> cases possible
    rename_i found
    exact .release call found

def places (pool : Pool) (connection : Nat) : Nat :=
  pool.idle.count connection + pool.closed.count connection + pool.calls.countP (Phase.uses connection)

def owed (pool : Pool) (connection : Nat) : Nat := if connection < pool.opened then 1 else 0

def load (pool : Pool) : Nat := pool.idle.length + pool.calls.countP Phase.occupies

/-- A call goes from one phase to another. Its slot and its connection are then where the new phase and the pool have
them, and the load grows only where no connection is idle. -/
structure Turn (pool after : Pool) (call : Nat) (old new : Phase) : Prop where
  found : pool.phase? call = some old
  calls : after.calls = pool.calls.set call new
  slot : after.free + new.holdsSlot.toNat = pool.free + old.holdsSlot.toNat
  place : ∀ connection,
    after.idle.count connection + after.closed.count connection + (new.uses connection).toNat + pool.owed connection =
      pool.idle.count connection + pool.closed.count connection + (old.uses connection).toNat + after.owed connection
  load : after.idle = [] ∨ after.idle.length + new.occupies.toNat ≤ pool.idle.length + old.occupies.toNat

theorem count_cons_of_uses (connection other : Nat) (connections : List Nat) :
    (connection :: connections).count other =
      connections.count other + (Phase.uses other (.running connection)).toNat := by
  rw [List.count_cons, Phase.uses, Phase.connection?]
  by_cases same : connection = other <;> simp [same]

theorem owed_succ (pool : Pool) (connection : Nat) :
    owed { pool with opened := pool.opened + 1 } connection =
      pool.owed connection + (Phase.uses connection (.running pool.opened)).toNat := by
  rw [owed, owed, Phase.uses, Phase.connection?]
  by_cases last : pool.opened = connection
  · simp [last]
  · have apart : (some pool.opened == some connection) = false := by simp [last]
    have bounds : connection < pool.opened + 1 ↔ connection < pool.opened := by omega
    simp only [apart, bounds, Bool.toNat_false, Nat.add_zero]

theorem turn_of_move (pool after : Pool) (step : PoolStep) (move : pool.Move step after) :
    after = { pool with calls := pool.calls ++ [.waiting] } ∨ ∃ call old new, pool.Turn after call old new := by
  cases move with
  | arrive => exact .inl rfl
  | takeSlot call free found spare =>
    refine .inr ⟨call, _, .admitted, found, rfl, ?_, fun _ => rfl, .inr (Nat.le_refl _)⟩
    rw [spare]
    rfl
  | reuse call connection idle found first =>
    refine .inr ⟨call, _, .running connection, found, rfl, rfl, ?_, .inr ?_⟩
    · intro other
      have taken := count_cons_of_uses connection other idle
      rw [first]
      show idle.count other + pool.closed.count other + (Phase.uses other (.running connection)).toNat +
        pool.owed other = (connection :: idle).count other + pool.closed.count other + 0 + pool.owed other
      omega
    · rw [first]
      exact Nat.le_refl _
  | begin call found empty =>
    exact .inr ⟨call, _, .connecting, found, rfl, rfl, fun _ => rfl, .inl empty⟩
  | made call found =>
    refine .inr ⟨call, _, .running pool.opened, found, rfl, rfl, ?_, .inr (Nat.le_refl _)⟩
    intro other
    have added := owed_succ pool other
    show pool.idle.count other + pool.closed.count other + (Phase.uses other (.running pool.opened)).toNat +
      pool.owed other = pool.idle.count other + pool.closed.count other + 0 +
        owed { pool with opened := pool.opened + 1 } other
    omega
  | refused call found =>
    exact .inr ⟨call, _, .leaving, found, rfl, rfl, fun _ => rfl, .inr (Nat.le_succ _)⟩
  | succeed call connection found =>
    exact .inr ⟨call, _, .succeeded connection, found, rfl, rfl, fun _ => rfl, .inr (Nat.le_refl _)⟩
  | fail call connection found =>
    refine .inr ⟨call, _, .leaving, found, rfl, rfl, ?_, .inr (Nat.le_succ _)⟩
    intro other
    have dropped := count_cons_of_uses connection other pool.closed
    show pool.idle.count other + (connection :: pool.closed).count other + 0 + pool.owed other =
      pool.idle.count other + pool.closed.count other + (Phase.uses other (.running connection)).toNat + pool.owed other
    omega
  | putBack call connection found =>
    refine .inr ⟨call, _, .leaving, found, rfl, rfl, ?_, .inr (Nat.le_refl _)⟩
    intro other
    have returned := count_cons_of_uses connection other pool.idle
    show (connection :: pool.idle).count other + pool.closed.count other + 0 + pool.owed other =
      pool.idle.count other + pool.closed.count other + (Phase.uses other (.succeeded connection)).toNat + pool.owed other
    have same : Phase.uses other (.succeeded connection) = Phase.uses other (.running connection) := rfl
    rw [same]
    omega
  | release call found =>
    exact .inr ⟨call, _, .ended, found, rfl, rfl, fun _ => rfl, .inr (Nat.le_refl _)⟩

theorem countP_of_turn (pool after : Pool) (call : Nat) (old new : Phase) (turn : pool.Turn after call old new)
    (p : Phase → Bool) : after.calls.countP p + (p old).toNat = pool.calls.countP p + (p new).toNat := by
  obtain ⟨inside, rfl⟩ := List.getElem?_eq_some_iff.mp turn.found
  rw [turn.calls, List.countP_set inside]
  have counted : (p pool.calls[call]).toNat ≤ pool.calls.countP p := by
    cases holds : p pool.calls[call] with
    | false => exact Nat.zero_le _
    | true => exact List.countP_pos_iff.mpr ⟨_, List.getElem_mem inside, holds⟩
  cases holds : p pool.calls[call] <;> cases p new
  all_goals
    simp only [holds, Bool.toNat_true, Bool.toNat_false, Bool.false_eq_true, if_true, if_false] at counted ⊢
    omega

structure Sound (limit : Nat) (pool : Pool) : Prop where
  slots : pool.slots = limit
  places : ∀ connection, pool.places connection = pool.owed connection
  load : pool.load ≤ limit

theorem sound_start (maxConcurrency : Nat) : (start maxConcurrency).Sound (max 1 maxConcurrency) := by
  refine ⟨rfl, ?_, Nat.zero_le _⟩
  intro connection
  simp [places, owed, start]

theorem load_le_slots (pool : Pool) (empty : pool.idle = []) : pool.load ≤ pool.slots := by
  have held := List.countP_mono_left fun phase (_ : phase ∈ pool.calls) => phase.holdsSlot_of_occupies
  simp only [load, slots, empty, List.length_nil]
  omega

theorem Sound.move (limit : Nat) (pool after : Pool) (sound : pool.Sound limit) (step : PoolStep)
    (move : pool.Move step after) : after.Sound limit := by
  have slots := sound.slots
  have load := sound.load
  rcases turn_of_move pool after step move with rfl | ⟨call, old, new, turn⟩
  · refine ⟨?_, ?_, ?_⟩
    · simpa [Pool.slots, Phase.holdsSlot] using slots
    · intro connection
      rw [Pool.places, List.countP_append]
      exact sound.places connection
    · simpa [Pool.load, Phase.occupies] using load
  · have counted := pool.countP_of_turn after call old new turn
    have kept : after.slots = limit := by
      have holding := counted Phase.holdsSlot
      have slot := turn.slot
      simp only [Pool.slots] at slots ⊢
      omega
    refine ⟨kept, ?_, ?_⟩
    · intro connection
      have using_it := counted (Phase.uses connection)
      have place := turn.place connection
      have before := sound.places connection
      simp only [Pool.places] at before ⊢
      omega
    · rcases turn.load with empty | within
      · rw [← kept]
        exact after.load_le_slots empty
      · have occupying := counted Phase.occupies
        simp only [Pool.load] at load ⊢
        omega

def run? (pool : Pool) : List PoolStep → Option Pool
  | [] => some pool
  | step :: steps => (pool.step? step).bind fun after => after.run? steps

theorem Sound.run (limit : Nat) (pool after : Pool) (sound : pool.Sound limit) (steps : List PoolStep)
    (run : pool.run? steps = some after) : after.Sound limit := by
  induction steps generalizing pool with
  | nil =>
    cases run
    exact sound
  | cons step steps ih =>
    obtain ⟨middle, possible, rest⟩ := Option.bind_eq_some_iff.mp run
    have move := move_of_step? pool middle step possible
    exact ih middle (sound.move limit pool middle step move) rest

def Uses (pool : Pool) (call connection : Nat) : Prop :=
  ∃ phase, pool.phase? call = some phase ∧ phase.connection? = some connection

theorem Uses.counted (pool : Pool) (call connection : Nat) (uses : pool.Uses call connection) :
    0 < pool.calls.countP (Phase.uses connection) := by
  obtain ⟨phase, found, held⟩ := uses
  have using_it : phase.uses connection = true := beq_iff_eq.mpr held
  exact List.countP_pos_iff.mpr ⟨phase, List.mem_of_getElem? found, using_it⟩

structure Exclusive (pool : Pool) : Prop where
  idle : pool.idle.Nodup
  apart : ∀ call connection, pool.Uses call connection → connection ∉ pool.idle
  single : ∀ connection first second, pool.Uses first connection → pool.Uses second connection → first = second

theorem Sound.places_le_one (limit : Nat) (pool : Pool) (sound : pool.Sound limit) (connection : Nat) :
    pool.places connection ≤ 1 := by
  rw [sound.places, owed]
  split <;> omega

theorem index_unique (p : Phase → Bool) (phases : List Phase) (few : phases.countP p ≤ 1) (first second : Nat)
    (phase other : Phase) (found : phases[first]? = some phase) (also : phases[second]? = some other)
    (holds : p phase = true) (holds' : p other = true) : first = second := by
  induction phases generalizing first second with
  | nil => cases found
  | cons head phases ih =>
    have later : ∀ (index : Nat) (phase : Phase), phases[index]? = some phase → p phase = true → p head = false := by
      intro index phase found holds
      have counted := List.countP_pos_iff.mpr ⟨phase, List.mem_of_getElem? found, holds⟩
      rw [List.countP_cons] at few
      cases counts : p head with
      | false => rfl
      | true => simp only [counts, if_true] at few; omega
    cases first with
    | zero =>
      cases second with
      | zero => rfl
      | succ second =>
        cases found
        rw [later second other also holds'] at holds
        cases holds
    | succ first =>
      cases second with
      | zero =>
        cases also
        rw [later first phase found holds] at holds'
        cases holds'
      | succ second =>
        rw [List.countP_cons] at few
        exact congrArg Nat.succ (ih (by omega) first second found also)

theorem Sound.exclusive (limit : Nat) (pool : Pool) (sound : pool.Sound limit) : pool.Exclusive := by
  have few := sound.places_le_one limit pool
  refine ⟨?_, ?_, ?_⟩
  · rw [List.nodup_iff_count_le_one]
    intro connection
    have place := few connection
    rw [Pool.places] at place
    omega
  · intro call connection uses idle
    have place := few connection
    have pooled := List.count_pos_iff.mpr idle
    have taken := uses.counted pool call connection
    rw [Pool.places] at place
    omega
  · rintro connection first second ⟨phase, found, held⟩ ⟨other, also, held'⟩
    have place := few connection
    rw [Pool.places] at place
    exact index_unique (Phase.uses connection) pool.calls (by omega) first second phase other found also
      (beq_iff_eq.mpr held) (beq_iff_eq.mpr held')

/-- In every state that any number of calls reach in any interleaving: the free slots and the slots taken are all
slots there are, no connection is idle twice, idle and with a call, or with two calls, and the connections that
are idle, with a call, or being made are no more than the slots. -/
theorem limit_of_run (maxConcurrency : Nat) (steps : List PoolStep) (pool : Pool)
    (run : (start maxConcurrency).run? steps = some pool) :
    pool.free + pool.calls.countP Phase.holdsSlot = max 1 maxConcurrency ∧ pool.Exclusive ∧
      pool.idle.length + pool.calls.countP Phase.occupies ≤ max 1 maxConcurrency := by
  have sound := (sound_start maxConcurrency).run _ _ pool steps run
  exact ⟨sound.slots, sound.exclusive _ pool, sound.load⟩

/-- The first call puts its connection back while the second still makes one, and the third gets that one. -/
theorem limit_of_run_shared :
    let steps := [.arrive, .arrive, .arrive, .takeSlot 0, .takeSlot 1, .checkOut 0, .checkOut 1, .connect 0 true,
      .conclude 0 true, .putBack 0, .release 0, .takeSlot 2, .checkOut 2, .connect 1 true, .conclude 1 false]
    let pool := { free := 0, calls := [.ended, .leaving, .running 0], opened := 2, closed := [1] }
    (start 2).run? steps = some pool ∧
      pool.free + pool.calls.countP Phase.holdsSlot = max 1 2 ∧ pool.Exclusive ∧
        pool.idle.length + pool.calls.countP Phase.occupies ≤ max 1 2 := by
  intro steps pool
  have run : (start 2).run? steps = some pool := by rfl
  exact ⟨run, limit_of_run 2 steps pool run⟩

end Pool
end SqlSelect
