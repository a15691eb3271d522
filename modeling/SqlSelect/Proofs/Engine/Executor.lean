import SqlSelect.Engine.Executor
import SqlSelect.Proofs.Engine.Connections

namespace SqlSelect

inductive Phase.Entered : Phase → Prop where
  | running (connection : Nat) : Entered (.running connection)
  | leaving : Entered .leaving

theorem Pool.run?_append (pool : Pool) (left right : List PoolStep) :
    pool.run? (left ++ right) = (pool.run? left).bind fun after => after.run? right := by
  induction left generalizing pool with
  | nil => rfl
  | cons step left ih =>
    rw [List.cons_append, run?, run?, Option.bind_assoc]
    exact congrArg _ (funext ih)

namespace Engine

def Reaches (engine after : Engine) : Prop := ∃ steps, engine.pool.run? steps = some after.pool

theorem Reaches.refl (engine : Engine) : engine.Reaches engine := ⟨[], rfl⟩

theorem Reaches.trans {first second third : Engine} (left : first.Reaches second) (right : second.Reaches third) :
    first.Reaches third := by
  obtain ⟨steps, run⟩ := left
  obtain ⟨more, rest⟩ := right
  refine ⟨steps ++ more, ?_⟩
  rw [Pool.run?_append, run]
  exact rest

theorem reaches_step (engine : Engine) (step : PoolStep) : engine.Reaches (engine.step step) := by
  rw [Engine.step]
  cases possible : engine.pool.step? step with
  | none => exact Reaches.refl engine
  | some after =>
    refine ⟨[step], ?_⟩
    rw [Pool.run?, possible]
    rfl

theorem reaches_enter? (engine after : Engine) (call : Nat) (events : List Event)
    (entering : engine.enter? call = some (after, events)) : engine.Reaches after := by
  cases taken : engine.pool.step? (.takeSlot call) with
  | none => simp [enter?, taken] at entering
  | some pool =>
    have admitted : engine.Reaches { engine with pool } := by
      refine ⟨[.takeSlot call], ?_⟩
      rw [Pool.run?, taken]
      rfl
    have reached := admitted.trans (reaches_step _ (.checkOut call))
    simp only [enter?, taken, bind, Option.bind] at entering
    split at entering
    · cases entering
      exact reached.trans (reaches_step _ _)
    · cases entering
      exact reached

theorem reaches_beginCall (engine : Engine) : engine.Reaches engine.beginCall.engine := by
  have arrived := reaches_step engine .arrive
  cases entering : (engine.step .arrive).enter? engine.pool.calls.length with
  | none =>
    simp only [beginCall, entering]
    exact arrived
  | some entered =>
    simp only [beginCall, entering]
    exact arrived.trans (reaches_enter? _ entered.1 _ entered.2 entering)

theorem reaches_endCall (engine : Engine) (call : Nat) (command : Command) :
    engine.Reaches (engine.endCall call command).1 := by
  unfold endCall
  split
  · rename_i connection found
    have concluded := reaches_step (engine.setDatabase (engine.databaseNumber connection)
      ((engine.database (engine.databaseNumber connection)).run engine.read command).1)
    exact ((concluded _).trans (reaches_step _ _)).trans (reaches_step _ _)
  · exact reaches_step engine _

theorem reaches_completeCall (engine : Engine) (call : Nat) (command : Command) :
    engine.Reaches (engine.completeCall call command).engine := by
  unfold completeCall
  cases entering : engine.enter? call with
  | none => exact reaches_endCall engine call command
  | some entered =>
    have inside := reaches_enter? engine entered.1 call entered.2 entering
    exact inside.trans (reaches_endCall entered.1 call command)

theorem reaches_execute (engine : Engine) (command : Command) : engine.Reaches (engine.execute command).engine :=
  (reaches_beginCall engine).trans (reaches_completeCall _ _ command)

theorem reaches_beginQuery (engine : Engine) (query : Query) : engine.Reaches (engine.beginQuery query).engine := by
  unfold beginQuery
  split
  · exact Reaches.refl engine
  · have began := reaches_beginCall engine
    dsimp only
    split
    · exact began.trans (reaches_endCall _ _ _)
    · exact began

theorem reaches_completeQuery (engine : Engine) (pending : Pending) :
    engine.Reaches (engine.completeQuery pending).engine := by
  cases pending with
  | ended result => exact Reaches.refl engine
  | started call command => exact reaches_completeCall engine call command

theorem reaches_get (engine : Engine) (query : Query) : engine.Reaches (engine.get query).engine :=
  (reaches_beginQuery engine query).trans (reaches_completeQuery _ _)

theorem reaches_getBoth (engine : Engine) (first second : Query) :
    engine.Reaches (engine.getBoth first second).engine :=
  (((reaches_beginQuery engine first).trans (reaches_beginQuery _ second)).trans (reaches_completeQuery _ _)).trans
    (reaches_completeQuery _ _)

structure At (engine : Engine) (calls : List Phase) (call : Nat) (phase : Phase) : Prop where
  known : call < calls.length
  calls : engine.pool.calls = calls.set call phase

section At

variable {engine after : Engine} {calls : List Phase} {call : Nat} {phase old new : Phase}

theorem At.found (here : engine.At calls call phase) : engine.pool.phase? call = some phase := by
  rw [Pool.phase?, here.calls]
  exact List.getElem?_set_self here.known

theorem At.turn (here : engine.At calls call old)
    (turned : after.pool.calls = engine.pool.calls.set call new) : after.At calls call new := by
  refine ⟨here.known, ?_⟩
  rw [turned, here.calls, List.set_set]

theorem At.checkOut (here : engine.At calls call .admitted) :
    (engine.step (.checkOut call)).At calls call .connecting ∨
      ∃ connection, (engine.step (.checkOut call)).At calls call (.running connection) := by
  have found := here.found
  cases first : engine.pool.idle with
  | nil =>
    refine .inl (here.turn ?_)
    simp only [Engine.step, Pool.step?, found, first, Option.getD_some, Pool.setPhase]
  | cons connection idle =>
    refine .inr ⟨connection, here.turn ?_⟩
    simp only [Engine.step, Pool.step?, found, first, Option.getD_some, Pool.setPhase]

theorem At.connect (here : engine.At calls call .connecting) (ok : Bool) :
    ∃ phase, (engine.step (.connect call ok)).At calls call phase ∧ phase.Entered := by
  have found := here.found
  cases ok with
  | true =>
    refine ⟨.running engine.pool.opened, here.turn ?_, .running _⟩
    simp only [Engine.step, Pool.step?, found, Option.getD_some, Pool.setPhase]
  | false =>
    refine ⟨.leaving, here.turn ?_, .leaving⟩
    simp only [Engine.step, Pool.step?, found, Option.getD_some, Pool.setPhase]

theorem At.release (here : engine.At calls call .leaving) :
    (engine.step (.release call)).At calls call .ended := by
  have found := here.found
  apply here.turn
  simp only [Engine.step, Pool.step?, found, Option.getD_some, Pool.setPhase]

/-- A statement ends, and its connection is put back if it succeeded. -/
theorem At.conclude {connection : Nat} (here : engine.At calls call (.running connection)) (ok : Bool) :
    ((engine.step (.conclude call ok)).step (.putBack call)).At calls call .leaving := by
  have found := here.found
  cases ok with
  | true =>
    have succeeded : (engine.step (.conclude call true)).At calls call (.succeeded connection) := by
      apply here.turn
      simp only [Engine.step, Pool.step?, found, Option.getD_some, Pool.setPhase]
    have still := succeeded.found
    apply succeeded.turn
    rw [Engine.step, Pool.step?, still]
    rfl
  | false =>
    have failed : (engine.step (.conclude call false)).At calls call .leaving := by
      apply here.turn
      simp only [Engine.step, Pool.step?, found, Option.getD_some, Pool.setPhase]
    have still := failed.found
    rw [Engine.step, Pool.step?, still]
    exact failed

/-- A call that was let in is carried to its end. -/
theorem At.endCall (here : engine.At calls call phase) (entered : phase.Entered) (command : Command) :
    (engine.endCall call command).1.At calls call .ended := by
  have found := here.found
  cases entered with
  | running connection =>
    simp only [Engine.endCall, found]
    apply At.release
    apply At.conclude
    exact ⟨here.known, here.calls⟩
  | leaving =>
    simp only [Engine.endCall, found]
    exact here.release

/-- A free slot lets in a call that waits. -/
theorem At.enter? (free : Nat) (here : engine.At calls call .waiting) (spare : engine.pool.free = free + 1) :
    ∃ after events phase, engine.enter? call = some (after, events) ∧ after.At calls call phase ∧ phase.Entered := by
  have found := here.found
  have taken : engine.pool.step? (.takeSlot call) =
      some { engine.pool.setPhase call .admitted with free := free } := by
    simp only [Pool.step?, found, spare]
  have admitted : At { engine with pool := { engine.pool.setPhase call .admitted with free := free } } calls call
      .admitted := here.turn rfl
  simp only [Engine.enter?, taken, bind, Option.bind]
  rcases admitted.checkOut with connecting | ⟨connection, running⟩
  · simp only [connecting.found]
    obtain ⟨phase, reached, entered⟩ := connecting.connect (engine.storage != .unreachable)
    exact ⟨_, _, phase, rfl, reached, entered⟩
  · simp only [running.found]
    exact ⟨_, _, _, rfl, running, .running connection⟩

/-- A call that was let in, or that a free slot lets in, is carried to its end. -/
theorem At.completeCall (here : engine.At calls call phase)
    (ready : phase.Entered ∨ phase = .waiting ∧ 0 < engine.pool.free) (command : Command) :
    (engine.completeCall call command).engine.At calls call .ended := by
  rcases ready with entered | ⟨rfl, spare⟩
  · have found := here.found
    have shut : engine.pool.step? (.takeSlot call) = none := by
      cases entered <;> simp only [Pool.step?, found]
    have closed : engine.enter? call = none := by
      simp only [Engine.enter?, shut, bind, Option.bind]
    simp only [Engine.completeCall, closed, Option.getD_none]
    exact here.endCall entered command
  · obtain ⟨free, counted⟩ := Nat.exists_eq_succ_of_ne_zero (Nat.ne_of_gt spare)
    obtain ⟨after, events, phase, entering, reached, entered⟩ := here.enter? free counted
    simp only [Engine.completeCall, entering, Option.getD_some]
    exact reached.endCall entered command

end At

theorem at_of_calls (engine : Engine) (front back : List Phase) (phase : Phase)
    (calls : engine.pool.calls = front ++ phase :: back) : engine.At engine.pool.calls front.length phase := by
  refine ⟨by simp [calls], ?_⟩
  rw [calls, List.set_append_right _ _ (Nat.le_refl _), Nat.sub_self, List.set_cons_zero]

theorem At.calls_eq {engine : Engine} {front back : List Phase} {old new : Phase}
    (here : engine.At (front ++ old :: back) front.length new) : engine.pool.calls = front ++ new :: back := by
  rw [here.calls, List.set_append_right _ _ (Nat.le_refl _), Nat.sub_self, List.set_cons_zero]

theorem calls_completeCall (engine : Engine) (front back : List Phase) (phase : Phase)
    (calls : engine.pool.calls = front ++ phase :: back)
    (ready : phase.Entered ∨ phase = .waiting ∧ 0 < engine.pool.free) (command : Command) :
    (engine.completeCall front.length command).engine.pool.calls = front ++ .ended :: back := by
  have ended := (at_of_calls engine front back phase calls).completeCall ready command
  rw [calls] at ended
  exact ended.calls_eq

theorem calls_beginCall (engine : Engine) :
    engine.beginCall.value = engine.pool.calls.length ∧
      ∃ phase, engine.beginCall.engine.pool.calls = engine.pool.calls ++ [phase] ∧
        (phase.Entered ∨ phase = .waiting ∧ engine.pool.free = 0) := by
  have arrived := at_of_calls (engine.step .arrive) engine.pool.calls [] .waiting rfl
  cases spare : engine.pool.free with
  | zero =>
    have shut : (engine.step .arrive).pool.step? (.takeSlot engine.pool.calls.length) = none := by
      have found := arrived.found
      have full : (engine.step .arrive).pool.free = 0 := spare
      simp only [Pool.step?, found, full]
    have closed : (engine.step .arrive).enter? engine.pool.calls.length = none := by
      simp only [Engine.enter?, shut, bind, Option.bind]
    simp only [beginCall, closed, true_and]
    exact ⟨.waiting, rfl, .inr ⟨rfl, trivial⟩⟩
  | succ free =>
    obtain ⟨after, events, phase, entering, reached, entered⟩ := arrived.enter? free spare
    simp only [beginCall, entering, true_and]
    exact ⟨phase, reached.calls_eq, .inl entered⟩

/-- What stands behind `length` calls when a query was begun there: it has ended, or its call was let in or waits. -/
inductive Begun (length : Nat) : Pending → List Phase → Prop where
  | ended (result : Except QueryError ResultSet) (added : List Phase)
    (idle : ∀ phase ∈ added, phase.holdsSlot = false) : Begun length (.ended result) added
  | entered (command : Command) (phase : Phase) (inside : phase.Entered) :
    Begun length (.started length command) [phase]
  | waits (command : Command) : Begun length (.started length command) [.waiting]

theorem begun_beginQuery (engine : Engine) (query : Query) :
    ∃ added, (engine.beginQuery query).engine.pool.calls = engine.pool.calls ++ added ∧
      Begun engine.pool.calls.length (engine.beginQuery query).value added ∧
      (added = [.waiting] → engine.pool.free = 0) := by
  cases written : query.statement? with
  | none =>
    simp only [beginQuery, written]
    exact ⟨[], by simp, .ended _ [] (by simp), by simp⟩
  | some statement =>
    obtain ⟨number, phase, calls, ready⟩ := calls_beginCall engine
    have here := at_of_calls engine.beginCall.engine engine.pool.calls [] phase calls
    have found := here.found
    simp only [beginQuery, written, number, found]
    rcases ready with entered | ⟨rfl, full⟩
    · cases entered with
      | running connection =>
        exact ⟨_, calls, .entered _ _ (.running connection), by simp⟩
      | leaving =>
        have ended := here.endCall .leaving (.query statement query.qualify)
        rw [calls] at ended
        exact ⟨[.ended], ended.calls_eq, .ended _ _ (by simp [Phase.holdsSlot]), by simp⟩
    · exact ⟨_, calls, .waits _, fun _ => full⟩

theorem calls_completeQuery (engine : Engine) (pending : Pending) (front added back : List Phase)
    (calls : engine.pool.calls = front ++ (added ++ back)) (begun : Begun front.length pending added)
    (spare : added = [.waiting] → 0 < engine.pool.free) :
    ∃ settled, (engine.completeQuery pending).engine.pool.calls = front ++ (settled ++ back) ∧
      settled.length = added.length ∧ ∀ phase ∈ settled, phase.holdsSlot = false := by
  cases begun with
  | ended result added idle => exact ⟨added, calls, rfl, idle⟩
  | entered command phase inside =>
    have ended := calls_completeCall engine front back phase calls (.inl inside) command
    exact ⟨[.ended], ended, rfl, by simp [Phase.holdsSlot]⟩
  | waits command =>
    have ended := calls_completeCall engine front back .waiting calls (.inr ⟨rfl, spare rfl⟩) command
    exact ⟨[.ended], ended, rfl, by simp [Phase.holdsSlot]⟩

inductive Reached (storage : Storage) (maxConcurrency : Nat) : Engine → Prop where
  | start (read : Cell → Except QueryError Cell) :
    Reached storage maxConcurrency (start storage maxConcurrency read).engine
  | execute (engine : Engine) (command : Command) (before : Reached storage maxConcurrency engine) :
    Reached storage maxConcurrency (engine.execute command).engine
  | get (engine : Engine) (query : Query) (before : Reached storage maxConcurrency engine) :
    Reached storage maxConcurrency (engine.get query).engine
  | getBoth (engine : Engine) (first second : Query) (before : Reached storage maxConcurrency engine) :
    Reached storage maxConcurrency (engine.getBoth first second).engine

structure Rests (limit : Nat) (engine : Engine) : Prop where
  sound : engine.pool.Sound limit
  rest : engine.pool.AtRest

theorem Reaches.sound (engine after : Engine) (limit : Nat) (reaches : engine.Reaches after)
    (sound : engine.pool.Sound limit) : after.pool.Sound limit := by
  obtain ⟨steps, run⟩ := reaches
  exact sound.run limit _ _ steps run

theorem atRest_append (engine after : Engine) (rest : engine.pool.AtRest) (settled : List Phase)
    (calls : after.pool.calls = engine.pool.calls ++ settled) (idle : ∀ phase ∈ settled, phase.holdsSlot = false) :
    after.pool.AtRest := by
  intro phase member
  rw [calls] at member
  rcases List.mem_append.mp member with member | member
  · exact rest phase member
  · exact idle phase member

section Rests

variable (limit : Nat) (positive : 0 < limit) (engine : Engine) (rests : Rests limit engine)

include positive rests

theorem Rests.spare : 0 < engine.pool.free := by
  have full := (rests.sound.idle_of_atRest limit engine.pool rests.rest).1
  omega

theorem Rests.execute (command : Command) : Rests limit (engine.execute command).engine := by
  have spare := rests.spare limit positive engine
  refine ⟨(reaches_execute engine command).sound _ _ limit rests.sound, ?_⟩
  obtain ⟨number, phase, calls, ready⟩ := calls_beginCall engine
  have entered : phase.Entered := ready.resolve_right fun waits => Nat.ne_of_gt spare waits.2
  have ended := calls_completeCall engine.beginCall.engine engine.pool.calls [] phase calls (.inl entered) command
  rw [← number] at ended
  exact atRest_append engine _ rests.rest [.ended] ended (by simp [Phase.holdsSlot])

/-- The last query that was begun is carried to its end. If its call waits, the slots are all free by then. -/
theorem Rests.completeQuery (after : Engine) (reaches : engine.Reaches after) (pending : Pending)
    (settled added : List Phase) (idle : ∀ phase ∈ settled, phase.holdsSlot = false)
    (calls : after.pool.calls = engine.pool.calls ++ settled ++ added)
    (begun : Begun (engine.pool.calls ++ settled).length pending added) :
    Rests limit (after.completeQuery pending).engine := by
  have sound := reaches.sound engine after limit rests.sound
  have spare : added = [.waiting] → 0 < after.pool.free := by
    rintro rfl
    rw [List.append_assoc] at calls
    have quiet := atRest_append engine after rests.rest _ calls
      (List.forall_mem_append.mpr ⟨idle, by simp [Phase.holdsSlot]⟩)
    exact Rests.spare limit positive after ⟨sound, quiet⟩
  refine ⟨(reaches_completeQuery after pending).sound _ _ limit sound, ?_⟩
  obtain ⟨last, left, _, idle'⟩ := calls_completeQuery after pending (engine.pool.calls ++ settled) added []
    (by rw [calls, List.append_nil]) begun spare
  rw [List.append_nil, List.append_assoc] at left
  exact atRest_append engine _ rests.rest _ left (List.forall_mem_append.mpr ⟨idle, idle'⟩)

theorem Rests.get (query : Query) : Rests limit (engine.get query).engine := by
  obtain ⟨added, calls, begun, _⟩ := begun_beginQuery engine query
  apply rests.completeQuery limit positive engine _ (reaches_beginQuery engine query) _ [] added (by simp)
  · rw [calls, List.append_nil]
  · rwa [List.append_nil]

theorem Rests.getBoth (first second : Query) : Rests limit (engine.getBoth first second).engine := by
  have spare := rests.spare limit positive engine
  obtain ⟨added, calls, begun, waits⟩ := begun_beginQuery engine first
  obtain ⟨added', calls', begun', _⟩ := begun_beginQuery (engine.beginQuery first).engine second
  rw [calls] at calls' begun'
  obtain ⟨settled, left, same, idle⟩ := calls_completeQuery _ _ engine.pool.calls added added'
    (by rw [calls', List.append_assoc]) begun fun waiting => absurd (waits waiting) (Nat.ne_of_gt spare)
  have reaches := ((reaches_beginQuery engine first).trans (reaches_beginQuery _ second)).trans
    (reaches_completeQuery _ (engine.beginQuery first).value)
  apply rests.completeQuery limit positive engine _ reaches _ settled added' idle
  · rw [left, List.append_assoc]
  · rwa [List.length_append, same, ← List.length_append]

end Rests

theorem rests_of_reached (storage : Storage) (maxConcurrency : Nat) (engine : Engine)
    (reached : Reached storage maxConcurrency engine) : Rests (max 1 maxConcurrency) engine := by
  have positive : 0 < max 1 maxConcurrency := by omega
  induction reached with
  | start => exact ⟨Pool.sound_start maxConcurrency, by simp [Engine.start, Pool.start, Pool.AtRest]⟩
  | execute engine command before ih => exact ih.execute _ positive engine command
  | get engine query before ih => exact ih.get _ positive engine query
  | getBoth engine first second before ih => exact ih.getBoth _ positive engine first second

/-- What an executor does to its pool are steps of it, and between its operations no call is under way and all slots
are free, whatever failed before. -/
theorem idle_of_reached (storage : Storage) (maxConcurrency : Nat) (engine : Engine)
    (reached : Reached storage maxConcurrency engine) :
    (∃ steps, (Pool.start maxConcurrency).run? steps = some engine.pool) ∧ engine.pool.AtRest ∧
      engine.pool.free = max 1 maxConcurrency := by
  have started : (start storage maxConcurrency).engine.Reaches engine := by
    induction reached with
    | start => exact ⟨[], rfl⟩
    | execute engine command before ih => exact ih.trans (reaches_execute engine command)
    | get engine query before ih => exact ih.trans (reaches_get engine query)
    | getBoth engine first second before ih => exact ih.trans (reaches_getBoth engine first second)
  have rests := rests_of_reached storage maxConcurrency engine reached
  exact ⟨started, rests.rest, (rests.sound.idle_of_atRest _ engine.pool rests.rest).1⟩

end Engine
end SqlSelect
