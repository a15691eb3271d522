import SqlSelect.Proofs.Query.Renumbering

namespace SqlSelect

namespace Call

inductive Kind where
  | selection | filtering | joining | grouping
  deriving DecidableEq, Repr

def kind? : Call → Option Kind
  | .select _ _ _ => some .selection
  | .filter _ _ _ _ => some .filtering
  | .openGroup _ => some .filtering
  | .closeGroup => some .filtering
  | .join _ _ _ => some .joining
  | .groupBy _ _ => some .grouping
  | .setDialect _ => none
  | .setQualify _ => none

def ofKind (kind : Kind) (calls : List Call) : List Call := calls.filter (·.kind? == some kind)

structure Interleaves (sequences : Kind → List Call) (calls : List Call) : Prop where
  kinds : ∀ call ∈ calls, call.kind?.isSome = true
  order : ∀ kind, ofKind kind calls = sequences kind

theorem Interleaves.mem_iff (sequences : Kind → List Call) (calls : List Call)
    (interleaves : Interleaves sequences calls) (call : Call) :
    call ∈ calls ↔ ∃ kind, call ∈ sequences kind := by
  constructor
  · intro member
    obtain ⟨kind, own⟩ := Option.isSome_iff_exists.mp (interleaves.kinds call member)
    refine ⟨kind, ?_⟩
    rw [← interleaves.order kind, ofKind, List.mem_filter, own]
    exact ⟨member, beq_self_eq_true _⟩
  · rintro ⟨kind, member⟩
    rw [← interleaves.order kind] at member
    exact (List.mem_filter.mp member).1

end Call

namespace Query

open Call (Kind ofKind Interleaves)

def part (kind : Kind) (query final : Query) : Query :=
  match kind with
  | .selection =>
    { operation := query.operation, base := query.base, columns := query.columns, tables := final.tables }
  | .filtering => { base := final.base, filters := query.filters, tables := final.tables }
  | .joining => { base := final.base, joints := query.joints, tables := final.tables }
  | .grouping => { base := final.base, grouping := query.grouping, tables := final.tables }

theorem tables_part (kind : Kind) (query final : Query) : (query.part kind final).tables = final.tables := by
  cases kind with
  | selection | filtering | joining | grouping => rfl

theorem part_of_other (query later final : Query) (call : Call) (step : query.Step call later) (kind : Kind)
    (other : call.kind? ≠ some kind) : later.part kind final = query.part kind final := by
  cases step with
  | select =>
    cases kind with
    | selection => exact absurd rfl other
    | filtering | joining | grouping => rfl
  | filter | openGroup | closeGroup =>
    cases kind with
    | filtering => exact absurd rfl other
    | selection | joining | grouping => rfl
  | join =>
    cases kind with
    | joining => exact absurd rfl other
    | selection | filtering | grouping => rfl
  | groupBy =>
    cases kind with
    | grouping => exact absurd rfl other
    | selection | filtering | joining => rfl
  | setDialect | setQualify =>
    cases kind with
    | selection | filtering | joining | grouping => rfl

/-- A call does to its part alone what it does to the query: it finds the same tables among those of the end. -/
theorem part_of_own (query later final : Query) (call : Call) (bare : call.isBare = true) (step : query.Step call later)
    (leads : later.Leads final) (kind : Kind) (own : call.kind? = some kind) :
    ((query.part kind final).run call).query = later.part kind final := by
  have each := call.bare_of_mem bare
  have grown := leads.tables
  cases step with
  | select request columns distinct resolved fits found =>
    cases own
    obtain ⟨event, again⟩ := Registry.resolve_later query.tables request true resolved found
      (each request List.mem_cons_self) final.tables grown
    have added := Selection.columns_addAll resolved.registry final.tables resolved.id query.columns columns
    have found_again : (query.part .selection final).tables.resolve request true = _ := again
    rw [run, select_of_fits (query.part .selection final) request columns distinct fits, found_again]
    simp only [extended, selected, part, added]
    rfl
  | filter chain reference operator value known found readable result =>
    cases own
    obtain ⟨events, again⟩ := Registry.resolveColumn_later query.tables query.base reference found result each
      final.tables grown final.base leads.base
    simp only [run, filter, readable, part, again, done]
  | openGroup chain =>
    cases own
    rfl
  | closeGroup =>
    cases own
    rfl
  | join request left right target first second targeted opened closed =>
    cases own
    simp only [Call.requests, List.mem_append] at each
    have fromFirst := Registry.grown_of_resolveColumn first.registry query.base right second closed final.tables grown
    have fromTarget :=
      Registry.grown_of_resolveColumn target.registry query.base left first opened final.tables fromFirst
    obtain ⟨event, joined⟩ := Registry.resolve_later query.tables request false target targeted
      (each request (.inl (.inl List.mem_cons_self))) final.tables fromTarget
    obtain ⟨_, start⟩ := Registry.resolveColumn_later target.registry query.base left first opened
      (fun request member => each request (.inl (.inr member))) final.tables fromFirst final.base leads.base
    obtain ⟨_, stop⟩ := Registry.resolveColumn_later first.registry query.base right second closed
      (fun request member => each request (.inr member)) final.tables grown final.base leads.base
    simp only [run, join, part, joined, start, stop, done]
  | groupBy request column resolved visible found =>
    cases own
    obtain ⟨event, again⟩ := Registry.resolve_later query.tables request false resolved found
      (each request List.mem_cons_self) final.tables grown
    simp [run, groupBy, visible, part, again, done]
  | setDialect dialect => cases own
  | setQualify qualify => cases own

theorem part_of_steps (query final : Query) (begun : query.Begun) (calls : List Call)
    (bare : ∀ call ∈ calls, call.isBare = true) (steps : query.Steps calls final) (kind : Kind) :
    final.part kind final = (query.part kind final).runAll (ofKind kind calls) := by
  induction steps with
  | nil query => rfl
  | cons query middle later call calls head tail ih =>
    have started := begun.step query middle call head
    have rest := ih started fun other member => bare other (List.mem_cons_of_mem call member)
    have leads := leads_of_steps middle later started calls tail
    by_cases own : call.kind? = some kind
    · have alone := part_of_own query middle later call (bare call List.mem_cons_self) head leads kind own
      rw [ofKind, List.filter_cons_of_pos (by rw [own]; exact beq_self_eq_true _), runAll_cons, alone]
      exact rest
    · have untouched := part_of_other query middle later call head kind own
      rw [ofKind, List.filter_cons_of_neg (by simpa using own), ← untouched]
      exact rest

theorem style_of_steps (query later : Query) (calls : List Call) (steps : query.Steps calls later)
    (kinds : ∀ call ∈ calls, call.kind?.isSome = true) :
    later.dialect = query.dialect ∧ later.qualify = query.qualify := by
  induction steps with
  | nil query => exact ⟨rfl, rfl⟩
  | cons query middle later call calls head tail ih =>
    have rest := ih fun other member => kinds other (List.mem_cons_of_mem call member)
    have kind := kinds call List.mem_cons_self
    cases head with
    | select | filter | openGroup | closeGroup | join | groupBy => exact rest
    | setDialect | setQualify => cases kind

theorem started_of_steps (query final : Query) (begun : query.Begun) (calls : List Call)
    (steps : query.Steps calls final) (call : Call) (member : call ∈ calls) (selects : call.kind? = some .selection) :
    final.operation.isSome = true := by
  induction steps with
  | nil query => cases member
  | cons query middle later other calls head tail ih =>
    have started := begun.step query middle other head
    rcases List.mem_cons.mp member with rfl | member
    · -- the select sets the base table, and a base table that is set stays
      have set : middle.base.isSome = true := by
        rw [← started]
        cases head with
        | select => rfl
        | filter | openGroup | closeGroup | join | groupBy | setDialect | setQualify => cases selects
      obtain ⟨id, fixed⟩ := Option.isSome_iff_exists.mp set
      have leads := leads_of_steps middle later started calls tail
      rw [begun_of_steps middle later started calls tail, leads.base id fixed]
      rfl
    · exact ih started member

section Interleaved

variable (sequences : Kind → List Call) (bare : ∀ kind, ∀ call ∈ sequences kind, call.isBare = true)

include bare

theorem bare_of_interleaves (calls : List Call) (interleaves : Interleaves sequences calls) (call : Call)
    (member : call ∈ calls) : call.isBare = true := by
  obtain ⟨kind, own⟩ := (interleaves.mem_iff sequences calls call).mp member
  exact bare kind call own

theorem plain_of_interleaves (query final : Query) (plain : query.tables.Plain) (calls : List Call)
    (interleaves : Interleaves sequences calls) (steps : query.Steps calls final) : final.tables.Plain :=
  (gains_of_steps query final plain calls (bare_of_interleaves sequences bare calls interleaves) steps).plain

theorem mem_aliases_of_interleaves (query final : Query) (plain : query.tables.Plain) (calls : List Call)
    (interleaves : Interleaves sequences calls) (steps : query.Steps calls final) (aliasName : String) :
    aliasName ∈ final.tables.aliases ↔
      aliasName ∈ query.tables.aliases ∨ ∃ kind, ∃ call ∈ sequences kind, ∃ request ∈ call.requests,
        TableRequest.name? request = some aliasName := by
  have gains := gains_of_steps query final plain calls (bare_of_interleaves sequences bare calls interleaves) steps
  rw [gains.mem_aliases]
  apply or_congr Iff.rfl
  simp only [List.mem_flatMap, interleaves.mem_iff sequences calls]
  constructor
  · rintro ⟨request, ⟨call, ⟨kind, own⟩, asked⟩, name⟩
    exact ⟨kind, call, own, request, asked, name⟩
  · rintro ⟨kind, call, own, request, asked, name⟩
    exact ⟨request, ⟨call, ⟨kind, own⟩, asked⟩, name⟩

theorem knows_of_interleaves (query final : Query) (plain : query.tables.Plain) (calls : List Call)
    (interleaves : Interleaves sequences calls) (steps : query.Steps calls final) (kind : Kind) (call : Call)
    (own : call ∈ sequences kind) (request : String) (asked : request ∈ call.requests) :
    final.tables.Knows request := by
  refine ⟨call.bare_of_mem (bare kind call own) request asked, ?_⟩
  intro name named
  rw [mem_aliases_of_interleaves sequences bare query final plain calls interleaves steps name]
  exact .inr ⟨kind, call, own, request, asked, named⟩

variable (start : Query) (begun : start.Begun) (empty : start.tables.Plain) (first second : List Call)
  (left : Interleaves sequences first) (right : Interleaves sequences second) (one other : Query)
  (steps : start.Steps first one) (others : start.Steps second other)

include empty left right steps others

/-- The order of the requests only shows in the numbers. -/
theorem renumbers_of_interleaves :
    Registry.Renumbers (Registry.renumbering other.tables one.tables) other.tables one.tables := by
  have plainOne := plain_of_interleaves sequences bare start one empty first left steps
  have plainOther := plain_of_interleaves sequences bare start other empty second right others
  apply Registry.renumbers_renumbering other.tables one.tables plainOther plainOne
  intro aliasName
  rw [mem_aliases_of_interleaves sequences bare start one empty first left steps]
  rw [mem_aliases_of_interleaves sequences bare start other empty second right others]

include begun

theorem part_of_interleaves (f : Nat → Nat) (renumbers : Registry.Renumbers f other.tables one.tables) (kind : Kind)
    (starts : start.part kind one = (start.part kind other).renumber f one.tables) :
    one.part kind one = (other.part kind other).renumber f one.tables := by
  have bareFirst := bare_of_interleaves sequences bare first left
  have bareSecond := bare_of_interleaves sequences bare second right
  have plainOne := plain_of_interleaves sequences bare start one empty first left steps
  have plainOther := plain_of_interleaves sequences bare start other empty second right others
  have knows : ∀ call ∈ sequences kind, ∀ request ∈ call.requests,
      (start.part kind other).tables.Knows request := by
    intro call own
    rw [tables_part]
    exact knows_of_interleaves sequences bare start other empty second right others kind call own
  rw [← tables_part kind start other] at plainOther renumbers
  calc one.part kind one = (start.part kind one).runAll (sequences kind) := by
        rw [part_of_steps start one begun first bareFirst steps kind, left.order kind]
    _ = ((start.part kind other).renumber f one.tables).runAll (sequences kind) := by rw [starts]
    _ = ((start.part kind other).runAll (sequences kind)).renumber f one.tables :=
        runAll_renumber _ plainOther f one.tables renumbers plainOne (sequences kind) knows
    _ = (other.part kind other).renumber f one.tables := by
        rw [part_of_steps start other begun second bareSecond others kind, right.order kind]

end Interleaved

/-- Two runs of the same calls of each kind end in one query, up to the numbers of the tables. -/
theorem renumber_of_interleaves (sequences : Kind → List Call)
    (bare : ∀ kind, ∀ call ∈ sequences kind, call.isBare = true) (dialect : Dialect) (qualify : Qualify)
    (first second : List Call) (left : Interleaves sequences first) (right : Interleaves sequences second)
    (one other : Query) (steps : Steps { dialect := dialect, qualify := qualify } first one)
    (others : Steps { dialect := dialect, qualify := qualify } second other) :
    ∃ f, Registry.Renumbers f other.tables one.tables ∧ one = other.renumber f one.tables := by
  let start : Query := { dialect := dialect, qualify := qualify }
  have begun : start.Begun := rfl
  have renumbers := renumbers_of_interleaves sequences bare start Registry.plain_empty first second left right one
    other steps others
  obtain ⟨f, renumbers⟩ : ∃ f, Registry.Renumbers f other.tables one.tables := ⟨_, renumbers⟩
  have parts := part_of_interleaves sequences bare start begun Registry.plain_empty first second left right one other
    steps others f renumbers
  -- the selects come first: the calls of the other kinds start with the base table that they leave
  have selection := parts .selection rfl
  have base : one.base = other.base.map f := (congrArg Query.base selection :)
  have filtering := parts .filtering (by rw [part, base]; rfl)
  have joining := parts .joining (by rw [part, base]; rfl)
  have grouping := parts .grouping (by rw [part, base]; rfl)
  have operation : one.operation = other.operation := (congrArg Query.operation selection :)
  have columns : one.columns = other.columns.map (Column.renumber f) := (congrArg Query.columns selection :)
  have filters : one.filters = other.filters.renumber f := (congrArg Query.filters filtering :)
  have joints : one.joints = other.joints.map (Joint.renumber f) := (congrArg Query.joints joining :)
  have grouped : one.grouping = other.grouping.map (Column.renumber f) := (congrArg Query.grouping grouping :)
  have styleOne := style_of_steps _ one first steps left.kinds
  have styleOther := style_of_steps _ other second others right.kinds
  refine ⟨f, renumbers, ?_⟩
  calc one = ⟨one.operation, one.base, one.columns, one.joints, one.filters, one.grouping, one.tables, one.dialect,
        one.qualify⟩ := rfl
    _ = other.renumber f one.tables := by
        rw [operation, base, columns, joints, filters, grouped, styleOne.1, styleOne.2, ← styleOther.1,
          ← styleOther.2]
        rfl

/-- Selects, filters with their groups, joins and groupings without aliases can be interleaved in any way: if all calls
succeed, every table stands under its own name, and the text is the same. -/
theorem generate_interleaved (dialect : Dialect) (qualify : Qualify) (sequences : Kind → List Call)
    (bare : ∀ kind, ∀ call ∈ sequences kind, call.isBare = true) (first second : List Call)
    (left : Interleaves sequences first) (right : Interleaves sequences second) :
    let start : Query := { dialect := dialect, qualify := qualify }
    start.succeeds first = true → start.succeeds second = true →
      (∀ calls ∈ [first, second], ∀ table ∈ (start.runAll calls).tables.tables,
          table.aliasName = table.basename) ∧
        (start.runAll first).generate = (start.runAll second).generate ∧
        (sequences .selection ≠ [] → ∃ sql, (start.runAll first).generate = .ok sql) := by
  intro start success succeeded
  have steps := start.steps_of_succeeds first success
  have others := start.steps_of_succeeds second succeeded
  refine ⟨?_, ?_, ?_⟩
  · intro calls either
    have plain := plain_of_interleaves sequences bare start (start.runAll calls) Registry.plain_empty calls
    simp only [List.mem_cons, List.not_mem_nil, or_false] at either
    rcases either with rfl | rfl
    · exact (plain left steps).bare
    · exact (plain right others).bare
  · obtain ⟨f, renumbers, same⟩ := renumber_of_interleaves sequences bare dialect qualify first second left right
      _ _ steps others
    rw [same, generate_renumber f _ _ renumbers]
  · intro selects
    obtain ⟨call, member⟩ := List.exists_mem_of_ne_nil _ selects
    rw [← left.order .selection, ofKind, List.mem_filter] at member
    have started := started_of_steps start _ rfl first steps call member.1 (beq_iff_eq.mp member.2)
    obtain ⟨operation, set⟩ := Option.isSome_iff_exists.mp started
    rw [generate, statement?, set]
    exact ⟨_, rfl⟩

/-- The joined table is the second one in one run and the first one in the other. -/
theorem generate_interleaved_joined :
    let selects : List Call := [.select "users" [⟨"id", some "key"⟩, ⟨"name", none⟩] true,
      .select "orders" [⟨"id", none⟩] true]
    let filters : List Call := [.openGroup .and, .filter .and "orders.price" (.spelled ">") (.integer 3),
      .filter .or "name" (.typed .is) .null, .closeGroup]
    let joins : List Call := [.join "orders" "users.id" "orders.user_id"]
    let groupings : List Call := [.groupBy "users" "name"]
    let sequences : Kind → List Call
      | .selection => selects
      | .filtering => filters
      | .joining => joins
      | .grouping => groupings
    let first := selects ++ joins ++ filters ++ groupings
    let second := joins ++ selects.take 1 ++ groupings ++ filters ++ selects.drop 1
    let start : Query := { dialect := .ansi, qualify := .auto }
    (∀ kind, ∀ call ∈ sequences kind, call.isBare = true) ∧
      Interleaves sequences first ∧ Interleaves sequences second ∧
      start.succeeds first = true ∧ start.succeeds second = true ∧
      (start.runAll first).generate = (start.runAll second).generate := by
  intro selects filters joins groupings sequences first second start
  have bare : ∀ kind, ∀ call ∈ sequences kind, call.isBare = true := by
    intro kind
    cases kind
    all_goals decide +kernel
  have left : Interleaves sequences first := by
    refine ⟨by decide, ?_⟩
    intro kind
    cases kind
    all_goals rfl
  have right : Interleaves sequences second := by
    refine ⟨by decide, ?_⟩
    intro kind
    cases kind
    all_goals rfl
  have success : start.succeeds first = true := by decide +kernel
  have succeeded : start.succeeds second = true := by decide +kernel
  have same := generate_interleaved .ansi .auto sequences bare first second left right success succeeded
  exact ⟨bare, left, right, success, succeeded, same.2.1⟩

end Query
end SqlSelect
