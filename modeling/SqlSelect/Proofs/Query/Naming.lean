import SqlSelect.Proofs.Query.Step

namespace SqlSelect

structure Table.IsRenamed (table : Table) (name : String) : Prop where
  basename : table.basename = name
  root : table.isRoot = true
  declared : table.isDeclared = true
  other : table.aliasName ≠ name

namespace Registry

theorem answers_of_root (name : String) (table : Table) (answering : answers name true table = true) :
    answers name false table = true ∨ table.IsRenamed name := by
  by_cases same : table.aliasName = name
  · exact .inl (by simp [answers, same])
  · have named : table.basename = name ∧ (table.isDeclared = false ∨ table.isRoot = true) := by
      simpa [answers, same] using answering
    obtain ⟨basename, undeclared | root⟩ := named
    · exact .inl (by simp [answers, basename, undeclared])
    · cases declared : table.isDeclared with
      | false => exact .inl (by simp [answers, basename, declared])
      | true => exact .inr ⟨basename, root, declared, same⟩

theorem root_of_answers (name : String) (table : Table) (answering : answers name false table = true) :
    answers name true table = true := by
  simp only [answers, Bool.and_false, Bool.or_false, Bool.and_true, Bool.or_eq_true, Bool.and_eq_true] at answering ⊢
  exact answering.imp_right fun named => ⟨named.1, .inl named.2⟩

theorem silent_of_isRenamed (name : String) (table : Table) (renamed : table.IsRenamed name) :
    answers name false table = false := by
  simp [answers, renamed.other, renamed.declared]

theorem locateFrom_of_stronger (p q : Table → Bool) (stronger : ∀ table, q table = true → p table = true)
    (start id : Nat) (tables : List Table) (table : Table) (first : locateFrom p start tables = some (id, table))
    (holds : q table = true) : locateFrom q start tables = some (id, table) := by
  induction tables generalizing start with
  | nil => cases first
  | cons head tables ih =>
    rw [locateFrom] at first ⊢
    cases answering : q head with
    | true =>
      rw [if_pos (stronger head answering)] at first
      rwa [if_pos rfl]
    | false =>
      rw [if_neg Bool.false_ne_true]
      split at first
      · cases first
        rw [answering] at holds
        cases holds
      · exact ih (start + 1) first

def Denotes (registry : Registry) (name : String) (id : Nat) : Prop :=
  ∃ table, registry.locate (answers name false) = some (id, table)

theorem Denotes.later (registry later : Registry) (name : String) (id : Nat) (denotes : registry.Denotes name id)
    (grown : registry.tables <+: later.tables) : later.Denotes name id := by
  obtain ⟨table, first⟩ := denotes
  exact ⟨table, locate_of_prefix registry later grown _ _ first⟩

theorem table_of_grown (registry later : Registry) (id : Nat) (known : id < registry.size)
    (grown : registry.tables <+: later.tables) : later.table id = registry.table id := by
  obtain ⟨added, same⟩ := grown
  apply table_of_get?
  rw [get?, ← same, List.getElem?_append_left known]
  exact registry.get?_of_lt id known

/-- References by the name lead elsewhere than to the table, whatever is requested before them: to a table under that
alias or, if its alias was not declared, of that name. -/
def Avoids (registry : Registry) (name : String) (id : Nat) : Prop :=
  ∀ requests, ∃ read, (registry.resolveAll requests).resolve name false = .ok read ∧ read.id ≠ id ∧
    answers name false (read.registry.table read.id) = true ∧
    ∀ base column, Text.isAllBlank column = false →
      (registry.resolveAll requests).resolveColumn base (name ++ "." ++ column) =
        .ok ⟨⟨Text.trim column, none, read.id⟩, read.registry, [read.event]⟩

theorem Avoids.later (registry : Registry) (name : String) (id : Nat) (avoids : registry.Avoids name id)
    (requests : List (String × Bool)) : (registry.resolveAll requests).Avoids name id := by
  intro more
  have whole := avoids (requests ++ more)
  rwa [resolveAll_append] at whole

section Word

variable (registry : Registry) (name : String) (word : Text.IsWord name) (free : TableRequest.isAs name = false)

include word free

theorem Denotes.resolve (id : Nat) (denotes : registry.Denotes name id) :
    ∃ event, registry.resolve name false = .ok ⟨id, registry, event⟩ := by
  obtain ⟨table, first⟩ := denotes
  exact ⟨_, resolve_word registry name id table word free first⟩

theorem Denotes.resolveColumn (single : '.' ∉ name.toList) (id : Nat) (denotes : registry.Denotes name id)
    (base : Option Nat) (column : String) (filled : Text.isAllBlank column = false) :
    ∃ events, registry.resolveColumn base (name ++ "." ++ column) =
      .ok ⟨⟨Text.trim column, none, id⟩, registry, events⟩ := by
  obtain ⟨event, found⟩ := denotes.resolve registry name word free id
  exact ⟨_, resolveColumn_word registry base name column _ word single filled found⟩

theorem exists_resolve_word (isRoot : Bool) : ∃ resolved, registry.resolve name isRoot = .ok resolved := by
  have readable := TableRequest.parse_of_isWord name word free
  simp only [Registry.resolve, readable, check, bind, Except.bind]
  cases registry.resolveBare name isRoot with
  | reuse id table => exact ⟨_, rfl⟩
  | register collisions => exact ⟨_, rfl⟩

theorem locate_of_resolve_word (isRoot : Bool) (resolved : Resolved)
    (found : registry.resolve name isRoot = .ok resolved) :
    resolved.registry.locate (answers name isRoot) = some (resolved.id, resolved.registry.table resolved.id) := by
  have readable := TableRequest.parse_of_isWord name word free
  exact (named_of_resolve registry name ⟨name, none⟩ isRoot resolved found readable (.inl rfl)).1

/-- A root request finds the table that the name has in references, or a renamed one. -/
theorem denotes_of_resolve_root (resolved : Resolved) (found : registry.resolve name true = .ok resolved) :
    resolved.registry.Denotes name resolved.id ∨ (resolved.registry.table resolved.id).IsRenamed name := by
  have first := locate_of_resolve_word registry name word free true resolved found
  have answering := (get?_of_locate resolved.registry _ _ _ first).2
  rcases answers_of_root name _ answering with shared | renamed
  · have hit := locateFrom_of_stronger _ _ (root_of_answers name) 0 _ _ _ first shared
    exact .inl ⟨_, hit⟩
  · exact .inr renamed

theorem avoids_of_isRenamed (single : '.' ∉ name.toList) (id : Nat) (known : id < registry.size)
    (renamed : (registry.table id).IsRenamed name) : registry.Avoids name id := by
  intro requests
  have grown := tables_resolveAll registry requests
  obtain ⟨read, found⟩ := exists_resolve_word (registry.resolveAll requests) name word free false
  have first := locate_of_resolve_word _ name word free false read found
  have answering := (get?_of_locate read.registry _ _ _ first).2
  refine ⟨read, found, ?_, answering, ?_⟩
  · rintro rfl
    have added := tables_of_resolve _ name false read found
    rw [table_of_grown registry read.registry _ known (grown.trans added)] at answering
    rw [silent_of_isRenamed name _ renamed] at answering
    cases answering
  · intro base column filled
    exact resolveColumn_word _ base name column read word single filled found

end Word
end Registry

namespace Query

structure Names (query : Query) (name : String) (id : Nat) : Prop where
  filter : ∀ chain column operator value known, operator.resolve = .ok known → Text.isAllBlank column = false →
    ∃ events, query.run (.filter chain (name ++ "." ++ column) operator value) =
      done { query with
        filters := query.filters.push (.simple chain ⟨Text.trim column, none, id⟩ known value) } events
  groupBy : ∀ column, Text.isAllBlank column = false →
    ∃ events, query.run (.groupBy name column) =
      done { query with grouping := some ⟨Text.trim column, none, id⟩ } events
  left : ∀ request column right target second, Text.isAllBlank column = false →
    query.tables.resolve request false = .ok target →
    target.registry.resolveColumn query.base right = .ok second →
    ∃ events, query.run (.join request (name ++ "." ++ column) right) =
      done { query with
        tables := second.registry
        joints := query.joints ++ [⟨target.id, ⟨Text.trim column, none, id⟩, second.column⟩] } events
  right : ∀ request left column target first, Text.isAllBlank column = false →
    query.tables.resolve request false = .ok target →
    target.registry.resolveColumn query.base left = .ok first →
    ∃ events, query.run (.join request left (name ++ "." ++ column)) =
      done { query with
        tables := first.registry
        joints := query.joints ++ [⟨target.id, first.column, ⟨Text.trim column, none, id⟩⟩] } events

theorem names_of_denotes (query : Query) (name : String) (word : Text.IsWord name)
    (free : TableRequest.isAs name = false) (single : '.' ∉ name.toList) (id : Nat)
    (denotes : query.tables.Denotes name id) : query.Names name id := by
  constructor
  case filter =>
    intro chain column operator value known readable filled
    obtain ⟨events, found⟩ := denotes.resolveColumn query.tables name word free single id query.base column filled
    simp only [run, Query.filter, readable, found]
    exact ⟨_, rfl⟩
  case groupBy =>
    intro column filled
    obtain ⟨event, found⟩ := denotes.resolve query.tables name word free id
    simp only [run, Query.groupBy, filled, found]
    exact ⟨_, rfl⟩
  case left =>
    intro request column right target second filled targeted closed
    have still := denotes.later _ target.registry name id (Registry.tables_of_resolve _ request false target targeted)
    obtain ⟨events, found⟩ := still.resolveColumn _ name word free single id query.base column filled
    simp only [run, join, targeted, found, closed]
    exact ⟨_, rfl⟩
  case right =>
    intro request left column target first filled targeted opened
    have added := Registry.tables_of_resolve _ request false target targeted
    have more := Registry.tables_of_resolveColumn _ query.base left first opened
    have still := denotes.later _ first.registry name id (added.trans more)
    obtain ⟨events, found⟩ := still.resolveColumn _ name word free single id query.base column filled
    simp only [run, join, targeted, opened, found]
    exact ⟨_, rfl⟩

theorem tables_of_select (query later : Query) (request : String) (columns : List ColumnSpec) (distinct : Bool)
    (resolved : Resolved) (found : query.tables.resolve request true = .ok resolved)
    (step : query.Step (.select request columns distinct) later) : later.tables = resolved.registry := by
  cases step with
  | select _ _ _ again fits result =>
    rw [found] at result
    cases result
    rfl

/-- The table that a select finds by a name is the one that references by this name are to, after any calls, failed ones
included. Only a root table that was declared under another alias is found by selects alone. -/
theorem name_shared (query : Query) (name : String) (columns : List ColumnSpec) (distinct : Bool) (resolved : Resolved)
    (word : Text.IsWord name) (free : TableRequest.isAs name = false) (single : '.' ∉ name.toList)
    (success : (query.run (.select name columns distinct)).error = none)
    (found : query.tables.resolve name true = .ok resolved) :
    let selected := (query.run (.select name columns distinct)).query
    let table := selected.tables.table resolved.id
    (¬ table.IsRenamed name → ∀ later, (selected.runAll later).Names name resolved.id) ∧
      (table.IsRenamed name → ∀ later, (selected.runAll later).tables.Avoids name resolved.id) := by
  intro selected table
  have reached : selected.tables = resolved.registry :=
    tables_of_select query selected name columns distinct resolved found (step_of_succeeded query _ success)
  constructor
  · intro same later
    obtain ⟨requests, grown⟩ := tables_runAll selected later
    have added := Registry.tables_resolveAll selected.tables requests
    rw [← grown, reached] at added
    apply names_of_denotes _ name word free single
    rcases Registry.denotes_of_resolve_root query.tables name word free resolved found with denotes | renamed
    · exact denotes.later resolved.registry _ name resolved.id added
    · rw [← reached] at renamed
      exact absurd renamed same
  · intro renamed later
    obtain ⟨requests, grown⟩ := tables_runAll selected later
    have known := Registry.resolve_lt_size query.tables name true resolved found
    rw [← reached] at known
    have avoids := Registry.avoids_of_isRenamed selected.tables name word free single resolved.id known renamed
    rw [grown]
    exact avoids.later selected.tables name resolved.id requests

/-- A table that a join named first. -/
theorem name_shared_joined :
    let query := ({} : Query).runAll [.select "users u" [⟨"id", none⟩] false, .join "orders" "id" "orders.buyer"]
    let selected := (query.run (.select "orders" [⟨"total", none⟩] false)).query
    Text.IsWord "orders" ∧ TableRequest.isAs "orders" = false ∧ '.' ∉ "orders".toList ∧
      (query.run (.select "orders" [⟨"total", none⟩] false)).error = none ∧
      query.tables.resolve "orders" true = .ok ⟨1, query.tables, .tableReused "orders" "orders"⟩ ∧
      ∀ later, (selected.runAll later).Names "orders" 1 := by
  intro query selected
  have word : Text.IsWord "orders" := Text.isWord_of_mem_words "orders" "orders" (by decide)
  have free : TableRequest.isAs "orders" = false := by rfl
  have single : '.' ∉ "orders".toList := by decide
  have success : (query.run (.select "orders" [⟨"total", none⟩] false)).error = none := by rfl
  have found : query.tables.resolve "orders" true = .ok ⟨1, query.tables, .tableReused "orders" "orders"⟩ := by rfl
  refine ⟨word, free, single, success, found, ?_⟩
  apply (name_shared query "orders" _ false _ word free single success found).1
  intro renamed
  exact absurd renamed.other (by decide)

/-- The root table has the alias `u`, so a filter by its name is about another table. -/
theorem name_not_shared :
    ¬ ∀ calls name columns distinct resolved, Text.IsWord name → TableRequest.isAs name = false →
      '.' ∉ name.toList →
      let query := ({} : Query).runAll calls
      (query.run (.select name columns distinct)).error = none → query.tables.resolve name true = .ok resolved →
      ∀ later, ((query.run (.select name columns distinct)).query.runAll later).Names name resolved.id := by
  intro always
  have word : Text.IsWord "users" := Text.isWord_of_mem_words "users" "users" (by decide)
  have names := always [.select "users AS u" [⟨"id", none⟩] false] "users" [⟨"name", none⟩] false
    ⟨0, ⟨[⟨"users", "u", true, true⟩]⟩, .tableReused "users" "u"⟩ word (by rfl) (by decide) (by rfl) (by rfl) []
  obtain ⟨events, ends⟩ := names.filter .and "id" (.typed .eq) (.integer 1) .eq (by rfl) (by rfl)
  have grown : 2 = 1 := congrArg (·.query.tables.size) ends
  cases grown

end Query
end SqlSelect
