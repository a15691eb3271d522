import SqlSelect.Proofs.Condition.Comparisons
import SqlSelect.Proofs.Query.Run

namespace SqlSelect

def Call.isFilter : Call → Bool
  | .filter .. => true
  | _ => false

def Call.isGroup : Call → Bool
  | .openGroup _ | .closeGroup => true
  | _ => false

inductive Bracketed : List Call → Prop where
  | nil : Bracketed []
  | filter (chain : Chain) (reference : String) (operator : OperatorSpec) (value : Json) (calls : List Call)
    (rest : Bracketed calls) : Bracketed (.filter chain reference operator value :: calls)
  | group (chain : Chain) (inner calls : List Call) (inside : Bracketed inner) (rest : Bracketed calls) :
    Bracketed (.openGroup chain :: (inner ++ .closeGroup :: calls))

def Comparison.condition (comparison : Comparison) : Condition :=
  .simple comparison.chain comparison.column comparison.operator comparison.value

namespace Filters

def append (filters : Filters) (conditions : List Condition) : Filters :=
  { filters with current := filters.current ++ conditions }

@[simp] theorem append_nil (filters : Filters) : filters.append [] = filters := by
  rw [append, List.append_nil]

theorem append_cons (filters : Filters) (condition : Condition) (conditions : List Condition) :
    filters.append (condition :: conditions) = (filters.push condition).append conditions := by
  rw [push, append, append, List.append_assoc, List.singleton_append]

theorem closeGroup_append_openGroup (filters : Filters) (chain : Chain) (inner : List Condition) :
    ((filters.openGroup chain).append inner).closeGroup = filters.push (.group chain inner) := rfl

end Filters

namespace Query

def results (query : Query) : List Call → List (Call × Option QueryError)
  | [] => []
  | call :: calls => (call, (query.run call).error) :: (query.run call).query.results calls

def closeAll (query : Query) : Query :=
  query.runAll (List.replicate query.filters.enclosing.length .closeGroup)

theorem runAll_closeGroup (enclosing : List OpenGroup) (current : List Condition) (query : Query)
    (here : query.filters = ⟨current, enclosing⟩) :
    query.runAll (List.replicate enclosing.length .closeGroup) =
      { query with filters := ⟨Filters.plug current enclosing, []⟩ } := by
  induction enclosing generalizing current query with
  | nil =>
    rw [Filters.plug, ← here]
    rfl
  | cons group enclosing ih =>
    have outer : (query.run .closeGroup).query.filters =
        ⟨group.before ++ [.group group.chain current], enclosing⟩ := by
      simp only [run, closeGroup, done, here, Filters.closeGroup]
    rw [List.length_cons, List.replicate_succ, runAll_cons, ih _ _ outer]
    rfl

theorem closeAll_eq (query : Query) :
    query.closeAll = { query with filters := ⟨query.filters.conditions, []⟩ } :=
  runAll_closeGroup query.filters.enclosing query.filters.current query rfl

/-- What a run of filters and groups writes: a condition for each filter that succeeds and a group for each that is
opened, with what is written between its opening and its closing. -/
inductive Writes : Query → List Call → List Condition → Prop where
  | nil (query : Query) : Writes query [] []
  | refused (query : Query) (chain : Chain) (reference : String) (operator : OperatorSpec) (value : Json)
    (calls : List Call) (added : List Condition) (fault : QueryError)
    (failed : (query.run (.filter chain reference operator value)).error = some fault)
    (rest : Writes (query.run (.filter chain reference operator value)).query calls added) :
    Writes query (.filter chain reference operator value :: calls) added
  | written (query : Query) (chain : Chain) (reference : String) (operator : OperatorSpec) (value : Json)
    (calls : List Call) (added : List Condition) (known : Operator) (found : ResolvedColumn)
    (readable : operator.resolve = .ok known)
    (result : query.tables.resolveColumn query.base reference = .ok found)
    (rest : Writes (query.run (.filter chain reference operator value)).query calls added) :
    Writes query (.filter chain reference operator value :: calls)
      (.simple chain found.column known value :: added)
  | group (query : Query) (chain : Chain) (inner calls : List Call) (entries added : List Condition)
    (inside : Writes (query.run (.openGroup chain)).query inner entries)
    (rest : Writes (query.runAll (.openGroup chain :: (inner ++ [.closeGroup]))) calls added) :
    Writes query (.openGroup chain :: (inner ++ .closeGroup :: calls)) (.group chain entries :: added)

theorem filter_split (query : Query) (chain : Chain) (reference : String) (operator : OperatorSpec) (value : Json) :
    (∃ fault, query.filter chain reference operator value = query.failed [] fault) ∨
      ∃ known found, operator.resolve = .ok known ∧ query.tables.resolveColumn query.base reference = .ok found ∧
        query.filter chain reference operator value =
          done { query with
            tables := found.registry
            filters := query.filters.push (.simple chain found.column known value) } found.events := by
  unfold filter
  cases readable : operator.resolve with
  | error fault => exact .inl ⟨fault, rfl⟩
  | ok known =>
    cases result : query.tables.resolveColumn query.base reference with
    | error fault => exact .inl ⟨fault, rfl⟩
    | ok found => exact .inr ⟨known, found, rfl, rfl, rfl⟩

theorem writes_of_bracketed (calls : List Call) (bracketed : Bracketed calls) (query : Query) :
    ∃ added, query.Writes calls added := by
  induction bracketed generalizing query with
  | nil => exact ⟨[], .nil query⟩
  | filter chain reference operator value calls rest ih =>
    obtain ⟨added, later⟩ := ih (query.run (.filter chain reference operator value)).query
    rcases query.filter_split chain reference operator value with
      ⟨fault, failed⟩ | ⟨known, found, readable, result, _⟩
    · have refused := congrArg Outcome.error failed
      exact ⟨added, .refused query chain reference operator value calls added fault refused later⟩
    · exact ⟨_, .written query chain reference operator value calls added known found readable result later⟩
  | group chain inner calls inside rest ihInner ihRest =>
    obtain ⟨entries, within⟩ := ihInner (query.run (.openGroup chain)).query
    obtain ⟨added, later⟩ := ihRest (query.runAll (.openGroup chain :: (inner ++ [.closeGroup])))
    exact ⟨_, .group query chain inner calls entries added within later⟩

theorem Writes.filters (query : Query) (calls : List Call) (added : List Condition)
    (writes : query.Writes calls added) : (query.runAll calls).filters = query.filters.append added := by
  induction writes with
  | nil query => simp
  | refused query chain reference operator value calls added fault failed rest ih =>
    have same := query.filter_failed chain reference operator value (by
      rw [show (query.filter chain reference operator value).error = some fault from failed]
      simp)
    rw [runAll_cons, ih, run, same]
  | written query chain reference operator value calls added known found readable result rest ih =>
    have left : (query.run (.filter chain reference operator value)).query.filters =
        query.filters.push (.simple chain found.column known value) := by
      simp only [run, filter, readable, result, done]
    rw [runAll_cons, ih, left, Filters.append_cons]
  | group query chain inner calls entries added inside rest ihInner ihRest =>
    have closed : (query.runAll (.openGroup chain :: (inner ++ [.closeGroup]))).filters =
        query.filters.push (.group chain entries) := by
      rw [runAll_cons, runAll_append, runAll_cons, runAll_nil]
      show ((query.run (.openGroup chain)).query.runAll inner).filters.closeGroup = _
      rw [ihInner]
      exact Filters.closeGroup_append_openGroup query.filters chain entries
    have split : Call.openGroup chain :: (inner ++ .closeGroup :: calls) =
        (.openGroup chain :: (inner ++ [.closeGroup])) ++ calls := by simp
    rw [split, runAll_append, ihRest, closed, Filters.append_cons]

def Alike (query top : Query) : Prop := top = { query with filters := top.filters }

theorem Alike.filter (query top : Query) (alike : query.Alike top) (chain : Chain) (reference : String)
    (operator : OperatorSpec) (value : Json) :
    (top.filter chain reference operator value).error = (query.filter chain reference operator value).error ∧
      Alike (query.filter chain reference operator value).query (top.filter chain reference operator value).query := by
  unfold Alike at alike
  have tables : top.tables = query.tables := by rw [alike]
  have base : top.base = query.base := by rw [alike]
  unfold Query.filter Alike
  rw [tables, base]
  cases readable : operator.resolve with
  | error fault => exact ⟨rfl, alike⟩
  | ok known =>
    cases result : query.tables.resolveColumn query.base reference with
    | error fault => exact ⟨by simp [failed], by simpa [failed] using alike⟩
    | ok found =>
      refine ⟨rfl, ?_⟩
      rw [alike]
      rfl

def Filtering (calls : List Call) : Prop := ∀ call ∈ calls, call.isFilter = true ∨ call.isGroup = true

theorem Alike.run_group (query top : Query) (alike : query.Alike top) (call : Call) (group : call.isGroup = true) :
    Alike (query.run call).query top := by
  cases call with
  | openGroup | closeGroup => exact alike
  | select | filter | join | groupBy | setDialect | setQualify => cases group

theorem not_isFilter_of_isGroup (call : Call) (group : call.isGroup = true) : call.isFilter = false := by
  cases call with
  | filter => cases group
  | select | openGroup | closeGroup | join | groupBy | setDialect | setQualify => rfl

theorem Alike.runAll (query top : Query) (alike : query.Alike top) (calls : List Call)
    (filtering : Filtering calls) :
    Alike (query.runAll calls) (top.runAll (calls.filter Call.isFilter)) ∧
      (query.results calls).filter (fun result => result.1.isFilter) =
        top.results (calls.filter Call.isFilter) := by
  induction calls generalizing query top with
  | nil => exact ⟨alike, rfl⟩
  | cons call calls ih =>
    have later : Filtering calls := fun other member => filtering other (List.mem_cons_of_mem call member)
    rcases filtering call List.mem_cons_self with filter | group
    · cases call with
      | filter chain reference operator value =>
        obtain ⟨same, next⟩ := alike.filter query top chain reference operator value
        obtain ⟨tables, results⟩ := ih _ _ next later
        rw [List.filter_cons_of_pos filter]
        refine ⟨tables, ?_⟩
        rw [Query.results, Query.results, List.filter_cons_of_pos (by rfl)]
        have ends : (top.run (.filter chain reference operator value)).error =
          (query.run (.filter chain reference operator value)).error := same
        rw [ends]
        exact congrArg (List.cons _) results
      | select | openGroup | closeGroup | join | groupBy | setDialect | setQualify => cases filter
    · have other := not_isFilter_of_isGroup call group
      obtain ⟨tables, results⟩ := ih _ top (alike.run_group query top call group) later
      rw [List.filter_cons_of_neg (by simp [other]), runAll_cons, Query.results,
        List.filter_cons_of_neg (by simp [other])]
      exact ⟨tables, results⟩

theorem Writes.filtering (query : Query) (calls : List Call) (added : List Condition)
    (writes : query.Writes calls added) : Filtering calls := by
  induction writes with
  | nil => intro call member; cases member
  | refused query chain reference operator value calls added fault failed rest ih =>
    exact List.forall_mem_cons.mpr ⟨.inl rfl, ih⟩
  | written query chain reference operator value calls added known found readable result rest ih =>
    exact List.forall_mem_cons.mpr ⟨.inl rfl, ih⟩
  | group query chain inner calls entries added inside rest ihInner ihRest =>
    refine List.forall_mem_cons.mpr ⟨.inr rfl, ?_⟩
    exact List.forall_mem_append.mpr ⟨ihInner, List.forall_mem_cons.mpr ⟨.inr rfl, ihRest⟩⟩

theorem Writes.append (query : Query) (left right : List Call) (first second : List Condition)
    (writes : query.Writes left first) (later : (query.runAll left).Writes right second) :
    query.Writes (left ++ right) (first ++ second) := by
  induction writes with
  | nil query => exact later
  | refused query chain reference operator value calls added fault failed rest ih =>
    exact .refused query chain reference operator value _ _ fault failed (ih later)
  | written query chain reference operator value calls added known found readable result rest ih =>
    exact .written query chain reference operator value _ _ known found readable result (ih later)
  | group query chain inner calls entries added inside rest ihInner ihRest =>
    have split : Call.openGroup chain :: (inner ++ .closeGroup :: calls) =
        (.openGroup chain :: (inner ++ [.closeGroup])) ++ calls := by simp
    rw [split, runAll_append] at later
    rw [List.cons_append, List.append_assoc, List.cons_append]
    exact .group query chain inner _ entries _ inside (ihRest later)

/-- Without the groups the same filters write the same conditions, one behind the other. -/
theorem Writes.flat (query top : Query) (alike : query.Alike top) (calls : List Call) (added : List Condition)
    (writes : query.Writes calls added) :
    top.Writes (calls.filter Call.isFilter) ((Condition.comparisonsOf added).map Comparison.condition) := by
  induction writes generalizing top with
  | nil => exact .nil top
  | refused query chain reference operator value calls added fault failed rest ih =>
    obtain ⟨same, next⟩ := alike.filter query top chain reference operator value
    exact .refused top chain reference operator value _ _ fault (same.trans failed) (ih _ next)
  | written query chain reference operator value calls added known found readable result rest ih =>
    obtain ⟨same, next⟩ := alike.filter query top chain reference operator value
    have here : top.tables.resolveColumn top.base reference = .ok found := by
      unfold Alike at alike
      rw [alike]
      exact result
    exact .written top chain reference operator value _ _ known found readable here (ih _ next)
  | group query chain inner calls entries added inside rest ihInner ihRest =>
    have opened := alike.run_group query top (.openGroup chain) rfl
    have closing : Filtering (.openGroup chain :: (inner ++ [.closeGroup])) :=
      List.forall_mem_cons.mpr ⟨.inr rfl, List.forall_mem_append.mpr ⟨inside.filtering, by simp [Call.isGroup]⟩⟩
    have passed := (alike.runAll query top _ closing).1
    have within := ihInner top opened
    have kept : (Call.openGroup chain :: (inner ++ [.closeGroup])).filter Call.isFilter =
        inner.filter Call.isFilter := by simp [Call.isFilter]
    rw [kept] at passed
    have behind := ihRest _ passed
    have whole := within.append top _ _ _ _ behind
    simpa [Call.isFilter, Condition.comparisonsOf, Condition.comparisons] using whole

/-- Take filters and groups in any nesting, and the same filters alone after all open groups were closed. Each filter ends
the same way in both runs, and they leave the same tables. The conditions written in the first run are a group for each
opening, with what was written before its closing; those in the second run are the simple ones among them, as they are
read. -/
theorem grouping_transparent (query : Query) (calls : List Call) (bracketed : Bracketed calls) :
    let flat := query.closeAll.runAll (calls.filter Call.isFilter)
    (query.results calls).filter (fun result => result.1.isFilter) =
        query.closeAll.results (calls.filter Call.isFilter) ∧
      ∃ added, query.Writes calls added ∧
        query.runAll calls = { flat with filters := query.filters.append added } ∧
        flat.filters =
          query.closeAll.filters.append ((Condition.comparisonsOf added).map Comparison.condition) := by
  intro flat
  have alike : query.Alike query.closeAll := by rw [closeAll_eq, Alike]
  obtain ⟨added, writes⟩ := writes_of_bracketed calls bracketed query
  obtain ⟨same, results⟩ := alike.runAll query query.closeAll calls writes.filtering
  refine ⟨results, added, writes, ?_, (writes.flat query _ alike).filters⟩
  rw [← writes.filters, show flat = _ from same]

/-- In a group that is open already: a filter that fails, and one in a nested group whose table a later filter names. -/
theorem grouping_transparent_nested :
    let query := ({} : Query).runAll [.select "users u" [⟨"id", none⟩] false, .openGroup .or,
      .filter .and "age" (.spelled ">") (.integer 18)]
    let calls := [.filter .or "orders.total" (.spelled "=~") (.integer 1), .openGroup .or,
      .filter .and "orders.total" (.typed .lt) (.integer 5), .openGroup .and, .closeGroup, .closeGroup,
      .filter .or "orders.id" (.typed .eq) (.integer 7)]
    let flat := query.closeAll.runAll (calls.filter Call.isFilter)
    Bracketed calls ∧
      (query.results calls).filter (fun result => result.1.isFilter) =
        query.closeAll.results (calls.filter Call.isFilter) ∧
      ∃ added, query.Writes calls added ∧
        query.runAll calls = { flat with filters := query.filters.append added } ∧
        flat.filters =
          query.closeAll.filters.append ((Condition.comparisonsOf added).map Comparison.condition) := by
  intro query calls flat
  have inner : Bracketed [.filter .and "orders.total" (.typed .lt) (.integer 5), .openGroup .and, .closeGroup] :=
    .filter _ _ _ _ _ (.group .and [] [] .nil .nil)
  have bracketed : Bracketed calls :=
    .filter _ _ _ _ _ (.group .or _ _ inner (.filter _ _ _ _ _ .nil))
  exact ⟨bracketed, grouping_transparent query calls bracketed⟩

end Query
end SqlSelect
