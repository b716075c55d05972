import Sqlwright.Command
import Sqlwright.Proofs.Predicate.Grouping

/-!
# Filters of commands

A command that filters takes its filters one by one, as often as it is asked to. All of them
together are one conjunction, so a command is built alike whether conditions are passed to it as
several filters, as one conjunction of all of them, or anything between.
-/

namespace Sqlwright

open Command (combined)

/-- A command with more filters behind those that it has. A command that does not filter stays as
it is. -/
def Command.filtered (filters : List Expr) : Command → Command
  | .select command => .select { command with filters := command.filters ++ filters }
  | .update record assignments others => .update record assignments (others ++ filters)
  | .updateWhere command => .updateWhere { command with filters := command.filters ++ filters }
  | .delete record others => .delete record (others ++ filters)
  | .deleteWhere command => .deleteWhere { command with filters := command.filters ++ filters }
  | .count command => .count { command with filters := command.filters ++ filters }
  | .get key => .get key
  | .insert record returnIdentity => .insert record returnIdentity
  | .insertMany records returnIdentity => .insertMany records returnIdentity
  | .deleteByKey key => .deleteByKey key
  | .upsert command => .upsert command
  | .truncate => .truncate

namespace Grouping

/-- Groupings one after another, paired from the left. -/
def gathered (first : Grouping) (rest : List Grouping) : Grouping := rest.foldl pair first

/-- They have the members of each. -/
theorem members_gathered (first : Grouping) (rest : List Grouping) :
    (first.gathered rest).members = (first :: rest).flatMap members := by
  induction rest generalizing first with
  | nil => simp [gathered]
  | cons second rest inductionHypothesis =>
    have others := inductionHypothesis (first.pair second)
    simpa [gathered, members] using others

/-- Their trees are connected from the left. -/
theorem tree_gathered (connective : Connective) (first : Grouping) (rest : List Grouping) :
    (first.gathered rest).tree connective =
      connective.exprOf ((first :: rest).map (tree connective)) := by
  rw [List.map_cons, connective.exprOf_cons]
  induction rest generalizing first with
  | nil => rfl
  | cons second rest inductionHypothesis => exact inductionHypothesis (first.pair second)

/-- The trees of conjunctions that are combined are the tree of one conjunction. -/
theorem combined_trees (first : Grouping) (rest : List Grouping) :
    combined ((first :: rest).map (tree .both)) = some ((first.gathered rest).tree .both) := by
  rw [tree_gathered]
  rfl

/-- Conditions that are connected from the left are grouped so. -/
theorem exists_tree_eq_exprOf (connective : Connective) (first : Expr) (rest : List Expr) :
    ∃ grouping : Grouping, grouping.members = first :: rest ∧
      grouping.tree connective = connective.exprOf (first :: rest) := by
  refine ⟨(single first).gathered (rest.map single), ?_, ?_⟩
  · rw [members_gathered, ← List.map_cons, List.flatMap_map]
    exact List.flatMap_singleton' _
  · rw [tree_gathered, ← List.map_cons, List.map_map]
    exact congrArg _ (List.map_id _)

end Grouping

/-- The condition that filters are written as depends only on the members of their conjunctions. -/
theorem whereClause_trees (dialect : Dialect) (table : Table) {filters others : List Grouping}
    (same : filters.flatMap Grouping.members = others.flatMap Grouping.members) :
    Building.whereClause dialect table (combined (filters.map (Grouping.tree .both))) =
      Building.whereClause dialect table (combined (others.map (Grouping.tree .both))) := by
  have empty {first : Grouping} {rest : List Grouping}
      (none : (first :: rest).flatMap Grouping.members = []) : False := by
    obtain ⟨member, members, listed⟩ := first.exists_members
    simp [listed] at none
  cases filters with
  | nil =>
    cases others with
    | nil => rfl
    | cons second others => exact (empty same.symm).elim
  | cons first rest =>
    cases others with
    | nil => exact (empty same).elim
    | cons second others =>
      rw [← Grouping.members_gathered, ← Grouping.members_gathered] at same
      have alike (params : ParamSet) :
          compile dialect table ((first.gathered rest).tree .both) params =
            compile dialect table ((second.gathered others).tree .both) params := by
        rw [compile_tree, compile_tree, same]
      rw [Grouping.combined_trees, Grouping.combined_trees]
      funext params
      simp only [Building.whereClause, alike]

/-- This is so as well among other filters. -/
theorem whereClause_trees_among (dialect : Dialect) (table : Table) (before after : List Expr)
    {filters others : List Grouping}
    (same : filters.flatMap Grouping.members = others.flatMap Grouping.members) :
    Building.whereClause dialect table
        (combined (before ++ filters.map (Grouping.tree .both) ++ after)) =
      Building.whereClause dialect table
        (combined (before ++ others.map (Grouping.tree .both) ++ after)) := by
  have single (conditions : List Expr) :
      conditions = (conditions.map Grouping.single).map (Grouping.tree .both) := by
    rw [List.map_map]
    exact (List.map_id _).symm
  rw [single before, single after, ← List.map_append, ← List.map_append, ← List.map_append,
    ← List.map_append]
  exact whereClause_trees dialect table (by simp only [List.flatMap_append, same])

/-- Commands are built alike if the conjunctions that are passed to them as filters have the same
members. -/
theorem Command.build_filtered_trees (config : Config) (table : Table) (command : Command)
    {filters others : List Grouping}
    (same : filters.flatMap Grouping.members = others.flatMap Grouping.members) :
    (command.filtered (filters.map (Grouping.tree .both))).build config table =
      (command.filtered (others.map (Grouping.tree .both))).build config table := by
  have amid (before after : List Expr) :=
    whereClause_trees_among config.dialect (config.place table) before after same
  have behind (before : List Expr) := by simpa using amid before []
  cases command with
  | select command =>
    have closed (emptyPage : Bool) (conditions : List Expr) :
        (if emptyPage then conditions ++ [.const (.bool false)] else conditions) =
          conditions ++ if emptyPage then [.const (.bool false)] else [] := by
      cases emptyPage <;> simp
    simp only [filtered, build, Select.build, closed, amid]
    rfl
  | update record assignments before =>
    simp only [filtered, build, Update.build, ← List.append_assoc, behind]
  | updateWhere command => simp only [filtered, build, Update.build, behind]
  | delete record before => simp only [filtered, build, Delete.build, ← List.append_assoc, behind]
  | deleteWhere command => simp only [filtered, build, Delete.build, behind]
  | count command => simp only [filtered, build, Count.build, behind]
  | _ => rfl

/-- How conditions are grouped does not matter. Two trees of one connective over the same conditions
in the same order have the same outcome: the same error with the same bindings left over, or the
same predicate with the same parameters. If they do not fold, all conditions have been compiled one
after another, and the text is theirs side by side, without any parentheses for the pairs.

Hence a command is built alike whether the conditions are passed to it one by one, as a conjunction
of all of them, or in several conjunctions that are grouped in whatever way. -/
theorem grouping_is_immaterial (connective : Connective) (dialect : Dialect) (table : Table)
    (params : ParamSet) (first second : Grouping) (same : first.members = second.members) :
    compile dialect table (first.tree connective) params =
        compile dialect table (second.tree connective) params ∧
      compile dialect table (first.tree connective) params =
        compile dialect table (connective.exprOf first.members) params ∧
      (∀ fragment later,
        compile dialect table (first.tree connective) params = (.ok (.sql fragment), later) →
          ∃ conditions,
            Compiling.outcome (first.members.mapM (Compiling.condition dialect table)) params =
              (.ok conditions, later) ∧
            fragment = connective.beside (conditions.filterMap Condition.text?)) ∧
      ∀ (config : Config) (command : Command),
        (∀ filters : List Grouping, filters.flatMap Grouping.members = first.members →
          (command.filtered (filters.map (Grouping.tree .both))).build config table =
            (command.filtered first.members).build config table) ∧
        (command.filtered [.allOf first.members]).build config table =
          (command.filtered first.members).build config table := by
  have listed := compile_tree connective dialect table first params
  refine ⟨?_, listed, fun fragment later => text_of_tree, fun config command => ?_⟩
  · rw [listed, compile_tree, same]
  · have alike (filters : List Grouping)
        (covers : filters.flatMap Grouping.members = first.members) :
        (command.filtered (filters.map (Grouping.tree .both))).build config table =
          (command.filtered first.members).build config table := by
      have single : first.members.map (Grouping.tree .both ∘ Grouping.single) = first.members :=
        List.map_id _
      have each : (first.members.map Grouping.single).flatMap Grouping.members =
          first.members := by
        rw [List.flatMap_map]
        exact List.flatMap_singleton' _
      have built := Command.build_filtered_trees config table command (covers.trans each.symm)
      rwa [List.map_map, single] at built
    obtain ⟨head, rest, members⟩ := first.exists_members
    obtain ⟨grouping, covers, tree⟩ := Grouping.exists_tree_eq_exprOf .both head rest
    have whole := alike [grouping] (by simp [covers, members])
    rw [List.map_singleton, tree, ← members] at whole
    exact ⟨alike, whole⟩

/-- A conjunction of three, one of them a disjunction, grouped from either side. Only the
disjunction is in parentheses. -/
theorem conjunction_of_three_is_grouped_alike :
    let table : Table := { name := "users", schema := none, columns :=
      [{ name := "age" }, { name := "name" }] }
    let adult := Expr.compare .gt (.field "age") (.const (.int 18))
    let known := Expr.or (.compare .eq (.field "name") (.const (.text "Ann")))
      (.compare .eq (.field "name") (.const (.text "Bob")))
    let young := Expr.compare .lt (.field "age") (.const (.int 65))
    let first : Grouping := .pair (.pair (.single adult) (.single known)) (.single young)
    let second : Grouping := .pair (.single adult) (.pair (.single known) (.single young))
    let compared (name : String) (sign : Sql.Comparison) (parameter : String) : Sql.Fragment :=
      Sql.Fragment.ident name ++ Sql.Fragment.comparison sign ++ Sql.Fragment.param parameter
    let fragment := compared "age" .gt "age" ++ Sql.Fragment.keyword .AND ++
      Sql.Fragment.parens (compared "name" .eq "name" ++ Sql.Fragment.keyword .OR ++
        compared "name" .eq "name_1") ++
      Sql.Fragment.keyword .AND ++ compared "age" .lt "age_1"
    ∃ later, compile .sqlite table (first.tree .both) .empty = (.ok (.sql fragment), later) ∧
      compile .sqlite table (second.tree .both) .empty = (.ok (.sql fragment), later) ∧
      Command.build {} table (.deleteWhere { filters := [second.tree .both] }) =
        Command.build {} table (.deleteWhere { filters := [adult, known, young] }) := by
  intro table adult known young first second compared fragment
  have written : (compile .sqlite table (first.tree .both) .empty).1 = .ok (.sql fragment) := by
    decide +kernel
  have compiled := Prod.ext
    (y := (_, (compile .sqlite table (first.tree .both) .empty).2)) written rfl
  obtain ⟨alike, _, _, builds⟩ :=
    grouping_is_immaterial .both .sqlite table .empty first second rfl
  exact ⟨_, compiled, alike.symm.trans compiled, (builds {} (.deleteWhere {})).1 [second] rfl⟩

end Sqlwright
