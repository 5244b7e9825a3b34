import QueryFilter.Proofs.SameText

/-!
# Unique readability

A statement is determined by its text and its parameters, whatever its names are made of
(`Sql.Select.eq_of_text`). A plan without empty lists is determined by its statement, and so by the
same text and parameters (`text_determines_plan`).
-/

namespace QueryFilter

namespace Sql

variable {dialect : Dialect} {s t : List Token}

/-! ### Conditions -/

inductive Condition.Kind where
  | relation (relation : Relation)
  | between
  | member
  | notMember
  | isNull
  | isNotNull
  deriving DecidableEq

namespace Condition

namespace Kind

def text : Kind → String
  | relation r => r.text
  | between => " BETWEEN "
  | member => " IN "
  | notMember => " NOT IN "
  | isNull => " IS NULL"
  | isNotNull => " IS NOT NULL"

def all : List Kind :=
  [.relation .eq, .relation .ne, .relation .gt, .relation .ge, .relation .lt, .relation .le,
    .relation .like, .between, .member, .notMember, .isNull, .isNotNull]

theorem mem_all (kind : Kind) : kind ∈ all := by
  cases kind with
  | relation r => cases r <;> decide
  | _ => decide

theorem eq_of_prefix (a b : Kind) (begins : a.text.toList <+: b.text.toList) : a = b := by
  have code : ∀ a ∈ all, ∀ b ∈ all, a.text.toList <+: b.text.toList → a = b := by decide
  exact code a a.mem_all b b.mem_all begins

theorem lead_text (kind : Kind) : lead dialect (.fixed kind.text :: s) = some ' ' := by
  apply lead_fixed
  cases kind with
  | relation r => cases r <;> rfl
  | _ => rfl

end Kind

def column? : Condition → Option ColumnPath
  | compare column _ _ | between column _ _ | member column _ | notMember column _
  | isNull column | isNotNull column => some column
  | constant _ _ => none

def kind? : Condition → Option Kind
  | compare _ relation _ => some (.relation relation)
  | between .. => some .between
  | member .. => some .member
  | notMember .. => some .notMember
  | isNull _ => some .isNull
  | isNotNull _ => some .isNotNull
  | constant .. => none

def operandTokens : Condition → List Token
  | compare _ _ value => [.parameter value]
  | between _ low high => [.parameter low, .fixed " AND ", .parameter high]
  | member _ values | notMember _ values => listTokens values
  | isNull _ | isNotNull _ => []
  | constant left right => [.parameter left, .fixed " = ", .parameter right]

theorem tokens_cases (dialect : Dialect) (condition : Condition) :
    (∃ column kind, condition.column? = some column ∧ condition.kind? = some kind ∧
      condition.tokens = columnTokens column ++ .fixed kind.text :: condition.operandTokens) ∨
    (condition.column? = none ∧ condition.kind? = none ∧
      condition.tokens = condition.operandTokens ∧
        ∀ s, lead dialect (condition.tokens ++ s) = some dialect.sigil) := by
  cases condition with
  | constant left right => exact .inr ⟨rfl, rfl, rfl, fun s => lead_parameter left⟩
  | _ => exact .inl ⟨_, _, rfl, rfl, rfl⟩

theorem lead_tokens (condition : Condition) (s : List Token) :
    lead dialect (condition.tokens ++ s) ≠ some '(' := by
  rcases condition.tokens_cases dialect with ⟨column, kind, -, -, same⟩ | ⟨-, -, -, first⟩
  · rw [same, List.append_assoc, lead_column]
    cases dialect <;> decide
  · rw [first]
    cases dialect <;> decide

theorem operands_of_sameText {c d : Condition}
    (same : SameText dialect (c.tokens ++ s) (d.tokens ++ t)) :
    c.column? = d.column? ∧ c.kind? = d.kind? ∧
      SameText dialect (c.operandTokens ++ s) (d.operandTokens ++ t) := by
  have quoteNotSigil : some dialect.quote ≠ some dialect.sigil := by
    simpa using quote_ne_sigil
  rcases c.tokens_cases dialect with ⟨p, a, column, kind, left⟩ | ⟨column, kind, left, first⟩
  · rcases d.tokens_cases dialect with ⟨q, b, column', kind', right⟩ | ⟨-, -, -, first⟩
    · rw [left, right, List.append_assoc, List.append_assoc] at same
      have blank (kind : Kind) {rest : List Token} :
          lead dialect (.fixed kind.text :: rest) ≠ some dialect.quote := by
        rw [kind.lead_text]
        cases dialect <;> decide
      obtain ⟨columns, same⟩ := SameText.column (blank a) (blank b) same
      obtain ⟨kinds, same⟩ := SameText.word Kind.eq_of_prefix same
      exact ⟨by rw [column, column', columns], by rw [kind, kind', kinds], same⟩
    · have leads := same.lead_eq
      rw [left, List.append_assoc, lead_column, first] at leads
      exact absurd leads quoteNotSigil
  · rcases d.tokens_cases dialect with ⟨q, b, -, -, right⟩ | ⟨column', kind', right, -⟩
    · have leads := same.lead_eq
      rw [right, List.append_assoc, lead_column, first] at leads
      exact absurd leads.symm quoteNotSigil
    · rw [left, right] at same
      exact ⟨column.trans column'.symm, kind.trans kind'.symm, same⟩

/-- The text of a condition tells everything about it but its values. -/
theorem cancel {c d : Condition} (same : SameText dialect (c.tokens ++ s) (d.tokens ++ t)) :
    c.blank = d.blank ∧ SameText dialect s t := by
  obtain ⟨column, kind, operands⟩ := operands_of_sameText same
  cases c with
  | compare p a v =>
    cases d with
    | compare q b w =>
      obtain rfl := Option.some.inj column
      obtain rfl := Kind.relation.inj (Option.some.inj kind)
      exact ⟨rfl, operands.parameter⟩
    | _ => cases kind
  | between p low high =>
    cases d with
    | between q low' high' =>
      obtain rfl := Option.some.inj column
      exact ⟨rfl, operands.parameter.fixed.parameter⟩
    | _ => cases kind
  | member p vs =>
    cases d with
    | member q ws =>
      obtain rfl := Option.some.inj column
      obtain ⟨count, rest⟩ := operands.listTokens
      exact ⟨by rw [blank, blank, count], rest⟩
    | _ => cases kind
  | notMember p vs =>
    cases d with
    | notMember q ws =>
      obtain rfl := Option.some.inj column
      obtain ⟨count, rest⟩ := operands.listTokens
      exact ⟨by rw [blank, blank, count], rest⟩
    | _ => cases kind
  | isNull p =>
    cases d with
    | isNull q =>
      obtain rfl := Option.some.inj column
      exact ⟨rfl, operands⟩
    | _ => cases kind
  | isNotNull p =>
    cases d with
    | isNotNull q =>
      obtain rfl := Option.some.inj column
      exact ⟨rfl, operands⟩
    | _ => cases kind
  | constant left right =>
    cases d with
    | constant left' right' => exact ⟨rfl, operands.parameter.fixed.parameter⟩
    | _ => cases kind

theorem conjunct_cancel {c d : Condition}
    (same : SameText dialect (c.conjunctTokens ++ s) (d.conjunctTokens ++ t)) :
    c.blank = d.blank ∧ SameText dialect s t := by
  have wrap (c : Condition) (s : List Token) : .fixed "(" :: c.tokens ++ [.fixed ")"] ++ s =
      .fixed "(" :: (c.tokens ++ .fixed ")" :: s) := by simp
  have opening {rest : List Token} : lead dialect (.fixed "(" :: rest) = some '(' :=
    lead_fixed rfl
  rcases c.conjunctTokens_eq with left | left <;> rcases d.conjunctTokens_eq with right | right <;>
    rw [left, right] at same
  · exact cancel same
  · rw [wrap] at same
    exact absurd (same.lead_eq.trans opening) (c.lead_tokens s)
  · rw [wrap] at same
    exact absurd (same.lead_eq.symm.trans opening) (d.lead_tokens t)
  · rw [wrap, wrap] at same
    obtain ⟨alike, rest⟩ := cancel same.fixed
    exact ⟨alike, rest.fixed⟩

end Condition

/-! ### Clauses -/

theorem directionText_prefix (a b : SortDirection)
    (begins : (directionText a).toList <+: (directionText b).toList) : a = b := by
  revert begins
  cases a <;> cases b <;> decide

theorem lead_directionText (direction : SortDirection) :
    lead dialect (.fixed (directionText direction) :: s) = some ' ' := by
  apply lead_fixed
  cases direction <;> rfl

def orderItem (order : ColumnPath × SortDirection) : List Token :=
  columnTokens order.1 ++ [.fixed (directionText order.2)]

theorem orderItem_cancel {a b : ColumnPath × SortDirection}
    (same : SameText dialect (orderItem a ++ s) (orderItem b ++ t)) :
    a = b ∧ SameText dialect s t := by
  have ends (direction : SortDirection) {rest : List Token} :
      lead dialect (.fixed (directionText direction) :: rest) ≠ some dialect.quote := by
    rw [lead_directionText]
    cases dialect <;> decide
  simp only [orderItem, List.append_assoc, List.singleton_append] at same
  obtain ⟨columns, same⟩ := SameText.column (ends a.2) (ends b.2) same
  obtain ⟨directions, rest⟩ := SameText.word directionText_prefix same
  exact ⟨Prod.ext columns directions, rest⟩

theorem orderTokens_cons (order : ColumnPath × SortDirection)
    (orders : List (ColumnPath × SortDirection)) :
    orderTokens (order :: orders) =
      .fixed " ORDER BY " :: separated ", " ((order :: orders).map orderItem) := rfl

/-- What stands last in a statement does not begin with anything that stands further in front. -/
theorem not_sameText_orderTokens {word : String} (started : word ≠ "")
    (apart : ¬ word.toList <+: " ORDER BY ".toList)
    (other : ¬ " ORDER BY ".toList <+: word.toList) (orders : List (ColumnPath × SortDirection)) :
    ¬ SameText dialect (orderTokens orders) (.fixed word :: s) := by
  cases orders with
  | nil =>
    rintro ⟨n, same⟩
    have empty := (List.append_eq_nil_iff.mp same.symm).1
    exact started (String.toList_eq_nil_iff.mp empty)
  | cons order orders => exact not_sameText_fixed other apart

theorem orderTokens_cancel {orders others : List (ColumnPath × SortDirection)}
    (same : SameText dialect (orderTokens orders) (orderTokens others)) : orders = others := by
  have first {order : ColumnPath × SortDirection} {orders : List (ColumnPath × SortDirection)} :
      lead dialect (orderTokens (order :: orders)) = some ' ' := lead_fixed rfl
  cases orders with
  | nil =>
    cases others with
    | nil => rfl
    | cons other others => exact nomatch same.lead_eq.trans first
  | cons order orders =>
    cases others with
    | nil => exact nomatch same.lead_eq.symm.trans first
    | cons other others =>
      have ends (rest : List Token) : ¬ SameText dialect [] (.fixed ", " :: rest) :=
        not_sameText_orderTokens (by decide) (by decide) (by decide) []
      have items : SameText dialect
          (separated ", " ((order :: orders).map orderItem) ++ [])
          (separated ", " ((other :: others).map orderItem) ++ []) := by
        rw [orderTokens_cons, orderTokens_cons] at same
        simpa only [List.append_nil] using same.fixed
      exact List.forall₂_eq_eq_eq ▸ (SameText.separated (· = ·) orderItem_cancel ends ends items).1

theorem conditionTokens_cancel {conditions others : List Condition}
    {orders orders' : List (ColumnPath × SortDirection)}
    (same : SameText dialect (conditionTokens conditions ++ orderTokens orders)
      (conditionTokens others ++ orderTokens orders')) :
    List.Forall₂ (fun c d => c.blank = d.blank) conditions others ∧
      SameText dialect (orderTokens orders) (orderTokens orders') := by
  have noWhere {orders : List (ColumnPath × SortDirection)} {s : List Token} :
      ¬ SameText dialect (orderTokens orders) (.fixed " WHERE " :: s) :=
    not_sameText_orderTokens (by decide) (by decide) (by decide) orders
  have noAnd (orders : List (ColumnPath × SortDirection)) (s : List Token) :
      ¬ SameText dialect (orderTokens orders) (.fixed " AND " :: s) :=
    not_sameText_orderTokens (by decide) (by decide) (by decide) orders
  -- A single condition is never parenthesised, and one of several may be.
  have oneOfSeveral {c d e : Condition} {rest : List Condition}
      {orders orders' : List (ColumnPath × SortDirection)} :
      ¬ SameText dialect (c.tokens ++ orderTokens orders)
        (separated " AND " ((d :: e :: rest).map Condition.conjunctTokens) ++
          orderTokens orders') := by
    intro same
    rw [List.map_cons, List.map_cons, separated_cons_cons, List.append_assoc] at same
    rcases d.conjunctTokens_eq with bare | wrapped
    · rw [bare] at same
      exact noAnd _ _ (Condition.cancel same).2
    · rw [wrapped] at same
      exact c.lead_tokens _ (same.lead_eq.trans (lead_fixed rfl))
  match conditions, others with
  | [], [] => exact ⟨.nil, same⟩
  | [], [d] => exact absurd same noWhere
  | [], d :: e :: rest => exact absurd same noWhere
  | [c], [] => exact absurd same.symm noWhere
  | c :: e :: rest, [] => exact absurd same.symm noWhere
  | [c], [d] =>
    obtain ⟨alike, rest⟩ := Condition.cancel same.fixed
    exact ⟨.cons alike .nil, rest⟩
  | [c], d :: e :: rest => exact absurd same.fixed oneOfSeveral
  | c :: e :: rest, [d] => exact absurd same.fixed.symm oneOfSeveral
  | c :: e :: rest, d :: e' :: rest' =>
    exact SameText.separated (fun c d => c.blank = d.blank) Condition.conjunct_cancel (noAnd orders)
      (noAnd orders') same.fixed

theorem JoinClause.cancel {j k : JoinClause} (ends : lead dialect s ≠ some dialect.quote)
    (ends' : lead dialect t ≠ some dialect.quote)
    (same : SameText dialect (j.tokens ++ s) (k.tokens ++ t)) : j = k ∧ SameText dialect s t := by
  have parts (j : JoinClause) (s : List Token) : j.tokens ++ s =
      .fixed " INNER JOIN " :: .name j.table :: .fixed " AS " :: .name j.tableAlias ::
        .fixed " ON " :: (columnTokens j.left ++ .fixed " = " :: (columnTokens j.right ++ s)) := by
    simp [tokens]
  have blank {word : String} {rest : List Token} (first : word.toList.head? = some ' ') :
      lead dialect (.fixed word :: rest) ≠ some dialect.quote := by
    rw [lead_fixed first]
    cases dialect <;> decide
  rw [parts, parts] at same
  obtain ⟨tables, same⟩ := SameText.name (blank rfl) (blank rfl) same.fixed
  obtain ⟨aliases, same⟩ := SameText.name (blank rfl) (blank rfl) same.fixed
  obtain ⟨lefts, same⟩ := SameText.column (blank rfl) (blank rfl) same.fixed
  obtain ⟨rights, rest⟩ := SameText.column ends ends' same.fixed
  obtain ⟨table, tableAlias, left, right⟩ := j
  obtain ⟨table', tableAlias', left', right'⟩ := k
  dsimp only at tables aliases lefts rights
  exact ⟨by rw [tables, aliases, lefts, rights], rest⟩

theorem lead_joinTokens (ends : lead dialect s ≠ some dialect.quote) (joins : List JoinClause) :
    lead dialect (joins.flatMap JoinClause.tokens ++ s) ≠ some dialect.quote := by
  cases joins with
  | nil => exact ends
  | cons join joins =>
    have first : lead dialect ((join :: joins).flatMap JoinClause.tokens ++ s) = some ' ' :=
      lead_fixed rfl
    rw [first]
    cases dialect <;> decide

theorem joinTokens_cancel {joins others : List JoinClause}
    (ends : lead dialect s ≠ some dialect.quote) (ends' : lead dialect t ≠ some dialect.quote)
    (last : ∀ rest, ¬ SameText dialect s (.fixed " INNER JOIN " :: rest))
    (last' : ∀ rest, ¬ SameText dialect t (.fixed " INNER JOIN " :: rest))
    (same : SameText dialect (joins.flatMap JoinClause.tokens ++ s)
      (others.flatMap JoinClause.tokens ++ t)) : joins = others ∧ SameText dialect s t := by
  induction joins generalizing others with
  | nil =>
    cases others with
    | nil => exact ⟨rfl, same⟩
    | cons other others => exact absurd same (last _)
  | cons join joins ih =>
    cases others with
    | nil => exact absurd same.symm (last' _)
    | cons other others =>
      rw [List.flatMap_cons, List.flatMap_cons, List.append_assoc, List.append_assoc] at same
      obtain ⟨first, same⟩ :=
        JoinClause.cancel (lead_joinTokens ends joins) (lead_joinTokens ends' others) same
      obtain ⟨rest, same⟩ := ih same
      exact ⟨congrArg₂ List.cons first rest, same⟩

/-! ### Statements -/

/-- The text of a statement tells everything about it but its parameters. -/
theorem Select.blank_eq_of_text {select other : Select}
    (same : select.text dialect = other.text dialect) : select.blank = other.blank := by
  have parts (select : Select) : select.tokens =
      .fixed "SELECT " :: .name select.tableAlias :: .fixed ".* FROM " :: .name select.table ::
        .fixed " AS " :: .name select.tableAlias :: (select.joins.flatMap JoinClause.tokens ++
          (conditionTokens select.conditions ++ orderTokens select.orderBy)) := by
    simp [tokens]
  have plain {word : String} {rest : List Token} {c : Char} (first : word.toList.head? = some c)
      (other : some c ≠ some dialect.quote) :
      lead dialect (.fixed word :: rest) ≠ some dialect.quote := by
    rwa [lead_fixed first]
  have blank : some ' ' ≠ some dialect.quote := by cases dialect <;> decide
  have dot : some '.' ≠ some dialect.quote := by cases dialect <;> decide
  have closing (select : Select) :
      lead dialect (conditionTokens select.conditions ++ orderTokens select.orderBy) ≠
          some dialect.quote ∧
        ∀ rest, ¬ SameText dialect (conditionTokens select.conditions ++ orderTokens select.orderBy)
          (.fixed " INNER JOIN " :: rest) := by
    rcases select.conditions with _ | ⟨c, _ | ⟨d, conditions⟩⟩
    · refine ⟨?_, fun rest => not_sameText_orderTokens (by decide) (by decide) (by decide) _⟩
      cases select.orderBy with
      | nil => exact Option.some_ne_none _ ∘ Eq.symm
      | cons order orders => exact plain rfl blank
    · exact ⟨plain rfl blank, fun rest => not_sameText_fixed (by decide) (by decide)⟩
    · exact ⟨plain rfl blank, fun rest => not_sameText_fixed (by decide) (by decide)⟩
  have whole : SameText dialect select.tokens other.tokens := ⟨1, String.ofList_injective same⟩
  rw [parts, parts] at whole
  obtain ⟨aliases, rest⟩ := SameText.name (plain rfl dot) (plain rfl dot) whole.fixed
  obtain ⟨tables, rest⟩ := SameText.name (plain rfl blank) (plain rfl blank) rest.fixed
  obtain ⟨-, rest⟩ := SameText.name (lead_joinTokens (closing select).1 _)
    (lead_joinTokens (closing other).1 _) rest.fixed
  obtain ⟨joins, rest⟩ := joinTokens_cancel (closing select).1 (closing other).1
    (closing select).2 (closing other).2 rest
  obtain ⟨conditions, rest⟩ := conditionTokens_cancel rest
  have blanks : select.conditions.map Condition.blank = other.conditions.map Condition.blank :=
    List.forall₂_eq_eq_eq ▸ List.forall₂_map_left_iff.mpr (List.forall₂_map_right_iff.mpr conditions)
  simp only [Select.blank, aliases, tables, joins, blanks, orderTokens_cancel rest]

/-! ### Values -/

theorem Condition.length_parameters_blank (condition : Condition) :
    condition.blank.parameters.length = condition.parameters.length := by
  cases condition with
  | member column values => exact List.length_replicate
  | notMember column values => exact List.length_replicate
  | _ => rfl

theorem Condition.eq_of_blank {c d : Condition} (blanks : c.blank = d.blank)
    (values : c.parameters = d.parameters) : c = d := by
  cases c <;> cases d <;> simp_all [blank, parameters]

theorem conditions_eq_of_blank {conditions others : List Condition}
    (blanks : conditions.map Condition.blank = others.map Condition.blank)
    (values : conditions.flatMap Condition.parameters = others.flatMap Condition.parameters) :
    conditions = others := by
  induction conditions generalizing others with
  | nil => exact (List.map_eq_nil_iff.mp blanks.symm).symm
  | cons c conditions ih =>
    cases others with
    | nil => exact nomatch blanks
    | cons d others =>
      obtain ⟨first, rest⟩ := List.cons.inj blanks
      have count : c.parameters.length = d.parameters.length := by
        rw [← c.length_parameters_blank, first, d.length_parameters_blank]
      obtain ⟨own, left⟩ := List.append_inj values count
      rw [Condition.eq_of_blank first own, ih rest left]

/-- A statement is determined by its text and its parameters. -/
theorem Select.eq_of_text {select other : Select} (same : select.text dialect = other.text dialect)
    (values : select.parameters = other.parameters) : select = other := by
  have blanks := Select.blank_eq_of_text same
  rw [parameters_eq, parameters_eq] at values
  have conditions := conditions_eq_of_blank (congrArg Select.conditions blanks) values
  obtain ⟨table, tableAlias, joins, conditions, orders⟩ := select
  obtain ⟨table', tableAlias', joins', conditions', orders'⟩ := other
  simp_all [Select.blank]

/-! ### Plans -/

def Parameter.scalar? : Parameter → Option Scalar
  | bigInt value => some (.int value)
  | bigUnsigned value => some (.bigUnsigned value)
  | double value => some (.float value)
  | bool value => some (.bool value)
  | string value => some (.text value)
  | date value => some (.date value)
  | dateTime value => some (.dateTime value)
  | uuid value => some (.uuid value)
  | int _ => none

@[simp] theorem Parameter.scalar?_ofScalar (value : Scalar) :
    (ofScalar value).scalar? = some value := by
  cases value <;> rfl

/-- The predicate that a condition stands for, if it comes from one. -/
def Condition.predicate? : Condition → Option Predicate
  | compare column relation value =>
    match relation with
    | .eq => value.scalar?.map fun v => ⟨column, .eq v⟩
    | .ne => value.scalar?.map fun v => ⟨column, .neq v⟩
    | .gt => value.scalar?.map fun v => ⟨column, .gt v⟩
    | .ge => value.scalar?.map fun v => ⟨column, .gte v⟩
    | .lt => value.scalar?.map fun v => ⟨column, .lt v⟩
    | .le => value.scalar?.map fun v => ⟨column, .lte v⟩
    | .like => value.scalar?.map fun v => ⟨column, .like v.render⟩
  | between column low high =>
    low.scalar?.bind fun l => high.scalar?.map fun h => ⟨column, .between l h⟩
  | member column values => some ⟨column, .within (values.filterMap Parameter.scalar?)⟩
  | notMember column values => some ⟨column, .notWithin (values.filterMap Parameter.scalar?)⟩
  | isNull column => some ⟨column, .isNull⟩
  | isNotNull column => some ⟨column, .isNotNull⟩
  | constant _ _ => none

theorem Condition.predicate?_ofPredicate {predicate : Predicate}
    (filled : predicate.comparison ≠ .within [] ∧ predicate.comparison ≠ .notWithin []) :
    (ofPredicate predicate).predicate? = some predicate := by
  obtain ⟨column, comparison⟩ := predicate
  have back (values : List Scalar) :
      (values.map Parameter.ofScalar).filterMap Parameter.scalar? = values := by
    rw [List.filterMap_map]
    exact (List.filterMap_congr fun value _ => Parameter.scalar?_ofScalar value).trans List.filterMap_some
  cases comparison with
  | within values =>
    have some : values ≠ [] := fun none => filled.1 (congrArg _ none)
    simp only [ofPredicate, within, if_neg some, predicate?, back]
  | notWithin values =>
    have some : values ≠ [] := fun none => filled.2 (congrArg _ none)
    simp only [ofPredicate, notWithin, if_neg some, predicate?, back]
  | like pattern =>
    simp only [ofPredicate, predicate?, Parameter.scalar?, Option.map_some, Scalar.render]
  | _ => simp [ofPredicate, predicate?]

/-- The plan that a statement carries out. -/
def Select.plan (select : Select) : QueryPlan where
  table := select.table
  tableAlias := select.tableAlias
  joins := select.joins.map fun join =>
    { parentAlias := join.left.tableAlias
      table := join.table
      tableAlias := join.tableAlias
      localColumn := join.left.column
      foreignColumn := join.right.column }
  predicates := select.conditions.filterMap Condition.predicate?
  orderBy := select.orderBy

end Sql

namespace QueryPlan

/-- No predicate of the plan has a list without values. The statement of an empty list does not
name the column. -/
def Filled (plan : QueryPlan) : Prop :=
  ∀ predicate ∈ plan.predicates,
    predicate.comparison ≠ .within [] ∧ predicate.comparison ≠ .notWithin []

instance (plan : QueryPlan) : Decidable plan.Filled := by unfold Filled; infer_instance

theorem plan_toSelect {plan : QueryPlan} (filled : plan.Filled) : plan.toSelect.plan = plan := by
  have predicates : (plan.predicates.map Sql.Condition.ofPredicate).filterMap
      Sql.Condition.predicate? = plan.predicates := by
    rw [List.filterMap_map]
    exact (List.filterMap_congr fun predicate listed =>
      Sql.Condition.predicate?_ofPredicate (filled predicate listed)).trans List.filterMap_some
  have joins : (plan.joins.map Sql.JoinClause.ofJoin).map (fun join : Sql.JoinClause =>
      (⟨join.left.tableAlias, join.table, join.tableAlias, join.left.column, join.right.column⟩ :
        Join)) = plan.joins := by
    rw [List.map_map]
    exact List.map_id _
  rw [toSelect_eq]
  simp only [Sql.Select.plan, predicates, joins]

end QueryPlan

/-- Whatever stands in the names of two plans without empty lists, they are the same plan if they
make the same text with the same parameters. -/
theorem text_determines_plan (dialect : Sql.Dialect) {plan other : QueryPlan}
    (filled : plan.Filled) (filled' : other.Filled) :
    plan.toSelect.text dialect = other.toSelect.text dialect ∧
        plan.toSelect.parameters = other.toSelect.parameters ↔
      plan = other := by
  constructor
  · rintro ⟨text, values⟩
    have statements := Sql.Select.eq_of_text text values
    rw [← QueryPlan.plan_toSelect filled, statements, QueryPlan.plan_toSelect filled']
  · rintro rfl
    exact ⟨rfl, rfl⟩

/-- A name that closes its own quotation and goes on like a statement stays a name. -/
theorem text_determines_plan_hostile :
    let plan : QueryPlan :=
      { table := "t", tableAlias := "a"
        joins := [⟨"a", "u", "b", "x", "y\" INNER JOIN \"v\" AS \"c\" ON \"b\".\"z\" = \"c\".\"w"⟩] }
    let other : QueryPlan :=
      { table := "t", tableAlias := "a"
        joins := [⟨"a", "u", "b", "x", "y"⟩, ⟨"b", "v", "c", "z", "w"⟩] }
    plan.Filled ∧ other.Filled ∧
      ¬ (plan.toSelect.text .sqlite = other.toSelect.text .sqlite ∧
        plan.toSelect.parameters = other.toSelect.parameters) := by
  intro plan other
  have filled : plan.Filled := by decide
  have filled' : other.Filled := by decide
  refine ⟨filled, filled', fun same => ?_⟩
  have plans := (text_determines_plan .sqlite filled filled').mp same
  exact absurd (congrArg (fun p => p.joins.length) plans) (by decide)

end QueryFilter
