import Mathlib.Data.List.Forall2
import QueryFilter.Proofs.Steps
import QueryFilter.Sql.Render

/-!
# Values are bound

No value of a filter is written into the text of a statement. The text marks one place for each
parameter, in the order of the parameters, and names cannot be taken for marks because they are
quoted.
-/

namespace QueryFilter

/-! ### Plans that differ in values -/

/-- One comparison is the other with other values, and with as many of them. -/
inductive Comparison.Alike : Comparison → Comparison → Prop where
  | eq (v w : Scalar) : Alike (.eq v) (.eq w)
  | neq (v w : Scalar) : Alike (.neq v) (.neq w)
  | gt (v w : Scalar) : Alike (.gt v) (.gt w)
  | gte (v w : Scalar) : Alike (.gte v) (.gte w)
  | lt (v w : Scalar) : Alike (.lt v) (.lt w)
  | lte (v w : Scalar) : Alike (.lte v) (.lte w)
  | between (l h l' h' : Scalar) : Alike (.between l h) (.between l' h')
  | like (p q : String) : Alike (.like p) (.like q)
  | within {vs ws : List Scalar} (same : vs.length = ws.length) : Alike (.within vs) (.within ws)
  | notWithin {vs ws : List Scalar} (same : vs.length = ws.length) :
    Alike (.notWithin vs) (.notWithin ws)
  | isNull : Alike .isNull .isNull
  | isNotNull : Alike .isNotNull .isNotNull

def Predicate.Alike (predicate other : Predicate) : Prop :=
  predicate.column = other.column ∧ predicate.comparison.Alike other.comparison

/-- The plans differ at most in the values of their predicates. -/
structure QueryPlan.Alike (plan other : QueryPlan) : Prop where
  table : plan.table = other.table
  tableAlias : plan.tableAlias = other.tableAlias
  joins : plan.joins = other.joins
  predicates : List.Forall₂ Predicate.Alike plan.predicates other.predicates
  orderBy : plan.orderBy = other.orderBy

/-! ### Statements without their values -/

namespace Sql

def Token.blank : Token → Token
  | fixed text => fixed text
  | name text => name text
  | parameter _ => parameter (.int 0)

def Condition.blank : Condition → Condition
  | compare column relation _ => compare column relation (.int 0)
  | between column _ _ => between column (.int 0) (.int 0)
  | member column values => member column (List.replicate values.length (.int 0))
  | notMember column values => notMember column (List.replicate values.length (.int 0))
  | isNull column => isNull column
  | isNotNull column => isNotNull column
  | constant _ _ => constant (.int 0) (.int 0)

/-- The statement with every parameter the same. -/
def Select.blank (select : Select) : Select :=
  { select with conditions := select.conditions.map Condition.blank }

theorem separated_cons_cons (separator : String) (part next : List Token)
    (rest : List (List Token)) :
    separated separator (part :: next :: rest) =
      part ++ .fixed separator :: separated separator (next :: rest) := by
  simp [separated, List.intercalate_cons_cons]

theorem blank_separated (separator : String) (parts : List (List Token)) :
    (separated separator parts).map Token.blank =
      separated separator (parts.map (List.map Token.blank)) := by
  induction parts with
  | nil => rfl
  | cons part rest ih =>
    cases rest with
    | nil => simp [separated]
    | cons next rest =>
      rw [separated_cons_cons, List.map_append, List.map_cons, ih]
      exact (separated_cons_cons ..).symm

theorem blank_columnTokens (path : ColumnPath) :
    (columnTokens path).map Token.blank = columnTokens path := rfl

theorem listTokens_blank (values : List Parameter) :
    listTokens (List.replicate values.length (.int 0)) = (listTokens values).map Token.blank := by
  unfold listTokens
  rw [List.map_append, List.map_cons, blank_separated]
  simp [Token.blank, Function.comp_def]

theorem Condition.tokens_blank (condition : Condition) :
    condition.blank.tokens = condition.tokens.map Token.blank := by
  cases condition with
  | member column values =>
    simp [blank, tokens, blank_columnTokens, listTokens_blank, Token.blank]
  | notMember column values =>
    simp [blank, tokens, blank_columnTokens, listTokens_blank, Token.blank]
  | _ => rfl

theorem Condition.conjunctTokens_eq (condition : Condition) :
    condition.conjunctTokens = condition.tokens ∨
      condition.conjunctTokens = .fixed "(" :: condition.tokens ++ [.fixed ")"] := by
  unfold conjunctTokens
  split
  · exact .inr rfl
  · exact .inl rfl

theorem Condition.conjunctTokens_blank (condition : Condition) :
    condition.blank.conjunctTokens = condition.conjunctTokens.map Token.blank := by
  cases condition with
  | between column low high => rfl
  | _ => simp only [blank, conjunctTokens, ← tokens_blank]

theorem conditionTokens_blank (conditions : List Condition) :
    conditionTokens (conditions.map Condition.blank) =
      (conditionTokens conditions).map Token.blank := by
  match conditions with
  | [] => rfl
  | [condition] => exact congrArg (_ :: ·) condition.tokens_blank
  | first :: second :: rest =>
    simp only [conditionTokens, List.map_cons, blank_separated, List.map_map]
    simp [Condition.conjunctTokens_blank, Function.comp_def, Token.blank]

theorem blank_joinTokens (joins : List JoinClause) :
    (joins.flatMap JoinClause.tokens).map Token.blank = joins.flatMap JoinClause.tokens := by
  rw [List.map_flatMap]
  rfl

theorem blank_orderTokens (orders : List (ColumnPath × SortDirection)) :
    (orderTokens orders).map Token.blank = orderTokens orders := by
  cases orders with
  | nil => rfl
  | cons order rest =>
    simp only [orderTokens, List.map_cons, blank_separated, List.map_map]
    rfl

theorem Select.tokens_blank (select : Select) :
    select.blank.tokens = select.tokens.map Token.blank := by
  simp only [tokens, blank, List.map_append, blank_joinTokens, blank_orderTokens,
    conditionTokens_blank]
  rfl

theorem renderFrom_blank (dialect : Dialect) (n : Nat) (tokens : List Token) :
    renderFrom dialect n (tokens.map Token.blank) = renderFrom dialect n tokens := by
  induction tokens generalizing n with
  | nil => rfl
  | cons token rest ih =>
    cases token with
    | fixed text => exact congrArg (_ ++ ·) (ih n)
    | name name => exact congrArg (_ ++ ·) (ih n)
    | parameter value => exact congrArg (_ ++ ·) (ih (n + 1))

theorem Select.text_blank (select : Select) (dialect : Dialect) :
    select.blank.text dialect = select.text dialect := by
  rw [text, tokens_blank, renderFrom_blank]
  rfl

theorem Condition.blank_within {column : ColumnPath} {vs ws : List Scalar}
    (same : vs.length = ws.length) : (within column vs).blank = (within column ws).blank := by
  cases vs with
  | nil => rw [List.eq_nil_of_length_eq_zero same.symm]
  | cons v vs =>
    obtain ⟨w, ws, rfl⟩ := List.exists_cons_of_length_eq_add_one same.symm
    simpa [within, blank] using same

theorem Condition.blank_notWithin {column : ColumnPath} {vs ws : List Scalar}
    (same : vs.length = ws.length) : (notWithin column vs).blank = (notWithin column ws).blank := by
  cases vs with
  | nil => rw [List.eq_nil_of_length_eq_zero same.symm]
  | cons v vs =>
    obtain ⟨w, ws, rfl⟩ := List.exists_cons_of_length_eq_add_one same.symm
    simpa [notWithin, blank] using same

theorem Condition.blank_ofPredicate {predicate other : Predicate} (alike : predicate.Alike other) :
    (ofPredicate predicate).blank = (ofPredicate other).blank := by
  obtain ⟨column, comparison⟩ := predicate
  obtain ⟨column', comparison'⟩ := other
  obtain ⟨rfl, alike⟩ := alike
  cases alike with
  | within same => exact blank_within same
  | notWithin same => exact blank_notWithin same
  | _ => rfl

theorem blank_conditions {predicates others : List Predicate}
    (alike : List.Forall₂ Predicate.Alike predicates others) :
    (predicates.map Condition.ofPredicate).map Condition.blank =
      (others.map Condition.ofPredicate).map Condition.blank := by
  induction alike with
  | nil => rfl
  | cons first _ ih => simp only [List.map_cons, Condition.blank_ofPredicate first, ih]

theorem blank_toSelect {plan other : QueryPlan} (alike : plan.Alike other) :
    plan.toSelect.blank = other.toSelect.blank := by
  have conditions := blank_conditions alike.predicates
  rw [QueryPlan.toSelect_eq, QueryPlan.toSelect_eq]
  simp only [Select.blank, conditions, alike.table, alike.tableAlias, alike.joins, alike.orderBy]

/-! ### The parameters of a statement -/

def Condition.parameters : Condition → List Parameter
  | compare _ _ value => [value]
  | between _ low high => [low, high]
  | member _ values | notMember _ values => values
  | isNull _ | isNotNull _ => []
  | constant left right => [left, right]

theorem parameters_separated (separator : String) (parts : List (List Token)) :
    (separated separator parts).filterMap Token.parameter? =
      parts.flatMap (List.filterMap Token.parameter?) := by
  induction parts with
  | nil => rfl
  | cons part rest ih =>
    cases rest with
    | nil => simp [separated]
    | cons next rest =>
      rw [separated_cons_cons, List.filterMap_append, List.flatMap_cons,
        List.filterMap_cons_none (by rfl), ih]

theorem parameters_listTokens (values : List Parameter) :
    (listTokens values).filterMap Token.parameter? = values := by
  unfold listTokens
  rw [List.filterMap_append, List.filterMap_cons_none (by rfl), parameters_separated]
  simp [List.flatMap_map, Token.parameter?]

theorem Condition.parameters_tokens (condition : Condition) :
    condition.tokens.filterMap Token.parameter? = condition.parameters := by
  cases condition with
  | member column values => exact parameters_listTokens values
  | notMember column values => exact parameters_listTokens values
  | _ => rfl

theorem Condition.parameters_conjunctTokens (condition : Condition) :
    condition.conjunctTokens.filterMap Token.parameter? = condition.parameters := by
  rcases condition.conjunctTokens_eq with plain | wrapped
  · rw [plain, parameters_tokens]
  · rw [wrapped, List.filterMap_append, List.filterMap_cons_none (by rfl), parameters_tokens]
    exact List.append_nil _

theorem parameters_conditionTokens (conditions : List Condition) :
    (conditionTokens conditions).filterMap Token.parameter? =
      conditions.flatMap Condition.parameters := by
  match conditions with
  | [] => rfl
  | [condition] =>
    simp only [conditionTokens, List.flatMap_singleton]
    rw [List.filterMap_cons_none (by rfl), condition.parameters_tokens]
  | first :: second :: rest =>
    simp only [conditionTokens]
    rw [List.filterMap_cons_none (by rfl), parameters_separated, List.flatMap_map]
    simp only [Condition.parameters_conjunctTokens]

theorem parameters_joinTokens (joins : List JoinClause) :
    (joins.flatMap JoinClause.tokens).filterMap Token.parameter? = [] := by
  rw [List.filterMap_flatMap]
  exact List.flatMap_eq_nil_iff.mpr fun join _ => rfl

theorem parameters_orderTokens (orders : List (ColumnPath × SortDirection)) :
    (orderTokens orders).filterMap Token.parameter? = [] := by
  cases orders with
  | nil => rfl
  | cons order rest =>
    simp only [orderTokens]
    rw [List.filterMap_cons_none (by rfl), parameters_separated, List.flatMap_map]
    exact List.flatMap_eq_nil_iff.mpr fun order _ => rfl

theorem Select.parameters_eq (select : Select) :
    select.parameters = select.conditions.flatMap Condition.parameters := by
  unfold parameters tokens
  rw [List.filterMap_append, List.filterMap_append, List.filterMap_append, parameters_joinTokens,
    parameters_orderTokens, parameters_conditionTokens, List.append_nil]
  rfl

theorem Condition.parameters_ofPredicate {predicate : Predicate}
    (filled : predicate.comparison ≠ .within [] ∧ predicate.comparison ≠ .notWithin []) :
    (ofPredicate predicate).parameters = predicate.comparison.operands.map .ofScalar := by
  obtain ⟨column, comparison⟩ := predicate
  cases comparison with
  | within values =>
    have some : values ≠ [] := fun none => filled.1 (congrArg _ none)
    simp [ofPredicate, within, some, parameters, Comparison.operands]
  | notWithin values =>
    have some : values ≠ [] := fun none => filled.2 (congrArg _ none)
    simp [ofPredicate, notWithin, some, parameters, Comparison.operands]
  | _ => rfl

theorem parameters_toSelect {plan : QueryPlan}
    (filled : ∀ predicate ∈ plan.predicates,
      predicate.comparison ≠ .within [] ∧ predicate.comparison ≠ .notWithin []) :
    plan.toSelect.parameters =
      (plan.predicates.flatMap fun predicate => predicate.comparison.operands).map .ofScalar := by
  rw [Select.parameters_eq, QueryPlan.toSelect_eq, List.flatMap_map, List.map_flatMap]
  exact List.flatMap_congr fun predicate listed =>
    Condition.parameters_ofPredicate (filled predicate listed)

/-! ### The marks of a text -/

/-- The character that a mark starts with. -/
def Dialect.sigil : Dialect → Char
  | sqlite | mysql => '?'
  | postgres => '$'

/-- The marks that a reader of a text meets outside names. The reader starts inside a name if
`quoted`, and takes a doubled quotation mark for the end of a name and the start of another. -/
def Dialect.marks (dialect : Dialect) : (quoted : Bool) → List Char → List (List Char)
  | _, [] => []
  | quoted, c :: rest =>
    if c = dialect.quote then dialect.marks (!quoted) rest
    else if c = dialect.sigil ∧ quoted = false then
      (c :: rest.takeWhile Char.isDigit) :: dialect.marks quoted rest
    else dialect.marks quoted rest

variable {dialect : Dialect}

theorem quote_ne_sigil : dialect.quote ≠ dialect.sigil := by
  cases dialect <;> decide

theorem marks_append {text : List Char}
    (plain : ∀ c ∈ text, c ≠ dialect.quote ∧ c ≠ dialect.sigil) (rest : List Char) :
    dialect.marks false (text ++ rest) = dialect.marks false rest := by
  induction text with
  | nil => rfl
  | cons c text ih =>
    obtain ⟨noQuote, noSigil⟩ := plain c List.mem_cons_self
    have tail := ih fun c member => plain c (List.mem_cons_of_mem _ member)
    rw [List.cons_append, Dialect.marks, if_neg noQuote, if_neg fun met => noSigil met.1]
    exact tail

theorem marks_doubled (name rest : List Char) :
    dialect.marks true (doubled dialect.quote name ++ rest) = dialect.marks true rest := by
  induction name with
  | nil => rfl
  | cons c name ih =>
    by_cases quote : c = dialect.quote
    · simpa [doubled, Dialect.marks, quote] using ih
    · simpa [doubled, Dialect.marks, quote] using ih

/-- Whatever a name holds, its quotation hides it. -/
theorem marks_quotedName (name rest : List Char) :
    dialect.marks false (quotedName dialect.quote name ++ rest) = dialect.marks false rest := by
  have inside : dialect.marks true (doubled dialect.quote name ++ dialect.quote :: rest) =
      dialect.marks true (dialect.quote :: rest) := marks_doubled name _
  simpa [quotedName, Dialect.marks] using inside

theorem Dialect.placeholder_eq (dialect : Dialect) (n : Nat) :
    ∃ digits, dialect.placeholder n = dialect.sigil :: digits ∧
      ∀ c ∈ digits, c.isDigit = true := by
  cases dialect with
  | sqlite => exact ⟨[], rfl, fun _ member => nomatch member⟩
  | mysql => exact ⟨[], rfl, fun _ member => nomatch member⟩
  | postgres =>
    exact ⟨Nat.toDigits 10 n, rfl, fun c member =>
      Nat.isDigit_of_mem_toDigits (by decide) (by decide) member⟩

theorem not_special_of_isDigit {c : Char} (digit : c.isDigit = true) :
    c ≠ dialect.quote ∧ c ≠ dialect.sigil := by
  constructor
  · rintro rfl
    cases dialect <;> exact absurd digit (by decide)
  · rintro rfl
    cases dialect <;> exact absurd digit (by decide)

theorem marks_placeholder (n : Nat) {rest : List Char}
    (apart : ∀ c ∈ rest.head?, c.isDigit = false) :
    dialect.marks false (dialect.placeholder n ++ rest) =
      dialect.placeholder n :: dialect.marks false rest := by
  obtain ⟨digits, same, isDigit⟩ := dialect.placeholder_eq n
  have number : (digits ++ rest).takeWhile Char.isDigit = digits := by
    rw [List.takeWhile_append_of_pos isDigit]
    cases rest with
    | nil => simp
    | cons c rest => simp [apart c rfl]
  rw [same, List.cons_append, Dialect.marks, if_neg quote_ne_sigil.symm, if_pos ⟨rfl, rfl⟩, number,
    marks_append fun c member => not_special_of_isDigit (isDigit c member)]

/-! ### Tokens that hold no marks -/

/-- Fixed text is plain if none of it could be a part of a name or of a mark. -/
def Token.isPlain (dialect : Dialect) : Token → Bool
  | fixed text => text.toList.all fun c => c ≠ dialect.quote && c ≠ dialect.sigil && !c.isDigit
  | name _ | parameter _ => true

@[simp]
theorem Token.isPlain_parameter (value : Parameter) :
    (parameter value).isPlain dialect = true := rfl

theorem plain_separated {separator : String} {parts : List (List Token)}
    (plain : Token.isPlain dialect (.fixed separator) = true)
    (each : ∀ part ∈ parts, part.all (Token.isPlain dialect) = true) :
    (separated separator parts).all (Token.isPlain dialect) = true := by
  induction parts with
  | nil => rfl
  | cons part rest ih =>
    have first := each part List.mem_cons_self
    have tail := ih fun part member => each part (List.mem_cons_of_mem _ member)
    cases rest with
    | nil => simpa [separated] using first
    | cons next rest => simp [separated_cons_cons, first, plain, tail]

theorem plain_columnTokens (path : ColumnPath) :
    (columnTokens path).all (Token.isPlain dialect) = true := by
  cases dialect <;> rfl

theorem plain_comma : Token.isPlain dialect (.fixed ", ") = true := by
  cases dialect <;> rfl

theorem plain_parenthesised {tokens : List Token}
    (plain : tokens.all (Token.isPlain dialect) = true) :
    (.fixed "(" :: tokens ++ [.fixed ")"] : List Token).all (Token.isPlain dialect) = true := by
  have opening : Token.isPlain dialect (.fixed "(") = true := by cases dialect <;> rfl
  have closing : Token.isPlain dialect (.fixed ")") = true := by cases dialect <;> rfl
  simp [opening, closing, plain]

theorem plain_listTokens (values : List Parameter) :
    (listTokens values).all (Token.isPlain dialect) = true := by
  have each : ∀ part ∈ values.map (fun v => [Token.parameter v]),
      part.all (Token.isPlain dialect) = true := by simp
  exact plain_parenthesised (plain_separated plain_comma each)

theorem Relation.plain_text (relation : Relation) :
    Token.isPlain dialect (.fixed relation.text) = true := by
  cases relation <;> cases dialect <;> rfl

theorem plain_directionText (direction : SortDirection) :
    Token.isPlain dialect (.fixed (directionText direction)) = true := by
  cases direction <;> cases dialect <;> rfl

theorem Condition.plain_tokens (condition : Condition) :
    condition.tokens.all (Token.isPlain dialect) = true := by
  cases condition with
  | compare column relation value =>
    simp [tokens, plain_columnTokens, relation.plain_text]
  | member column values =>
    have inside : Token.isPlain dialect (.fixed " IN ") = true := by cases dialect <;> rfl
    simp [tokens, plain_columnTokens, inside, plain_listTokens]
  | notMember column values =>
    have outside : Token.isPlain dialect (.fixed " NOT IN ") = true := by cases dialect <;> rfl
    simp [tokens, plain_columnTokens, outside, plain_listTokens]
  | _ => cases dialect <;> rfl

theorem Condition.plain_conjunctTokens (condition : Condition) :
    condition.conjunctTokens.all (Token.isPlain dialect) = true := by
  rcases condition.conjunctTokens_eq with bare | wrapped
  · rw [bare, plain_tokens]
  · rw [wrapped]
    exact plain_parenthesised condition.plain_tokens

theorem plain_conditionTokens (conditions : List Condition) :
    (conditionTokens conditions).all (Token.isPlain dialect) = true := by
  have start : Token.isPlain dialect (.fixed " WHERE ") = true := by cases dialect <;> rfl
  have link : Token.isPlain dialect (.fixed " AND ") = true := by cases dialect <;> rfl
  match conditions with
  | [] => rfl
  | [condition] =>
    simp only [conditionTokens, List.all_cons, start, condition.plain_tokens, Bool.and_self]
  | first :: second :: rest =>
    simp only [conditionTokens, List.all_cons, start, Bool.true_and]
    refine plain_separated link fun part member => ?_
    obtain ⟨condition, -, rfl⟩ := List.mem_map.mp member
    exact condition.plain_conjunctTokens

theorem plain_joinTokens (joins : List JoinClause) :
    (joins.flatMap JoinClause.tokens).all (Token.isPlain dialect) = true := by
  rw [List.all_flatMap, List.all_eq_true]
  intro join _
  cases dialect <;> rfl

theorem plain_orderTokens (orders : List (ColumnPath × SortDirection)) :
    (orderTokens orders).all (Token.isPlain dialect) = true := by
  have start : Token.isPlain dialect (.fixed " ORDER BY ") = true := by cases dialect <;> rfl
  cases orders with
  | nil => rfl
  | cons order rest =>
    simp only [orderTokens, List.all_cons, start, Bool.true_and]
    refine plain_separated plain_comma fun part member => ?_
    obtain ⟨order, -, rfl⟩ := List.mem_map.mp member
    simp [plain_columnTokens, plain_directionText]

theorem Select.plain_tokens (select : Select) :
    select.tokens.all (Token.isPlain dialect) = true := by
  have start : ([.fixed "SELECT ", .name select.tableAlias, .fixed ".* FROM ", .name select.table,
      .fixed " AS ", .name select.tableAlias] : List Token).all (Token.isPlain dialect) = true := by
    cases dialect <;> rfl
  unfold tokens
  rw [List.all_append, List.all_append, List.all_append, start, plain_joinTokens,
    plain_conditionTokens, plain_orderTokens]
  rfl

/-! ### Marks and parameters -/

theorem head_renderFrom {tokens : List Token} (plain : tokens.all (Token.isPlain dialect) = true)
    (n : Nat) : ∀ c ∈ (renderFrom dialect n tokens).head?, c.isDigit = false := by
  induction tokens with
  | nil => exact fun _ member => nomatch member
  | cons token rest ih =>
    obtain ⟨first, others⟩ := (Bool.and_eq_true ..).mp plain
    cases token with
    | name name =>
      intro c member
      obtain rfl := Option.some.inj member
      cases dialect <;> rfl
    | parameter value =>
      obtain ⟨digits, same, -⟩ := dialect.placeholder_eq n
      intro c member
      rw [renderFrom, same] at member
      obtain rfl := Option.some.inj member
      cases dialect <;> rfl
    | fixed text =>
      cases letters : text.toList with
      | nil => simpa [renderFrom, letters] using ih others
      | cons d text =>
        intro c member
        simp only [renderFrom, letters] at member
        obtain rfl := Option.some.inj member
        simp [Token.isPlain, letters] at first
        exact first.1.2

/-- A reader of rendered tokens meets the marks of their parameters and no others. -/
theorem marks_renderFrom {tokens : List Token} (plain : tokens.all (Token.isPlain dialect) = true)
    (n : Nat) :
    dialect.marks false (renderFrom dialect n tokens) =
      (List.range' n (tokens.filterMap Token.parameter?).length).map dialect.placeholder := by
  induction tokens generalizing n with
  | nil => rfl
  | cons token rest ih =>
    obtain ⟨first, others⟩ := (Bool.and_eq_true ..).mp plain
    cases token with
    | name name => rw [renderFrom, marks_quotedName, ih others]; rfl
    | parameter value =>
      rw [renderFrom, marks_placeholder n (head_renderFrom others _), ih others]
      rfl
    | fixed text =>
      have letters : ∀ c ∈ text.toList, c ≠ dialect.quote ∧ c ≠ dialect.sigil := by
        intro c member
        have checked := List.all_eq_true.mp first c member
        simp at checked
        exact checked.1
      rw [renderFrom, marks_append letters, ih others]
      rfl

theorem renderFrom_append (n : Nat) (before after : List Token) :
    renderFrom dialect n (before ++ after) =
      renderFrom dialect n before ++
        renderFrom dialect (n + (before.filterMap Token.parameter?).length) after := by
  induction before generalizing n with
  | nil => rfl
  | cons token rest ih =>
    rw [List.cons_append]
    cases token with
    | fixed text => rw [renderFrom, renderFrom, ih, List.append_assoc]; rfl
    | name name => rw [renderFrom, renderFrom, ih, List.append_assoc]; rfl
    | parameter value =>
      have next : n + 1 + (rest.filterMap Token.parameter?).length =
          n + ((Token.parameter value :: rest).filterMap Token.parameter?).length := by
        rw [List.filterMap_cons_some (by rfl), List.length_cons]
        omega
      rw [renderFrom, renderFrom, ih, List.append_assoc, next]

/-- The mark that stands for a value has the position of that value among the parameters. -/
theorem Select.mark_of_parameter {select : Select} {before after : List Token} {value : Parameter}
    (split : select.tokens = before ++ .parameter value :: after) :
    let marked := dialect.marks false (renderFrom dialect 1 before)
    select.parameters[marked.length]? = some value ∧
      (select.text dialect).toList = renderFrom dialect 1 before ++
        dialect.placeholder (marked.length + 1) ++
          renderFrom dialect (marked.length + 2) after := by
  have plain : before.all (Token.isPlain dialect) = true := by
    have whole : select.tokens.all (Token.isPlain dialect) = true := select.plain_tokens
    rw [split, List.all_append, Bool.and_eq_true] at whole
    exact whole.1
  have count : (dialect.marks false (renderFrom dialect 1 before)).length =
      (before.filterMap Token.parameter?).length := by
    rw [marks_renderFrom plain, List.length_map, List.length_range']
  dsimp only
  rw [count]
  constructor
  · rw [parameters, split, List.filterMap_append, List.filterMap_cons_some (by rfl)]
    simp
  · rw [text, String.toList_ofList, split, renderFrom_append, renderFrom, List.append_assoc]
    congr 3 <;> omega

end Sql

/-! ### Plans -/

/-- The text of a plan depends on no value, and its `i`-th mark stands for the `i`-th operand. -/
theorem values_are_bound (dialect : Sql.Dialect) (plan : QueryPlan) :
    (∀ other, plan.Alike other → plan.toSelect.text dialect = other.toSelect.text dialect) ∧
      dialect.marks false (plan.toSelect.text dialect).toList =
        (List.range' 1 plan.toSelect.parameters.length).map dialect.placeholder ∧
      (∀ before value after, plan.toSelect.tokens = before ++ .parameter value :: after →
        let marked := dialect.marks false (Sql.renderFrom dialect 1 before)
        plan.toSelect.parameters[marked.length]? = some value ∧
          (plan.toSelect.text dialect).toList = Sql.renderFrom dialect 1 before ++
            dialect.placeholder (marked.length + 1) ++
              Sql.renderFrom dialect (marked.length + 2) after) ∧
      ((∀ predicate ∈ plan.predicates,
          predicate.comparison ≠ .within [] ∧ predicate.comparison ≠ .notWithin []) →
        plan.toSelect.parameters =
          (plan.predicates.flatMap fun predicate => predicate.comparison.operands).map
            .ofScalar) := by
  refine ⟨fun other alike => ?_, ?_, fun before value after => Sql.Select.mark_of_parameter,
    Sql.parameters_toSelect⟩
  · rw [← Sql.Select.text_blank, Sql.blank_toSelect alike, Sql.Select.text_blank]
  · rw [Sql.Select.text, String.toList_ofList]
    exact Sql.marks_renderFrom plan.toSelect.plain_tokens 1

theorem values_are_bound_hostile :
    let column : ColumnPath := ⟨"a\"?$1", "state"⟩
    let plan : QueryPlan :=
      { table := "performances"
        tableAlias := "a\"?$1"
        predicates := [⟨column, .between (.int 1) (.int 9)⟩, ⟨column, .eq (.text "' OR $3 --")⟩] }
    let other : QueryPlan :=
      { plan with predicates := [⟨column, .between (.int 4) (.int 5)⟩, ⟨column, .eq (.bool true)⟩] }
    plan.toSelect.text .postgres = other.toSelect.text .postgres ∧
      Sql.Dialect.postgres.marks false (plan.toSelect.text .postgres).toList =
        [['$', '1'], ['$', '2'], ['$', '3']] ∧
      plan.toSelect.parameters = [.bigInt 1, .bigInt 9, .string "' OR $3 --"] := by
  intro column plan other
  obtain ⟨sameText, marks, -, parameters⟩ := values_are_bound .postgres plan
  have bound := parameters (by decide)
  refine ⟨sameText other ⟨rfl, rfl, rfl, ?_, rfl⟩, ?_, bound⟩
  · exact .cons ⟨rfl, .between ..⟩ (.cons ⟨rfl, .eq ..⟩ .nil)
  · rw [marks, bound]
    rfl

end QueryFilter
