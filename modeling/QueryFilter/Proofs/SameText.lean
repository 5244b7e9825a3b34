import QueryFilter.Proofs.Binding

/-!
# Equal texts

Two lists of tokens that are written alike are taken apart from the front. A lemma for each kind of
part takes it off both and says that it was the same part, as far as a text tells: the value of a
parameter it does not.
-/

namespace QueryFilter

namespace Sql

variable {dialect : Dialect} {s t : List Token}

/-- From some number of parameters on, the tokens are written alike. -/
def SameText (dialect : Dialect) (s t : List Token) : Prop :=
  ∃ n, renderFrom dialect n s = renderFrom dialect n t

theorem SameText.symm (same : SameText dialect s t) : SameText dialect t s := by
  obtain ⟨n, same⟩ := same
  exact ⟨n, same.symm⟩

/-! ### The first character -/

/-- The first character of the text, which does not depend on the numbers of the parameters. -/
def lead (dialect : Dialect) (s : List Token) : Option Char := (renderFrom dialect 0 s).head?

theorem head_placeholder (dialect : Dialect) (n : Nat) (rest : List Char) :
    (dialect.placeholder n ++ rest).head? = some dialect.sigil := by
  obtain ⟨digits, same, -⟩ := dialect.placeholder_eq n
  rw [same]
  rfl

theorem head_renderFrom_eq (n : Nat) (s : List Token) :
    (renderFrom dialect n s).head? = lead dialect s := by
  unfold lead
  induction s generalizing n with
  | nil => rfl
  | cons token rest ih =>
    cases token with
    | fixed text => simp only [renderFrom, List.head?_append, ih n]
    | name name => rfl
    | parameter value => rw [renderFrom, renderFrom, head_placeholder, head_placeholder]

theorem SameText.lead_eq (same : SameText dialect s t) : lead dialect s = lead dialect t := by
  obtain ⟨n, same⟩ := same
  rw [← head_renderFrom_eq n s, same, head_renderFrom_eq]

@[simp] theorem lead_parameter (value : Parameter) :
    lead dialect (.parameter value :: s) = some dialect.sigil :=
  head_placeholder dialect 0 _

@[simp] theorem lead_column (path : ColumnPath) :
    lead dialect (columnTokens path ++ s) = some dialect.quote := rfl

theorem lead_fixed {text : String} {c : Char} (first : text.toList.head? = some c) :
    lead dialect (.fixed text :: s) = some c := by
  simp [lead, renderFrom, List.head?_append, first]

/-! ### One token -/

theorem SameText.fixed {text : String}
    (same : SameText dialect (.fixed text :: s) (.fixed text :: t)) : SameText dialect s t := by
  obtain ⟨n, same⟩ := same
  exact ⟨n, List.append_cancel_left same⟩

theorem SameText.parameter {v w : Parameter}
    (same : SameText dialect (.parameter v :: s) (.parameter w :: t)) : SameText dialect s t := by
  obtain ⟨n, same⟩ := same
  exact ⟨n + 1, List.append_cancel_left same⟩

theorem not_sameText_fixed {a b : String} (apart : ¬ a.toList <+: b.toList)
    (other : ¬ b.toList <+: a.toList) : ¬ SameText dialect (.fixed a :: s) (.fixed b :: t) := by
  rintro ⟨n, same⟩
  have left : a.toList <+: renderFrom dialect n (.fixed a :: s) := List.prefix_append ..
  have right : b.toList <+: renderFrom dialect n (.fixed b :: t) := List.prefix_append ..
  rw [← same] at right
  rcases List.prefix_or_prefix_of_prefix left right with found | found
  · exact apart found
  · exact other found

theorem SameText.word {κ : Type} {word : κ → String}
    (code : ∀ a b, (word a).toList <+: (word b).toList → a = b) {a b : κ}
    (same : SameText dialect (.fixed (word a) :: s) (.fixed (word b) :: t)) :
    a = b ∧ SameText dialect s t := by
  have words : a = b := by
    by_contra different
    exact not_sameText_fixed (fun found => different (code a b found))
      (fun found => different (code b a found).symm) same
  subst words
  exact ⟨rfl, same.fixed⟩

/-- The quotation mark that ends a name is the first that is not doubled. -/
theorem doubled_cancel {quote : Char} {x y before after : List Char}
    (ends : before.head? ≠ some quote) (ends' : after.head? ≠ some quote)
    (same : doubled quote x ++ quote :: before = doubled quote y ++ quote :: after) :
    x = y ∧ before = after := by
  induction x generalizing y with
  | nil =>
    cases y with
    | nil => exact ⟨rfl, (List.cons.inj same).2⟩
    | cons d y =>
      by_cases quoted : d = quote
      · simp [doubled, quoted] at same
        simp [same] at ends
      · simp [doubled, quoted, Ne.symm quoted] at same
  | cons c x ih =>
    cases y with
    | nil =>
      by_cases quoted : c = quote
      · simp [doubled, quoted] at same
        simp [← same] at ends'
      · simp [doubled, quoted] at same
    | cons d y =>
      by_cases left : c = quote <;> by_cases right : d = quote
      · simp only [doubled, left, right, ↓reduceIte, List.cons_append, List.cons.injEq,
          true_and] at same
        obtain ⟨rfl, rest⟩ := ih same
        exact ⟨by rw [left, right], rest⟩
      · simp [doubled, left, right, Ne.symm right] at same
      · simp [doubled, left, right] at same
      · simp only [doubled, left, right, ↓reduceIte, List.cons_append, List.cons.injEq] at same
        obtain ⟨rfl, same⟩ := same
        obtain ⟨rfl, rest⟩ := ih same
        exact ⟨rfl, rest⟩

/-- Whatever two names hold, they are read as they are if no quotation mark follows. -/
theorem SameText.name {x y : String} (ends : lead dialect s ≠ some dialect.quote)
    (ends' : lead dialect t ≠ some dialect.quote)
    (same : SameText dialect (.name x :: s) (.name y :: t)) : x = y ∧ SameText dialect s t := by
  obtain ⟨n, same⟩ := same
  have inside : doubled dialect.quote x.toList ++ dialect.quote :: renderFrom dialect n s =
      doubled dialect.quote y.toList ++ dialect.quote :: renderFrom dialect n t := by
    simpa [renderFrom, quotedName] using same
  rw [← head_renderFrom_eq n] at ends ends'
  obtain ⟨names, rest⟩ := doubled_cancel ends ends' inside
  exact ⟨String.toList_inj.mp names, n, rest⟩

theorem SameText.column {p q : ColumnPath} (ends : lead dialect s ≠ some dialect.quote)
    (ends' : lead dialect t ≠ some dialect.quote)
    (same : SameText dialect (columnTokens p ++ s) (columnTokens q ++ t)) :
    p = q ∧ SameText dialect s t := by
  obtain ⟨p, c⟩ := p
  obtain ⟨q, d⟩ := q
  have dot {rest : List Token} : lead dialect (.fixed "." :: rest) ≠ some dialect.quote := by
    rw [lead_fixed (c := '.') rfl]
    cases dialect <;> decide
  obtain ⟨aliases, behind⟩ := SameText.name dot dot same
  obtain ⟨columns, rest⟩ := SameText.name ends ends' behind.fixed
  exact ⟨congrArg₂ ColumnPath.mk aliases columns, rest⟩

/-! ### Lists -/

/-- The items of two lists with a separator between neighbours are told apart one by one, unless
what follows the lists could be a separator. -/
theorem SameText.separated {α : Type} {write : α → List Token} (alike : α → α → Prop)
    {separator : String}
    (cancel : ∀ {a b : α} {s t : List Token},
      SameText dialect (write a ++ s) (write b ++ t) → alike a b ∧ SameText dialect s t)
    (ends : ∀ rest, ¬ SameText dialect s (.fixed separator :: rest))
    (ends' : ∀ rest, ¬ SameText dialect t (.fixed separator :: rest)) {a b : α} {as bs : List α}
    (same : SameText dialect (Sql.separated separator ((a :: as).map write) ++ s)
      (Sql.separated separator ((b :: bs).map write) ++ t)) :
    List.Forall₂ alike (a :: as) (b :: bs) ∧ SameText dialect s t := by
  have single (a : α) (s : List Token) :
      Sql.separated separator ([a].map write) ++ s = write a ++ s := by simp [Sql.separated]
  have several (a next : α) (rest : List α) (s : List Token) :
      Sql.separated separator ((a :: next :: rest).map write) ++ s =
        write a ++ .fixed separator :: (Sql.separated separator ((next :: rest).map write) ++ s) := by
    simp [separated_cons_cons]
  induction as generalizing a b bs with
  | nil =>
    rw [single] at same
    cases bs with
    | nil =>
      rw [single] at same
      obtain ⟨first, same⟩ := cancel same
      exact ⟨.cons first .nil, same⟩
    | cons next bs =>
      rw [several] at same
      exact absurd (cancel same).2 (ends _)
  | cons second as ih =>
    rw [several] at same
    cases bs with
    | nil =>
      rw [single] at same
      exact absurd (cancel same).2.symm (ends' _)
    | cons next bs =>
      rw [several] at same
      obtain ⟨first, same⟩ := cancel same
      obtain ⟨others, same⟩ := ih same.fixed
      exact ⟨.cons first others, same⟩

theorem SameText.listTokens {vs ws : List Parameter}
    (same : SameText dialect (Sql.listTokens vs ++ s) (Sql.listTokens ws ++ t)) :
    vs.length = ws.length ∧ SameText dialect s t := by
  have closing {rest : List Token} : lead dialect (.fixed ")" :: rest) = some ')' :=
    lead_fixed rfl
  have other : some ')' ≠ some dialect.sigil := by cases dialect <;> decide
  have opened (vs : List Parameter) (s : List Token) : Sql.listTokens vs ++ s =
      .fixed "(" :: (Sql.separated ", " (vs.map fun v => [.parameter v]) ++ .fixed ")" :: s) := by
    simp [Sql.listTokens]
  have first (v : Parameter) (vs : List Parameter) (s : List Token) :
      lead dialect (Sql.separated ", " ((v :: vs).map fun v => [.parameter v]) ++ s) =
        some dialect.sigil := by
    cases vs with
    | nil => simp [Sql.separated]
    | cons next vs => simp [separated_cons_cons]
  rw [opened, opened] at same
  have inside := same.fixed
  have leads := inside.lead_eq
  cases vs with
  | nil =>
    cases ws with
    | nil => exact ⟨rfl, inside.fixed⟩
    | cons w ws =>
      rw [first] at leads
      exact absurd (closing.symm.trans leads) other
  | cons v vs =>
    cases ws with
    | nil =>
      rw [first] at leads
      exact absurd (closing.symm.trans leads.symm) other
    | cons w ws =>
      have ends {s : List Token} : ∀ rest, ¬ SameText dialect (.fixed ")" :: s) (.fixed ", " :: rest) :=
        fun _ => not_sameText_fixed (by decide) (by decide)
      have marks {v w : Parameter} {s t : List Token}
          (same : SameText dialect ([.parameter v] ++ s) ([.parameter w] ++ t)) :
          True ∧ SameText dialect s t := ⟨trivial, same.parameter⟩
      obtain ⟨each, same⟩ := SameText.separated (fun _ _ => True) marks ends ends inside
      exact ⟨each.length_eq, same.fixed⟩

end Sql

end QueryFilter
