import Mathlib.Data.List.Forall2
import QueryFilter.Proofs.Trimming
import QueryFilter.Proofs.Walk
import QueryFilter.Schema.Concerts

/-!
# The grammar of keys

A key is a field, or a field, a bar and a token (`FilterKey.Written`), and every text is a key in
one of these ways and in one way only. What a key is decoded to and what a report calls its field
follow from that alone (`keys_follow_grammar`).
-/

namespace QueryFilter

/-- The first bar separates the field from the token, blanks around them do not count, and the token
is taken in small letters. -/
inductive FilterKey.Written (key : String) : String → Option String → Prop
  | bare (unbarred : '|' ∉ key.toList) : Written key (Text.trimmed key) none
  | barred {before after : List Char} (cut : key.toList = before ++ '|' :: after)
    (unbarred : '|' ∉ before) :
    Written key (String.ofList (Text.trim before))
      (some (String.ofList (Text.lowercase (Text.trim after))))

/-- The text has these small letters, some of them perhaps as capitals. -/
def Text.CaseVariant (letters text : List Char) : Prop :=
  List.Forall₂ (fun letter c => c = letter ∨ c = letter.toUpper) letters text

/-! ### Every key is written in one way -/

namespace FilterKey

theorem splitFirst_of_barred {key : String} {before after : List Char}
    (cut : key.toList = before ++ '|' :: after) (unbarred : '|' ∉ before) :
    Text.splitFirst '|' key.toList = some (before, after) := by
  rw [cut, Text.splitFirst_append_cons unbarred]

theorem exists_written (key : String) : ∃ field token, Written key field token := by
  cases cut : Text.splitFirst '|' key.toList with
  | none => exact ⟨_, _, .bare (Text.splitFirst_eq_none_iff.mp cut)⟩
  | some parts =>
    obtain ⟨whole, unbarred⟩ := Text.eq_append_of_splitFirst cut
    exact ⟨_, _, .barred whole unbarred⟩

theorem Written.unique {key field field' : String} {token token' : Option String}
    (written : Written key field token) (other : Written key field' token') :
    field' = field ∧ token' = token := by
  cases written with
  | bare unbarred =>
    cases other with
    | bare => exact ⟨rfl, rfl⟩
    | barred cut _ => exact absurd (by simp [cut]) unbarred
  | barred cut unbarred =>
    cases other with
    | bare without => exact absurd (by simp [cut]) without
    | barred cut' unbarred' =>
      have same := (splitFirst_of_barred cut unbarred).symm.trans
        (splitFirst_of_barred cut' unbarred')
      obtain ⟨rfl, rfl⟩ := Prod.mk.inj (Option.some.inj same)
      exact ⟨rfl, rfl⟩

end FilterKey

/-! ### Operators -/

namespace KeyOperator

/-- What a token stands for, or its absence. -/
def ofToken? (operators : OperatorSet) : Option String → KeyOperator
  | none => implicit operators
  | some token => ofToken operators token

variable {operators : OperatorSet} {op : Operator} {text : String} {token : Option String}

theorem ofToken_eq_unavailable_iff {other : String} :
    ofToken operators text = unavailable other ↔
      text = other ∧ ∀ op : Operator, op.token = other → operators.isEnabled op = false := by
  have found (op : Operator) : operators.lookup? text = some op ↔
      op.token = text ∧ operators.isEnabled op = true := OperatorSet.lookup?_eq_some_iff
  unfold ofToken
  cases looked : operators.lookup? text with
  | none =>
    rw [unavailable.injEq]
    refine ⟨?_, And.left⟩
    rintro rfl
    refine ⟨rfl, fun op same => Bool.eq_false_iff.mpr fun on => ?_⟩
    exact nomatch looked.symm.trans ((found op).mpr ⟨same, on⟩)
  | some op =>
    obtain ⟨same, on⟩ := (found op).mp looked
    refine ⟨fun impossible => (nomatch impossible), ?_⟩
    rintro ⟨rfl, off⟩
    exact nomatch on.symm.trans (off op same)

theorem ofToken?_eq_enabled_iff :
    ofToken? operators token = enabled op ↔
      operators.isEnabled op = true ∧ (token = none ∧ op = .eq ∨ token = some op.token) := by
  cases token with
  | none => simp [ofToken?, implicit_eq_enabled_iff]
  | some text => simp [ofToken?, ofToken_eq_enabled_iff]

theorem ofToken?_eq_implicitDisabled_iff :
    ofToken? operators token = implicitDisabled ↔
      token = none ∧ operators.isEnabled .eq = false := by
  cases token with
  | none => cases on : operators.isEnabled .eq <;> simp [ofToken?, implicit, on]
  | some text => cases looked : operators.lookup? text <;> simp [ofToken?, ofToken, looked]

theorem ofToken?_eq_unavailable_iff :
    ofToken? operators token = unavailable text ↔
      token = some text ∧ ∀ op : Operator, op.token = text → operators.isEnabled op = false := by
  cases token with
  | none => cases on : operators.isEnabled .eq <;> simp [ofToken?, implicit, on]
  | some other => rw [ofToken?, ofToken_eq_unavailable_iff, Option.some.injEq]

end KeyOperator

/-! ### Decoding -/

namespace FilterKey

theorem Written.writtenField_eq {key field : String} {token : Option String}
    (written : Written key field token) : writtenField key = field := by
  cases written with
  | bare unbarred => rw [writtenField, Text.splitFirst_eq_none_iff.mpr unbarred]
  | barred cut unbarred => rw [writtenField, splitFirst_of_barred cut unbarred]

theorem Written.decode_eq {key field : String} {token : Option String}
    (written : Written key field token) (aliases : Dict String) (operators : OperatorSet) :
    decode aliases operators key =
      ⟨(aliases.get? field).getD field, .ofToken? operators token⟩ := by
  have field_eq := written.writtenField_eq
  cases written with
  | bare unbarred =>
    simp only [decode, field_eq, Text.splitFirst_eq_none_iff.mpr unbarred, KeyOperator.ofToken?]
  | barred cut unbarred =>
    simp only [decode, field_eq, splitFirst_of_barred cut unbarred, KeyOperator.ofToken?]

theorem operator_ne_removed (aliases : Dict String) (operators : OperatorSet)
    {tokens : List String} {op : Operator} (removed : op.token ∈ tokens) (key : String) :
    (decode aliases (operators.removeAll tokens) key).operator ≠ .enabled op := by
  obtain ⟨field, token, written⟩ := exists_written key
  rw [written.decode_eq]
  intro same
  obtain ⟨on, -⟩ := KeyOperator.ofToken?_eq_enabled_iff.mp same
  rw [OperatorSet.isEnabled_removeAll, List.contains_iff_mem.mpr removed] at on
  simp at on

end FilterKey

/-! ### Spellings -/

theorem Operator.letters_token (op : Operator) : ∀ c ∈ op.token.toList,
    ∀ d, d = c ∨ d = c.toUpper → d.toNat < 128 ∧ Text.asciiLower d = c ∧ Text.isBlank d = false := by
  have checked : op.token.toList.all (fun c => [c, c.toUpper].all fun d =>
      d.toNat < 128 && Text.asciiLower d == c && !Text.isBlank d) = true := by
    cases op <;> decide
  intro c member d spelled
  have letter := List.all_eq_true.mp (List.all_eq_true.mp checked c member) d (by simpa using spelled)
  simpa [and_assoc] using letter

theorem lowercase_caseVariant {op : Operator} {text : List Char}
    (variant : Text.CaseVariant op.token.toList text) :
    Text.lowercase text = op.token.toList ∧ Text.trim text = text := by
  have letters := op.letters_token
  generalize op.token.toList = token at variant letters
  have plain : (∀ c ∈ text, c.toNat < 128 ∧ Text.isBlank c = false) ∧
      text.map Text.asciiLower = token := by
    induction variant with
    | nil => simp
    | cons spelled _ ih =>
      obtain ⟨ascii, lower, solid⟩ := letters _ List.mem_cons_self _ spelled
      obtain ⟨later, lowers⟩ := ih fun c member => letters c (List.mem_cons_of_mem _ member)
      exact ⟨List.forall_mem_cons.mpr ⟨⟨ascii, solid⟩, later⟩, by rw [List.map_cons, lower, lowers]⟩
  exact ⟨(Text.lowercase_of_ascii fun c member => (plain.1 c member).1).trans plain.2,
    Text.trim_of_no_blank fun c member => (plain.1 c member).2⟩

theorem FilterKey.decode_spelled {aliases : Dict String} {operators : OperatorSet} {name : String}
    {op : Operator} {field text token : List Char} (unbarred : '|' ∉ name.toList)
    (trimmed : Text.trimmed name = name) (unaliased : aliases.get? name = none)
    (enabled : operators.isEnabled op = true) (around : Text.Padded name.toList field)
    (variant : Text.CaseVariant op.token.toList text) (behind : Text.Padded text token) :
    decode aliases operators (String.ofList (field ++ '|' :: token)) = ⟨name, .enabled op⟩ := by
  have free : '|' ∉ field := by
    obtain ⟨before, after, rfl, front, back⟩ := around
    have noneBefore : '|' ∉ before := Text.not_mem_of_blank rfl front
    have noneAfter : '|' ∉ after := Text.not_mem_of_blank rfl back
    simp [noneBefore, unbarred, noneAfter]
  have named : String.ofList (Text.trim field) = name := by
    rw [Text.trim_padded around]
    exact trimmed
  obtain ⟨lower, solid⟩ := lowercase_caseVariant variant
  have read : String.ofList (Text.lowercase (Text.trim token)) = op.token := by
    rw [Text.trim_padded behind, solid, lower, String.ofList_toList]
  have written : Written (String.ofList (field ++ '|' :: token)) name (some op.token) := by
    rw [← named, ← read]
    exact .barred String.toList_ofList free
  rw [written.decode_eq, unaliased, Option.getD_none,
    KeyOperator.ofToken?_eq_enabled_iff.mpr ⟨enabled, .inr rfl⟩]

/-! ### Reports -/

/-- The reasons to skip an entry that lie in its field. -/
def SkipReason.isAboutField : SkipReason → Bool
  | notFilterable | unknownField | inverseAssociation => true
  | _ => false

theorem FilterKey.Written.validateFilter_eq {key field : String} {token : Option String}
    (written : Written key field token) {schema : Schema} {config : FilterConfig} {entity : Entity}
    {raw : String} {reason : SkipReason} (report : Report)
    (skipped : resolveFilter schema config entity key raw = .ok (.skipped reason))
    (about : reason.isAboutField = true) :
    validateFilter schema config entity key raw report = .ok (report.add (.field field)) := by
  have problem : reason.problem key = .field field := by
    rw [← written.writtenField_eq]
    cases reason with
    | notFilterable | unknownField | inverseAssociation => rfl
    | _ => exact nomatch about
  unfold validateFilter
  rw [skipped, ← problem]

/-- Every key is written in one way, and that alone decides the field, the operator and the name in
reports. -/
theorem keys_follow_grammar :
    (∀ key : String, ∃ field token,
      (∀ f t, FilterKey.Written key f t ↔ f = field ∧ t = token) ∧
      (∀ (aliases : Dict String) (operators : OperatorSet),
        let decoded := FilterKey.decode aliases operators key
        decoded.field = (aliases.get? field).getD field ∧
        (∀ op, decoded.operator = .enabled op ↔
          operators.isEnabled op = true ∧ (token = none ∧ op = .eq ∨ token = some op.token)) ∧
        (decoded.operator = .implicitDisabled ↔
          token = none ∧ operators.isEnabled .eq = false) ∧
        ∀ text, decoded.operator = .unavailable text ↔
          token = some text ∧ ∀ op : Operator, op.token = text → operators.isEnabled op = false) ∧
      ∀ schema config entity raw reason report,
        resolveFilter schema config entity key raw = .ok (.skipped reason) →
        reason.isAboutField = true →
        validateFilter schema config entity key raw report = .ok (report.add (.field field))) ∧
    (∀ (aliases : Dict String) (operators : OperatorSet) (name : String) (op : Operator)
      (field text token : List Char),
      '|' ∉ name.toList → Text.trimmed name = name → aliases.get? name = none →
      operators.isEnabled op = true → Text.Padded name.toList field →
      Text.CaseVariant op.token.toList text → Text.Padded text token →
      FilterKey.decode aliases operators (String.ofList (field ++ '|' :: token)) =
        ⟨name, .enabled op⟩) ∧
    ∀ (aliases : Dict String) (operators : OperatorSet) (tokens : List String) (op : Operator)
      (key : String), op.token ∈ tokens →
      (FilterKey.decode aliases (operators.removeAll tokens) key).operator ≠ .enabled op := by
  refine ⟨fun key => ?_,
    fun aliases operators name op field text token unbarred trimmed unaliased enabled around variant
      behind => FilterKey.decode_spelled unbarred trimmed unaliased enabled around variant behind,
    fun aliases operators tokens op key removed =>
      FilterKey.operator_ne_removed aliases operators removed key⟩
  obtain ⟨field, token, written⟩ := FilterKey.exists_written key
  refine ⟨field, token, fun f t => ⟨written.unique, ?_⟩, fun aliases operators => ?_,
    fun schema config entity raw reason report skipped about =>
      written.validateFilter_eq report skipped about⟩
  · rintro ⟨rfl, rfl⟩
    exact written
  · rw [written.decode_eq]
    exact ⟨rfl, fun op => KeyOperator.ofToken?_eq_enabled_iff,
      KeyOperator.ofToken?_eq_implicitDisabled_iff,
      fun text => KeyOperator.ofToken?_eq_unavailable_iff⟩

theorem keys_follow_grammar_spellings :
    let aliases : Dict String := .ofList [("when", "day"), ("day", "state")]
    FilterKey.decode aliases .all "\u00a0when\u2003| NEQ|x " = ⟨"day", .unavailable "neq|x"⟩ ∧
      (∃ performance, Schema.concerts.entity? "performance" = some performance ∧
        validateFilter .concerts {} performance "\u2003venue |GTX" "1" {} =
          .ok { unavailableFields := ["venue"] }) ∧
      FilterKey.decode aliases .all "\u3000state\t|\u00a0NoTiN\n" =
        ⟨"state", .enabled .notWithin⟩ ∧
      (FilterKey.decode aliases (OperatorSet.all.removeAll ["x", "neq"]) " day |\u0085nEq").operator ≠
        .enabled .neq := by
  intro aliases
  obtain ⟨read, spelled, removed⟩ := keys_follow_grammar
  refine ⟨?_, ?_, ?_, removed aliases .all ["x", "neq"] .neq " day |\u0085nEq" (by decide)⟩
  · obtain ⟨field, token, written, decoded, -⟩ := read "\u00a0when\u2003| NEQ|x "
    have cut : "\u00a0when\u2003| NEQ|x ".toList =
        "\u00a0when\u2003".toList ++ '|' :: " NEQ|x ".toList := by decide
    have barred : FilterKey.Written "\u00a0when\u2003| NEQ|x " "when" (some "neq|x") :=
      .barred cut (by decide)
    obtain ⟨rfl, rfl⟩ := (written _ _).mp barred
    obtain ⟨field, -, -, unavailable⟩ := decoded aliases .all
    have operator := (unavailable "neq|x").mpr
      ⟨rfl, fun op same => absurd same (by cases op <;> decide)⟩
    exact congrArg₂ FilterKey.mk field operator
  · obtain ⟨field, token, written, -, reported⟩ := read "\u2003venue |GTX"
    have cut : "\u2003venue |GTX".toList = "\u2003venue ".toList ++ '|' :: "GTX".toList := by decide
    have barred : FilterKey.Written "\u2003venue |GTX" "venue" (some "gtx") :=
      .barred cut (by decide)
    obtain ⟨rfl, rfl⟩ := (written _ _).mp barred
    let performance := (Schema.concerts.entity? "performance").get (by decide +kernel)
    exact ⟨performance, (Option.some_get _).symm,
      reported .concerts {} performance "1" .unknownField {} (by decide +kernel) rfl⟩
  · have around : Text.Padded "state".toList "\u3000state\t".toList :=
      ⟨['\u3000'], ['\t'], rfl, List.forall_mem_singleton.mpr rfl, List.forall_mem_singleton.mpr rfl⟩
    have behind : Text.Padded "NoTiN".toList "\u00a0NoTiN\n".toList :=
      ⟨['\u00a0'], ['\n'], rfl, List.forall_mem_singleton.mpr rfl, List.forall_mem_singleton.mpr rfl⟩
    have variant : Text.CaseVariant Operator.notWithin.token.toList "NoTiN".toList :=
      .cons (.inr rfl) (.cons (.inl rfl) (.cons (.inr rfl) (.cons (.inl rfl) (.cons (.inr rfl) .nil))))
    have whole : String.ofList ("\u3000state\t".toList ++ '|' :: "\u00a0NoTiN\n".toList) =
        "\u3000state\t|\u00a0NoTiN\n" := by decide +kernel
    rw [← whole]
    exact spelled aliases .all "state" .notWithin _ _ _ (by decide) (by decide) (by decide)
      (OperatorSet.isEnabled_all _) around variant behind

end QueryFilter
