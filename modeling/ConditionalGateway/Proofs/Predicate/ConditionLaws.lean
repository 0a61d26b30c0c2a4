import ConditionalGateway.Proofs.Predicate.SelectorLaws

/-!
# Reading conditions

A condition that is read is derived by the grammar, and what it was checked to
be is what it denotes. Which operators go with which fields is said by
`ComparesWith` and by the rules of `Condition.Denotes`; the checks of the parser
agree with them.
-/

namespace ConditionalGateway.Predicate

-- ---------------------------------------------------------------------------
-- Operators
-- ---------------------------------------------------------------------------

theorem comparison?_eq_some : Token.comparison? t = some op ↔ t = op.token := by
  constructor
  · intro h
    cases t <;> simp only [Token.comparison?, Option.some.injEq, reduceCtorEq] at h <;> subst h <;>
      rfl
  · rintro rfl
    cases op <;> rfl

@[simp] theorem comparison?_token (op : Comparison) : op.token.comparison? = some op :=
  comparison?_eq_some.mpr rfl

theorem Comparison.token_ne_eof (op : Comparison) : op.token ≠ .eof := by cases op <;> simp [token]

theorem Comparison.isOrdering_eq_false {op : Comparison} :
    op.isOrdering = false ↔ op = .eq ∨ op = .ne := by
  cases op <;> simp [isOrdering]

-- ---------------------------------------------------------------------------
-- Checks
-- ---------------------------------------------------------------------------

theorem checkComparison_ok :
    checkComparison f op l = .ok e ↔ ∃ l', ComparesWith f op l l' ∧ e = .compare f op l' := by
  constructor
  · intro h
    unfold checkComparison at h
    cases hk : f.kind with
    | list => simp [hk] at h
    | number =>
      cases l with
      | str s =>
        simp only [hk] at h
        split at h
        · rename_i x hx
          exact ⟨_, .numeral hk hx, (Except.ok.inj h).symm⟩
        · cases h
      | number x =>
        simp only [hk] at h
        exact ⟨_, .number x hk, (Except.ok.inj h).symm⟩
      | bool b => simp [hk] at h
    | text =>
      cases l with
      | str s =>
        simp only [hk] at h
        exact ⟨_, .textStr s hk, (Except.ok.inj h).symm⟩
      | number x =>
        simp only [hk] at h
        exact ⟨_, .textNumber x hk, (Except.ok.inj h).symm⟩
      | bool b =>
        simp only [hk] at h
        split at h
        · cases h
        · rename_i ho
          have ho := Comparison.isOrdering_eq_false.mp (Bool.not_eq_true _ ▸ ho)
          exact ⟨_, .textBool b hk ho, (Except.ok.inj h).symm⟩
  · rintro ⟨l', h, rfl⟩
    cases h with
    | textStr s hk => simp [checkComparison, hk]
    | textNumber x hk => simp [checkComparison, hk]
    | textBool b hk ho =>
      simp [checkComparison, hk, Comparison.isOrdering_eq_false.mpr ho]
    | number x hk => simp [checkComparison, hk]
    | numeral hk hx => simp [checkComparison, hk, hx]

theorem checkContains_ok :
    checkContains f negated l = .ok e ↔
      ∃ needle, l = .str needle ∧ f.kind ≠ .number ∧ e = .contains f needle negated := by
  cases l with
  | str needle =>
    unfold checkContains
    by_cases hk : f.kind = .number <;> simp [hk, eq_comm]
  | number x => simp [checkContains]
  | bool b => simp [checkContains]

theorem checkMatches_ok :
    checkMatches f negated l = .ok e ↔
      ∃ source p, l = .str source ∧ f.kind = .text ∧ Pattern.compile? source = some p ∧
        e = .matches f p negated := by
  cases l with
  | str source =>
    unfold checkMatches
    by_cases hk : f.kind = .text
    · cases hp : Pattern.compile? source <;> simp [hk, hp, eq_comm]
    · simp [hk]
  | number x => simp [checkMatches]
  | bool b => simp [checkMatches]

theorem parseOperand_ok {c d : Cursor} :
    parseOperand c check = .ok (e, d) ↔
      ∃ l, Literal.Derives c.peek l ∧ check l = .ok e ∧ d = c.next := by
  unfold parseOperand
  constructor
  · intro h
    obtain ⟨⟨l, m⟩, hm, h⟩ := bind_eq_ok.mp h
    obtain ⟨hl, rfl⟩ := parseLiteral_ok.mp hm
    obtain ⟨e', he, h⟩ := bind_eq_ok.mp h
    cases h
    exact ⟨l, hl, he, rfl⟩
  · rintro ⟨l, hl, he, rfl⟩
    simp [parseLiteral_ok.mpr ⟨hl, rfl⟩, he, bind, Except.bind]

-- ---------------------------------------------------------------------------
-- Conditions that start with a selector
-- ---------------------------------------------------------------------------

/-- Behind some tokens, an operand that is read ends what the tokens and the operator began. -/
theorem parseOperand_sound {b c d : Cursor} (hr : b.Reads ts c) (hc : Lexed c.tokens)
    (hp : c.peek = t) (ht : t ≠ .eof) (h : parseOperand c.next check = .ok (e, d)) :
    ∃ u l, Literal.Derives u l ∧ check l = .ok e ∧ b.Reads (ts ++ [t, u]) d ∧ Lexed d.tokens := by
  obtain ⟨l, hl, he, rfl⟩ := parseOperand_ok.mp h
  obtain ⟨hr1, -, hc⟩ := Cursor.reads_next hc hp ht
  obtain ⟨hr2, -, hc⟩ := Cursor.reads_next hc rfl hl.ne_eof
  exact ⟨_, l, hl, he, hr.append (hr1.append hr2), hc⟩

inductive WordCheck (f : Field) (negated : Bool) : Token → (Literal → Except CompileError Expr) → Prop
  | contains : WordCheck f negated .kwContains (checkContains f negated)
  | matches : WordCheck f negated .kwMatches (checkMatches f negated)

theorem WordCheck.sound {b c d : Cursor} (hw : WordCheck f negated w check)
    (h : parseOperand c.next check = .ok (e, d)) (hs : Selector.Derives ts s) (hf : s.Denotes f)
    (hr : b.Reads (ts ++ notTokens negated) c) (hc : Lexed c.tokens) (hp : c.peek = w) :
    ∃ us cond, Condition.Derives us cond ∧ cond.Denotes e ∧ b.Reads us d ∧ Lexed d.tokens := by
  have ht : w ≠ .eof := by cases hw <;> simp
  obtain ⟨u, l, hl, he, hr, hd⟩ := parseOperand_sound hr hc hp ht h
  cases hw with
  | contains =>
    obtain ⟨needle, rfl, hk, rfl⟩ := checkContains_ok.mp he
    exact ⟨_, _, .contains negated hs hl, .contains hf hk, hr, hd⟩
  | «matches» =>
    obtain ⟨raw, p, rfl, hk, hp, rfl⟩ := checkMatches_ok.mp he
    cases hl
    exact ⟨_, _, .matches negated raw hs, .matches hf hk hp, hr, hd⟩

theorem parseFieldCondition_sound {c d : Cursor} (hc : Lexed c.tokens)
    (h : parseFieldCondition c = .ok (e, d)) :
    ∃ ts cond, Condition.Derives ts cond ∧ cond.Denotes e ∧ c.Reads ts d ∧ Lexed d.tokens := by
  unfold parseFieldCondition at h
  obtain ⟨⟨f, m⟩, hf, h⟩ := bind_eq_ok.mp h
  obtain ⟨ts, s, hs, hd, hr, hm⟩ := parseField_sound hc hf
  simp only at h
  split at h
  · rename_i op hop
    obtain ⟨u, l, hl, he, hr, hd'⟩ :=
      parseOperand_sound hr hm (comparison?_eq_some.mp hop) op.token_ne_eof h
    obtain ⟨l', hl', rfl⟩ := checkComparison_ok.mp he
    exact ⟨_, _, .compare op hs hl, .compare hd hl', hr, hd'⟩
  · split at h
    · rename_i hp
      exact WordCheck.contains.sound h hs hd (hr.append (.refl m)) hm hp
    · rename_i hp
      exact WordCheck.matches.sound h hs hd (hr.append (.refl m)) hm hp
    · rename_i hn
      obtain ⟨hrn, -, hm⟩ := Cursor.reads_next hm hn (by simp)
      split at h
      · rename_i hp
        exact WordCheck.contains.sound h hs hd (hr.append hrn) hm hp
      · rename_i hp
        exact WordCheck.matches.sound h hs hd (hr.append hrn) hm hp
      · cases h
    · rename_i hi
      obtain ⟨hri, -, hm⟩ := Cursor.reads_next hm hi (by simp)
      obtain ⟨d', hd', h⟩ := bind_eq_ok.mp h
      cases h
      obtain ⟨hp, rfl⟩ := Cursor.expect_ok.mp hd'
      rw [isEmptyWord_iff] at hp
      cases hn : m.next.peek.isNot with
      | false =>
        simp only [hn, Bool.false_eq_true, if_false] at hp ⊢
        obtain ⟨hre, -, hm⟩ := Cursor.reads_next hm hp (by simp)
        exact ⟨_, _, .isEmpty false hs, .isEmpty hd, (hr.append hri).append hre, hm⟩
      | true =>
        simp only [hn, if_true] at hp ⊢
        obtain ⟨hrn, -, hm⟩ := Cursor.reads_next hm (isNot_iff.mp hn) (by simp)
        obtain ⟨hre, -, hm⟩ := Cursor.reads_next hm hp (by simp)
        exact ⟨_, _, .isEmpty true hs, .isEmpty hd, (hr.append (hri.append hrn)).append hre, hm⟩
    · cases h

theorem Selector.Derives.reads_head {c d : Cursor} (h : Selector.Derives ts s)
    (hr : c.Reads us d) (hp : ts <+: us) : c.peek = .ident s.root := by
  obtain ⟨vs, rfl⟩ := hp
  cases h with
  | mk root h => exact hr.cons.1

theorem parseField_until {c d : Cursor} (h : Selector.Derives ts s) (hf : s.Denotes f)
    (hr : c.Reads (ts ++ t :: us) d) (ht : t.EndsSelector) :
    ∃ m, parseField c = .ok (f, m) ∧ m.peek = t ∧ m.next.Reads us d := by
  obtain ⟨m, hr, hm⟩ := Cursor.reads_append.mp hr
  obtain ⟨hp, hm⟩ := hm.cons
  exact ⟨m, parseField_complete h hf hr (hp ▸ ht), hp, hm⟩

theorem parseOperand_complete {c d : Cursor} (hl : Literal.Derives t l) (he : check l = .ok e)
    (hr : c.Reads [t] d) : parseOperand c check = .ok (e, d) := by
  obtain ⟨hp, rfl⟩ := hr.single
  exact parseOperand_ok.mpr ⟨l, hp ▸ hl, he, rfl⟩

theorem Comparison.token_endsSelector (op : Comparison) : op.token.EndsSelector := by
  cases op <;> simp [token, Token.EndsSelector]

theorem parseFieldCondition_compare {c d : Cursor} (hs : Selector.Derives ts s)
    (hl : Literal.Derives t l) (hf : s.Denotes f) (hc : ComparesWith f op l l')
    (hr : c.Reads (ts ++ [op.token, t]) d) :
    parseFieldCondition c = .ok (.compare f op l', d) := by
  obtain ⟨m, hm, hp, hr⟩ := parseField_until hs hf hr op.token_endsSelector
  have he := checkComparison_ok.mpr ⟨l', hc, rfl⟩
  simp [parseFieldCondition, hm, hp, parseOperand_complete hl he hr, bind, Except.bind]

theorem parseFieldCondition_word {c d : Cursor} (hw : WordCheck f negated w check)
    (hs : Selector.Derives ts s) (hl : Literal.Derives t l) (hf : s.Denotes f)
    (he : check l = .ok e) (hr : c.Reads (ts ++ notTokens negated ++ [w, t]) d) :
    parseFieldCondition c = .ok (e, d) := by
  have hw' : w.EndsSelector := by cases hw <;> simp [Token.EndsSelector]
  cases negated with
  | false =>
    rw [notTokens, List.append_nil] at hr
    obtain ⟨m, hm, hp, hr⟩ := parseField_until hs hf hr hw'
    have ho := parseOperand_complete hl he hr
    cases hw <;> simp [parseFieldCondition, hm, hp, Token.comparison?, ho, bind, Except.bind]
  | true =>
    rw [notTokens, List.append_assoc] at hr
    obtain ⟨m, hm, hp, hr⟩ := parseField_until hs hf hr (by simp [Token.EndsSelector])
    obtain ⟨hp', hr⟩ := hr.cons
    have ho := parseOperand_complete hl he hr
    cases hw <;> simp [parseFieldCondition, hm, hp, hp', Token.comparison?, ho, bind, Except.bind]

theorem parseFieldCondition_isEmpty {c d : Cursor} (hs : Selector.Derives ts s) (hf : s.Denotes f)
    (hr : c.Reads (ts ++ .kwIs :: notTokens negated ++ [.kwEmpty]) d) :
    parseFieldCondition c = .ok (.isEmpty f negated, d) := by
  rw [List.append_assoc] at hr
  obtain ⟨m, hm, hp, hr⟩ := parseField_until hs hf hr (by simp [Token.EndsSelector])
  cases negated with
  | false =>
    obtain ⟨hp', rfl⟩ := hr.single
    have he : m.next.expect .empty Token.isEmptyWord = .ok m.next.next :=
      Cursor.expect_ok.mpr ⟨isEmptyWord_iff.mpr hp', rfl⟩
    simp [parseFieldCondition, hm, hp, hp', Token.comparison?, Token.isNot, he, bind, Except.bind]
  | true =>
    obtain ⟨hn, hr⟩ := hr.cons
    obtain ⟨hp', rfl⟩ := hr.single
    have he : m.next.next.expect .empty Token.isEmptyWord = .ok m.next.next.next :=
      Cursor.expect_ok.mpr ⟨isEmptyWord_iff.mpr hp', rfl⟩
    simp [parseFieldCondition, hm, hp, hn, Token.comparison?, Token.isNot, he, bind, Except.bind]

-- ---------------------------------------------------------------------------
-- Conditions that start with a literal
-- ---------------------------------------------------------------------------

theorem peekAt_one (c : Cursor) : (c.peekAt 1).token = c.next.peek := by
  rw [Cursor.peekAt_succ, Cursor.peek]

theorem peekAt_two (c : Cursor) : (c.peekAt 2).token = c.next.next.peek := by
  rw [Cursor.peekAt_succ, peekAt_one]

theorem parseLiteralCondition_sound {c d : Cursor} (hc : Lexed c.tokens)
    (h : parseLiteralCondition c = .ok (e, d)) :
    ∃ ts cond, Condition.Derives ts cond ∧ cond.Denotes e ∧ c.Reads ts d ∧ Lexed d.tokens := by
  unfold parseLiteralCondition at h
  obtain ⟨⟨l, m⟩, hm, h⟩ := bind_eq_ok.mp h
  obtain ⟨hl, rfl⟩ := parseLiteral_ok.mp hm
  obtain ⟨hr, -, hm⟩ := Cursor.reads_next hc rfl hl.ne_eof
  simp only at h
  split at h
  · rename_i op hop
    obtain ⟨hro, -, hm⟩ := Cursor.reads_next hm (comparison?_eq_some.mp hop) op.token_ne_eof
    obtain ⟨⟨f, d'⟩, hf, h⟩ := bind_eq_ok.mp h
    obtain ⟨ts, s, hs, hd, hrs, hd'⟩ := parseField_sound hm hf
    obtain ⟨e', he, h⟩ := bind_eq_ok.mp h
    cases h
    obtain ⟨l', hl', rfl⟩ := checkComparison_ok.mp he
    exact ⟨_, _, .compareSwapped op hl hs, .compareSwapped hd hl', hr.append (hro.append hrs), hd'⟩
  · split at h
    · rename_i hi
      obtain ⟨hri, -, hm⟩ := Cursor.reads_next hm (isIn_iff.mp hi) (by simp)
      obtain ⟨⟨f, d'⟩, hf, h⟩ := bind_eq_ok.mp h
      obtain ⟨ts, s, hs, hd, hrs, hd'⟩ := parseField_sound hm hf
      obtain ⟨e', he, h⟩ := bind_eq_ok.mp h
      cases h
      obtain ⟨needle, rfl, hk, rfl⟩ := checkContains_ok.mp he
      exact ⟨_, _, .member false hl hs, .member hd hk, hr.append (hri.append hrs), hd'⟩
    · split at h
      · rename_i hn
        rw [Bool.and_eq_true, isNot_iff, isIn_iff, peekAt_one] at hn
        obtain ⟨hrn, -, hm⟩ := Cursor.reads_next hm hn.1 (by simp)
        obtain ⟨hri, -, hm⟩ := Cursor.reads_next hm hn.2 (by simp)
        obtain ⟨⟨f, d'⟩, hf, h⟩ := bind_eq_ok.mp h
        obtain ⟨ts, s, hs, hd, hrs, hd'⟩ := parseField_sound hm hf
        obtain ⟨e', he, h⟩ := bind_eq_ok.mp h
        cases h
        obtain ⟨needle, rfl, hk, rfl⟩ := checkContains_ok.mp he
        exact ⟨_, _, .member true hl hs, .member hd hk,
          hr.append (hrn.append (hri.append hrs)), hd'⟩
      · cases h

theorem parseLiteralCondition_compare {op : Comparison} {c d : Cursor} (hl : Literal.Derives t l)
    (hs : Selector.Derives ts s) (hf : s.Denotes f) (hc : ComparesWith f op.flipped l l')
    (hr : c.Reads (t :: op.token :: ts) d) (hd : d.peek.EndsSelector) :
    parseLiteralCondition c = .ok (.compare f op.flipped l', d) := by
  obtain ⟨hp, hr⟩ := hr.cons
  obtain ⟨ho, hr⟩ := hr.cons
  have hl' := parseLiteral_ok.mpr ⟨hp ▸ hl, rfl⟩
  have hf' := parseField_complete hs hf hr hd
  have he := checkComparison_ok.mpr ⟨l', hc, rfl⟩
  simp [parseLiteralCondition, hl', ho, hf', he, bind, Except.bind]

theorem parseLiteralCondition_member {c d : Cursor} (hl : Literal.Derives t (.str needle))
    (hs : Selector.Derives ts s) (hf : s.Denotes f) (hk : f.kind ≠ .number)
    (hr : c.Reads (t :: notTokens negated ++ .kwIn :: ts) d) (hd : d.peek.EndsSelector) :
    parseLiteralCondition c = .ok (.contains f needle negated, d) := by
  obtain ⟨hp, hr⟩ := hr.cons
  have hl' := parseLiteral_ok.mpr ⟨hp ▸ hl, rfl⟩
  have he : checkContains f negated (.str needle) = .ok (.contains f needle negated) :=
    checkContains_ok.mpr ⟨needle, rfl, hk, rfl⟩
  cases negated with
  | false =>
    obtain ⟨hi, hr⟩ := hr.cons
    have hf' := parseField_complete hs hf hr hd
    simp [parseLiteralCondition, hl', hi, Token.comparison?, Token.isIn, hf', he, bind, Except.bind]
  | true =>
    obtain ⟨hn, hr⟩ := hr.cons
    obtain ⟨hi, hr⟩ := hr.cons
    have hf' := parseField_complete hs hf hr hd
    simp [parseLiteralCondition, hl', hn, peekAt_one, hi, Token.comparison?, Token.isIn,
      Token.isNot, hf', he, bind, Except.bind]

end ConditionalGateway.Predicate
