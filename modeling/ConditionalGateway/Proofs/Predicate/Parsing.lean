import ConditionalGateway.Proofs.Predicate.ConditionLaws

/-!
# The parser decides the grammar

`parse_ok_iff`: on the tokens of a text, the parser gives an expression exactly
if the tokens derive from the grammar by a tree that nests no deeper than the
limit and denotes that expression.

Soundness reads a run of the parser as a derivation (`Spans`). For completeness
a row of operands is followed from the left: what the parser makes of the row so
far is what it makes of the rest of it, with the expression so far at hand
(`Accepts`).
-/

namespace ConditionalGateway.Predicate

/-- Between two cursors lies a derivation, which nests at most `n` deep and denotes `e`. -/
def Spans (rank : Rank) (n : Nat) (e : Expr) (c d : Cursor) : Prop :=
  Lexed d.tokens ∧
    ∃ ts t, Derives rank ts t ∧ t.depth ≤ n ∧ t.Denotes e ∧ c.Reads ts d

def ExprReader.Sound (read : ExprReader) (rank : Rank) (n : Nat) : Prop :=
  ∀ c d e, Lexed c.tokens → read c = .ok (e, d) → Spans rank n e c d

-- ---------------------------------------------------------------------------
-- Rows
-- ---------------------------------------------------------------------------

/-- How rows of operands are derived and what they denote. -/
structure RowRule (isJoint : Token → Bool) (join : Expr → Expr → Expr) (joint : Token)
    (node : Tree → Tree → Tree) (inner outer : Rank) : Prop where
  isJoint_iff : ∀ t, isJoint t = true ↔ t = joint
  ne_eof : joint ≠ .eof
  single : ∀ ts t, Derives inner ts t → Derives outer ts t
  more : ∀ ts us a b, Derives outer ts a → Derives inner us b →
    Derives outer (ts ++ joint :: us) (node a b)
  depth : ∀ a b, (node a b).depth = max a.depth b.depth
  denotes : ∀ a b x y, a.Denotes x → b.Denotes y → (node a b).Denotes (join x y)

theorem orRule : RowRule Token.isOr .or .kwOr .or .conjunction .disjunction where
  isJoint_iff _ := isOr_iff
  ne_eof := by simp
  single _ _ := .conjunction
  more _ _ _ _ := .or
  depth _ _ := rfl
  denotes _ _ _ _ := .or

theorem andRule : RowRule Token.isAnd .and .kwAnd .and .unary .conjunction where
  isJoint_iff _ := isAnd_iff
  ne_eof := by simp
  single _ _ := .unary
  more _ _ _ _ := .and
  depth _ _ := rfl
  denotes _ _ _ _ := .and

section
variable {isJoint : Token → Bool} {join : Expr → Expr → Expr} {joint : Token}
  {node : Tree → Tree → Tree} {inner outer : Rank} {operand : ExprReader} {b c d m : Cursor}

theorem RowRule.extend (rule : RowRule isJoint join joint node inner outer)
    (hb : Spans outer n x b c) (hj : isJoint c.peek = true) (ho : Spans inner n y c.next d) :
    Spans outer n (join x y) b d := by
  obtain ⟨hc, ts, s, hs, hsn, hx, hr⟩ := hb
  obtain ⟨hd, us, t, ht, htn, hy, hr'⟩ := ho
  obtain ⟨hrj, -, -⟩ := Cursor.reads_next hc ((rule.isJoint_iff _).mp hj) rule.ne_eof
  refine ⟨hd, ts ++ joint :: us, node s t, rule.more _ _ _ _ hs ht, ?_, rule.denotes _ _ _ _ hx hy,
    hr.append (hrj.append hr')⟩
  rw [rule.depth]
  omega

theorem parseRowTail_sound (rule : RowRule isJoint join joint node inner outer)
    (ho : operand.Sound inner n) (hb : Spans outer n x b c)
    (h : parseRowTail isJoint join operand x c = .ok (e, d)) : Spans outer n e b d := by
  fun_induction parseRowTail isJoint join operand x c with
  | case1 => cases h
  | case2 x c hj y after hy shorter ih =>
    have hn := (Cursor.reads_next hb.1 ((rule.isJoint_iff _).mp hj) rule.ne_eof).2.2
    exact ih (rule.extend hb hj (ho _ _ _ hn hy)) h
  | case3 x c hj y after hy stuck =>
    cases h
    have hn := (Cursor.reads_next hb.1 ((rule.isJoint_iff _).mp hj) rule.ne_eof).2.2
    exact rule.extend hb hj (ho _ _ _ hn hy)
  | case4 x c hj =>
    cases h
    exact hb

theorem parseRow_sound (rule : RowRule isJoint join joint node inner outer)
    (ho : operand.Sound inner n) :
    ExprReader.Sound (parseRow isJoint join operand) outer n := by
  intro c d e hc h
  unfold parseRow at h
  obtain ⟨⟨x, m⟩, hx, h⟩ := bind_eq_ok.mp h
  obtain ⟨hm, ts, t, ht, hn, hd, hr⟩ := ho _ _ _ hc hx
  exact parseRowTail_sound rule ho ⟨hm, ts, t, rule.single _ _ ht, hn, hd, hr⟩ h

theorem parseRow_eq (ho : operand c = .ok (x, m)) :
    parseRow isJoint join operand c = parseRowTail isJoint join operand x m := by
  simp [parseRow, ho, bind, Except.bind]

theorem parseRowTail_joint (hj : isJoint m.peek = true) (ho : operand m.next = .ok (y, d))
    (shorter : d.rest.length < m.rest.length) :
    parseRowTail isJoint join operand x m = parseRowTail isJoint join operand (join x y) d := by
  rw [parseRowTail]
  simp [hj, ho, shorter]

theorem parseRowTail_end (hj : isJoint d.peek = false) :
    parseRowTail isJoint join operand x d = .ok (x, d) := by
  rw [parseRowTail]
  simp [hj]

end

-- ---------------------------------------------------------------------------
-- Soundness
-- ---------------------------------------------------------------------------

theorem Spans.ofCondition
    (h : ∃ ts cond, Condition.Derives ts cond ∧ cond.Denotes e ∧ c.Reads ts d ∧ Lexed d.tokens) :
    Spans .unary n e c d := by
  obtain ⟨ts, cond, hc, he, hr, hd⟩ := h
  exact ⟨hd, ts, .condition cond, .primary (.condition hc), Nat.zero_le n, .condition he, hr⟩

theorem Spans.ofConst {c : Cursor} (hc : Lexed c.tokens) (hp : c.peek = t) (ht : t ≠ .eof)
    (hd : Derives .primary [t] (.const b)) : Spans .unary n (.const b) c c.next := by
  obtain ⟨hr, -, hn⟩ := Cursor.reads_next hc hp ht
  exact ⟨hn, [t], .const b, .primary hd, Nat.zero_le n, .const b, hr⟩

theorem parseDisjunction_sound (ho : ExprReader.Sound (parseUnary n) .unary n) :
    ExprReader.Sound (parseDisjunction (parseUnary n)) .disjunction n :=
  parseRow_sound orRule (parseRow_sound andRule ho)

theorem parseUnary_sound (n : Nat) : ExprReader.Sound (parseUnary n) .unary n := by
  -- only a negation and a group spend depth, and each reads its inner expression with what is left
  induction n using Nat.strongRecOn with
  | _ n ih =>
    intro c d e hc h
    unfold parseUnary at h
    split at h
    · rename_i hp
      obtain ⟨hr, -, hn⟩ := Cursor.reads_next hc hp (by simp)
      cases n with
      | zero => cases h
      | succ n =>
        obtain ⟨⟨x, m⟩, hx, h⟩ := bind_eq_ok.mp h
        cases h
        obtain ⟨hd, ts, t, ht, htn, hden, hr'⟩ := ih n (Nat.lt_succ_self n) _ _ _ hn hx
        exact ⟨hd, _, .not t, .not ht, Nat.succ_le_succ htn, .not hden, hr.append hr'⟩
    · rename_i hp
      obtain ⟨hr, -, hn⟩ := Cursor.reads_next hc hp (by simp)
      cases n with
      | zero => cases h
      | succ n =>
        obtain ⟨⟨x, m⟩, hx, h⟩ := bind_eq_ok.mp h
        obtain ⟨m', hm', h⟩ := bind_eq_ok.mp h
        cases h
        obtain ⟨hb, rfl⟩ := Cursor.expect_ok.mp hm'
        obtain ⟨hm, ts, t, ht, htn, hden, hr'⟩ :=
          parseDisjunction_sound (ih n (Nat.lt_succ_self n)) _ _ _ hn hx
        obtain ⟨hrb, -, hd⟩ := Cursor.reads_next hm (isRparen_iff.mp hb) (by simp)
        exact ⟨hd, _, .group t, .primary (.group ht), Nat.succ_le_succ htn, .group hden,
          hr.append (hr'.append hrb)⟩
    · rename_i hp
      split at h
      · exact .ofCondition (parseLiteralCondition_sound hc h)
      · cases h
        exact .ofConst hc hp (by simp) .true
    · rename_i hp
      split at h
      · exact .ofCondition (parseLiteralCondition_sound hc h)
      · cases h
        exact .ofConst hc hp (by simp) .false
    · exact .ofCondition (parseLiteralCondition_sound hc h)
    · exact .ofCondition (parseLiteralCondition_sound hc h)
    · exact .ofCondition (parseFieldCondition_sound hc h)
    · cases h

-- ---------------------------------------------------------------------------
-- Completeness
-- ---------------------------------------------------------------------------

/-- The tokens that can stand behind an operand, and behind a conjunction. -/
def Rank.Follow : Rank → Token → Prop
  | .disjunction, t => t = .kwOr ∨ t = .rparen ∨ t = .eof
  | _, t => t = .kwAnd ∨ t = .kwOr ∨ t = .rparen ∨ t = .eof

theorem Rank.Follow.endsSelector {rank : Rank} (h : rank.Follow t) : t.EndsSelector := by
  cases rank <;> simp only [Follow] at h <;> simp only [Token.EndsSelector] <;> grind

theorem startsCondition_iff {c : Cursor} :
    startsCondition c = true ↔
      (∃ op : Comparison, c.next.peek = op.token) ∨ c.next.peek = .kwIn ∨
        (c.next.peek = .kwNot ∧ c.next.next.peek = .kwIn) := by
  simp only [startsCondition, peekAt_one, peekAt_two, Bool.or_eq_true, Bool.and_eq_true, isIn_iff,
    isNot_iff, Option.isSome_iff_exists, comparison?_eq_some, or_assoc]

theorem startsCondition_of_follow {rank : Rank} {c : Cursor} (h : rank.Follow c.next.peek) :
    startsCondition c = false := by
  rw [← Bool.not_eq_true, startsCondition_iff]
  rintro (⟨op, ho⟩ | hi | ⟨hn, -⟩)
  · cases op <;> cases rank <;> simp [Rank.Follow, ho, Comparison.token] at h
  · cases rank <;> simp [Rank.Follow, hi] at h
  · cases rank <;> simp [Rank.Follow, hn] at h

theorem parseUnary_literal {c : Cursor} (hl : Literal.Derives c.peek l)
    (hs : startsCondition c = true) : parseUnary n c = parseLiteralCondition c := by
  unfold parseUnary
  generalize hp : c.peek = t at hl
  cases hl <;> simp [hs]

theorem parseUnary_ident {c : Cursor} {root : String} (hp : c.peek = .ident root) :
    parseUnary n c = parseFieldCondition c := by
  unfold parseUnary
  simp [hp]

theorem parseUnary_condition {k : Condition} {c d : Cursor} (h : k.Derives ts) (he : k.Denotes e)
    (hr : c.Reads ts d) (hd : d.peek.EndsSelector) : parseUnary n c = .ok (e, d) := by
  cases h with
  | compare op hs hl =>
    cases he with
    | compare hf hc =>
      rw [parseUnary_ident (hs.reads_head hr ⟨_, rfl⟩)]
      exact parseFieldCondition_compare hs hl hf hc hr
  | contains negated hs hl =>
    cases he with
    | contains hf hk =>
      rw [parseUnary_ident (hs.reads_head hr ⟨_, (List.append_assoc ..).symm⟩)]
      exact parseFieldCondition_word .contains hs hl hf (checkContains_ok.mpr ⟨_, rfl, hk, rfl⟩) hr
  | «matches» negated source hs =>
    cases he with
    | «matches» hf hk hp =>
      rw [parseUnary_ident (hs.reads_head hr ⟨_, (List.append_assoc ..).symm⟩)]
      exact parseFieldCondition_word .matches hs (.str source) hf
        (checkMatches_ok.mpr ⟨_, _, rfl, hk, hp, rfl⟩) hr
  | isEmpty negated hs =>
    cases he with
    | isEmpty hf =>
      rw [parseUnary_ident (hs.reads_head hr ⟨_, (List.append_assoc ..).symm⟩)]
      exact parseFieldCondition_isEmpty hs hf hr
  | compareSwapped op hl hs =>
    cases he with
    | compareSwapped hf hc =>
      obtain ⟨hp, hr'⟩ := hr.cons
      have ho := startsCondition_iff.mpr (.inl ⟨op, hr'.cons.1⟩)
      rw [parseUnary_literal (hp ▸ hl) ho]
      exact parseLiteralCondition_compare hl hs hf hc hr hd
  | member negated hl hs =>
    cases he with
    | member hf hk =>
      obtain ⟨hp, hr'⟩ := hr.cons
      have ho : startsCondition c = true := by
        refine startsCondition_iff.mpr (.inr ?_)
        cases negated with
        | false => exact .inl hr'.cons.1
        | true => exact .inr ⟨hr'.cons.1, hr'.cons.2.cons.1⟩
      rw [parseUnary_literal (hp ▸ hl) ho]
      exact parseLiteralCondition_member hl hs hf hk hr hd

/-- From `c` the parser comes to `d` with `e`, or in a row, to what it makes of the rest of the row
from `d` on. -/
def Accepts (rank : Rank) (n : Nat) (e : Expr) (c d : Cursor) : Prop :=
  match rank with
  | .disjunction =>
    parseDisjunction (parseUnary n) c =
      parseRowTail Token.isOr .or (parseRow Token.isAnd .and (parseUnary n)) e d
  | .conjunction =>
    parseRow Token.isAnd .and (parseUnary n) c =
      parseRowTail Token.isAnd .and (parseUnary n) e d
  | .unary => parseUnary n c = .ok (e, d)
  | .primary => parseUnary n c = .ok (e, d)

theorem Accepts.disjunction_end (h : Accepts .disjunction n e c d) (hd : d.peek ≠ .kwOr) :
    parseDisjunction (parseUnary n) c = .ok (e, d) := by
  have hj : d.peek.isOr = false := by rw [← Bool.not_eq_true, isOr_iff]; exact hd
  exact h.trans (parseRowTail_end hj)

theorem Accepts.conjunction_end (h : Accepts .conjunction n e c d) (hd : d.peek ≠ .kwAnd) :
    parseRow Token.isAnd .and (parseUnary n) c = .ok (e, d) := by
  have hj : d.peek.isAnd = false := by rw [← Bool.not_eq_true, isAnd_iff]; exact hd
  exact h.trans (parseRowTail_end hj)

theorem Derives.accepts {c d : Cursor} (h : Derives rank ts t) (hn : t.depth ≤ n)
    (he : t.Denotes e) (hr : c.Reads ts d) (hd : rank.Follow d.peek) : Accepts rank n e c d := by
  -- what follows is given up to the right, so that every row ends where its derivation does
  induction h generalizing n e c d with
  | conjunction h ih =>
    have hne : d.peek ≠ .kwAnd := by
      intro hp
      simp [Rank.Follow, hp] at hd
    exact parseRow_eq ((ih hn he hr (.inr hd)).conjunction_end hne)
  | or ha hb iha ihb =>
    cases he with
    | or hx hy =>
      obtain ⟨m, hrm, hr⟩ := Cursor.reads_append.mp hr
      obtain ⟨hp, hrd⟩ := hr.cons
      have hne : d.peek ≠ .kwAnd := by
        intro hp
        simp [Rank.Follow, hp] at hd
      have hx := iha (Nat.le_trans (Nat.le_max_left ..) hn) hx hrm (.inl hp)
      have hy := (ihb (Nat.le_trans (Nat.le_max_right ..) hn) hy hrd (.inr hd)).conjunction_end hne
      exact hx.trans (parseRowTail_joint (isOr_iff.mpr hp) hy (hr.shorter (by simp)))
  | unary h ih => exact parseRow_eq (ih hn he hr hd)
  | and ha hb iha ihb =>
    cases he with
    | and hx hy =>
      obtain ⟨m, hrm, hr⟩ := Cursor.reads_append.mp hr
      obtain ⟨hp, hrd⟩ := hr.cons
      have hx := iha (Nat.le_trans (Nat.le_max_left ..) hn) hx hrm (.inl hp)
      have hy := ihb (Nat.le_trans (Nat.le_max_right ..) hn) hy hrd hd
      exact hx.trans (parseRowTail_joint (isAnd_iff.mpr hp) hy (hr.shorter (by simp)))
  | primary h ih => exact ih hn he hr hd
  | not h ih =>
    cases he with
    | not hx =>
      obtain ⟨hp, hr⟩ := hr.cons
      cases n with
      | zero => cases hn
      | succ n =>
        have hx : parseUnary n c.next = _ := ih (Nat.le_of_succ_le_succ hn) hx hr hd
        simp [Accepts, parseUnary, hp, hx, bind, Except.bind]
  | group h ih =>
    cases he with
    | group hx =>
      obtain ⟨hp, hr⟩ := hr.cons
      obtain ⟨m, hrm, hr⟩ := Cursor.reads_append.mp hr
      obtain ⟨hb, rfl⟩ := hr.single
      cases n with
      | zero => cases hn
      | succ n =>
        have hx := (ih (Nat.le_of_succ_le_succ hn) hx hrm (.inr (.inl hb))).disjunction_end
          (by simp [hb])
        have hm : m.expect .closeParen Token.isRparen = .ok m.next :=
          Cursor.expect_ok.mpr ⟨isRparen_iff.mpr hb, rfl⟩
        simp [Accepts, parseUnary, hp, hx, hm, bind, Except.bind]
  | true =>
    cases he
    obtain ⟨hp, rfl⟩ := hr.single
    show parseUnary n c = _
    unfold parseUnary
    simp [hp, startsCondition_of_follow hd]
  | false =>
    cases he
    obtain ⟨hp, rfl⟩ := hr.single
    show parseUnary n c = _
    unfold parseUnary
    simp [hp, startsCondition_of_follow hd]
  | condition h =>
    cases he with
    | condition hx => exact parseUnary_condition h hx hr hd.endsSelector

-- ---------------------------------------------------------------------------
-- Whole expressions
-- ---------------------------------------------------------------------------

theorem parse_sound (hl : Lexed (tokens.map Placed.token)) (h : parse tokens = .ok e) :
    ∃ body t, tokens.map Placed.token = body ++ [.eof] ∧ Derives .disjunction body t ∧
      t.depth ≤ maxDepth ∧ t.Denotes e := by
  replace hl : Lexed (Cursor.ofTokens tokens).tokens := hl
  unfold parse at h
  simp only at h
  split at h
  · cases h
  · obtain ⟨⟨x, d⟩, hx, h⟩ := bind_eq_ok.mp h
    simp only at h
    split at h
    · rename_i hd
      cases h
      obtain ⟨hd', ts, t, ht, hn, he, hr⟩ :=
        parseDisjunction_sound (parseUnary_sound maxDepth) _ _ _ hl hx
      have hend := Cursor.tokens_eq_cons hd'
      rw [isEof_iff.mp hd] at hend
      obtain hlast := (hend ▸ hd').eof_last
      rw [hlast] at hend
      exact ⟨ts, t, hend ▸ hr.tokens, ht, hn, he⟩
    · cases h

theorem parseUnary_eof {c : Cursor} (hp : c.peek = .eof) :
    parseUnary n c = .error (c.unexpected .expression) := by
  unfold parseUnary
  simp [hp]

theorem parse_complete (hb : tokens.map Placed.token = body ++ [.eof])
    (h : Derives .disjunction body t) (hn : t.depth ≤ maxDepth) (he : t.Denotes e) :
    parse tokens = .ok e := by
  obtain ⟨ps, qs, rfl, rfl, hqs⟩ := List.map_eq_append_iff.mp hb
  obtain ⟨q, rfl, hq⟩ := List.map_eq_singleton_iff.mp hqs
  generalize hc : Cursor.ofTokens (ps ++ [q]) = c
  have hr : c.Reads (ps.map Placed.token) ⟨[q], c.last⟩ := ⟨ps, rfl, hc ▸ rfl⟩
  have hp : Cursor.peek ⟨[q], c.last⟩ = .eof := hq
  have hx := (h.accepts hn he hr (.inr (.inr hp))).disjunction_end (by simp [hp])
  have hne : c.peek.isEof = false := by
    rw [← Bool.not_eq_true, isEof_iff]
    intro he
    simp [parseDisjunction, parseRow, parseUnary_eof he, bind, Except.bind] at hx
  simp [parse, hc, hne, hx, hp, isEof_iff.mpr rfl, bind, Except.bind]

/-- On the tokens of a text, the parser gives an expression exactly if all of them but the last
derive from the grammar, by a tree that nests no deeper than the limit and denotes that
expression. -/
theorem parse_ok_iff {source : String} (h : tokenize source = .ok tokens) :
    parse tokens = .ok e ↔
      ∃ body t, tokens.map Placed.token = body ++ [.eof] ∧ Derives .disjunction body t ∧
        t.depth ≤ maxDepth ∧ t.Denotes e := by
  constructor
  · exact parse_sound (tokenize_lexed h)
  · rintro ⟨body, t, hb, ht, hn, he⟩
    exact parse_complete hb ht hn he

theorem parse_ok_iff_member :
    ∃ tokens, tokenize "\"a\" not in Header.B or !(Path == \"/\")" = .ok tokens ∧
      ∃ body t, tokens.map Placed.token = body ++ [.eof] ∧ Derives .disjunction body t ∧
        t.depth ≤ maxDepth ∧
        t.Denotes (.or (.contains (.header ⟨"b"⟩ none) "a" true)
          (.not (.compare .path .eq (.str "/")))) := by
  have h : tokenize "\"a\" not in Header.B or !(Path == \"/\")" =
      .ok [⟨.str "a", 0⟩, ⟨.kwNot, 4⟩, ⟨.kwIn, 8⟩, ⟨.ident "Header", 11⟩, ⟨.dot, 17⟩,
        ⟨.ident "B", 18⟩, ⟨.kwOr, 20⟩, ⟨.kwNot, 23⟩, ⟨.lparen, 24⟩, ⟨.ident "Path", 25⟩,
        ⟨.eq, 30⟩, ⟨.str "/", 33⟩, ⟨.rparen, 36⟩, ⟨.eof, 37⟩] := by cbv
  exact ⟨_, h, (parse_ok_iff h).mp (by cbv)⟩

end ConditionalGateway.Predicate
