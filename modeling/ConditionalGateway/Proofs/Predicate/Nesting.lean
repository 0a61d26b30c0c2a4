import ConditionalGateway.Proofs.Predicate.Parsing

/-!
# Expressions that nest too deep

The parser stops at a tree that nests deeper than it may, and for no other
reason if the tree denotes an expression (`Derives.refuses`). So all trees of
some tokens that denote an expression nest equally deep (`Derives.depth_unique`).
-/

namespace ConditionalGateway.Predicate

section
variable {isJoint : Token → Bool} {join : Expr → Expr → Expr} {operand : ExprReader}
  {c m : Cursor}

theorem parseRow_error (ho : operand c = .error err) :
    parseRow isJoint join operand c = .error err := by
  simp [parseRow, ho, bind, Except.bind]

theorem parseRowTail_error (hj : isJoint m.peek = true) (ho : operand m.next = .error err) :
    parseRowTail isJoint join operand x m = .error err := by
  rw [parseRowTail]
  simp [hj, ho]

end

/-- From `c` the parser finds too many groups and negations inside each other. -/
def Refuses (rank : Rank) (n : Nat) (c : Cursor) : Prop :=
  match rank with
  | .disjunction => parseDisjunction (parseUnary n) c = .error (.tooDeep maxDepth)
  | .conjunction => parseRow Token.isAnd .and (parseUnary n) c = .error (.tooDeep maxDepth)
  | .unary => parseUnary n c = .error (.tooDeep maxDepth)
  | .primary => parseUnary n c = .error (.tooDeep maxDepth)

theorem Derives.refuses {c d : Cursor} (h : Derives rank ts t) (hn : n < t.depth)
    (he : t.Denotes e) (hr : c.Reads ts d) (hd : rank.Follow d.peek) : Refuses rank n c := by
  -- of a row, the part on the left is read first; what it leaves is read if it fits
  induction h generalizing n e c d with
  | conjunction h ih => exact parseRow_error (ih hn he hr (.inr hd))
  | @or _ a us b ha hb iha ihb =>
    cases he with
    | or hx hy =>
      obtain ⟨m, hrm, hr⟩ := Cursor.reads_append.mp hr
      obtain ⟨hp, hrd⟩ := hr.cons
      by_cases hna : n < a.depth
      · exact iha hna hx hrm (.inl hp)
      · have hnb : n < b.depth := (lt_max_iff.mp hn).resolve_left hna
        have hx := ha.accepts (Nat.le_of_not_lt hna) hx hrm (.inl hp)
        exact hx.trans (parseRowTail_error (isOr_iff.mpr hp) (ihb hnb hy hrd (.inr hd)))
  | unary h ih => exact parseRow_error (ih hn he hr hd)
  | @and _ a us b ha hb iha ihb =>
    cases he with
    | and hx hy =>
      obtain ⟨m, hrm, hr⟩ := Cursor.reads_append.mp hr
      obtain ⟨hp, hrd⟩ := hr.cons
      by_cases hna : n < a.depth
      · exact iha hna hx hrm (.inl hp)
      · have hnb : n < b.depth := (lt_max_iff.mp hn).resolve_left hna
        have hx := ha.accepts (Nat.le_of_not_lt hna) hx hrm (.inl hp)
        exact hx.trans (parseRowTail_error (isAnd_iff.mpr hp) (ihb hnb hy hrd hd))
  | primary h ih => exact ih hn he hr hd
  | not h ih =>
    cases he with
    | not hx =>
      obtain ⟨hp, hr⟩ := hr.cons
      cases n with
      | zero => simp [Refuses, parseUnary, hp]
      | succ n =>
        have hx : parseUnary n c.next = _ := ih (Nat.lt_of_succ_lt_succ hn) hx hr hd
        simp [Refuses, parseUnary, hp, hx, bind, Except.bind]
  | group h ih =>
    cases he with
    | group hx =>
      obtain ⟨hp, hr⟩ := hr.cons
      obtain ⟨m, hrm, hr⟩ := Cursor.reads_append.mp hr
      obtain ⟨hb, rfl⟩ := hr.single
      cases n with
      | zero => simp [Refuses, parseUnary, hp]
      | succ n =>
        have hx : parseDisjunction (parseUnary n) c.next = _ :=
          ih (Nat.lt_of_succ_lt_succ hn) hx hrm (.inr (.inl hb))
        simp [Refuses, parseUnary, hp, hx, bind, Except.bind]
  | true => cases hn
  | false => cases hn
  | condition h => cases hn

-- ---------------------------------------------------------------------------
-- Whole expressions
-- ---------------------------------------------------------------------------

theorem exists_reads (body : List Token) :
    ∃ c d : Cursor, c.Reads body d ∧ d.peek = .eof :=
  ⟨⟨body.map (⟨·, 0⟩) ++ [⟨.eof, 0⟩], ⟨.eof, 0⟩⟩, ⟨[⟨.eof, 0⟩], ⟨.eof, 0⟩⟩,
    ⟨body.map (⟨·, 0⟩), by simp [Function.comp_def], rfl⟩, rfl⟩

theorem Derives.depth_le (h : Derives .disjunction body t) (he : t.Denotes e)
    (h' : Derives .disjunction body t') (he' : t'.Denotes e') : t'.depth ≤ t.depth := by
  obtain ⟨c, d, hr, hp⟩ := exists_reads body
  have hd : Rank.Follow .disjunction d.peek := .inr (.inr hp)
  by_contra hlt
  have hok := (h.accepts le_rfl he hr hd).disjunction_end (by simp [hp])
  have hbad : parseDisjunction (parseUnary t.depth) c = .error (.tooDeep maxDepth) :=
    h'.refuses (Nat.lt_of_not_le hlt) he' hr hd
  cases hok.symm.trans hbad

/-- The trees of some tokens that denote an expression nest equally deep. -/
theorem Derives.depth_unique (h : Derives .disjunction body t) (he : t.Denotes e)
    (h' : Derives .disjunction body t') (he' : t'.Denotes e') : t.depth = t'.depth :=
  le_antisymm (h'.depth_le he' h he) (h.depth_le he h' he')

theorem parse_tooDeep (hb : tokens.map Placed.token = body ++ [.eof])
    (h : Derives .disjunction body t) (hn : maxDepth < t.depth) (he : t.Denotes e) :
    parse tokens = .error (.tooDeep maxDepth) := by
  obtain ⟨ps, qs, rfl, rfl, hqs⟩ := List.map_eq_append_iff.mp hb
  obtain ⟨q, rfl, hq⟩ := List.map_eq_singleton_iff.mp hqs
  generalize hc : Cursor.ofTokens (ps ++ [q]) = c
  have hr : c.Reads (ps.map Placed.token) ⟨[q], c.last⟩ := ⟨ps, rfl, hc ▸ rfl⟩
  have hx : parseDisjunction (parseUnary maxDepth) c = .error (.tooDeep maxDepth) :=
    h.refuses hn he hr (.inr (.inr hq))
  have hne : c.peek.isEof = false := by
    rw [← Bool.not_eq_true, isEof_iff]
    intro he
    simp [parseDisjunction, parseRow, parseUnary_eof he, Cursor.unexpected, bind, Except.bind] at hx
  simp [parse, hc, hne, hx, bind, Except.bind]

end ConditionalGateway.Predicate
