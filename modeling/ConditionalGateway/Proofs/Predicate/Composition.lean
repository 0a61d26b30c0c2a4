import ConditionalGateway.Predicate.Basic
import ConditionalGateway.Proofs.Predicate.LexingLaws
import ConditionalGateway.Proofs.Predicate.Nesting

/-!
# Predicates from predicates

Sources of predicates can be put together as they stand
(`compile_compositional`): in parentheses they keep their expressions, and the
whole is refused only if a part already nests to the limit. Without parentheses
a disjunction is put together anew, from the left, and means the same.
-/

namespace ConditionalGateway.Predicate

/-- A source with its tokens, a tree of them, and what the tree denotes. -/
structure Reading (source : String) (body : List Token) (t : Tree) (e : Expr) : Prop where
  lexes : ∃ dot, Lexes false source.toList body dot []
  derives : Derives .disjunction body t
  denotes : t.Denotes e

/-- A source is an expression in which groups and negations lie `n` deep inside each other. -/
def Nests (source : String) (n : Nat) : Prop := ∃ body t e, Reading source body t e ∧ t.depth = n

/-- A source is no longer than that of a predicate may be. -/
def Fits (source : String) : Prop := source.utf8ByteSize ≤ maxSourceLength

-- ---------------------------------------------------------------------------
-- Readings
-- ---------------------------------------------------------------------------

theorem Reading.of_compile {source : String} (h : compile source = .ok p) :
    ∃ body t, Reading source body t p.root ∧ t.depth ≤ maxDepth := by
  unfold compile at h
  split at h
  · cases h
  · obtain ⟨tokens, ht, h⟩ := bind_eq_ok.mp h
    obtain ⟨e, he, h⟩ := bind_eq_ok.mp h
    cases h
    obtain ⟨body, t, hb, hd, hn, he⟩ := parse_sound (tokenize_lexed ht) he
    exact ⟨body, t, ⟨tokenize_ok_iff.mp ⟨tokens, ht, hb⟩, hd, he⟩, hn⟩

theorem Reading.compile_eq {source : String} (h : Reading source body t e) (hs : Fits source) :
    compile source =
      if t.depth ≤ maxDepth then .ok ⟨source, e⟩ else .error (.tooDeep maxDepth) := by
  obtain ⟨tokens, ht, hb⟩ := tokenize_ok_iff.mpr h.lexes
  unfold compile
  rw [if_neg (Nat.not_lt.mpr hs), ht]
  split
  · rename_i hn
    have hp := parse_complete hb h.derives hn h.denotes
    simp [hp, bind, Except.bind]
  · rename_i hn
    have hp := parse_tooDeep hb h.derives (Nat.lt_of_not_le hn) h.denotes
    simp [hp, bind, Except.bind]

theorem Reading.nests_iff {source : String} (h : Reading source body t e) :
    Nests source n ↔ n = t.depth := by
  constructor
  · rintro ⟨body', t', e', h', rfl⟩
    obtain ⟨tokens, ht, hb⟩ := tokenize_ok_iff.mpr h.lexes
    obtain ⟨tokens', ht', hb'⟩ := tokenize_ok_iff.mpr h'.lexes
    cases ht.symm.trans ht'
    cases List.append_cancel_right (hb.symm.trans hb')
    exact h'.derives.depth_unique h'.denotes h.derives h.denotes
  · rintro rfl
    exact ⟨body, t, e, h, rfl⟩

-- ---------------------------------------------------------------------------
-- Tokens at the seams
-- ---------------------------------------------------------------------------

theorem Lexes.lparen (h : Lexes false cs ts dot' rest) :
    Lexes dot ('(' :: cs) (.lparen :: ts) dot' rest := by
  have hs : scan dot '(' cs = .ok ⟨.lparen, 1⟩ := rfl
  exact .token (by decide) hs h

theorem Lexes.rparen (h : Lexes false cs ts dot' rest) :
    Lexes dot (')' :: cs) (.rparen :: ts) dot' rest := by
  have hs : scan dot ')' cs = .ok ⟨.rparen, 1⟩ := rfl
  exact .token (by decide) hs h

theorem Lexes.space (h : Lexes dot cs ts dot' rest) : Lexes dot (' ' :: cs) ts dot' rest :=
  .blank (by decide) h

theorem Lexes.and (h : Lexes false cs ts dot' rest) :
    Lexes dot ('a' :: 'n' :: 'd' :: ' ' :: cs) (.kwAnd :: ts) dot' rest := by
  have hs : scan dot 'a' ('n' :: 'd' :: ' ' :: cs) = .ok ⟨.kwAnd, 3⟩ := rfl
  exact .token (by decide) hs h.space

theorem Lexes.or (h : Lexes false cs ts dot' rest) :
    Lexes dot ('o' :: 'r' :: ' ' :: cs) (.kwOr :: ts) dot' rest := by
  have hs : scan dot 'o' ('r' :: ' ' :: cs) = .ok ⟨.kwOr, 2⟩ := rfl
  exact .token (by decide) hs h.space

theorem Lexes.not (h : Lexes false cs ts dot' rest) :
    Lexes dot ('n' :: 'o' :: 't' :: ' ' :: cs) (.kwNot :: ts) dot' rest := by
  have hs : scan dot 'n' ('o' :: 't' :: ' ' :: cs) = .ok ⟨.kwNot, 3⟩ := rfl
  exact .token (by decide) hs h.space

theorem Lexes.closed (h : Lexes dot cs ts dot' []) :
    Lexes dot (cs ++ [')']) (ts ++ [.rparen]) false [] :=
  (h.before (.close [])).trans (Lexes.rparen (.done false []))

-- ---------------------------------------------------------------------------
-- Combined sources
-- ---------------------------------------------------------------------------

section
variable {a b seam : String} {ts us : List Token} {s t : Tree} {x y : Expr} {joint : Token}
  {node : Tree → Tree → Tree} {join : Expr → Expr → Expr}

/-- How a word between two groups is read. The seam has the parentheses around it. -/
structure Seam (seam : String) (joint : Token) (node : Tree → Tree → Tree)
    (join : Expr → Expr → Expr) : Prop where
  delimits : ∀ cs, Delimits (seam.toList ++ cs)
  lexes : ∀ dot cs us dot', Lexes false cs us dot' [] →
    Lexes dot (seam.toList ++ cs) (.rparen :: joint :: .lparen :: us) dot' []
  derives : ∀ ts us s t, Derives .unary ts s → Derives .unary us t →
    Derives .disjunction (ts ++ joint :: us) (node s t)
  denotes : ∀ s t x y, s.Denotes x → t.Denotes y → (node s t).Denotes (join x y)

theorem andSeam : Seam ") and (" .kwAnd .and .and where
  delimits _ := .close _
  lexes _ _ _ _ h := h.lparen.and.space.rparen
  derives _ _ _ _ hs ht := .conjunction (.and (.unary hs) ht)
  denotes _ _ _ _ := .and

theorem orSeam : Seam ") or (" .kwOr .or .or where
  delimits _ := .close _
  lexes _ _ _ _ h := h.lparen.or.space.rparen
  derives _ _ _ _ hs ht := .or (.conjunction (.unary hs)) (.unary ht)
  denotes _ _ _ _ := .or

theorem Reading.joined (rule : Seam seam joint node join) (ha : Reading a ts s x)
    (hb : Reading b us t y) :
    Reading ("(" ++ a ++ seam ++ b ++ ")")
      ((.lparen :: ts ++ [.rparen]) ++ joint :: (.lparen :: us ++ [.rparen]))
      (node (.group s) (.group t)) (join x y) := by
  obtain ⟨_, hla⟩ := ha.lexes
  obtain ⟨_, hlb⟩ := hb.lexes
  refine ⟨⟨false, ?_⟩, ?_, rule.denotes _ _ _ _ (.group ha.denotes) (.group hb.denotes)⟩
  · have hl : Lexes false _ _ _ _ :=
      ((hla.before (rule.delimits _)).trans (rule.lexes _ _ _ _ hlb.closed)).lparen
    simpa [String.toList_append] using hl
  · exact rule.derives _ _ _ _ (.primary (.group ha.derives)) (.primary (.group hb.derives))

theorem Reading.negated (ha : Reading a ts s x) :
    Reading ("not (" ++ a ++ ")") (.kwNot :: (.lparen :: ts ++ [.rparen])) (.not (.group s))
      (.not x) := by
  obtain ⟨_, hla⟩ := ha.lexes
  refine ⟨⟨false, ?_⟩, ?_, .not (.group ha.denotes)⟩
  · have hl : Lexes false _ _ _ _ := hla.closed.lparen.not
    simpa [String.toList_append] using hl
  · exact .conjunction (.unary (.not (.primary (.group ha.derives))))

-- ---------------------------------------------------------------------------
-- Disjunctions without parentheses
-- ---------------------------------------------------------------------------

theorem Expr.eval_or_assoc (x y z : Expr) (r : Http.Request) :
    (Expr.or (.or x y) z).eval r = (Expr.or x (.or y z)).eval r := by
  simp only [Expr.eval]
  cases x.eval r with
  | error err => rfl
  | ok v => cases v <;> rfl

theorem Expr.eval_or_congr {e : Expr} (h : e.eval r = x.eval r) (y : Expr) :
    (Expr.or e y).eval r = (Expr.or x y).eval r := by
  simp only [Expr.eval, h]

/-- Two rows of alternatives make one row, which leans to the left as a whole. -/
theorem Derives.append (ha : Derives .disjunction ts s) (hx : s.Denotes x)
    (hb : Derives .disjunction us t) (hy : t.Denotes y) :
    ∃ t' e, Derives .disjunction (ts ++ .kwOr :: us) t' ∧ t'.Denotes e ∧
      t'.depth = max s.depth t.depth ∧ ∀ r, e.eval r = (Expr.or x y).eval r := by
  generalize hrank : Rank.disjunction = rank at hb
  induction hb generalizing y with
  | conjunction hb => exact ⟨.or s _, .or x y, .or ha hb, .or hx hy, rfl, fun _ => rfl⟩
  | @or us₁ t₁ us₂ t₂ hb₁ hb₂ ih =>
    cases hy with
    | @or _ y₁ _ y₂ hy₁ hy₂ =>
      obtain ⟨t', e, hd, he, hn, hv⟩ := ih hy₁ rfl
      refine ⟨.or t' t₂, .or e y₂, ?_, .or he hy₂, ?_, fun r => ?_⟩
      · have := hd.or hb₂
        rwa [List.append_assoc] at this
      · simp only [Tree.depth, hn, max_assoc]
      · rw [Expr.eval_or_congr (hv r), Expr.eval_or_assoc]
  | _ => cases hrank

theorem Reading.either (ha : Reading a ts s x) (hb : Reading b us t y) :
    ∃ t' e, Reading (a ++ " or " ++ b) (ts ++ .kwOr :: us) t' e ∧
      t'.depth = max s.depth t.depth ∧ ∀ r, e.eval r = (Expr.or x y).eval r := by
  obtain ⟨_, hla⟩ := ha.lexes
  obtain ⟨dot, hlb⟩ := hb.lexes
  obtain ⟨t', e, hd, he, hn, hv⟩ := ha.derives.append ha.denotes hb.derives hb.denotes
  refine ⟨t', e, ⟨⟨dot, ?_⟩, hd, he⟩, hn, hv⟩
  have hl := (hla.before (.blank _)).trans hlb.or.space
  simpa [String.toList_append] using hl

end

-- ---------------------------------------------------------------------------
-- Compilation
-- ---------------------------------------------------------------------------

/-- A source that is not too long compiles to `e`, if it is `shallow`; if not, it is too deep, and
nothing else is wrong with it. -/
def CompilesTo (source : String) (e : Expr) (shallow : Prop) [Decidable shallow] : Prop :=
  Fits source → compile source = if shallow then .ok ⟨source, e⟩ else .error (.tooDeep 64)

theorem Reading.compilesTo {source : String} {shallow : Prop} [Decidable shallow]
    (h : Reading source body t e) (hn : t.depth ≤ maxDepth ↔ shallow) :
    CompilesTo source e shallow := by
  intro hs
  rw [h.compile_eq hs]
  simp only [hn]
  rfl

/-- Sources of predicates that nest `m` and `n` deep can be put together. In parentheses they keep
their expressions, and the whole is refused only for being too deep, if a part nests to the limit.
Without parentheses a disjunction is always accepted, and means the same. -/
theorem compile_compositional {a b : String} (ha : compile a = .ok p) (hb : compile b = .ok q) :
    ∃ m n, (∀ k, Nests a k ↔ k = m) ∧ (∀ k, Nests b k ↔ k = n) ∧
      CompilesTo ("(" ++ a ++ ") and (" ++ b ++ ")") (.and p.root q.root) (m ≤ 63 ∧ n ≤ 63) ∧
      CompilesTo ("(" ++ a ++ ") or (" ++ b ++ ")") (.or p.root q.root) (m ≤ 63 ∧ n ≤ 63) ∧
      CompilesTo ("not (" ++ a ++ ")") (.not p.root) (m ≤ 62) ∧
      (Fits (a ++ " or " ++ b) → ∃ c, compile (a ++ " or " ++ b) = .ok c ∧ ∀ r,
        c.evaluate r = (Expr.or p.root q.root).eval r ∧
          c.evaluate r = match p.evaluate r with
            | .ok false => q.evaluate r
            | result => result) := by
  obtain ⟨ts, s, hs, hsn⟩ := Reading.of_compile ha
  obtain ⟨us, t, ht, htn⟩ := Reading.of_compile hb
  have hdeep : maxDepth = 64 := rfl
  refine ⟨s.depth, t.depth, fun k => hs.nests_iff, fun k => ht.nests_iff,
    (hs.joined andSeam ht).compilesTo ?_, (hs.joined orSeam ht).compilesTo ?_,
    hs.negated.compilesTo ?_, fun hf => ?_⟩
  · simp only [Tree.depth]
    omega
  · simp only [Tree.depth]
    omega
  · simp only [Tree.depth]
    omega
  · obtain ⟨t', e, hr, hn, hv⟩ := hs.either ht
    refine ⟨⟨a ++ " or " ++ b, e⟩, ?_, fun r => ⟨hv r, ?_⟩⟩
    · rw [hr.compile_eq hf, if_pos (by omega)]
    · have hor : evaluate ⟨a ++ " or " ++ b, e⟩ r = (Expr.or p.root q.root).eval r := hv r
      rw [hor]
      simp only [Expr.eval, evaluate]
      cases p.root.eval r with
      | error err => rfl
      | ok v => cases v <;> rfl

theorem compile_compositional_negation :
    ∃ p q, compile "!true" = .ok p ∧ compile "false or Path == \"/\"" = .ok q ∧
      ∃ m, (∀ k, Nests "!true" k ↔ k = m) ∧
        CompilesTo ("not (" ++ "!true" ++ ")") (.not p.root) (m ≤ 62) ∧
        ∃ c, compile ("!true" ++ " or " ++ "false or Path == \"/\"") = .ok c ∧
          ∀ r, c.evaluate r = (Expr.or p.root q.root).eval r := by
  have ha : compile "!true" = .ok ⟨"!true", .not (.const true)⟩ := by cbv
  have hb : compile "false or Path == \"/\"" =
      .ok ⟨"false or Path == \"/\"", .or (.const false) (.compare .path .eq (.str "/"))⟩ := by cbv
  obtain ⟨m, n, hm, -, -, -, hnot, hor⟩ := compile_compositional ha hb
  obtain ⟨c, hc, hr⟩ := hor (by simp only [Fits]; decide)
  exact ⟨_, _, ha, hb, m, hm, hnot, c, hc, fun r => (hr r).1⟩

end ConditionalGateway.Predicate
