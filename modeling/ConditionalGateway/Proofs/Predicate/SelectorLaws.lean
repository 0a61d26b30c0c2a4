import ConditionalGateway.Proofs.Predicate.CursorLaws
import ConditionalGateway.Proofs.Predicate.Grammar

/-!
# Reading literals and selectors

`parseLiteral` and `parseField` accept what the grammar derives, if it denotes
something, and nothing else. A selector is read as far as it goes, so a derived
one is read to its end only where no further step follows.
-/

namespace ConditionalGateway.Predicate

-- ---------------------------------------------------------------------------
-- Literals
-- ---------------------------------------------------------------------------

theorem literal?_eq_some : Token.literal? t = some l ↔ Literal.Derives t l := by
  constructor
  · intro h
    cases t <;> simp only [Token.literal?, Option.some.injEq, reduceCtorEq] at h <;> subst h <;>
      constructor
  · rintro (_ | _ | _ | _) <;> rfl

theorem Literal.Derives.ne_eof (h : Literal.Derives t l) : t ≠ .eof := by
  rintro rfl
  cases h

theorem parseLiteral_ok {c d : Cursor} :
    parseLiteral c = .ok (l, d) ↔ Literal.Derives c.peek l ∧ d = c.next := by
  unfold parseLiteral
  rw [← literal?_eq_some]
  cases c.peek.literal? <;> simp [eq_comm]

-- ---------------------------------------------------------------------------
-- Indices
-- ---------------------------------------------------------------------------

theorem readNat?_of_unsigned {cs : List Char} (hp : cs.head? ≠ some '+') :
    Decimal.readNat? last cs =
      if cs.isEmpty || !cs.all Unicode.isAsciiDigit then none
      else if Decimal.natOfDigits cs ≤ last then some (Decimal.natOfDigits cs) else none := by
  unfold Decimal.readNat?
  split
  · simp at hp
  · rfl

/-- Without a plus sign in front, what reads as a number up to the largest index is the plain
spelling of an index. -/
theorem readNat?_eq_some (hp : raw.toList.head? ≠ some '+') :
    Decimal.readNat? maxIndex raw.toList = some n ↔ PlainIndex raw n := by
  rw [readNat?_of_unsigned hp]
  constructor
  · intro h
    split at h
    · cases h
    · rename_i hd
      split at h
      · rename_i hb
        obtain rfl := Option.some.inj h
        simp only [Bool.or_eq_true, not_or, Bool.not_eq_true, Bool.not_eq_false',
          List.isEmpty_eq_false_iff, List.all_eq_true] at hd
        exact ⟨hd.1, hd.2, rfl, Nat.lt_succ_of_le hb⟩
      · cases h
  · rintro ⟨h0, hd, rfl, hb⟩
    have all : raw.toList.all Unicode.isAsciiDigit = true := List.all_eq_true.mpr hd
    have le : Decimal.natOfDigits raw.toList ≤ maxIndex := Nat.le_of_lt_succ hb
    simp [h0, all, le]

theorem PlainIndex.unsigned (h : PlainIndex raw n) : raw.toList.head? ≠ some '+' := by
  intro hp
  have digit := h.digits '+' (List.mem_of_mem_head? hp)
  exact absurd digit (by decide)

theorem parseIndex_ok {c : Cursor} (hp : raw.toList.head? ≠ some '+') :
    parseIndex c raw = .ok n ↔ PlainIndex raw n := by
  rw [← readNat?_eq_some hp]
  unfold parseIndex
  cases Decimal.readNat? maxIndex raw.toList <;> simp

-- ---------------------------------------------------------------------------
-- Steps
-- ---------------------------------------------------------------------------

theorem parseDotted_sound {c d : Cursor} (hc : Lexed c.tokens) (h : parseDotted c = .ok (s, d)) :
    ∃ ts step, Step.Derives (.dot :: ts) step ∧ step.Denotes s ∧ c.Reads ts d ∧ Lexed d.tokens := by
  unfold parseDotted at h
  split at h
  · rename_i name hp
    cases h
    obtain ⟨hr, -, hl⟩ := Cursor.reads_next hc hp (by simp)
    exact ⟨_, _, .name name, .name name, hr, hl⟩
  · rename_i x raw hp
    obtain ⟨n, hn, h⟩ := bind_eq_ok.mp h
    cases h
    obtain ⟨hr, ht, hl⟩ := Cursor.reads_next hc hp (by simp)
    exact ⟨_, _, .dotIndex x raw, .index ((parseIndex_ok ht).mp hn), hr, hl⟩
  · cases h

theorem parseBracketed_sound {c d : Cursor} (hc : Lexed c.tokens)
    (h : parseBracketed c = .ok (s, d)) :
    ∃ ts step, Step.Derives (.lbracket :: ts) step ∧ step.Denotes s ∧ c.Reads ts d ∧
      Lexed d.tokens := by
  unfold parseBracketed at h
  obtain ⟨s', hs, h⟩ := bind_eq_ok.mp h
  obtain ⟨d', hd, h⟩ := bind_eq_ok.mp h
  cases h
  obtain ⟨hb, rfl⟩ := Cursor.expect_ok.mp hd
  rw [isRbracket_iff] at hb
  unfold parseKey at hs
  split at hs
  · rename_i key hp
    cases hs
    obtain ⟨hr, -, hl⟩ := Cursor.reads_next hc hp (by simp)
    obtain ⟨hr', -, hl'⟩ := Cursor.reads_next hl hb (by simp)
    exact ⟨_, _, .key key, .key key, hr.append hr', hl'⟩
  · rename_i x raw hp
    obtain ⟨n, hn, hs⟩ := bind_eq_ok.mp hs
    cases hs
    obtain ⟨hr, ht, hl⟩ := Cursor.reads_next hc hp (by simp)
    obtain ⟨hr', -, hl'⟩ := Cursor.reads_next hl hb (by simp)
    exact ⟨_, _, .index x raw, .index ((parseIndex_ok ht).mp hn), hr.append hr', hl'⟩
  · cases hs

theorem parseSegment?_sound {c d : Cursor} (hc : Lexed c.tokens)
    (h : parseSegment? c = some (.ok (s, d))) :
    ∃ ts step, Step.Derives ts step ∧ step.Denotes s ∧ c.Reads ts d ∧ Lexed d.tokens := by
  unfold parseSegment? at h
  split at h
  · rename_i hp
    obtain ⟨hr, -, hl⟩ := Cursor.reads_next hc hp (by simp)
    obtain ⟨ts, step, hd, hs, hr', hl'⟩ := parseDotted_sound hl (Option.some.inj h)
    exact ⟨_, step, hd, hs, hr.append hr', hl'⟩
  · rename_i hp
    obtain ⟨hr, -, hl⟩ := Cursor.reads_next hc hp (by simp)
    obtain ⟨ts, step, hd, hs, hr', hl'⟩ := parseBracketed_sound hl (Option.some.inj h)
    exact ⟨_, step, hd, hs, hr.append hr', hl'⟩
  · cases h

theorem parseSegment?_complete {c d : Cursor} (h : Step.Derives ts step) (hs : step.Denotes s)
    (hr : c.Reads ts d) : parseSegment? c = some (.ok (s, d)) := by
  cases h with
  | name text =>
    obtain ⟨h1, hr⟩ := hr.cons
    obtain ⟨h2, rfl⟩ := hr.single
    cases hs
    simp [parseSegment?, h1, parseDotted, h2]
  | dotIndex x raw =>
    obtain ⟨h1, hr⟩ := hr.cons
    obtain ⟨h2, rfl⟩ := hr.single
    cases hs with
    | index hn =>
      have hn := (parseIndex_ok (c := c.next) hn.unsigned).mpr hn
      simp [parseSegment?, h1, parseDotted, h2, hn, bind, Except.bind]
  | key text =>
    obtain ⟨h1, hr⟩ := hr.cons
    obtain ⟨h2, hr⟩ := hr.cons
    obtain ⟨h3, rfl⟩ := hr.single
    cases hs
    have hb : c.next.next.expect .closeBracket Token.isRbracket = .ok c.next.next.next :=
      Cursor.expect_ok.mpr ⟨isRbracket_iff.mpr h3, rfl⟩
    simp [parseSegment?, h1, parseBracketed, parseKey, h2, hb, bind, Except.bind]
  | index x raw =>
    obtain ⟨h1, hr⟩ := hr.cons
    obtain ⟨h2, hr⟩ := hr.cons
    obtain ⟨h3, rfl⟩ := hr.single
    cases hs with
    | index hn =>
      have hn := (parseIndex_ok (c := c.next) hn.unsigned).mpr hn
      have hb : c.next.next.expect .closeBracket Token.isRbracket = .ok c.next.next.next :=
        Cursor.expect_ok.mpr ⟨isRbracket_iff.mpr h3, rfl⟩
      simp [parseSegment?, h1, parseBracketed, parseKey, h2, hn, hb, bind, Except.bind]

-- ---------------------------------------------------------------------------
-- Selectors
-- ---------------------------------------------------------------------------

/-- A token with which no step of a selector begins. -/
def Token.EndsSelector (t : Token) : Prop := t ≠ .dot ∧ t ≠ .lbracket

theorem parseSegment?_eq_none {c : Cursor} (h : c.peek.EndsSelector) : parseSegment? c = none := by
  unfold parseSegment?
  split
  · exact absurd ‹_› h.1
  · exact absurd ‹_› h.2
  · rfl

theorem Step.Derives.ne_nil (h : Step.Derives ts step) : ts ≠ [] := by cases h <;> simp

theorem parseSegments_sound {c d : Cursor} (hc : Lexed c.tokens)
    (h : parseSegments c = .ok (ss, d)) :
    ∃ ts steps, StepsDerive ts steps ∧ List.Forall₂ Step.Denotes steps ss ∧ c.Reads ts d ∧
      Lexed d.tokens := by
  fun_induction parseSegments c generalizing ss d with
  | case1 c none =>
    cases h
    exact ⟨[], [], .nil, .nil, .refl c, hc⟩
  | case2 => cases h
  | case3 => cases h
  | case4 c s after one shorter ss' d' more ih =>
    cases h
    obtain ⟨ts, step, hd, hs, hr, hl⟩ := parseSegment?_sound hc one
    obtain ⟨us, steps, hds, hss, hrs, hls⟩ := ih hl more
    exact ⟨ts ++ us, step :: steps, .cons hd hds, .cons hs hss, hr.append hrs, hls⟩
  | case5 c s after one stuck =>
    obtain ⟨ts, step, hd, hs, hr, hl⟩ := parseSegment?_sound hc one
    exact absurd (hr.shorter hd.ne_nil) stuck

theorem parseSegments_complete {c d : Cursor} (h : StepsDerive ts steps)
    (hs : List.Forall₂ Step.Denotes steps ss) (hr : c.Reads ts d) (hd : d.peek.EndsSelector) :
    parseSegments c = .ok (ss, d) := by
  induction h generalizing c ss with
  | nil =>
    cases hs
    obtain rfl := Cursor.reads_nil.mp hr
    rw [parseSegments, parseSegment?_eq_none hd]
  | cons h1 h2 ih =>
    cases hs with
    | cons hs1 hs2 =>
      obtain ⟨m, hr1, hr2⟩ := Cursor.reads_append.mp hr
      rw [parseSegments, parseSegment?_complete h1 hs1 hr1]
      simp [hr1.shorter h1.ne_nil, ih hs2 hr2]

theorem parseField_sound {c d : Cursor} (hc : Lexed c.tokens) (h : parseField c = .ok (f, d)) :
    ∃ ts s, Selector.Derives ts s ∧ s.Denotes f ∧ c.Reads ts d ∧ Lexed d.tokens := by
  unfold parseField at h
  split at h
  · rename_i root hp
    obtain ⟨⟨ss, m⟩, hss, h⟩ := bind_eq_ok.mp h
    obtain ⟨hr, -, hl⟩ := Cursor.reads_next hc hp (by simp)
    obtain ⟨ts, steps, hd, hs, hr', hl'⟩ := parseSegments_sound hl hss
    simp only at h
    split at h
    · rename_i f' hf
      cases h
      exact ⟨_, _, .mk root hd, ⟨ss, hs, hf⟩, hr.append hr', hl'⟩
    · cases h
  · cases h

theorem parseField_complete {c d : Cursor} (h : Selector.Derives ts s) (hf : s.Denotes f)
    (hr : c.Reads ts d) (hd : d.peek.EndsSelector) : parseField c = .ok (f, d) := by
  cases h with
  | mk root h =>
    obtain ⟨ss, hs, hf⟩ := hf
    obtain ⟨hp, hr⟩ := hr.cons
    simp [parseField, hp, parseSegments_complete h hs hr hd, hf, bind, Except.bind]

theorem Selector.Derives.head (h : Selector.Derives ts s) : ts.head? = some (.ident s.root) := by
  cases h
  rfl

end ConditionalGateway.Predicate
