import ConditionalGateway.Proofs.Predicate.TokenLaws
import ConditionalGateway.Predicate.Parser

/-!
# What lies between two cursors

`c.Reads ts d` says that the tokens `ts` lie between the cursors `c` and `d`.
Rows of tokens are put together and taken apart as lists are, and a parser that
looks at a token and goes on has read it, as long as it is not the end of the
input.
-/

namespace ConditionalGateway.Predicate

def Cursor.tokens (c : Cursor) : List Token := c.rest.map Placed.token

def Cursor.Reads (c : Cursor) (ts : List Token) (d : Cursor) : Prop :=
  ∃ ps : List Placed, ps.map Placed.token = ts ∧ c = ⟨ps ++ d.rest, d.last⟩

theorem Cursor.reads_nil {c d : Cursor} : c.Reads [] d ↔ c = d := by
  constructor
  · rintro ⟨ps, hp, rfl⟩
    obtain rfl : ps = [] := by simpa using hp
    rfl
  · rintro rfl
    exact ⟨[], rfl, rfl⟩

theorem Cursor.Reads.refl (c : Cursor) : c.Reads [] c := Cursor.reads_nil.mpr rfl

theorem Cursor.reads_append {c d : Cursor} :
    c.Reads (ts ++ us) d ↔ ∃ m : Cursor, c.Reads ts m ∧ m.Reads us d := by
  constructor
  · rintro ⟨ps, hp, rfl⟩
    obtain ⟨ps, qs, rfl, hp, hq⟩ := List.map_eq_append_iff.mp hp
    exact ⟨⟨qs ++ d.rest, d.last⟩, ⟨ps, hp, by simp⟩, ⟨qs, hq, rfl⟩⟩
  · rintro ⟨m, ⟨ps, hp, rfl⟩, ⟨qs, hq, rfl⟩⟩
    exact ⟨ps ++ qs, by simp [hp, hq], by simp⟩

theorem Cursor.Reads.append {c m d : Cursor} (h : c.Reads ts m) (h' : m.Reads us d) :
    c.Reads (ts ++ us) d :=
  Cursor.reads_append.mpr ⟨m, h, h'⟩

theorem Cursor.Reads.cons {c d : Cursor} (h : c.Reads (t :: ts) d) :
    c.peek = t ∧ c.next.Reads ts d := by
  obtain ⟨ps, hp, rfl⟩ := h
  obtain ⟨p, qs, rfl, rfl, hq⟩ := List.map_eq_cons_iff.mp hp
  exact ⟨rfl, qs, hq, rfl⟩

theorem Cursor.Reads.single {c d : Cursor} (h : c.Reads [t] d) : c.peek = t ∧ d = c.next := by
  obtain ⟨hp, hn⟩ := h.cons
  exact ⟨hp, (Cursor.reads_nil.mp hn).symm⟩

theorem Cursor.Reads.length {c d : Cursor} (h : c.Reads ts d) :
    c.rest.length = ts.length + d.rest.length := by
  obtain ⟨ps, rfl, rfl⟩ := h
  simp

theorem Cursor.Reads.shorter {c d : Cursor} (h : c.Reads ts d) (hts : ts ≠ []) :
    d.rest.length < c.rest.length := by
  have := h.length
  have := List.length_pos_iff.mpr hts
  omega

theorem Cursor.Reads.tokens {c d : Cursor} (h : c.Reads ts d) : c.tokens = ts ++ d.tokens := by
  obtain ⟨ps, rfl, rfl⟩ := h
  simp [Cursor.tokens]

theorem Cursor.tokens_eq_cons {c : Cursor} (hc : Lexed c.tokens) :
    c.tokens = c.peek :: c.next.tokens := by
  obtain ⟨rest, last⟩ := c
  cases rest with
  | nil => exact absurd rfl hc.ne_nil
  | cons p rest => rfl

theorem Cursor.reads_next {c : Cursor} (hc : Lexed c.tokens) (hp : c.peek = t) (ht : t ≠ .eof) :
    c.Reads [t] c.next ∧ t.Lexed ∧ Lexed c.next.tokens := by
  subst hp
  obtain ⟨rest, last⟩ := c
  cases rest with
  | nil => exact absurd rfl hc.ne_nil
  | cons p rest => exact ⟨⟨[p], rfl, rfl⟩, hc.tail ht⟩

theorem Cursor.peekAt_succ (c : Cursor) (n : Nat) : c.peekAt (n + 1) = c.next.peekAt n := by
  simp [Cursor.peekAt, Cursor.next]

theorem Cursor.expect_ok {c d : Cursor} :
    c.expect expected is = .ok d ↔ is c.peek = true ∧ d = c.next := by
  unfold Cursor.expect
  split
  · rename_i h
    exact ⟨fun e => ⟨h, (Except.ok.inj e).symm⟩, fun ⟨_, e⟩ => e ▸ rfl⟩
  · rename_i h
    exact ⟨fun e => (nomatch e), fun ⟨e, _⟩ => absurd e h⟩

-- ---------------------------------------------------------------------------
-- Tests on tokens
-- ---------------------------------------------------------------------------

theorem isIn_iff : Token.isIn t = true ↔ t = .kwIn := by cases t <;> simp [Token.isIn]

theorem isNot_iff : Token.isNot t = true ↔ t = .kwNot := by cases t <;> simp [Token.isNot]

theorem isAnd_iff : Token.isAnd t = true ↔ t = .kwAnd := by cases t <;> simp [Token.isAnd]

theorem isOr_iff : Token.isOr t = true ↔ t = .kwOr := by cases t <;> simp [Token.isOr]

theorem isRparen_iff : Token.isRparen t = true ↔ t = .rparen := by
  cases t <;> simp [Token.isRparen]

theorem isRbracket_iff : Token.isRbracket t = true ↔ t = .rbracket := by
  cases t <;> simp [Token.isRbracket]

theorem isEmptyWord_iff : Token.isEmptyWord t = true ↔ t = .kwEmpty := by
  cases t <;> simp [Token.isEmptyWord]

theorem isEof_iff : Token.isEof t = true ↔ t = .eof := by cases t <;> simp [Token.isEof]

end ConditionalGateway.Predicate
