import ConditionalGateway.Predicate.Lexer
import ConditionalGateway.Proofs.ExceptLaws
import Mathlib.Logic.Basic

/-!
# What the lexer gives

The tokens of a text end with one end of the input, which stands nowhere else,
and no number starts with a plus sign (`tokenize_lexed`).
-/

namespace ConditionalGateway.Predicate

/-- What the lexer promises of each token before the last one. -/
def Token.Lexed : Token → Prop
  | .eof => False
  | .number _ raw => raw.toList.head? ≠ some '+'
  | _ => True

def Lexed (ts : List Token) : Prop := ∃ body, ts = body ++ [.eof] ∧ ∀ t ∈ body, t.Lexed

theorem Lexed.cons (ht : t.Lexed) (h : Lexed ts) : Lexed (t :: ts) := by
  obtain ⟨body, rfl, hb⟩ := h
  exact ⟨t :: body, rfl, by simpa using ⟨ht, hb⟩⟩

theorem Lexed.tail (h : Lexed (t :: ts)) (ht : t ≠ .eof) : t.Lexed ∧ Lexed ts := by
  obtain ⟨body, he, hb⟩ := h
  cases body with
  | nil => exact absurd (by simpa using (List.cons.inj he).1) ht
  | cons u body =>
    obtain ⟨rfl, rfl⟩ := List.cons.inj he
    exact ⟨hb t (by simp), body, rfl, fun v hv => hb v (by simp [hv])⟩

theorem Lexed.ne_nil (h : Lexed ts) : ts ≠ [] := by
  obtain ⟨body, rfl, -⟩ := h
  simp

theorem Lexed.eof_last (h : Lexed (.eof :: ts)) : ts = [] := by
  obtain ⟨body, he, hb⟩ := h
  cases body with
  | nil => exact (List.cons.inj he).2
  | cons u body =>
    obtain ⟨rfl, -⟩ := List.cons.inj he
    exact (hb .eof (by simp)).elim

theorem ofWord_lexed (word : String) : (Token.ofWord word).Lexed := by
  unfold Token.ofWord
  split <;> trivial

theorem numberText_head (hc : Unicode.isAsciiDigit c = true ∨ c = '-') :
    (numberText afterDot (c :: rest)).head? = some c := by
  by_cases sign : c = '-'
  · subst sign; simp [numberText]
  · have digit : Unicode.isAsciiDigit c = true := hc.resolve_right sign
    simp [numberText, sign, digit]

theorem scanNumber_lexed (hc : Unicode.isAsciiDigit c = true ∨ c = '-')
    (h : scanNumber afterDot (c :: rest) = .ok lexeme) : lexeme.token.Lexed := by
  simp only [scanNumber] at h
  split at h
  · obtain rfl := Except.ok.inj h
    have plus : c ≠ '+' := by
      rintro rfl
      exact absurd hc (by decide)
    simpa [Token.Lexed, numberText_head hc] using plus
  · cases h

theorem doubled_lexed (h : doubled c token rest = .ok lexeme) (ht : token.Lexed) :
    lexeme.token.Lexed := by
  unfold doubled at h
  repeat' split at h
  · obtain rfl := Except.ok.inj h
    exact ht
  all_goals cases h

theorem oneOrTwo_lexed (hs : short.Lexed) (hl : long.Lexed) :
    (oneOrTwo second short long rest).token.Lexed := by
  unfold oneOrTwo
  repeat' split
  · exact hl
  all_goals exact hs

theorem stringBody_lexed {scanned : Except ScanError StringBody}
    (h : scanned.map (·.lexeme) = .ok lexeme) : lexeme.token.Lexed := by
  obtain ⟨b, -, rfl⟩ := map_eq_ok.mp h
  trivial

theorem scan_lexed (h : scan afterDot c rest = .ok lexeme) : lexeme.token.Lexed := by
  unfold scan at h
  -- The brackets and the dot are tokens by themselves.
  iterate 5
    rcases ite_eq_iff.1 h with ⟨-, h⟩ | ⟨-, h⟩
    · obtain rfl := Except.ok.inj h
      trivial
  rcases ite_eq_iff.1 h with ⟨-, h⟩ | ⟨-, h⟩
  · exact doubled_lexed h trivial
  iterate 3
    rcases ite_eq_iff.1 h with ⟨-, h⟩ | ⟨-, h⟩
    · obtain rfl := Except.ok.inj h
      exact oneOrTwo_lexed trivial trivial
  iterate 2
    rcases ite_eq_iff.1 h with ⟨-, h⟩ | ⟨-, h⟩
    · exact doubled_lexed h trivial
  iterate 2
    rcases ite_eq_iff.1 h with ⟨-, h⟩ | ⟨-, h⟩
    · exact stringBody_lexed h
  rcases ite_eq_iff.1 h with ⟨hc, h⟩ | ⟨-, h⟩
  · exact scanNumber_lexed (by simpa using hc) h
  rcases ite_eq_iff.1 h with ⟨-, h⟩ | ⟨-, h⟩
  · obtain rfl := Except.ok.inj h
    exact ofWord_lexed _
  · cases h

theorem tokensFrom_lexed (h : tokensFrom afterDot pos cs = .ok tokens) :
    Lexed (tokens.map Placed.token) := by
  fun_induction tokensFrom afterDot pos cs generalizing tokens with
  | case1 afterDot pos =>
    obtain rfl := Except.ok.inj h
    exact ⟨[], rfl, by simp⟩
  | case2 afterDot pos c rest blank ih => exact ih h
  | case3 afterDot pos c rest solid e failed => cases h
  | case4 afterDot pos c rest solid lexeme scanned next =>
    rename_i ih
    obtain ⟨more, hmore, hm⟩ := bind_eq_ok.mp h
    obtain rfl := Except.ok.inj hm
    exact (ih hmore).cons (scan_lexed scanned)

theorem tokenize_lexed {source : String} (h : tokenize source = .ok tokens) :
    Lexed (tokens.map Placed.token) :=
  tokensFrom_lexed h

end ConditionalGateway.Predicate
