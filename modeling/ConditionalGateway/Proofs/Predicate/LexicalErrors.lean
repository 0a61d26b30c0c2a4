import ConditionalGateway.Proofs.Predicate.LexingLaws
import ConditionalGateway.Proofs.Text.ByteLength
import Mathlib

/-!
# Where tokens cannot be read

`CompileError.Fits source e` says that the place of an error is one where the
source has what the error names. An error of the lexer has such a place
(`tokenize_error`): the tokens before it are read, a further one has to start
there, and none can be read (`Stuck`). What each error says beyond that is read
off the branch of `scan` that it comes from (`scan_error`).
-/

namespace ConditionalGateway.Predicate

open Text (byteLength)
open Unicode (isBlank isAsciiDigit)

-- ---------------------------------------------------------------------------
-- Places of errors
-- ---------------------------------------------------------------------------

/-- What can stand behind a quote and before the one that closes it: a backslash takes the character
behind it along, whatever that is. -/
inductive Inside : List Char → Prop
  | nil : Inside []
  | plain : c ≠ '"' → c ≠ '\\' → Inside body → Inside (c :: body)
  | escape (c : Char) : Inside body → Inside ('\\' :: c :: body)

def Closed (cs : List Char) : Prop := ∃ body rest, Inside body ∧ cs = body ++ '"' :: rest

/-- At an offset, some rest of a text is left. Before it there are tokens, it starts with no blank,
and no token can be read at its start. -/
structure Stuck (source : List Char) (pos : Nat) (rest : List Char) : Prop where
  place : ∃ front, source = front ++ rest ∧ byteLength front = pos
  start : ∀ c ∈ rest.head?, isBlank c = false
  none : ∃ ts dot, Lexes false source ts dot rest ∧
    ∀ w t behind, rest = w ++ behind → ¬Reads dot w t behind

/-- How a token is named in errors: a bad index by its spelling, and all else as it is shown. -/
inductive Names : Expectation → Token → String → Prop
  | shown (t : Token) : expected ≠ .index → Names expected t t.display
  | index (x : Float) (raw : String) : Names .index (.number x raw) raw

/-- The source has at the place of an error what the error names. -/
inductive CompileError.Fits (source : String) : CompileError → Prop
  | unexpectedChar : Stuck source.toList pos (c :: rest) → Fits source (.unexpectedChar c pos)
  | openQuote : Stuck source.toList pos ('"' :: rest) → ¬Closed rest →
      Fits source (.unterminatedString pos)
  | openRaw : Stuck source.toList pos ('`' :: rest) → '`' ∉ rest →
      Fits source (.unterminatedString pos)
  | invalidEscape : Stuck source.toList pos ('"' :: (body ++ '\\' :: c :: rest)) →
      Escapes body text → c ∉ ['"', '\\', 'n', 't', 'r'] →
      Fits source (.invalidEscape c (pos + byteLength ('"' :: body)))
  | invalidNumber : Stuck source.toList pos ('-' :: rest) →
      (∀ d ∈ rest.head?, isAsciiDigit d = false) → Fits source (.invalidNumber "-" pos)
  | unexpectedToken : tokenize source = .ok ts → t ∈ ts → Names expected t.token found →
      (t.token = .eof → t.pos = source.utf8ByteSize) →
      Fits source (.unexpectedToken expected found t.pos)

-- ---------------------------------------------------------------------------
-- Strings
-- ---------------------------------------------------------------------------

theorem not_closed_nil : ¬Closed [] := by
  rintro ⟨body, rest, -, h⟩
  simp at h

theorem not_closed_backslash : ¬Closed ['\\'] := by
  rintro ⟨body, rest, hb, h⟩
  cases hb with
  | nil => cases h
  | plain _ hc => exact hc (List.cons.inj h).1.symm
  | escape => simp at h

theorem Closed.behind_plain (hq : c ≠ '"') (hb : c ≠ '\\') (h : Closed (c :: cs)) : Closed cs := by
  obtain ⟨body, rest, hi, h⟩ := h
  cases hi with
  | nil => exact absurd (List.cons.inj h).1 hq
  | plain _ _ hi => exact ⟨_, rest, hi, (List.cons.inj h).2⟩
  | escape => exact absurd (List.cons.inj h).1 hb

theorem Closed.behind_escape (h : Closed ('\\' :: c :: cs)) : Closed cs := by
  obtain ⟨body, rest, hi, h⟩ := h
  cases hi with
  | nil => cases h
  | plain _ hc => exact absurd (List.cons.inj h).1.symm hc
  | escape _ hi => exact ⟨_, rest, hi, (List.cons.inj (List.cons.inj h).2).2⟩

theorem unescape?_eq_none (h : unescape? c = none) : c ∉ ['"', '\\', 'n', 't', 'r'] := by
  intro hc
  fin_cases hc <;> cases h

theorem scanQuoted_error (h : scanQuoted offset cs = .error e) :
    (e = .unterminatedString ∧ ¬Closed cs) ∨
      ∃ body text c rest, cs = body ++ '\\' :: c :: rest ∧ Escapes body text ∧
        unescape? c = none ∧ e = .invalidEscape c (offset + byteLength body) := by
  fun_induction scanQuoted offset cs with
  | case1 =>
    cases h
    exact .inl ⟨rfl, not_closed_nil⟩
  | case2 => cases h
  | case3 =>
    cases h
    exact .inl ⟨rfl, not_closed_backslash⟩
  | case4 offset e rest hn =>
    cases h
    exact .inr ⟨[], [], e, rest, rfl, .nil, hn, rfl⟩
  | case5 offset e rest d he _ ih =>
    obtain ⟨rfl, hc⟩ | ⟨body, text, c, rest, rfl, hb, hn, rfl⟩ := ih (map_eq_error.mp h)
    · exact .inl ⟨rfl, mt Closed.behind_escape hc⟩
    · refine .inr ⟨'\\' :: e :: body, d :: text, c, rest, rfl, .escape he hb, hn, ?_⟩
      have hsize : '\\'.utf8Size = 1 := rfl
      rw [Text.byteLength_cons, Text.byteLength_cons, hsize, Nat.add_assoc, Nat.add_assoc]
  | case6 offset c rest hq hb ih =>
    obtain ⟨rfl, hc⟩ | ⟨body, text, e, rest, rfl, hi, hn, rfl⟩ := ih (map_eq_error.mp h)
    · exact .inl ⟨rfl, mt (Closed.behind_plain hq hb) hc⟩
    · refine .inr ⟨c :: body, c :: text, e, rest, rfl, .plain hq hb hi, hn, ?_⟩
      rw [Text.byteLength_cons, Nat.add_assoc]

theorem scanRaw_error (h : scanRaw cs = .error e) : e = .unterminatedString ∧ '`' ∉ cs := by
  induction cs with
  | nil =>
    cases h
    exact ⟨rfl, List.not_mem_nil⟩
  | cons c cs ih =>
    unfold scanRaw at h
    split at h
    · cases h
    · rename_i hc
      obtain ⟨rfl, hm⟩ := ih (map_eq_error.mp h)
      exact ⟨rfl, List.not_mem_cons_of_ne_of_not_mem (Ne.symm hc) hm⟩

-- ---------------------------------------------------------------------------
-- Numbers
-- ---------------------------------------------------------------------------

theorem numeral?_isSome (h : Numeral dot ds rest) (hne : ds ≠ []) :
    (Decimal.numeral? ds).isSome := by
  cases h with
  | whole hr _ =>
    have hd : Runs isAsciiDigit ds [] := ⟨hr.1, nofun⟩
    have ht := hd.takeWhile
    have hn := hd.dropWhile
    rw [List.append_nil] at ht hn
    simp [Decimal.numeral?, ht, hn, hne, Decimal.exponentPart?]
  | @fraction ds e es rest hds hr =>
    have hd : Runs isAsciiDigit ds ('.' :: e :: es) := ⟨hds, by simp; decide⟩
    have he : Runs isAsciiDigit (e :: es) [] := ⟨hr.1, nofun⟩
    have ht := he.takeWhile
    have hn := he.dropWhile
    rw [List.append_nil] at ht hn
    simp [Decimal.numeral?, hd.takeWhile, hd.dropWhile, ht, hn, Decimal.exponentPart?]

theorem readFloat?_isSome {cs : List Char}
    (h : (Decimal.numeral? (Decimal.splitSign cs).2).isSome) : (Decimal.readFloat? cs).isSome := by
  unfold Decimal.readFloat?
  split
  rename_i negative body hs
  rw [hs] at h
  dsimp only
  split
  · rfl
  · split
    · rfl
    · rwa [Option.isSome_map]

theorem splitSign_digit (hc : isAsciiDigit c = true) :
    Decimal.splitSign (c :: cs) = (false, c :: cs) := by
  unfold Decimal.splitSign
  split
  · rename_i h
    cases h
    exact absurd hc (by decide)
  · rename_i h
    cases h
    exact absurd hc (by decide)
  · rfl

theorem Numeral.readFloat?_isSome (hn : Numeral dot (c :: cs) rest) (hc : isAsciiDigit c = true) :
    (Decimal.readFloat? (c :: cs)).isSome := by
  apply Predicate.readFloat?_isSome
  rw [splitSign_digit hc]
  exact numeral?_isSome hn nofun

theorem reads_digits {ds : List Char} (hne : ds ≠ []) (hds : ∀ c ∈ ds, isAsciiDigit c = true) :
    ∃ x, ∀ dot rest, (∀ c ∈ rest.head?, isAsciiDigit c = false) →
      (dot = false → rest.head? ≠ some '.') → Reads dot ds (.number x (.ofList ds)) rest := by
  obtain ⟨d, ds, rfl⟩ := List.exists_cons_of_ne_nil hne
  have hd := hds d List.mem_cons_self
  have hn : ∀ dot rest, (∀ c ∈ rest.head?, isAsciiDigit c = false) →
      (dot = false → rest.head? ≠ some '.') → Numeral dot (d :: ds) rest := by
    intro dot rest hr hp
    refine .whole ⟨hds, hr⟩ ?_
    rintro hdot e rest' rfl
    exact absurd rfl (hp hdot)
  obtain ⟨x, hx⟩ := Option.isSome_iff_exists.mp ((hn true [] nofun nofun).readFloat?_isSome hd)
  exact ⟨x, fun dot rest hr hp => .positive hd (hn dot rest hr hp) hx⟩

theorem readFloat?_unsignedText (hc : isAsciiDigit c = true) (dot : Bool) (cs : List Char) :
    (Decimal.readFloat? (unsignedText dot (c :: cs))).isSome := by
  obtain ⟨rest, -, hn⟩ := numeral_unsignedText dot (c :: cs)
  obtain ⟨ds, hds⟩ : ∃ ds, unsignedText dot (c :: cs) = c :: ds := by simp [unsignedText, hc]
  rw [hds] at hn ⊢
  exact hn.readFloat?_isSome hc

/-- A minus sign is followed by a number, or by no digit. -/
theorem readFloat?_negative (h : Decimal.readFloat? ('-' :: unsignedText dot cs) = none) :
    unsignedText dot cs = [] ∧ ∀ d ∈ cs.head?, isAsciiDigit d = false := by
  obtain ⟨rest, -, hn⟩ := numeral_unsignedText dot cs
  have hnil : unsignedText dot cs = [] := by
    by_contra hne
    exact Option.not_isSome_iff_eq_none.mpr h (readFloat?_isSome (numeral?_isSome hn hne))
  refine ⟨hnil, fun d hd => ?_⟩
  obtain ⟨cs, rfl⟩ := List.head?_eq_some_iff.mp hd
  by_contra hdigit
  simp [unsignedText, hdigit] at hnil

theorem scanNumber_error (hc : isAsciiDigit c = true ∨ c = '-')
    (h : scanNumber dot (c :: cs) = .error e) :
    c = '-' ∧ e = .invalidNumber "-" ∧ ∀ d ∈ cs.head?, isAsciiDigit d = false := by
  cases hn : Decimal.readFloat? (numberText dot (c :: cs)) with
  | some x => simp [scanNumber, hn] at h
  | none =>
    obtain rfl : .invalidNumber (.ofList (numberText dot (c :: cs))) = e := by
      simpa [scanNumber, hn] using h
    rw [numberText_cons] at hn ⊢
    by_cases hs : c = '-'
    · rw [if_pos hs] at hn ⊢
      obtain ⟨hnil, hd⟩ := readFloat?_negative hn
      exact ⟨hs, by rw [hnil], hd⟩
    · rw [if_neg hs] at hn
      have hsome := readFloat?_unsignedText (hc.resolve_right hs) dot cs
      rw [hn] at hsome
      cases hsome

-- ---------------------------------------------------------------------------
-- Tokens
-- ---------------------------------------------------------------------------

theorem doubled_error (h : doubled c token cs = .error e) : e = .unexpectedChar c := by
  unfold doubled at h
  repeat' split at h
  all_goals cases h
  all_goals rfl

theorem scan_error (h : scan dot c cs = .error e) :
    e = .unexpectedChar c ∨ (c = '"' ∧ scanQuoted 1 cs = .error e) ∨
      (c = '`' ∧ scanRaw cs = .error e) ∨
      ((isAsciiDigit c = true ∨ c = '-') ∧ scanNumber dot (c :: cs) = .error e) := by
  unfold scan at h
  -- The brackets and the dot are tokens by themselves.
  iterate 5
    obtain ⟨-, h⟩ | ⟨-, h⟩ := ite_eq_iff.mp h
    · cases h
  obtain ⟨rfl, h⟩ | ⟨-, h⟩ := ite_eq_iff.mp h
  · exact .inl (doubled_error h)
  iterate 3
    obtain ⟨-, h⟩ | ⟨-, h⟩ := ite_eq_iff.mp h
    · cases h
  iterate 2
    obtain ⟨rfl, h⟩ | ⟨-, h⟩ := ite_eq_iff.mp h
    · exact .inl (doubled_error h)
  obtain ⟨rfl, h⟩ | ⟨-, h⟩ := ite_eq_iff.mp h
  · exact .inr (.inl ⟨rfl, map_eq_error.mp h⟩)
  obtain ⟨rfl, h⟩ | ⟨-, h⟩ := ite_eq_iff.mp h
  · exact .inr (.inr (.inl ⟨rfl, map_eq_error.mp h⟩))
  obtain ⟨hc, h⟩ | ⟨-, h⟩ := ite_eq_iff.mp h
  · exact .inr (.inr (.inr ⟨by simpa using hc, h⟩))
  obtain ⟨-, h⟩ | ⟨-, h⟩ := ite_eq_iff.mp h
  · cases h
  · cases h
    exact .inl rfl

theorem ScanError.fits {source : String} (hs : Stuck source.toList pos (c :: rest))
    (h : scan dot c rest = .error e) : (e.at pos).Fits source := by
  obtain rfl | ⟨rfl, he⟩ | ⟨rfl, he⟩ | ⟨hc, he⟩ := scan_error h
  · exact .unexpectedChar hs
  · obtain ⟨rfl, hn⟩ | ⟨body, text, c, rest, rfl, hb, hn, rfl⟩ := scanQuoted_error he
    · exact .openQuote hs hn
    · have hpos : byteLength ('"' :: body) = 1 + byteLength body := Text.byteLength_cons ..
      rw [ScanError.at, ← hpos]
      exact .invalidEscape hs hb (unescape?_eq_none hn)
  · obtain ⟨rfl, hn⟩ := scanRaw_error he
    exact .openRaw hs hn
  · obtain ⟨rfl, rfl, hn⟩ := scanNumber_error hc he
    exact .invalidNumber hs hn

theorem scan_length_pos (h : scan dot c cs = .ok lexeme) : 0 < lexeme.length := by
  obtain ⟨w, rest, -, hl, hr⟩ := scan_iff.mp h
  obtain ⟨d, tail, rfl, -⟩ := hr.solid.1
  rw [hl]
  exact Nat.succ_pos _

-- ---------------------------------------------------------------------------
-- Whole texts
-- ---------------------------------------------------------------------------

theorem tokensFrom_error (h : tokensFrom dot pos cs = .error e) :
    ∃ front ts dot' c rest e', cs = front ++ c :: rest ∧ Lexes dot cs ts dot' (c :: rest) ∧
      isBlank c = false ∧ scan dot' c rest = .error e' ∧ e = e'.at (pos + byteLength front) := by
  fun_induction tokensFrom dot pos cs with
  | case1 => cases h
  | case2 dot pos c cs blank ih =>
    obtain ⟨front, ts, dot', c', rest, e', rfl, hl, hb, hs, rfl⟩ := ih h
    refine ⟨c :: front, ts, dot', c', rest, e', rfl, .blank blank hl, hb, hs, ?_⟩
    rw [Text.byteLength_cons, Nat.add_assoc]
  | case3 dot pos c cs solid e' failed =>
    cases h
    exact ⟨[], [], dot, c, cs, e', rfl, .done .., by simpa using solid, failed, rfl⟩
  | case4 dot pos c cs solid lexeme scanned next =>
    rename_i ih
    obtain h | ⟨_, -, h⟩ := bind_eq_error.mp h
    · obtain ⟨front, ts, dot', c', rest, e', hcs, hl, hb, hs, rfl⟩ := ih h
      obtain ⟨n, hn⟩ := Nat.exists_eq_succ_of_ne_zero (scan_length_pos scanned).ne'
      rw [hn, Nat.succ_sub_one] at hcs
      refine ⟨c :: cs.take n ++ front, lexeme.token :: ts, dot', c', rest, e', ?_,
        .token (by simpa using solid) scanned hl, hb, hs, ?_⟩
      · rw [List.append_assoc, ← hcs, List.cons_append, List.take_append_drop]
      · simp only [next, hn, List.take_succ_cons, Text.byteLength_append, Nat.add_assoc]
    · cases h

theorem tokenize_error {source : String} (h : tokenize source = .error e) : e.Fits source := by
  obtain ⟨front, ts, dot, c, rest, e', hcs, hl, hb, hs, rfl⟩ := tokensFrom_error h
  rw [Nat.zero_add]
  refine ScanError.fits ⟨⟨front, hcs, rfl⟩, fun d hd => ?_, ts, dot, hl, ?_⟩ hs
  · exact Option.some.inj hd ▸ hb
  · intro w t behind hw hr
    rw [scan_complete hr hw] at hs
    cases hs

end ConditionalGateway.Predicate
