import ConditionalGateway.Proofs.Predicate.TokenLaws
import ConditionalGateway.Proofs.Unicode.Blanks

/-!
# The spelling of tokens

`Reads dot w t rest` says which texts spell a token: a sign, a string in one of
its two forms, a number, a word. It also says that the token does not go on in
`rest`, the text behind it. `scan` reads the token that a text starts with, and
no other (`scan_iff`).

What stands behind a token matters only up to a character at which it would end
anyway (`Reads.fades`).
-/

namespace ConditionalGateway.Predicate

open Unicode (isBlank isAsciiDigit isAlphabetic isAlphanumeric)

-- ---------------------------------------------------------------------------
-- Runs of characters
-- ---------------------------------------------------------------------------

/-- Characters of one class, and then something else or nothing. -/
def Runs (p : Char → Bool) (w rest : List Char) : Prop :=
  (∀ c ∈ w, p c = true) ∧ ∀ c ∈ rest.head?, p c = false

theorem runs_takeWhile (p : Char → Bool) (cs : List Char) :
    Runs p (cs.takeWhile p) (cs.dropWhile p) := by
  refine ⟨fun c hc => List.mem_takeWhile_imp hc, fun c hc => ?_⟩
  have h := List.head?_dropWhile_not p cs
  rw [Option.mem_def.mp hc] at h
  simpa using h

theorem Runs.takeWhile (h : Runs p w rest) : (w ++ rest).takeWhile p = w := by
  rw [List.takeWhile_append_of_pos h.1]
  cases rest with
  | nil => simp
  | cons c rest => simp [h.2 c rfl]

theorem Runs.dropWhile (h : Runs p w rest) : (w ++ rest).dropWhile p = rest := by
  rw [List.dropWhile_append_of_pos h.1]
  cases rest with
  | nil => rfl
  | cons c rest => simp [h.2 c rfl]

-- ---------------------------------------------------------------------------
-- Spelling
-- ---------------------------------------------------------------------------

def signs : List (List Char × Token) :=
  [(['('], .lparen), ([')'], .rparen), (['['], .lbracket), ([']'], .rbracket), (['.'], .dot),
    (['=', '='], .eq), (['!', '='], .ne), (['<', '='], .le), (['>', '='], .ge),
    (['&', '&'], .kwAnd), (['|', '|'], .kwOr)]

def shortSigns : List (Char × Token) := [('!', .kwNot), ('<', .lt), ('>', .gt)]

/-- The text between two quotes, and the text that it stands for. -/
inductive Escapes : List Char → List Char → Prop
  | nil : Escapes [] []
  | plain : c ≠ '"' → c ≠ '\\' → Escapes body text → Escapes (c :: body) (c :: text)
  | escape : unescape? e = some d → Escapes body text → Escapes ('\\' :: e :: body) (d :: text)

/-- The spelling of a number without its sign. Behind a dot it has no fraction. -/
inductive Numeral : Bool → List Char → List Char → Prop
  | whole : Runs isAsciiDigit ds rest →
      (dot = false → ∀ d rest', rest = '.' :: d :: rest' → isAsciiDigit d = false) →
      Numeral dot ds rest
  | fraction : (∀ d ∈ ds, isAsciiDigit d = true) → Runs isAsciiDigit (e :: es) rest →
      Numeral false (ds ++ '.' :: e :: es) rest

/-- A text spells a token in front of another text, in which the token does not go on. The flag
tells whether the token before it is a dot. -/
inductive Reads : Bool → List Char → Token → List Char → Prop
  | sign : (w, t) ∈ signs → Reads dot w t rest
  | short : (c, t) ∈ shortSigns → rest.head? ≠ some '=' → Reads dot [c] t rest
  | quoted : Escapes body text → Reads dot ('"' :: (body ++ ['"'])) (.str (.ofList text)) rest
  | raw : '`' ∉ body → Reads dot ('`' :: (body ++ ['`'])) (.str (.ofList body)) rest
  | positive : isAsciiDigit d = true → Numeral dot (d :: ds) rest →
      Decimal.readFloat? (d :: ds) = some x →
      Reads dot (d :: ds) (.number x (.ofList (d :: ds))) rest
  | negative : Numeral dot ds rest → Decimal.readFloat? ('-' :: ds) = some x →
      Reads dot ('-' :: ds) (.number x (.ofList ('-' :: ds))) rest
  | word : isAlphabetic c = true ∨ c = '_' → Runs isWordChar (c :: cs) rest →
      Reads dot (c :: cs) (.ofWord (.ofList (c :: cs))) rest

def Spells (w : List Char) (t : Token) : Prop := Reads false w t []

-- ---------------------------------------------------------------------------
-- Strings
-- ---------------------------------------------------------------------------

theorem scanQuoted_sound (h : scanQuoted offset cs = .ok b) : ∃ body rest,
    cs = body ++ '"' :: rest ∧ b.length = body.length + 1 ∧ Escapes body b.text := by
  fun_induction scanQuoted offset cs generalizing b with
  | case1 => cases h
  | case2 offset rest =>
    cases h
    exact ⟨[], rest, rfl, rfl, .nil⟩
  | case3 => cases h
  | case4 => cases h
  | case5 offset e rest d he _ ih =>
    obtain ⟨b, hb, rfl⟩ := map_eq_ok.mp h
    obtain ⟨body, rest, rfl, hl, hb⟩ := ih hb
    refine ⟨'\\' :: e :: body, rest, rfl, ?_, .escape he hb⟩
    simp only [StringBody.cons, List.length_cons]
    omega
  | case6 offset c rest hq hb ih =>
    obtain ⟨b, hb', rfl⟩ := map_eq_ok.mp h
    obtain ⟨body, rest, rfl, hl, hb'⟩ := ih hb'
    refine ⟨c :: body, rest, rfl, ?_, .plain hq hb hb'⟩
    simp only [StringBody.cons, List.length_cons]
    omega

theorem scanQuoted_complete (h : Escapes body text) (offset : Nat) (rest : List Char) :
    scanQuoted offset (body ++ '"' :: rest) = .ok ⟨text, body.length + 1⟩ := by
  induction h generalizing offset with
  | nil =>
    rw [List.nil_append, scanQuoted.eq_def]
    rfl
  | @plain c body text hq hb _ ih =>
    rw [List.cons_append, scanQuoted.eq_def]
    simp [hq, hb, ih, Except.map, StringBody.cons, Nat.add_comm]
  | @escape e d body text he _ ih =>
    rw [List.cons_append, List.cons_append, scanQuoted.eq_def]
    simp [he, ih, Except.map, StringBody.cons, Nat.add_comm, Nat.add_left_comm]

theorem scanRaw_sound (h : scanRaw cs = .ok b) : ∃ rest,
    cs = b.text ++ '`' :: rest ∧ b.length = b.text.length + 1 ∧ '`' ∉ b.text := by
  induction cs generalizing b with
  | nil => cases h
  | cons c cs ih =>
    unfold scanRaw at h
    split at h
    · rename_i hc
      cases h
      exact ⟨cs, by rw [hc]; rfl, rfl, List.not_mem_nil⟩
    · rename_i hc
      obtain ⟨b, hb, rfl⟩ := map_eq_ok.mp h
      obtain ⟨rest, rfl, hl, hm⟩ := ih hb
      refine ⟨rest, rfl, ?_, List.not_mem_cons_of_ne_of_not_mem (Ne.symm hc) hm⟩
      simp only [StringBody.cons, List.length_cons]
      omega

theorem scanRaw_complete (h : '`' ∉ body) (rest : List Char) :
    scanRaw (body ++ '`' :: rest) = .ok ⟨body, body.length + 1⟩ := by
  induction body with
  | nil => rfl
  | cons c body ih =>
    obtain ⟨hc, hm⟩ := not_or.mp (mt List.mem_cons.mpr h)
    simp [scanRaw, Ne.symm hc, ih hm, Except.map, StringBody.cons, Nat.add_comm]

-- ---------------------------------------------------------------------------
-- Numbers
-- ---------------------------------------------------------------------------

def unsignedText (afterDot : Bool) (cs : List Char) : List Char :=
  cs.takeWhile isAsciiDigit ++
    if afterDot then [] else fractionPart (cs.dropWhile isAsciiDigit)

theorem numberText_cons (afterDot : Bool) (c : Char) (cs : List Char) :
    numberText afterDot (c :: cs) =
      if c = '-' then '-' :: unsignedText afterDot cs else unsignedText afterDot (c :: cs) := by
  by_cases sign : c = '-'
  · subst sign
    simp [numberText, unsignedText]
  · simp [numberText, unsignedText, sign]

theorem fractionPart_eq (cs : List Char) :
    (∀ d rest, cs = '.' :: d :: rest → isAsciiDigit d = false) ∧ fractionPart cs = [] ∨
      ∃ e es rest, cs = '.' :: e :: es ++ rest ∧ fractionPart cs = '.' :: e :: es ∧
        Runs isAsciiDigit (e :: es) rest := by
  unfold fractionPart
  split
  · rename_i d rest
    split
    · rename_i hd
      have hr := runs_takeWhile isAsciiDigit (d :: rest)
      rw [List.takeWhile_cons_of_pos hd, List.dropWhile_cons_of_pos hd] at hr
      exact .inr ⟨d, _, _, by simp, rfl, hr⟩
    · rename_i hd
      refine .inl ⟨?_, rfl⟩
      rintro _ _ ⟨⟩
      simpa using hd
  · rename_i hne
    exact .inl ⟨fun d rest h => (hne d rest h).elim, rfl⟩

theorem numeral_unsignedText (dot : Bool) (cs : List Char) :
    ∃ rest, cs = unsignedText dot cs ++ rest ∧ Numeral dot (unsignedText dot cs) rest := by
  have hr := runs_takeWhile isAsciiDigit cs
  have hcs : cs = cs.takeWhile isAsciiDigit ++ cs.dropWhile isAsciiDigit :=
    List.takeWhile_append_dropWhile.symm
  unfold unsignedText
  cases dot with
  | true =>
    rw [if_pos rfl, List.append_nil]
    exact ⟨_, hcs, .whole hr nofun⟩
  | false =>
    rw [if_neg Bool.false_ne_true]
    obtain ⟨hd, he⟩ | ⟨e, es, rest, hd, he, hf⟩ := fractionPart_eq (cs.dropWhile isAsciiDigit)
    · rw [he, List.append_nil]
      exact ⟨_, hcs, .whole hr fun _ => hd⟩
    · rw [he]
      refine ⟨rest, ?_, .fraction hr.1 hf⟩
      rwa [List.append_assoc, ← hd]

theorem Numeral.unsignedText_append (h : Numeral dot w rest) :
    unsignedText dot (w ++ rest) = w := by
  unfold unsignedText
  cases h with
  | whole hr hd =>
    rw [hr.takeWhile, hr.dropWhile]
    cases dot with
    | true => simp
    | false =>
      obtain ⟨-, he⟩ | ⟨e, es, rest', rfl, -, hf⟩ := fractionPart_eq rest
      · simp [he]
      · have hdigit := hf.1 e List.mem_cons_self
        rw [hd rfl e (es ++ rest') rfl] at hdigit
        cases hdigit
  | @fraction ds e es rest hds hr =>
    have hw : Runs isAsciiDigit ds ('.' :: e :: es ++ rest) := ⟨hds, by simp; decide⟩
    have hes := hr.takeWhile
    have he := hr.1 e List.mem_cons_self
    rw [List.cons_append, List.takeWhile_cons_of_pos he, List.cons.injEq] at hes
    rw [List.append_assoc, hw.takeWhile, hw.dropWhile]
    simp [fractionPart, he, hes.2]

-- ---------------------------------------------------------------------------
-- Tokens
-- ---------------------------------------------------------------------------

/-- If a lexeme is read, then what it takes up of the text spells its token. -/
def Sound (dot : Bool) (cs : List Char) (x : Except ScanError Lexeme) : Prop :=
  ∀ lexeme, x = .ok lexeme → ∃ w rest,
    cs = w ++ rest ∧ lexeme.length = w.length ∧ Reads dot w lexeme.token rest

theorem Sound.ok (h : Reads dot w t rest) (hcs : cs = w ++ rest) (hn : n = w.length) :
    Sound dot cs (.ok ⟨t, n⟩) := by
  rintro _ ⟨⟩
  exact ⟨w, rest, hcs, hn, h⟩

theorem Sound.ite {cond : Prop} [Decidable cond] (hx : cond → Sound dot cs x)
    (hy : ¬ cond → Sound dot cs y) : Sound dot cs (if cond then x else y) := by
  split
  · exact hx ‹_›
  · exact hy ‹_›

theorem sound_sign (h : ([c], t) ∈ signs) : Sound dot (c :: cs) (.ok ⟨t, 1⟩) :=
  .ok (.sign h) rfl rfl

theorem sound_doubled (h : ([c, c], t) ∈ signs) : Sound dot (c :: cs) (doubled c t cs) := by
  cases cs with
  | nil => nofun
  | cons d cs =>
    refine .ite (fun hd => ?_) fun _ => nofun
    subst hd
    exact .ok (.sign h) rfl rfl

theorem sound_oneOrTwo (hs : (c, short) ∈ shortSigns) (hl : ([c, '='], long) ∈ signs) :
    Sound dot (c :: cs) (.ok (oneOrTwo '=' short long cs)) := by
  cases cs with
  | nil => exact .ok (.short hs (by simp)) rfl rfl
  | cons d cs =>
    simp only [oneOrTwo]
    split
    · rename_i hd
      subst hd
      exact .ok (.sign hl) rfl rfl
    · rename_i hd
      exact .ok (.short hs (by simpa using hd)) rfl rfl

theorem sound_quoted : Sound dot ('"' :: cs) ((scanQuoted 1 cs).map (·.lexeme)) := by
  intro lexeme h
  obtain ⟨b, hb, rfl⟩ := map_eq_ok.mp h
  obtain ⟨body, rest, rfl, hl, hb⟩ := scanQuoted_sound hb
  exact ⟨'"' :: (body ++ ['"']), rest, by simp, by simp [StringBody.lexeme, hl], .quoted hb⟩

theorem sound_raw : Sound dot ('`' :: cs) ((scanRaw cs).map (·.lexeme)) := by
  intro lexeme h
  obtain ⟨b, hb, rfl⟩ := map_eq_ok.mp h
  obtain ⟨rest, rfl, hl, hb⟩ := scanRaw_sound hb
  exact ⟨'`' :: (b.text ++ ['`']), rest, by simp, by simp [StringBody.lexeme, hl], .raw hb⟩

theorem scanNumber_ok_iff : scanNumber dot cs = .ok lexeme ↔
    ∃ x, Decimal.readFloat? (numberText dot cs) = some x ∧
      lexeme = ⟨.number x (.ofList (numberText dot cs)), (numberText dot cs).length⟩ := by
  cases h : Decimal.readFloat? (numberText dot cs) with
  | none => simp [scanNumber, h]
  | some x => simp [scanNumber, h, eq_comm]

theorem sound_number (hc : isAsciiDigit c = true ∨ c = '-') :
    Sound dot (c :: cs) (scanNumber dot (c :: cs)) := by
  intro lexeme h
  obtain ⟨x, hx, rfl⟩ := scanNumber_ok_iff.mp h
  rw [numberText_cons] at hx ⊢
  by_cases hs : c = '-'
  · subst hs
    obtain ⟨rest, hcs, hn⟩ := numeral_unsignedText dot cs
    rw [if_pos rfl] at hx ⊢
    exact ⟨_, rest, congrArg _ hcs, rfl, .negative hn hx⟩
  · have hd := hc.resolve_right hs
    obtain ⟨ds, hds⟩ : ∃ ds, unsignedText dot (c :: cs) = c :: ds := by
      simp [unsignedText, hd]
    obtain ⟨rest, hcs, hn⟩ := numeral_unsignedText dot (c :: cs)
    rw [if_neg hs, hds] at hx ⊢
    rw [hds] at hcs hn
    exact ⟨_, rest, hcs, rfl, .positive hd hn hx⟩

theorem isWordChar_of_first (hc : isAlphabetic c = true ∨ c = '_') : isWordChar c = true := by
  obtain hc | rfl := hc
  · simp [isWordChar, isAlphanumeric, hc]
  · decide

theorem sound_word (hc : isAlphabetic c = true ∨ c = '_') :
    Sound dot (c :: cs) (.ok (scanWord (c :: cs))) := by
  have hr := runs_takeWhile isWordChar (c :: cs)
  have hcs : c :: cs = (c :: cs).takeWhile isWordChar ++ (c :: cs).dropWhile isWordChar :=
    List.takeWhile_append_dropWhile.symm
  unfold scanWord
  rw [List.takeWhile_cons_of_pos (isWordChar_of_first hc)] at hr hcs ⊢
  exact .ok (.word hc hr) hcs rfl

theorem scan_sound (dot : Bool) (c : Char) (cs : List Char) :
    Sound dot (c :: cs) (scan dot c cs) := by
  unfold scan
  -- The brackets and the dot are tokens by themselves.
  iterate 5 refine .ite (fun hc => hc ▸ sound_sign (by simp [signs])) fun _ => ?_
  refine .ite (fun hc => hc ▸ sound_doubled (by simp [signs, hc])) fun _ => ?_
  iterate 3
    refine .ite (fun hc => hc ▸ sound_oneOrTwo (by simp [shortSigns]) (by simp [signs])) fun _ => ?_
  iterate 2 refine .ite (fun hc => hc ▸ sound_doubled (by simp [signs, hc])) fun _ => ?_
  refine .ite (fun hc => hc ▸ sound_quoted) fun _ => ?_
  refine .ite (fun hc => hc ▸ sound_raw) fun _ => ?_
  refine .ite (fun hc => sound_number (by simpa using hc)) fun _ => ?_
  exact .ite (fun hc => sound_word (by simpa using hc)) nofun

theorem isAlphabetic_digit (h : isAsciiDigit c = true) : isAlphabetic c = false := by
  simp only [isAsciiDigit, Bool.and_eq_true, decide_eq_true_eq] at h
  have hc : c.toNat < 0x80 := by omega
  simp only [isAlphabetic, hc, if_true, Unicode.isAsciiLetter, Bool.or_eq_false_iff,
    Bool.and_eq_false_iff, decide_eq_false_iff_not]
  omega

def marks : List Char := ['(', ')', '[', ']', '.', '=', '!', '<', '>', '&', '|', '"', '`']

theorem scan_unmarked (h : c ∉ marks) : scan dot c cs =
    if isAsciiDigit c || c = '-' then scanNumber dot (c :: cs)
    else if isAlphabetic c || c = '_' then .ok (scanWord (c :: cs))
    else .error (.unexpectedChar c) := by
  simp only [marks, List.mem_cons, List.not_mem_nil, or_false, not_or] at h
  simp [scan, h]

theorem scan_number (hc : isAsciiDigit c = true ∨ c = '-') :
    scan dot c cs = scanNumber dot (c :: cs) := by
  have hm : c ∉ marks := by
    have h : marks.all (fun d => !(isAsciiDigit d || d = '-')) = true := by decide
    intro hcm
    have hn : ¬ (isAsciiDigit c = true ∨ c = '-') := by
      simpa using List.all_eq_true.mp h c hcm
    exact hn hc
  rw [scan_unmarked hm, if_pos (by simpa using hc)]

theorem scan_word (hc : isAlphabetic c = true ∨ c = '_') :
    scan dot c cs = .ok (scanWord (c :: cs)) := by
  have hm : c ∉ marks := by
    have h : marks.all (fun d => !(isAlphabetic d || d = '_')) = true := by decide
    intro hcm
    have hn : ¬ (isAlphabetic c = true ∨ c = '_') := by
      simpa using List.all_eq_true.mp h c hcm
    exact hn hc
  have hn : ¬ (isAsciiDigit c = true ∨ c = '-') := by
    obtain hc | rfl := hc
    · rintro (hd | rfl)
      · exact absurd hc (by simp [isAlphabetic_digit hd])
      · exact absurd hc (by decide)
    · decide
  rw [scan_unmarked hm, if_neg (by simpa using hn), if_pos (by simpa using hc)]

theorem scan_complete (h : Reads dot w t rest) (hcs : c :: cs = w ++ rest) :
    scan dot c cs = .ok ⟨t, w.length⟩ := by
  cases h with
  | sign hm =>
    simp only [signs, List.mem_cons, Prod.mk.injEq, List.not_mem_nil, or_false] at hm
    obtain ⟨rfl, rfl⟩ | ⟨rfl, rfl⟩ | ⟨rfl, rfl⟩ | ⟨rfl, rfl⟩ | ⟨rfl, rfl⟩ | ⟨rfl, rfl⟩ |
      ⟨rfl, rfl⟩ | ⟨rfl, rfl⟩ | ⟨rfl, rfl⟩ | ⟨rfl, rfl⟩ | ⟨rfl, rfl⟩ := hm
    all_goals
      cases hcs
      rfl
  | short hm he =>
    simp only [shortSigns, List.mem_cons, Prod.mk.injEq, List.not_mem_nil, or_false] at hm
    obtain ⟨rfl, rfl⟩ | ⟨rfl, rfl⟩ | ⟨rfl, rfl⟩ := hm
    all_goals
      cases hcs
      cases rest with
      | nil => rfl
      | cons d rest =>
        have hd : d ≠ '=' := by simpa using he
        simp [scan, oneOrTwo, hd]
  | quoted hb =>
    simp only [List.cons_append, List.append_assoc, List.nil_append, List.cons.injEq] at hcs
    obtain ⟨rfl, rfl⟩ := hcs
    simp [scan, scanQuoted_complete hb 1 rest, Except.map, StringBody.lexeme]
  | raw hb =>
    simp only [List.cons_append, List.append_assoc, List.nil_append, List.cons.injEq] at hcs
    obtain ⟨rfl, rfl⟩ := hcs
    simp [scan, scanRaw_complete hb rest, Except.map, StringBody.lexeme]
  | positive hd hn hx =>
    have ht := numberText_cons dot c cs
    rw [hcs, hn.unsignedText_append] at ht
    rw [List.cons_append, List.cons.injEq] at hcs
    obtain ⟨rfl, rfl⟩ := hcs
    have hs : c ≠ '-' := by
      rintro rfl
      exact absurd hd (by decide)
    rw [if_neg hs] at ht
    rw [scan_number (.inl hd)]
    exact scanNumber_ok_iff.mpr ⟨_, by rwa [← List.cons_append, ht], by rw [← List.cons_append, ht]⟩
  | negative hn hx =>
    have ht := numberText_cons dot c cs
    rw [List.cons_append, List.cons.injEq] at hcs
    obtain ⟨rfl, rfl⟩ := hcs
    rw [if_pos rfl, hn.unsignedText_append] at ht
    rw [scan_number (.inr rfl)]
    exact scanNumber_ok_iff.mpr ⟨_, by rwa [ht], by rw [ht]⟩
  | word hc hr =>
    have ht := hr.takeWhile
    rw [← hcs] at ht
    cases hcs
    rw [scan_word hc, scanWord, ht]

/-- What stands at the start of a text is read as the token that it spells. -/
theorem scan_iff : scan dot c cs = .ok lexeme ↔ ∃ w rest,
    c :: cs = w ++ rest ∧ lexeme.length = w.length ∧ Reads dot w lexeme.token rest := by
  constructor
  · exact scan_sound dot c cs lexeme
  · rintro ⟨w, rest, hcs, hl, hr⟩
    rw [scan_complete hr hcs, ← hl]

theorem isAlphabetic_letter (h : Unicode.isAsciiLetter c = true) :
    isAlphabetic c = true := by
  have hlt : c.toNat < 0x80 := by
    simp only [Unicode.isAsciiLetter, Bool.or_eq_true, Bool.and_eq_true, decide_eq_true_eq] at h
    omega
  rw [isAlphabetic, if_pos hlt, h]

theorem reads_word {word : String} (hne : word.toList ≠ [])
    (hw : word.toList.all Unicode.isAsciiLetter = true)
    (he : ∀ c ∈ rest.head?, isWordChar c = false) : Reads dot word.toList (.ofWord word) rest := by
  have hletter : ∀ d ∈ word.toList, isAlphabetic d = true :=
    fun d hd => isAlphabetic_letter (List.all_eq_true.mp hw d hd)
  obtain ⟨d, ds, hds⟩ := List.exists_cons_of_ne_nil hne
  rw [hds] at hletter
  have hword : Reads dot (d :: ds) (.ofWord (.ofList (d :: ds))) rest :=
    .word (.inl (hletter d List.mem_cons_self))
      ⟨fun c hc => isWordChar_of_first (.inl (hletter c hc)), he⟩
  rwa [← hds, String.ofList_toList] at hword

-- ---------------------------------------------------------------------------
-- What stands behind a token
-- ---------------------------------------------------------------------------

/-- A token that can end in front of such a character does end there. -/
def isDelimiter (c : Char) : Bool := isBlank c || c = ')'

/-- A text goes like another one until it ends or no token can go on. -/
inductive Fades : List Char → List Char → Prop
  | stop : (∀ c ∈ ys.head?, isDelimiter c = true) → Fades xs ys
  | step : Fades xs ys → Fades (c :: xs) (c :: ys)

theorem Fades.head (h : Fades xs ys) (hc : c ∈ ys.head?) : isDelimiter c = true ∨ c ∈ xs.head? := by
  cases h with
  | stop hb => exact .inl (hb c hc)
  | step => exact .inr hc

theorem isAsciiDigit_blank (h : isBlank c = true) : isAsciiDigit c = false := by
  have hn := Unicode.isNumeric_blank h
  unfold Unicode.isNumeric at hn
  split at hn
  · exact hn
  · simp only [isAsciiDigit, Bool.and_eq_false_iff, decide_eq_false_iff_not]
    omega

theorem isWordChar_blank (h : isBlank c = true) : isWordChar c = false := by
  have hu : c ≠ '_' := by
    rintro rfl
    exact absurd h (by decide)
  simp [isWordChar, Unicode.isAlphanumeric_blank h, hu]

theorem isDelimiter_of_blank (h : isBlank c = true) : isDelimiter c = true := by
  simp [isDelimiter, h]

theorem isAsciiDigit_delimiter (h : isDelimiter c = true) : isAsciiDigit c = false := by
  obtain hb | rfl : isBlank c = true ∨ c = ')' := by simpa [isDelimiter] using h
  · exact isAsciiDigit_blank hb
  · decide

theorem isWordChar_delimiter (h : isDelimiter c = true) : isWordChar c = false := by
  obtain hb | rfl : isBlank c = true ∨ c = ')' := by simpa [isDelimiter] using h
  · exact isWordChar_blank hb
  · decide

theorem Runs.fades (h : Runs p w rest) (hp : ∀ c, isDelimiter c = true → p c = false)
    (hf : Fades rest rest') : Runs p w rest' :=
  ⟨h.1, fun c hc => (hf.head hc).elim (hp c) (h.2 c)⟩

theorem Numeral.fades (h : Numeral dot w rest) (hf : Fades rest rest') : Numeral dot w rest' := by
  cases h with
  | whole hr hd =>
    refine .whole (hr.fades (fun _ => isAsciiDigit_delimiter) hf) ?_
    rintro hdot d tail rfl
    -- a token can go on with the point, so it was there before
    cases hf with
    | stop hb => exact absurd (hb '.' rfl) (by decide)
    | @step xs _ _ hf =>
      obtain hb | hx := hf.head (c := d) rfl
      · exact isAsciiDigit_delimiter hb
      · obtain ⟨tail, rfl⟩ := List.head?_eq_some_iff.mp hx
        exact hd hdot d tail rfl
  | fraction hds hr => exact .fraction hds (hr.fades (fun _ => isAsciiDigit_delimiter) hf)

theorem Reads.fades (h : Reads dot w t rest) (hf : Fades rest rest') : Reads dot w t rest' := by
  cases h with
  | sign hm => exact .sign hm
  | short hm he =>
    refine .short hm fun h => ?_
    obtain hb | he' := hf.head h
    · exact absurd hb (by decide)
    · exact he he'
  | quoted hb => exact .quoted hb
  | raw hb => exact .raw hb
  | positive hd hn hx => exact .positive hd (hn.fades hf) hx
  | negative hn hx => exact .negative (hn.fades hf) hx
  | word hc hr => exact .word hc (hr.fades (fun _ => isWordChar_delimiter) hf)

theorem Numeral.alone (h : Numeral dot w rest) (hb : ∀ c ∈ rest.head?, isDelimiter c = true) :
    Numeral false w rest := by
  cases h with
  | whole hr _ =>
    refine .whole hr ?_
    rintro - d tail rfl
    exact absurd (hb '.' rfl) (by decide)
  | fraction hds hr => exact .fraction hds hr

/-- A token is the same one behind a dot and elsewhere, if it does not go on. -/
theorem Reads.alone (h : Reads dot w t rest) (hb : ∀ c ∈ rest'.head?, isDelimiter c = true) :
    Reads false w t rest' := by
  have hf : Fades rest rest' := .stop hb
  cases h.fades hf with
  | sign hm => exact .sign hm
  | short hm he => exact .short hm he
  | quoted hb => exact .quoted hb
  | raw hb => exact .raw hb
  | positive hd hn hx => exact .positive hd (hn.alone hb) hx
  | negative hn hx => exact .negative (hn.alone hb) hx
  | word hc hr => exact .word hc hr

-- ---------------------------------------------------------------------------
-- Ends of tokens
-- ---------------------------------------------------------------------------

/-- There is no blank at either end. -/
def Solid (w : List Char) : Prop :=
  (∃ c tail, w = c :: tail ∧ isBlank c = false) ∧ ∃ init c, w = init ++ [c] ∧ isBlank c = false

theorem Solid.of_forall (h : ∀ d ∈ c :: cs, isBlank d = false) : Solid (c :: cs) := by
  refine ⟨⟨c, cs, rfl, h c List.mem_cons_self⟩, (c :: cs).dropLast, (c :: cs).getLast nofun, ?_, ?_⟩
  · exact (List.dropLast_append_getLast _).symm
  · exact h _ (List.getLast_mem _)

theorem Solid.quote (hc : isBlank c = false) (body : List Char) : Solid (c :: (body ++ [c])) :=
  ⟨⟨c, body ++ [c], rfl, hc⟩, c :: body, c, rfl, hc⟩

theorem not_blank_of {p : Char → Bool} (hp : ∀ c, isBlank c = true → p c = false)
    (hc : p c = true) : isBlank c = false := by
  by_contra hb
  rw [hp c (by simpa using hb)] at hc
  cases hc

theorem Numeral.not_blank (h : Numeral dot w rest) : ∀ c ∈ w, isBlank c = false := by
  have hdigit : ∀ c, isAsciiDigit c = true → isBlank c = false := fun c =>
    not_blank_of fun _ => isAsciiDigit_blank
  cases h with
  | whole hr _ => exact fun c hc => hdigit c (hr.1 c hc)
  | fraction hds hr =>
    refine List.forall_mem_append.mpr ⟨fun c hc => hdigit c (hds c hc), ?_⟩
    exact List.forall_mem_cons.mpr ⟨by decide, fun c hc => hdigit c (hr.1 c hc)⟩

theorem Reads.solid (h : Reads dot w t rest) : Solid w := by
  cases h with
  | sign hm =>
    have hs : signs.all (fun e => !e.1.isEmpty && e.1.all (!isBlank ·)) = true := by decide
    have hw := List.all_eq_true.mp hs _ hm
    simp only [Bool.and_eq_true, List.all_eq_true, Bool.not_eq_true',
      List.isEmpty_eq_false_iff] at hw
    obtain ⟨c, cs, rfl⟩ := List.exists_cons_of_ne_nil hw.1
    exact .of_forall hw.2
  | short hm =>
    have hs : shortSigns.all (fun e => !isBlank e.1) = true := by decide
    exact .of_forall (by simpa using List.all_eq_true.mp hs _ hm)
  | quoted => exact .quote (by decide) _
  | raw => exact .quote (by decide) _
  | positive _ hn => exact .of_forall hn.not_blank
  | negative hn => exact .of_forall (List.forall_mem_cons.mpr ⟨by decide, hn.not_blank⟩)
  | word _ hr => exact .of_forall fun c hc => not_blank_of (fun _ => isWordChar_blank) (hr.1 c hc)

theorem Reads.lexed (h : Reads dot w t rest) : t.Lexed := by
  obtain ⟨⟨c, tail, rfl, -⟩, -⟩ := h.solid
  exact scan_lexed (scan_complete h List.cons_append.symm)

end ConditionalGateway.Predicate
