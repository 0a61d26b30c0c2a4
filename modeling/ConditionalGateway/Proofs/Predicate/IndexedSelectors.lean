import ConditionalGateway.Proofs.Predicate.CanonicalNames
import ConditionalGateway.Proofs.Predicate.Placement
import ConditionalGateway.Proofs.Predicate.Spacing
import ConditionalGateway.Predicate.Basic
import Mathlib

/-!
# Spellings of indexed selectors

A member of a header or of a query parameter is selected by a key and an index.
The key stands between quotes or backticks in brackets, or behind a dot, and so
does the index (`KeyWords`, `IndexWords`). `compile_agree`: in front of any one
text, all these spellings compile to one expression or fail in one way.

Each spelling gives the root and the tokens of two steps (`IndexedTokens`), and
the parser takes these for one key and one index wherever they stand.
-/

namespace ConditionalGateway.Predicate

open Http (HeaderName)
open Unicode (isBlank isAsciiDigit)

-- ---------------------------------------------------------------------------
-- Spellings
-- ---------------------------------------------------------------------------

/-- Words one after the other, with blanks in front of each. -/
inductive Spaced : List (List Char) → List Char → Prop
  | nil : Spaced [] []
  | cons : Blank blanks → Spaced ws cs → Spaced (w :: ws) (blanks ++ (w ++ cs))

inductive KeyWords (key : String) : List (List Char) → Prop
  | quoted : Escapes body key.toList → KeyWords key [['['], '"' :: (body ++ ['"']), [']']]
  | raw : '`' ∉ key.toList → KeyWords key [['['], '`' :: (key.toList ++ ['`']), [']']]
  | dotted : Spells key.toList (.ident key) → KeyWords key [['.'], key.toList]

/-- The decimal digits of a number, with any number of zeros in front. -/
structure DigitsOf (n : Nat) (ds : List Char) : Prop where
  nonempty : ds ≠ []
  digits : ∀ c ∈ ds, isAsciiDigit c = true
  value : Decimal.natOfDigits ds = n

inductive IndexWords (n : Nat) : List (List Char) → Prop
  | bracketed : DigitsOf n ds → IndexWords n [['['], ds, [']']]
  | dotted : DigitsOf n ds → IndexWords n [['.'], ds]

/-- A text spells the member of a map that a key and an index select. -/
def SpellsIndexed (root key : String) (n : Nat) (cs : List Char) : Prop :=
  ∃ kws iws, KeyWords key kws ∧ IndexWords n iws ∧ Spaced (root.toList :: (kws ++ iws)) cs

-- ---------------------------------------------------------------------------
-- Tokens
-- ---------------------------------------------------------------------------

inductive IndexedTokens (key : String) (n : Nat) : List Token → Prop
  | mk : k = .name key ∨ k = .key key → Step.Derives ts k → DigitsOf n raw.toList →
      Step.Derives us (.index raw) → IndexedTokens key n (ts ++ us)

theorem Spaced.flatten (ws : List (List Char)) : Spaced ws ws.flatten := by
  induction ws with
  | nil => exact .nil
  | cons w ws ih => exact .cons blank_nil ih

theorem Spaced.append (h : Spaced (ws ++ us) cs) :
    ∃ as bs, cs = as ++ bs ∧ Spaced ws as ∧ Spaced us bs := by
  induction ws generalizing cs with
  | nil => exact ⟨[], cs, rfl, .nil, h⟩
  | cons w ws ih =>
    obtain _ | ⟨hb, h⟩ := h
    obtain ⟨as, bs, rfl, ha, hbs⟩ := ih h
    exact ⟨_, bs, by simp, .cons hb ha, hbs⟩

theorem Spaced.head (h : Spaced ((d :: w) :: ws) cs) (hc : c ∈ (cs ++ rest).head?) :
    isBlank c = true ∨ c = d := by
  obtain _ | @⟨blanks, _, _, _, hb, -⟩ := h
  cases blanks with
  | nil => exact .inr (Option.some.inj hc).symm
  | cons b blanks =>
    obtain rfl : b = c := Option.some.inj hc
    exact .inl (blank_cons.mp hb).1

/-- A word that starts like this ends any word or number before it. -/
theorem Spaced.ends {p : Char → Bool} (h : Spaced ((d :: w) :: ws) cs)
    (hb : ∀ c, isBlank c = true → p c = false) (hd : p d = false) :
    ∀ c ∈ (cs ++ rest).head?, p c = false := by
  intro c hc
  obtain hc | rfl := h.head hc
  · exact hb c hc
  · exact hd

theorem Lexes.word (hb : Blank blanks) (hr : Reads dot w t rest)
    (h : Lexes t.isDot rest ts dot' rest') :
    Lexes dot (blanks ++ (w ++ rest)) (t :: ts) dot' rest' := by
  induction blanks with
  | nil => exact (Lexes.reads hr).trans h
  | cons c blanks ih =>
    obtain ⟨hc, hb⟩ := blank_cons.mp hb
    exact .blank hc (ih hb)

theorem Reads.ident (h : Reads dot w (.ident name) rest)
    (hr : ∀ c ∈ rest'.head?, isWordChar c = false) : Reads dot' w (.ident name) rest' := by
  generalize ht : Token.ident name = t at h
  cases h with
  | sign hm =>
    subst ht
    simp [signs] at hm
  | short hm =>
    subst ht
    simp [shortSigns] at hm
  | word hc hw => exact .word hc ⟨hw.1, hr⟩
  | _ => cases ht

theorem Lexes.bracketed {w : List Char} (hs : Spaced [['['], w, [']']] cs)
    (hw : ∀ rest, (∀ c ∈ rest.head?, isBlank c = true ∨ c = ']') → Reads false w t rest)
    (ht : t.isDot = false) (rest : List Char) :
    Lexes false (cs ++ rest) [.lbracket, t, .rbracket] false rest := by
  obtain _ | ⟨hb, _ | ⟨hb', hs⟩⟩ := hs
  have hread := hw _ fun c (hc : c ∈ (_ ++ rest).head?) => hs.head hc
  obtain _ | ⟨hb'', _ | _⟩ := hs
  simp only [List.append_assoc, List.nil_append] at hread ⊢
  refine .word hb (.sign (by simp [signs])) (.word hb' hread ?_)
  rw [ht]
  exact .word hb'' (.sign (by simp [signs])) (.done ..)

theorem Lexes.dotted {w : List Char} (hs : Spaced [['.'], w] cs) (hw : Reads true w t rest)
    (ht : t.isDot = false) : Lexes false (cs ++ rest) [.dot, t] false rest := by
  obtain _ | ⟨hb, _ | ⟨hb', _ | _⟩⟩ := hs
  simp only [List.append_assoc, List.nil_append]
  refine .word hb (.sign (by simp [signs])) (.word hb' hw ?_)
  rw [ht]
  exact .done ..

theorem KeyWords.lexes (h : KeyWords key ws) (hs : Spaced ws cs)
    (hr : ∀ c ∈ rest.head?, isWordChar c = false) :
    ∃ ts k, (k = .name key ∨ k = .key key) ∧ Step.Derives ts k ∧
      Lexes false (cs ++ rest) ts false rest := by
  cases h with
  | quoted hb =>
    refine ⟨_, _, .inr rfl, .key key, .bracketed hs (fun rest _ => ?_) rfl rest⟩
    have hread : Reads false _ (.str (.ofList key.toList)) rest := .quoted hb
    rwa [String.ofList_toList] at hread
  | raw hb =>
    refine ⟨_, _, .inr rfl, .key key, .bracketed hs (fun rest _ => ?_) rfl rest⟩
    have hread : Reads false _ (.str (.ofList key.toList)) rest := .raw hb
    rwa [String.ofList_toList] at hread
  | dotted hk => exact ⟨_, _, .inl rfl, .name key, .dotted hs (hk.ident hr) rfl⟩

theorem DigitsOf.ofList (h : DigitsOf n ds) : DigitsOf n (String.ofList ds).toList := by
  rwa [String.toList_ofList]

theorem IndexWords.lexes (h : IndexWords n ws) (hs : Spaced ws cs)
    (hr : ∀ c ∈ rest.head?, isAsciiDigit c = false) :
    ∃ ts raw, DigitsOf n raw.toList ∧ Step.Derives ts (.index raw) ∧
      Lexes false (cs ++ rest) ts false rest := by
  cases h with
  | bracketed hd =>
    obtain ⟨x, hx⟩ := reads_digits hd.nonempty hd.digits
    refine ⟨_, _, hd.ofList, .index x _, .bracketed hs ?_ rfl rest⟩
    intro rest hr
    refine hx false rest (fun c hc => ?_) fun _ hc => ?_
    · obtain hb | rfl := hr c hc
      · exact isAsciiDigit_blank hb
      · decide
    · obtain hb | hb := hr '.' hc
      · exact absurd hb (by decide)
      · cases hb
  | dotted hd =>
    obtain ⟨x, hx⟩ := reads_digits hd.nonempty hd.digits
    exact ⟨_, _, hd.ofList, .dotIndex x _,
      .dotted hs (hx true rest hr nofun) rfl⟩

theorem KeyWords.cons (h : KeyWords key ws) : ∃ d w ws', ws = (d :: w) :: ws' ∧
    isWordChar d = false := by
  cases h
  all_goals exact ⟨_, _, _, rfl, by decide⟩

theorem IndexWords.cons (h : IndexWords n ws) : ∃ d w ws', ws = (d :: w) :: ws' ∧
    isWordChar d = false := by
  cases h
  all_goals exact ⟨_, _, _, rfl, by decide⟩

theorem reads_mapRoot {root : String} (h : root = "Header" ∨ root = "Query")
    (hr : ∀ c ∈ rest.head?, isWordChar c = false) : Reads false root.toList (.ident root) rest := by
  obtain rfl | rfl := h
  · exact reads_word (by decide) (by decide) hr
  · exact reads_word (by decide) (by decide) hr

theorem SpellsIndexed.lexes {root : String} (h : SpellsIndexed root key n cs)
    (hroot : root = "Header" ∨ root = "Query") (hr : ∀ c ∈ rest.head?, isAsciiDigit c = false) :
    ∃ ts, IndexedTokens key n ts ∧ Lexes false (cs ++ rest) (.ident root :: ts) false rest := by
  obtain ⟨kws, iws, hk, hi, hs⟩ := h
  obtain _ | ⟨hb, hs⟩ := hs
  obtain ⟨as, bs, rfl, ha, hbs⟩ := hs.append
  obtain ⟨d, w, ws, rfl, hd⟩ := hk.cons
  obtain ⟨e, w', ws', rfl, he⟩ := hi.cons
  have hblank : ∀ c, isBlank c = true → isWordChar c = false := fun _ => isWordChar_blank
  obtain ⟨us, raw, hraw, hus, hlu⟩ := hi.lexes hbs hr
  obtain ⟨ts, k, hkey, hts, hlt⟩ := hk.lexes ha (hbs.ends hblank he)
  refine ⟨ts ++ us, .mk hkey hts hraw hus, ?_⟩
  simp only [List.append_assoc]
  exact .word hb (reads_mapRoot hroot (ha.ends hblank hd)) (hlt.trans hlu)

-- ---------------------------------------------------------------------------
-- Segments
-- ---------------------------------------------------------------------------

section
variable {c d c' d' : Cursor}

theorem parseSegments_step (h : Step.Derives ts step) (hs : step.Denotes s) (hr : c.Reads ts d) :
    parseSegments c = parseSegments d >>= fun p => .ok (s :: p.1, p.2) := by
  rw [parseSegments, parseSegment?_complete h hs hr]
  simp only [hr.shorter h.ne_nil, if_true]
  cases parseSegments d <;> rfl

/-- An index that is larger than those that a selector can have is told as one. -/
theorem parseSegments_large (h : Step.Derives ts (.index raw)) (hraw : DigitsOf n raw.toList)
    (hn : ¬n < 2 ^ 64) (hr : c.Reads ts d) :
    ∃ pos, parseSegments c = .error (.unexpectedToken .index raw pos) := by
  have hplus : raw.toList.head? ≠ some '+' := by
    intro hp
    exact absurd (hraw.digits '+' (List.mem_of_mem_head? hp)) (by decide)
  have hnone : Decimal.readNat? maxIndex raw.toList = none := by
    refine Option.eq_none_iff_forall_ne_some.mpr fun m hm => ?_
    have hm := (readNat?_eq_some hplus).mp hm
    exact hn (hraw.value ▸ hm.value ▸ hm.bound)
  have hindex : ∀ c : Cursor,
      parseIndex c raw = .error (.unexpectedToken .index raw (c.peekAt 0).pos) := by
    intro c
    rw [parseIndex, hnone]
  refine ⟨(c.next.peekAt 0).pos, ?_⟩
  cases h with
  | dotIndex x =>
    obtain ⟨h1, hr⟩ := hr.cons
    obtain ⟨h2, -⟩ := hr.single
    simp [parseSegments, parseSegment?, h1, parseDotted, h2, hindex, bind, Except.bind]
  | index x =>
    obtain ⟨h1, hr⟩ := hr.cons
    obtain ⟨h2, -⟩ := hr.cons
    simp [parseSegments, parseSegment?, h1, parseBracketed, parseKey, h2, hindex, bind, Except.bind]

theorem parseSegments_index_agree (hc : Step.Derives ts (.index raw))
    (hd : Step.Derives us (.index raw')) (hraw : DigitsOf n raw.toList)
    (hraw' : DigitsOf n raw'.toList) (hrc : c.Reads ts c') (hrd : d.Reads us d')
    (h : c'.Like d') : Agree SameRead (parseSegments c) (parseSegments d) := by
  by_cases hn : n < 2 ^ 64
  · have hplain : ∀ {raw}, DigitsOf n raw.toList → PlainIndex raw n :=
      fun h => ⟨h.nonempty, h.digits, h.value, hn⟩
    rw [parseSegments_step hc (.index (hplain hraw)) hrc,
      parseSegments_step hd (.index (hplain hraw')) hrd]
    refine (parseSegments_agree h).bind ?_
    rintro ⟨tail, c⟩ ⟨_, d⟩ ⟨rfl, h⟩
    exact .ok ⟨rfl, h⟩
  · obtain ⟨pos, hpos⟩ := parseSegments_large hc hraw hn hrc
    obtain ⟨pos', hpos'⟩ := parseSegments_large hd hraw' hn hrd
    rw [hpos, hpos']
    exact .error rfl

theorem parseSegments_key {k : Step} (hk : k = .name key ∨ k = .key key) (h : Step.Derives ts k)
    (hr : c.Reads ts d) : ∃ s : Segment, s.mapKey? = some key ∧
      parseSegments c = parseSegments d >>= fun p => .ok (s :: p.1, p.2) := by
  obtain rfl | rfl := hk
  · exact ⟨.name key, rfl, parseSegments_step h (.name key) hr⟩
  · exact ⟨.key key, rfl, parseSegments_step h (.key key) hr⟩

/-- The same key was read, and the same behind it. -/
def SameKeyed (key : String) (p q : List Segment × Cursor) : Prop :=
  ∃ s s' tail, s.mapKey? = some key ∧ s'.mapKey? = some key ∧ p.1 = s :: tail ∧
    q.1 = s' :: tail ∧ p.2.Like q.2

theorem IndexedTokens.parseSegments_agree (hc : IndexedTokens key n ts)
    (hd : IndexedTokens key n us) (hrc : c.Reads ts c') (hrd : d.Reads us d') (h : c'.Like d') :
    Agree (SameKeyed key) (parseSegments c) (parseSegments d) := by
  obtain ⟨hk, hts, hraw, hus⟩ := hc
  obtain ⟨hk', hts', hraw', hus'⟩ := hd
  obtain ⟨m, hrc, hrc'⟩ := Cursor.reads_append.mp hrc
  obtain ⟨m', hrd, hrd'⟩ := Cursor.reads_append.mp hrd
  obtain ⟨s, hs, hseg⟩ := parseSegments_key hk hts hrc
  obtain ⟨s', hs', hseg'⟩ := parseSegments_key hk' hts' hrd
  rw [hseg, hseg']
  refine (parseSegments_index_agree hus hus' hraw hraw' hrc' hrd' h).bind ?_
  rintro ⟨tail, c⟩ ⟨_, d⟩ ⟨rfl, h⟩
  exact .ok ⟨s, s', tail, hs, hs', rfl, rfl, h⟩

-- ---------------------------------------------------------------------------
-- Fields
-- ---------------------------------------------------------------------------

theorem resolve_header (hs : s.mapKey? = some key) (tail : List Segment) :
    Field.resolve (.name "Header" :: s :: tail) =
      match HeaderName.ofString? key, indexTail? tail with
      | none, _ => .error (.invalidHeaderName key)
      | some name, some index => .ok (.header name index)
      | some _, none => .error (.unknownField (renderSelector (.name "Header" :: s :: tail))) := by
  simp only [Field.resolve, hs]
  cases HeaderName.ofString? key with
  | none => rfl
  | some name => cases indexTail? tail <;> rfl

theorem resolve_query (hs : s.mapKey? = some key) (tail : List Segment) :
    Field.resolve (.name "Query" :: s :: tail) =
      match indexTail? tail with
      | some index => .ok (.query key index)
      | none => .error (.unknownField (renderSelector (.name "Query" :: s :: tail))) := by
  simp only [Field.resolve, hs]
  cases indexTail? tail <;> rfl

theorem resolve_agree {root : String} (hroot : root = "Header" ∨ root = "Query")
    (hs : s.mapKey? = some key) (hs' : s'.mapKey? = some key) (tail : List Segment) :
    Agree Eq ((Field.resolve (.name root :: s :: tail)).mapError .ofSelector)
      ((Field.resolve (.name root :: s' :: tail)).mapError .ofSelector) := by
  obtain rfl | rfl := hroot
  · rw [resolve_header hs, resolve_header hs']
    cases HeaderName.ofString? key with
    | none => exact .error rfl
    | some name =>
      cases indexTail? tail with
      | none => exact .error rfl
      | some index => exact .ok rfl
  · rw [resolve_query hs, resolve_query hs']
    cases indexTail? tail with
    | none => exact .error rfl
    | some index => exact .ok rfl

theorem parseField_ident {name : String} (hp : c.peek = .ident name) :
    parseField c = parseSegments c.next >>= fun p =>
      (Field.resolve (.name name :: p.1)).mapError CompileError.ofSelector >>= fun f =>
        .ok (f, p.2) := by
  simp only [parseField, hp]
  cases parseSegments c.next with
  | error e => rfl
  | ok p =>
    simp only [bind, Except.bind]
    cases Field.resolve (.name name :: p.1) <;> rfl

theorem IndexedTokens.parseField_agree {root : String} (hroot : root = "Header" ∨ root = "Query")
    (hc : IndexedTokens key n ts) (hd : IndexedTokens key n us)
    (hrc : c.Reads (.ident root :: ts) c') (hrd : d.Reads (.ident root :: us) d')
    (h : c'.Like d') : Agree SameRead (parseField c) (parseField d) := by
  obtain ⟨hp, hrc⟩ := hrc.cons
  obtain ⟨hp', hrd⟩ := hrd.cons
  rw [parseField_ident hp, parseField_ident hp']
  refine (hc.parseSegments_agree hd hrc hrd h).bind ?_
  rintro ⟨_, c⟩ ⟨_, d⟩ ⟨s, s', tail, hs, hs', rfl, rfl, h⟩
  refine (resolve_agree hroot hs hs' tail).bind ?_
  rintro f _ rfl
  exact .ok ⟨rfl, h⟩

end

-- ---------------------------------------------------------------------------
-- Whole sources
-- ---------------------------------------------------------------------------

theorem ofTokens_last (hl : Lexed (more.map Placed.token)) (ps : List Placed) :
    (Cursor.ofTokens (ps ++ more)).last.token = .eof := by
  obtain ⟨body, hb, -⟩ := hl
  obtain ⟨front, back, rfl, -, hback⟩ := List.map_eq_append_iff.mp hb
  obtain ⟨q, rfl, hq⟩ := List.map_eq_singleton_iff.mp hback
  rw [Cursor.ofTokens, ← List.append_assoc, List.getLast?_concat]
  exact hq

theorem IndexedTokens.parse_agree {root : String} (hroot : root = "Header" ∨ root = "Query")
    (hts : IndexedTokens key n ts) (hus : IndexedTokens key n us)
    (hps : ps.map Placed.token = .ident root :: ts) (hqs : qs.map Placed.token = .ident root :: us)
    (hl : Lexed (more.map Placed.token))
    (hm : more.map Placed.token = more'.map Placed.token) :
    Agree Eq (parse (ps ++ more)) (parse (qs ++ more')) := by
  have hlast := ofTokens_last hl ps
  have hlast' := ofTokens_last (hm ▸ hl) qs
  have hread : (Cursor.ofTokens (ps ++ more)).Reads (.ident root :: ts) ⟨more, _⟩ := ⟨ps, hps, rfl⟩
  have hread' : (Cursor.ofTokens (qs ++ more')).Reads (.ident root :: us) ⟨more', _⟩ :=
    ⟨qs, hqs, rfl⟩
  have hp := hread.cons.1
  have hp' := hread'.cons.1
  refine Predicate.parse_agree (by rw [hp, hp']) ?_
  rw [parseUnary_ident hp, parseUnary_ident hp']
  exact parseFieldCondition_agree
    (hts.parseField_agree hroot hus hread hread' ⟨hm, hlast.trans hlast'.symm⟩)

theorem compile_root {source : String} (h : source.utf8ByteSize ≤ maxSourceLength) :
    (compile source).map Predicate.root = tokenize source >>= parse := by
  rw [compile, if_neg (Nat.not_lt.mpr h)]
  cases tokenize source with
  | error e => rfl
  | ok tokens =>
    simp only [bind, Except.bind]
    cases parse tokens <;> rfl

/-- What a key in quotes and an index select is what all their spellings select. -/
theorem IndexedTokens.denotes {root : String} (hroot : root = "Header" ∨ root = "Query")
    (h : IndexedTokens key n ts) (hn : n < 2 ^ 64)
    (hf : Field.resolve [.name root, .key key, .index n] = .ok f) :
    ∃ s, Selector.Derives (.ident root :: ts) s ∧ s.Denotes f := by
  obtain ⟨hk, hts, hraw, hus⟩ := h
  have hsteps := StepsDerive.cons hts (.cons hus .nil)
  rw [List.append_nil] at hsteps
  have hindex := Step.Denotes.index ⟨hraw.nonempty, hraw.digits, hraw.value, hn⟩
  refine ⟨_, .mk root hsteps, ?_⟩
  obtain rfl | rfl := hk
  · refine ⟨[.name key, .index n], .cons (.name key) (.cons hindex .nil), ?_⟩
    obtain rfl | rfl := hroot
    · rw [resolve_header rfl] at hf ⊢
      revert hf
      cases HeaderName.ofString? key with
      | none => nofun
      | some name => exact id
    · exact hf
  · exact ⟨[.key key, .index n], .cons (.key key) (.cons hindex .nil), hf⟩

theorem isEmpty_no_digit : ∀ c ∈ " is empty".toList.head?, isAsciiDigit c = false := by
  intro c hc
  obtain rfl : ' ' = c := Option.some.inj hc
  decide

theorem SpellsIndexed.compiles {root selector : String} (hroot : root = "Header" ∨ root = "Query")
    (h : SpellsIndexed root key n selector.toList) (hn : n < 2 ^ 64)
    (hf : Field.resolve [.name root, .key key, .index n] = .ok f)
    (hlen : (selector ++ " is empty").utf8ByteSize ≤ maxSourceLength) :
    (compile (selector ++ " is empty")).map Predicate.root = .ok (.isEmpty f false) := by
  rw [compile_root hlen]
  obtain ⟨ts, hts, hl⟩ := h.lexes hroot isEmpty_no_digit
  obtain ⟨s, hs, hf⟩ := hts.denotes hroot hn hf
  exact parse_isEmpty hs hf hl

/-- Two spellings of one indexed selector compile to the same expression in front of the same text,
or both fail with errors of one kind, unless the text goes on with a digit. -/
theorem compile_agree {root : String} (hroot : root = "Header" ∨ root = "Query")
    {selector selector' rest : String} (h : SpellsIndexed root key n selector.toList)
    (h' : SpellsIndexed root key n selector'.toList)
    (hrest : ∀ c ∈ rest.toList.head?, isAsciiDigit c = false)
    (hlen : (selector ++ rest).utf8ByteSize ≤ maxSourceLength)
    (hlen' : (selector' ++ rest).utf8ByteSize ≤ maxSourceLength) :
    Agree Eq ((compile (selector ++ rest)).map Predicate.root)
      ((compile (selector' ++ rest)).map Predicate.root) := by
  rw [compile_root hlen, compile_root hlen']
  obtain ⟨ts, hts, hl⟩ := h.lexes hroot hrest
  obtain ⟨us, hus, hl'⟩ := h'.lexes hroot hrest
  obtain ⟨ps, pos, hps, htokens⟩ := hl.tokensFrom_append 0
  obtain ⟨qs, pos', hqs, htokens'⟩ := hl'.tokensFrom_append 0
  rw [tokenize, tokenize, String.toList_append, String.toList_append, htokens, htokens']
  -- what follows has the same tokens behind both, or none
  have hmore := tokensFrom_agree false pos pos' rest.toList
  cases hx : tokensFrom false pos rest.toList with
  | error e =>
    obtain ⟨e', hy, hk⟩ := (hx ▸ hmore).of_error
    rw [hy]
    exact .error hk
  | ok more =>
    obtain ⟨more', hy, hm⟩ := (hx ▸ hmore).of_ok
    rw [hy]
    exact hts.parse_agree hroot hus hps hqs (tokensFrom_lexed hx) hm

theorem compile_agree_query :
    SpellsIndexed "Query" "a" 7 "Query[\"a\"][007]".toList ∧
      SpellsIndexed "Query" "a" 7 "Query . a.7".toList ∧
      (compile ("Query[\"a\"][007]" ++ " is empty")).map Predicate.root =
        .ok (.isEmpty (.query "a" (some 7)) false) ∧
      (compile ("Query . a.7" ++ " is empty")).map Predicate.root =
        .ok (.isEmpty (.query "a" (some 7)) false) := by
  have ha : "a".toList = ['a'] := by decide
  have hquoted : KeyWords "a" [['['], ['"', 'a', '"'], [']']] := by
    have hbody : Escapes ['a'] "a".toList := ha ▸ .plain (by decide) (by decide) .nil
    exact .quoted hbody
  have hdotted : KeyWords "a" [['.'], ['a']] := by
    rw [← ha]
    exact .dotted (reads_word (by decide) (by decide) nofun)
  have hbrackets : IndexWords 7 [['['], ['0', '0', '7'], [']']] :=
    .bracketed ⟨by decide, List.all_eq_true.mp (by decide), by cbv⟩
  have hdot : IndexWords 7 [['.'], ['7']] :=
    .dotted ⟨by decide, List.all_eq_true.mp (by decide), by cbv⟩
  have hfirst : SpellsIndexed "Query" "a" 7 "Query[\"a\"][007]".toList := by
    have ht : "Query[\"a\"][007]".toList = List.flatten ("Query".toList ::
        ([['['], ['"', 'a', '"'], [']']] ++ [['['], ['0', '0', '7'], [']']])) := by decide
    exact ⟨_, _, hquoted, hbrackets, ht ▸ Spaced.flatten _⟩
  have hblank : Blank [' '] := blank_cons.mpr ⟨by decide, blank_nil⟩
  have hsecond : SpellsIndexed "Query" "a" 7 "Query . a.7".toList := by
    have ht : "Query . a.7".toList = [] ++ ("Query".toList ++ ([' '] ++ (['.'] ++ ([' '] ++
        (['a'] ++ ([] ++ (['.'] ++ ([] ++ (['7'] ++ []))))))))) := by decide
    rw [ht]
    exact ⟨_, _, hdotted, hdot, .cons blank_nil (.cons hblank (.cons hblank (.cons blank_nil
      (.cons blank_nil .nil))))⟩
  have hok : (compile ("Query[\"a\"][007]" ++ " is empty")).map Predicate.root =
      .ok (.isEmpty (.query "a" (some 7)) false) :=
    hfirst.compiles (.inr rfl) (by decide) rfl (by cbv)
  have h : Agree Eq _ ((compile ("Query . a.7" ++ " is empty")).map Predicate.root) :=
    compile_agree (.inr rfl) hfirst hsecond isEmpty_no_digit (by cbv) (by cbv)
  obtain ⟨e, he, rfl⟩ := (hok ▸ h).of_ok
  exact ⟨hfirst, hsecond, hok, he⟩

end ConditionalGateway.Predicate
