import ConditionalGateway.Proofs.Predicate.LexicalErrors
import ConditionalGateway.Proofs.Predicate.Parsing
import ConditionalGateway.Proofs.Text.Digits
import Mathlib

/-!
# Fields by the names they are shown under

`display_reads_back`: the name that a field is shown under selects that field
again, unless it is a query parameter whose key has a character that is shown by
number, and then the name has no tokens.

A key is shown between quotes. Each of its characters is shown as itself, by an
escape that a string can have, or by number (`shownAs`). Up to the first one that
is shown by number, the text is read as the key is written (`Escapes`).
-/

namespace ConditionalGateway.Predicate

open Decimal (toList_toString natOfDigits_toDigits isAsciiDigit_toDigits)
open Text (escapeChar byNumber)
open Unicode (isAsciiDigit)
open Http (HeaderName isTokenChar)

/-- A character is shown by number, as `\0` or with a `u` and its hexadecimal digits. -/
def ShownByNumber (c : Char) : Prop :=
  escapeChar '"' c = ['\\', '0'] ∨ escapeChar '"' c = byNumber c

/-- The field is a query parameter with a character in its key that is shown by number. -/
def Field.Obscure (f : Field) : Prop :=
  ∃ key index, f = .query key index ∧ ∃ c ∈ key.toList, ShownByNumber c

-- ---------------------------------------------------------------------------
-- Quoted keys
-- ---------------------------------------------------------------------------

inductive ShownAs (c : Char) : List Char → Prop
  | plain : c ≠ '"' → c ≠ '\\' → ¬ShownByNumber c → ShownAs c [c]
  | escape : unescape? e = some c → ¬ShownByNumber c → ShownAs c ['\\', e]
  | number : e = '0' ∨ e = 'u' → ShownByNumber c → ShownAs c ('\\' :: e :: tail)

theorem not_shownByNumber_plain (h : escapeChar '"' c = [c]) : ¬ShownByNumber c := by
  rintro (hc | hc)
  · rw [h] at hc
    cases hc
  · rw [h] at hc
    cases hc

theorem not_shownByNumber_escape (h : escapeChar '"' c = ['\\', e]) (h0 : e ≠ '0') :
    ¬ShownByNumber c := by
  rintro (hc | hc)
  · rw [h] at hc
    exact h0 (by simpa using hc)
  · rw [h] at hc
    simp [byNumber] at hc

theorem shownAs (c : Char) : ShownAs c (escapeChar '"' c) := by
  by_cases h0 : c = '\x00'
  · subst h0
    exact .number (.inl rfl) (.inl rfl)
  by_cases he : c ∈ ['\t', '\r', '\n', '\\', '"']
  · fin_cases he
    all_goals exact .escape rfl (not_shownByNumber_escape rfl (by decide))
  simp only [List.mem_cons, List.not_mem_nil, or_false, not_or] at he
  obtain ⟨ht, hr, hn, hb, hq⟩ := he
  have hw : escapeChar '"' c = if Text.isShownByNumber c then byNumber c else [c] := by
    simp only [escapeChar, h0, ht, hr, hn, hb, hq, if_false]
  split at hw
  · rw [hw]
    exact .number (.inr rfl) (.inr hw)
  · rw [hw]
    exact .plain hq hb (not_shownByNumber_plain hw)

theorem escapes_shown (h : ∀ c ∈ cs, ¬ShownByNumber c) :
    Escapes (cs.flatMap (escapeChar '"')) cs := by
  induction cs with
  | nil => exact .nil
  | cons c cs ih =>
    obtain ⟨hc, hcs⟩ := List.forall_mem_cons.mp h
    rw [List.flatMap_cons]
    have hs := shownAs c
    generalize escapeChar '"' c = w at hs
    cases hs with
    | plain hq hb _ => exact .plain hq hb (ih hcs)
    | escape he _ => exact .escape he (ih hcs)
    | number _ hn => exact absurd hn hc

/-- The text of a key is read up to the first character that is shown by number. -/
theorem exists_number {cs : List Char} (h : ∃ c ∈ cs, ShownByNumber c) : ∃ body text e tail,
    cs.flatMap (escapeChar '"') = body ++ '\\' :: e :: tail ∧ Escapes body text ∧
      (e = '0' ∨ e = 'u') := by
  induction cs with
  | nil => simp at h
  | cons c cs ih =>
    rw [List.flatMap_cons]
    have hs := shownAs c
    generalize hw : escapeChar '"' c = w at hs
    have hnext : ¬ShownByNumber c → ∃ d ∈ cs, ShownByNumber d := by
      obtain ⟨d, hd, hn⟩ := h
      obtain rfl | hd := List.mem_cons.mp hd
      · exact fun hc => absurd hn hc
      · exact fun _ => ⟨d, hd, hn⟩
    cases hs with
    | plain hq hb hc =>
      obtain ⟨body, text, e, tail, he, hbody, h0⟩ := ih (hnext hc)
      exact ⟨c :: body, c :: text, e, tail, by rw [he]; rfl, .plain hq hb hbody, h0⟩
    | @escape d hd hc =>
      obtain ⟨body, text, e, tail, he, hbody, h0⟩ := ih (hnext hc)
      exact ⟨'\\' :: d :: body, c :: text, e, tail, by rw [he]; rfl, .escape hd hbody, h0⟩
    | @number e tail he _ =>
      exact ⟨[], [], e, tail ++ cs.flatMap (escapeChar '"'), rfl, .nil, he⟩

-- ---------------------------------------------------------------------------
-- Indices
-- ---------------------------------------------------------------------------

theorem plainIndex_toString (h : n < 2 ^ 64) : PlainIndex (toString n) n := by
  refine ⟨?_, ?_, ?_, h⟩
  · rw [toList_toString]
    exact Nat.toDigits_ne_nil
  · rw [toList_toString]
    exact fun c => isAsciiDigit_toDigits
  · rw [toList_toString, natOfDigits_toDigits]

-- ---------------------------------------------------------------------------
-- Header names
-- ---------------------------------------------------------------------------

theorem isTokenChar_spec : ∀ n < 128, isTokenChar (Char.ofNat n) = true →
    isTokenChar (Unicode.asciiLower (.ofNat n)) = true ∧
      Unicode.asciiLower (Unicode.asciiLower (.ofNat n)) = Unicode.asciiLower (.ofNat n) ∧
      (Unicode.asciiLower (.ofNat n)).utf8Size = (Char.ofNat n).utf8Size ∧
      escapeChar '"' (.ofNat n) = [.ofNat n] := by
  decide

theorem isTokenChar_lt (h : isTokenChar c = true) : c.toNat < 128 := by
  simp only [isTokenChar, Bool.or_eq_true, List.contains_iff_mem] at h
  obtain (h | h) | h := h
  · simp only [Unicode.isAsciiLetter, Bool.or_eq_true, Bool.and_eq_true, decide_eq_true_eq] at h
    omega
  · simp only [isAsciiDigit, Bool.and_eq_true, decide_eq_true_eq] at h
    omega
  · fin_cases h <;> decide

theorem isTokenChar_lower (h : isTokenChar c = true) :
    isTokenChar (Unicode.asciiLower c) = true ∧
      Unicode.asciiLower (Unicode.asciiLower c) = Unicode.asciiLower c ∧
      (Unicode.asciiLower c).utf8Size = c.utf8Size ∧ escapeChar '"' c = [c] := by
  have hs := isTokenChar_spec c.toNat (isTokenChar_lt h)
  rw [Char.ofNat_toNat] at hs
  exact hs h

theorem isToken_iff : Http.isToken s = true ↔
    s.toList ≠ [] ∧ ∀ c ∈ s.toList, isTokenChar c = true := by
  simp [Http.isToken]

theorem ofString?_lower {name : HeaderName} (h : HeaderName.ofString? key = some name) :
    HeaderName.ofString? name.text = some name ∧ ∀ c ∈ name.text.toList, ¬ShownByNumber c := by
  unfold HeaderName.ofString? at h
  split at h
  · rename_i hk
    cases h
    simp only [Bool.and_eq_true, decide_eq_true_eq, isToken_iff] at hk
    obtain ⟨⟨hne, hk⟩, hlen⟩ := hk
    have hlower : ∀ s, (Unicode.lowerAscii s).toList = s.toList.map Unicode.asciiLower :=
      fun s => String.toList_map
    have htoken : ∀ c ∈ (Unicode.lowerAscii key).toList, isTokenChar c = true := by
      intro c hc
      rw [hlower] at hc
      obtain ⟨d, hd, rfl⟩ := List.mem_map.mp hc
      exact (isTokenChar_lower (hk d hd)).1
    have hsize : (Unicode.lowerAscii key).utf8ByteSize = key.utf8ByteSize := by
      rw [← Text.byteLength_toList, ← Text.byteLength_toList, hlower]
      exact Text.byteLength_map fun c hc => (isTokenChar_lower (hk c hc)).2.2.1
    have hidem : Unicode.lowerAscii (Unicode.lowerAscii key) = Unicode.lowerAscii key := by
      apply String.toList_injective
      rw [hlower, hlower, List.map_map]
      exact List.map_congr_left fun c hc => (isTokenChar_lower (hk c hc)).2.1
    refine ⟨?_, fun c hc => not_shownByNumber_plain (isTokenChar_lower (htoken c hc)).2.2.2⟩
    rw [HeaderName.ofString?, if_pos, hidem]
    rw [Bool.and_eq_true, isToken_iff, hsize]
    exact ⟨⟨by rw [hlower]; simpa using hne, htoken⟩, by simpa using hlen⟩
  · cases h

-- ---------------------------------------------------------------------------
-- Tokens of names
-- ---------------------------------------------------------------------------

theorem toList_keyText (key : String) (rest : List Char) :
    (keyText key).toList ++ rest =
      ['['] ++ ('"' :: (key.toList.flatMap (escapeChar '"') ++ ['"']) ++ ([']'] ++ rest)) := by
  simp [keyText, Text.quoted]

theorem lexes_key {key : String} (h : ∀ c ∈ key.toList, ¬ShownByNumber c) (rest : List Char) :
    Lexes false ((keyText key).toList ++ rest) [.lbracket, .str key, .rbracket] false rest := by
  rw [toList_keyText]
  have hkey : Reads false _ (.str (.ofList key.toList)) ([']'] ++ rest) := .quoted (escapes_shown h)
  rw [String.ofList_toList] at hkey
  exact (Lexes.reads (.sign (by simp [signs]))).trans
    ((Lexes.reads hkey).trans (Lexes.reads (.sign (by simp [signs]))))

theorem lexes_index (n : Nat) (rest : List Char) : ∃ x,
    Lexes false ((indexText n).toList ++ rest) [.lbracket, .number x (toString n), .rbracket] false
      rest := by
  have hdigits : ∀ c ∈ (toString n).toList, isAsciiDigit c = true := by
    rw [toList_toString]
    exact fun c => isAsciiDigit_toDigits
  have hne : (toString n).toList ≠ [] := toList_toString n ▸ Nat.toDigits_ne_nil
  obtain ⟨x, hx⟩ := reads_digits hne hdigits
  have hx := hx false ([']'] ++ rest) (by simp; decide) (by simp)
  rw [String.ofList_toList] at hx
  have htext : (indexText n).toList ++ rest = ['['] ++ ((toString n).toList ++ ([']'] ++ rest)) := by
    simp only [indexText, String.toList_append]
    simp
  rw [htext]
  exact ⟨x, (Lexes.reads (.sign (by simp [signs]))).trans
    ((Lexes.reads hx).trans (Lexes.reads (.sign (by simp [signs]))))⟩

def roots : List String :=
  ["Method", "Path", "RawQuery", "Host", "Proto", "ContentLength", "Header", "Query"]

theorem reads_root (root : String) (h : root ∈ roots) (hr : c = ' ' ∨ c = '[') (rest : List Char) :
    Reads false root.toList (.ident root) (c :: rest) := by
  have hend : isWordChar c = false := by
    obtain rfl | rfl := hr <;> decide
  have hident : Token.ofWord root = .ident root := by
    fin_cases h <;> rfl
  rw [← hident]
  fin_cases h
  all_goals exact reads_word (by decide) (by decide) (by simpa using hend)

theorem lexes_isEmpty : Lexes false " is empty".toList [.kwIs, .kwEmpty] false [] := by
  have ht : " is empty".toList = ' ' :: ("is".toList ++ ' ' :: ("empty".toList ++ [])) := by decide
  have his : Reads false "is".toList .kwIs (' ' :: ("empty".toList ++ [])) :=
    reads_word (by decide) (by decide) (by simp; decide)
  have hempty : Reads false "empty".toList .kwEmpty [] := reads_word (by decide) (by decide) nofun
  rw [ht]
  exact .blank rfl ((Lexes.reads his).trans (.blank rfl (Lexes.reads hempty)))

-- ---------------------------------------------------------------------------
-- Names that are read
-- ---------------------------------------------------------------------------

/-- What a selector gives: a header has a name that is one, and no index is larger than those that a
selector can have. -/
def Field.Selectable : Field → Prop
  | .header name index =>
    HeaderName.ofString? name.text = some name ∧ (∀ c ∈ name.text.toList, ¬ShownByNumber c) ∧
      ∀ n ∈ index, n < 2 ^ 64
  | .query _ index => ∀ n ∈ index, n < 2 ^ 64
  | _ => True

theorem indexTail?_mem (h : indexTail? segments = some index) (hn : n ∈ index) :
    .index n ∈ segments := by
  unfold indexTail? at h
  split at h
  · cases h
    cases hn
  · cases h
    cases hn
    exact List.mem_singleton_self _
  · cases h

theorem ofName?_selectable {root : String} (h : Field.ofName? root = some f) : f.Selectable := by
  unfold Field.ofName? at h
  split at h
  all_goals cases h
  all_goals trivial

theorem ofUrlName?_selectable (h : Field.ofUrlName? name = some f) : f.Selectable := by
  unfold Field.ofUrlName? at h
  split at h
  all_goals cases h
  all_goals trivial

theorem selectable_of_resolve (h : Field.resolve segments = .ok f)
    (hn : ∀ n, .index n ∈ segments → n < 2 ^ 64) : f.Selectable := by
  unfold Field.resolve at h
  dsimp only at h
  split at h
  · split at h
    · rename_i hf
      cases h
      exact ofUrlName?_selectable hf
    · cases h
  · rename_i key tail
    have htail : ∀ {index}, indexTail? tail = some index → ∀ n ∈ index, n < 2 ^ 64 :=
      fun ht n hi => hn n (List.mem_cons_of_mem _ (List.mem_cons_of_mem _ (indexTail?_mem ht hi)))
    split at h
    · cases h
    split at h
    · cases h
    rename_i hname
    split at h
    · rename_i ht
      cases h
      obtain ⟨hname, hchars⟩ := ofString?_lower hname
      exact ⟨hname, hchars, htail ht⟩
    · cases h
  · rename_i key tail
    split at h
    · rename_i ht
      cases h
      exact fun n hi =>
        hn n (List.mem_cons_of_mem _ (List.mem_cons_of_mem _ (indexTail?_mem ht hi)))
    · cases h
  · split at h
    · rename_i hf
      cases h
      exact ofName?_selectable hf
    · cases h
  · cases h

theorem lexes_indexDisplay {index : Option Nat} (hn : ∀ n ∈ index, n < 2 ^ 64) (rest : List Char) :
    ∃ ts steps tail, StepsDerive ts steps ∧ List.Forall₂ Step.Denotes steps tail ∧
      indexTail? tail = some index ∧
      Lexes false ((Field.indexDisplay index).toList ++ rest) ts false rest := by
  cases index with
  | none => exact ⟨[], [], [], .nil, .nil, rfl, .done ..⟩
  | some n =>
    obtain ⟨x, hx⟩ := lexes_index n rest
    exact ⟨_, [.index (toString n)], [.index n], .cons (.index x _) .nil,
      .cons (.index (plainIndex_toString (hn n rfl))) .nil, rfl, hx⟩

theorem lexes_keyed (root : String) {key : String} {index : Option Nat} (hr : root ∈ roots)
    (hk : ∀ c ∈ key.toList, ¬ShownByNumber c) (hn : ∀ n ∈ index, n < 2 ^ 64) (rest : List Char) :
    ∃ ts s tail, Selector.Derives ts s ∧ indexTail? tail = some index ∧
      (∀ f, Field.resolve (.name root :: .key key :: tail) = .ok f → s.Denotes f) ∧
      Lexes false ((root ++ keyText key ++ Field.indexDisplay index).toList ++ rest) ts false
        rest := by
  obtain ⟨ts, steps, tail, hs, hd, ht, hl⟩ := lexes_indexDisplay hn rest
  refine ⟨_, ⟨root, .key key :: steps⟩, tail, .mk root (.cons (.key key) hs), ht,
    fun f hf => ⟨_, .cons (.key key) hd, hf⟩, ?_⟩
  have hroot := Lexes.reads (reads_root root hr (.inr rfl)
    ('"' :: (key.toList.flatMap (escapeChar '"') ++ ['"']) ++ ([']'] ++
      ((Field.indexDisplay index).toList ++ rest))))
  rw [← List.singleton_append, ← toList_keyText] at hroot
  rw [String.toList_append, String.toList_append, List.append_assoc, List.append_assoc]
  exact hroot.trans ((lexes_key hk _).trans hl)

theorem exists_selector {f : Field} (hf : f.Selectable) (hs : ¬f.Obscure) : ∃ ts s,
    Selector.Derives ts s ∧ s.Denotes f ∧
      Lexes false (f.display.toList ++ " is empty".toList) ts false " is empty".toList := by
  have hsingle : ∀ root ∈ roots, Lexes false (root.toList ++ " is empty".toList) [.ident root] false
      " is empty".toList := by
    have ht : " is empty".toList = ' ' :: "is empty".toList := by decide
    rw [ht]
    exact fun root hr => Lexes.reads (reads_root root hr (.inl rfl) _)
  have hname : ∀ root f, root ∈ roots → Field.resolve [.name root] = .ok f → f.display = root →
      ∃ ts s, Selector.Derives ts s ∧ s.Denotes f ∧
        Lexes false (f.display.toList ++ " is empty".toList) ts false " is empty".toList := by
    intro root f hr hf hd
    exact ⟨[.ident root], ⟨root, []⟩, .mk root .nil, ⟨[], .nil, hf⟩, hd ▸ hsingle root hr⟩
  cases f with
  | method => exact hname "Method" _ (by decide) rfl rfl
  | path => exact hname "Path" _ (by decide) rfl rfl
  | rawQuery => exact hname "RawQuery" _ (by decide) rfl rfl
  | host => exact hname "Host" _ (by decide) rfl rfl
  | proto => exact hname "Proto" _ (by decide) rfl rfl
  | contentLength => exact hname "ContentLength" _ (by decide) rfl rfl
  | header name index =>
    obtain ⟨hf, hk, hn⟩ := hf
    obtain ⟨ts, s, tail, hts, ht, hd, hl⟩ :=
      lexes_keyed "Header" (by decide) hk hn " is empty".toList
    exact ⟨ts, s, hts, hd _ (by simp [Field.resolve, Segment.mapKey?, hf, ht]), hl⟩
  | query key index =>
    have hk : ∀ c ∈ key.toList, ¬ShownByNumber c :=
      fun c hc hn => hs ⟨key, index, rfl, c, hc, hn⟩
    obtain ⟨ts, s, tail, hts, ht, hd, hl⟩ :=
      lexes_keyed "Query" (by decide) hk hf " is empty".toList
    exact ⟨ts, s, hts, hd _ (by simp [Field.resolve, Segment.mapKey?, ht]), hl⟩

theorem parse_isEmpty {text : String} (hts : Selector.Derives ts s) (hs : s.Denotes f)
    (hl : Lexes false (text.toList ++ " is empty".toList) ts false " is empty".toList) :
    (tokenize (text ++ " is empty") >>= parse) = .ok (.isEmpty f false) := by
  have hl : Lexes false (text ++ " is empty").toList (ts ++ [.kwIs, .kwEmpty]) false [] := by
    rw [String.toList_append]
    exact hl.trans lexes_isEmpty
  obtain ⟨tokens, ht, hb⟩ := tokenize_ok_iff.mpr ⟨false, hl⟩
  refine bind_eq_ok.mpr
    ⟨tokens, ht, parse_complete hb ?_ (Nat.zero_le _) (.condition (.isEmpty hs))⟩
  have hc := Condition.Derives.isEmpty false hts
  rw [List.append_assoc] at hc
  exact .conjunction (.unary (.primary (.condition hc)))

-- ---------------------------------------------------------------------------
-- Names that are not read
-- ---------------------------------------------------------------------------

theorem scanQuoted_invalid (h : Escapes body text) (he : unescape? e = none) (offset : Nat)
    (rest : List Char) : ∃ offset', scanQuoted offset (body ++ '\\' :: e :: rest) =
      .error (.invalidEscape e offset') := by
  induction h generalizing offset with
  | nil =>
    refine ⟨offset, ?_⟩
    rw [List.nil_append, scanQuoted.eq_def]
    simp [he]
  | @plain c body text hq hb _ ih =>
    obtain ⟨offset', hs⟩ := ih (offset + c.utf8Size)
    refine ⟨offset', ?_⟩
    rw [List.cons_append, scanQuoted.eq_def]
    simp [hq, hb, hs, Except.map]
  | @escape c d body text hd _ ih =>
    obtain ⟨offset', hs⟩ := ih (offset + 1 + c.utf8Size)
    refine ⟨offset', ?_⟩
    rw [List.cons_append, List.cons_append, scanQuoted.eq_def]
    simp [hd, hs, Except.map]

theorem Lexes.tokensFrom_error (h : Lexes dot cs ts dot' (c :: rest))
    (hb : Unicode.isBlank c = false) (hs : scan dot' c rest = .error e) (pos : Nat) :
    ∃ pos', Predicate.tokensFrom dot pos cs = .error (e.at pos') := by
  obtain ⟨ps, pos', -, hp⟩ := h.tokensFrom_append pos
  refine ⟨pos', ?_⟩
  rw [hp, Predicate.tokensFrom, if_neg (by simp [hb]), hs]
  rfl

theorem tokenize_obscure {f : Field} (h : f.Obscure) : ∃ c pos, (c = '0' ∨ c = 'u') ∧
    tokenize (f.display ++ " is empty") = .error (.invalidEscape c pos) := by
  obtain ⟨key, index, rfl, hk⟩ := h
  obtain ⟨body, text, e, tail, hbody, hesc, he⟩ := exists_number hk
  have hnone : unescape? e = none := by
    obtain rfl | rfl := he <;> rfl
  generalize hrest : (Field.indexDisplay index).toList ++ " is empty".toList = rest
  have htext : (Field.display (.query key index) ++ " is empty").toList =
      "Query".toList ++ (['['] ++ '"' :: (body ++ '\\' :: e :: (tail ++ '"' :: ']' :: rest))) := by
    rw [Field.display, String.toList_append, String.toList_append, String.toList_append,
      List.append_assoc, List.append_assoc, hrest, toList_keyText, hbody]
    simp
  obtain ⟨offset, hq⟩ := scanQuoted_invalid hesc hnone 1 (tail ++ '"' :: ']' :: rest)
  have hs : scan false '"' (body ++ '\\' :: e :: (tail ++ '"' :: ']' :: rest)) =
      .error (.invalidEscape e offset) := by
    simp [scan, hq, Except.map]
  have hbracket : Reads false ['['] .lbracket
      ('"' :: (body ++ '\\' :: e :: (tail ++ '"' :: ']' :: rest))) := .sign (by simp [signs])
  have hl :=
    (Lexes.reads (reads_root "Query" (by decide) (.inr rfl) _)).trans (Lexes.reads hbracket)
  obtain ⟨pos, hp⟩ := hl.tokensFrom_error rfl hs 0
  refine ⟨e, pos + offset, he, ?_⟩
  rw [tokenize, htext]
  exact hp

/-- The name that a field is shown under selects that field again, if and only if it is not a query
parameter with a character in its key that is shown by number; such a name has no tokens, for a
string has no such escape. -/
theorem display_reads_back {segments : List Segment} (h : Field.resolve segments = .ok f)
    (hn : ∀ n, .index n ∈ segments → n < 2 ^ 64) :
    ((tokenize (f.display ++ " is empty") >>= parse) = .ok (.isEmpty f false) ↔ ¬f.Obscure) ∧
      (f.Obscure → ∃ c pos, (c = '0' ∨ c = 'u') ∧
        tokenize (f.display ++ " is empty") = .error (.invalidEscape c pos)) := by
  refine ⟨⟨fun hok hf => ?_, fun hf => ?_⟩, tokenize_obscure⟩
  · obtain ⟨c, pos, -, he⟩ := tokenize_obscure hf
    rw [he] at hok
    cases hok
  · obtain ⟨ts, s, hts, hs, hl⟩ := exists_selector (selectable_of_resolve h hn) hf
    exact parse_isEmpty hts hs hl

/-- A key of characters that have escapes, with the largest index. -/
def quotedKey : Field := .query "\"\\\n" (some 18446744073709551615)

def controlKey : Field := .query "\x07" none

theorem display_reads_back_key :
    Field.resolve [.name "Query", .key "\"\\\n", .index 18446744073709551615] = .ok quotedKey ∧
      Field.resolve [.name "Query", .name "\x07"] = .ok controlKey ∧
      (tokenize (quotedKey.display ++ " is empty") >>= parse) = .ok (.isEmpty quotedKey false) ∧
      ∃ c pos, (c = '0' ∨ c = 'u') ∧
        tokenize (controlKey.display ++ " is empty") = .error (.invalidEscape c pos) := by
  have hquoted : Field.resolve [.name "Query", .key "\"\\\n", .index 18446744073709551615] =
      .ok quotedKey := rfl
  have hcontrol : Field.resolve [.name "Query", .name "\x07"] = .ok controlKey := rfl
  have hclear : ¬quotedKey.Obscure := by
    rintro ⟨key, index, h, c, hc, hn⟩
    cases h
    have hc : c ∈ ['"', '\\', '\n'] := hc
    fin_cases hc
    all_goals exact not_shownByNumber_escape rfl (by decide) hn
  have hobscure : controlKey.Obscure := ⟨_, _, rfl, '\x07', by decide, .inr rfl⟩
  exact ⟨hquoted, hcontrol, (display_reads_back hquoted (by simp)).1.mpr hclear,
    (display_reads_back hcontrol (by simp)).2 hobscure⟩

end ConditionalGateway.Predicate
