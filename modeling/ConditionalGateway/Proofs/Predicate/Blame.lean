import ConditionalGateway.Proofs.Predicate.LexicalErrors
import ConditionalGateway.Proofs.Predicate.CursorLaws
import ConditionalGateway.Proofs.Predicate.Spacing
import ConditionalGateway.Predicate.Basic
import Mathlib

/-!
# What errors point at

`compile_error_fits`: an error that tells a place tells a boundary of characters
in the source, and the source has there what the error names.

The parser names a token that is still to be read where it fails. So each of its
functions is shown to end with such an error or at a cursor further on
(`Cursor.Tracks`), and that is put together as the functions are.
-/

namespace ConditionalGateway.Predicate

open Text (byteLength)

def CompileError.pos? : CompileError → Option Nat
  | .unexpectedChar _ pos => some pos
  | .unterminatedString pos => some pos
  | .invalidEscape _ pos => some pos
  | .invalidNumber _ pos => some pos
  | .unexpectedToken _ _ pos => some pos
  | _ => none

/-- An error names one of some tokens at its offset, or it tells no offset. -/
inductive CompileError.Blames (ts : List Placed) : CompileError → Prop
  | token : t ∈ ts → Names expected t.token found →
      Blames ts (.unexpectedToken expected found t.pos)
  | nowhere : e.pos? = none → Blames ts e

theorem CompileError.Blames.mono {e : CompileError} {ts us : List Placed} (h : e.Blames ts)
    (hs : ts ⊆ us) : e.Blames us := by
  cases h with
  | token ht hn => exact .token (hs ht) hn
  | nowhere he => exact .nowhere he

/-- What is read from a cursor ends at one with the same tokens or fewer, or it fails because of one
of those tokens. -/
def Cursor.Tracks (c : Cursor) (x : Except CompileError (α × Cursor)) : Prop :=
  (∀ e, x = .error e → e.Blames c.rest) ∧
    ∀ a d, x = .ok (a, d) → Lexed d.tokens ∧ d.rest ⊆ c.rest

section
variable {c d : Cursor} {x : Except CompileError (α × Cursor)}

theorem Cursor.peekAt_mem (hc : Lexed c.tokens) : c.peekAt 0 ∈ c.rest := by
  obtain ⟨rest, last⟩ := c
  cases rest with
  | nil => exact absurd rfl hc.ne_nil
  | cons p rest => exact List.mem_cons_self

theorem Cursor.next_subset (c : Cursor) : c.next.rest ⊆ c.rest := List.tail_subset _

theorem Cursor.unexpected_blames (hc : Lexed c.tokens) (he : expected ≠ .index) :
    (c.unexpected expected).Blames c.rest :=
  .token (Cursor.peekAt_mem hc) (.shown _ he)

theorem Cursor.Tracks.error (h : e.Blames c.rest) :
    c.Tracks (.error e : Except CompileError (α × Cursor)) :=
  ⟨by rintro _ ⟨⟩; exact h, nofun⟩

theorem Cursor.Tracks.unexpected (hc : Lexed c.tokens) (he : expected ≠ .index) :
    c.Tracks (.error (c.unexpected expected) : Except CompileError (α × Cursor)) :=
  .error (Cursor.unexpected_blames hc he)

theorem Cursor.Tracks.ok (hc : Lexed c.tokens) (a : α) : c.Tracks (.ok (a, c)) :=
  ⟨nofun, by rintro _ _ ⟨⟩; exact ⟨hc, List.Subset.refl _⟩⟩

theorem Cursor.Tracks.mono (h : d.Tracks x) (hs : d.rest ⊆ c.rest) : c.Tracks x :=
  ⟨fun e he => (h.1 e he).mono hs, fun a m hm =>
    ⟨(h.2 a m hm).1, List.Subset.trans (h.2 a m hm).2 hs⟩⟩

theorem Cursor.Tracks.behind (hc : Lexed c.tokens) (ht : c.peek ≠ .eof)
    (h : Lexed c.next.tokens → c.next.Tracks x) : c.Tracks x :=
  (h (Cursor.reads_next hc rfl ht).2.2).mono c.next_subset

theorem Cursor.Tracks.next (hc : Lexed c.tokens) (ht : c.peek ≠ .eof) (a : α) :
    c.Tracks (.ok (a, c.next)) :=
  .behind hc ht fun hn => .ok hn a

theorem Cursor.Tracks.bind {f : α × Cursor → Except CompileError (β × Cursor)} (hx : c.Tracks x)
    (hf : ∀ a (d : Cursor), Lexed d.tokens → d.Tracks (f (a, d))) : c.Tracks (x >>= f) := by
  cases x with
  | error e => exact .error (hx.1 e rfl)
  | ok r =>
    obtain ⟨hd, hs⟩ := hx.2 r.1 r.2 rfl
    exact (hf r.1 r.2 hd).mono hs

theorem Cursor.Tracks.seq {y : Except CompileError β} {f : β → Except CompileError (α × Cursor)}
    (hy : ∀ e, y = .error e → e.Blames c.rest) (hf : ∀ b, y = .ok b → c.Tracks (f b)) :
    c.Tracks (y >>= f) := by
  cases y with
  | error e => exact .error (hy e rfl)
  | ok b => exact hf b rfl

theorem Cursor.Tracks.expect {f : Cursor → Except CompileError (α × Cursor)} (hc : Lexed c.tokens)
    (he : expected ≠ .index) (his : is .eof = false)
    (hf : Lexed c.next.tokens → c.next.Tracks (f c.next)) :
    c.Tracks (c.expect expected is >>= f) := by
  unfold Cursor.expect
  split
  · rename_i hp
    refine .behind hc (fun he => ?_) hf
    rw [he, his] at hp
    cases hp
  · exact .unexpected hc he

end

-- ---------------------------------------------------------------------------
-- Selectors
-- ---------------------------------------------------------------------------

theorem parseLiteral_tracks {c : Cursor} (hc : Lexed c.tokens) : c.Tracks (parseLiteral c) := by
  unfold parseLiteral
  split
  · rename_i l hl
    refine .next hc (fun he => ?_) l
    rw [he] at hl
    cases hl
  · exact .unexpected hc nofun

theorem parseIndex_blames {c : Cursor} (hc : Lexed c.tokens) (hp : c.peek = .number x raw)
    (h : parseIndex c raw = .error e) : e.Blames c.rest := by
  unfold parseIndex at h
  split at h
  · cases h
  · cases h
    refine .token (Cursor.peekAt_mem hc) ?_
    have hp : (c.peekAt 0).token = .number x raw := hp
    rw [hp]
    exact .index x raw

theorem parseDotted_tracks {c : Cursor} (hc : Lexed c.tokens) : c.Tracks (parseDotted c) := by
  unfold parseDotted
  split
  · rename_i name hp
    exact .next hc (by simp [hp]) _
  · rename_i x raw hp
    exact .seq (fun e => parseIndex_blames hc hp) fun n _ => .next hc (by simp [hp]) _
  · exact .unexpected hc nofun

theorem parseKey_blames {c : Cursor} (hc : Lexed c.tokens) (h : parseKey c = .error e) :
    e.Blames c.rest := by
  unfold parseKey at h
  split at h
  · cases h
  · rename_i x raw hp
    obtain h | ⟨n, -, h⟩ := bind_eq_error.mp h
    · exact parseIndex_blames hc hp h
    · cases h
  · cases h
    exact Cursor.unexpected_blames hc nofun

theorem parseKey_ne_eof {c : Cursor} (h : parseKey c = .ok s) : c.peek ≠ .eof := by
  intro hp
  rw [parseKey, hp] at h
  cases h

theorem parseBracketed_tracks {c : Cursor} (hc : Lexed c.tokens) : c.Tracks (parseBracketed c) :=
  .seq (fun _ => parseKey_blames hc) fun s hs =>
    .behind hc (parseKey_ne_eof hs) fun hn => .expect hn nofun rfl fun hd => .ok hd s

theorem parseSegment?_tracks {c : Cursor} (hc : Lexed c.tokens) (h : parseSegment? c = some x) :
    c.Tracks x := by
  unfold parseSegment? at h
  split at h
  · rename_i hp
    cases h
    exact .behind hc (by simp [hp]) parseDotted_tracks
  · rename_i hp
    cases h
    exact .behind hc (by simp [hp]) parseBracketed_tracks
  · cases h

theorem parseSegments_tracks {c : Cursor} (hc : Lexed c.tokens) : c.Tracks (parseSegments c) := by
  fun_induction parseSegments c with
  | case1 c hn => exact .ok hc []
  | case2 c e he => exact .error ((parseSegment?_tracks hc he).1 e rfl)
  | case3 c s after hs shorter e he ih =>
    obtain ⟨ha, hsub⟩ := (parseSegment?_tracks hc hs).2 s after rfl
    exact .error (((ih ha).1 e he).mono hsub)
  | case4 c s after hs shorter ss d hd ih =>
    obtain ⟨ha, hsub⟩ := (parseSegment?_tracks hc hs).2 s after rfl
    obtain ⟨hd, hsub'⟩ := (ih ha).2 ss d hd
    exact (Cursor.Tracks.ok hd _).mono (List.Subset.trans hsub' hsub)
  | case5 c s after hs stuck =>
    obtain ⟨ha, hsub⟩ := (parseSegment?_tracks hc hs).2 s after rfl
    exact (Cursor.Tracks.ok ha _).mono hsub

theorem parseField_tracks {c : Cursor} (hc : Lexed c.tokens) : c.Tracks (parseField c) := by
  unfold parseField
  split
  · rename_i name hp
    refine .behind hc (by simp [hp]) fun hn => .bind (parseSegments_tracks hn) fun tail d hd => ?_
    dsimp only
    split
    · exact .ok hd _
    · rename_i e he
      exact .error (.nowhere (by cases e <;> rfl))
  · exact .unexpected hc nofun

-- ---------------------------------------------------------------------------
-- Conditions
-- ---------------------------------------------------------------------------

/-- A check that reads nothing tells no place. -/
def Placeless (x : Except CompileError α) : Prop := ∀ e, x = .error e → e.pos? = none

theorem checkComparison_placeless (f : Field) (op : Comparison) (l : Literal) :
    Placeless (checkComparison f op l) := by
  intro e h
  unfold checkComparison at h
  repeat' split at h
  all_goals cases h
  all_goals rfl

theorem checkContains_placeless (f : Field) (negated : Bool) (l : Literal) :
    Placeless (checkContains f negated l) := by
  intro e h
  unfold checkContains at h
  repeat' split at h
  all_goals cases h
  all_goals rfl

theorem checkMatches_placeless (f : Field) (negated : Bool) (l : Literal) :
    Placeless (checkMatches f negated l) := by
  intro e h
  unfold checkMatches at h
  repeat' split at h
  all_goals cases h
  all_goals rfl

theorem Cursor.Tracks.check {c : Cursor} {x : Except CompileError α} (hc : Lexed c.tokens)
    (hx : Placeless x) : c.Tracks (x >>= fun a => .ok (a, c)) :=
  .seq (fun e he => .nowhere (hx e he)) fun a _ => .ok hc a

theorem parseOperand_tracks {c : Cursor} (hc : Lexed c.tokens) (hx : ∀ l, Placeless (check l)) :
    c.Tracks (parseOperand c check) :=
  .bind (parseLiteral_tracks hc) fun l _ hd => .check hd (hx l)

theorem parseFieldCondition_tracks {c : Cursor} (hc : Lexed c.tokens) :
    c.Tracks (parseFieldCondition c) := by
  refine .bind (parseField_tracks hc) fun f c hc => ?_
  dsimp only
  split
  · rename_i op hop
    refine .behind hc (fun he => ?_) fun hn =>
      parseOperand_tracks hn fun l => checkComparison_placeless f op l
    rw [he] at hop
    cases hop
  split
  · rename_i hp
    exact .behind hc (by simp [hp]) fun hn =>
      parseOperand_tracks hn fun l => checkContains_placeless f false l
  · rename_i hp
    exact .behind hc (by simp [hp]) fun hn =>
      parseOperand_tracks hn fun l => checkMatches_placeless f false l
  · rename_i hp
    refine .behind hc (by simp [hp]) fun hn => ?_
    split
    · rename_i hp
      exact .behind hn (by simp [hp]) fun hn =>
        parseOperand_tracks hn fun l => checkContains_placeless f true l
    · rename_i hp
      exact .behind hn (by simp [hp]) fun hn =>
        parseOperand_tracks hn fun l => checkMatches_placeless f true l
    · exact .unexpected hn nofun
  · rename_i hp
    refine .behind hc (by simp [hp]) fun hn => ?_
    split
    · rename_i hnot
      refine .behind hn (by simp [isNot_iff.mp hnot]) fun hn => ?_
      exact .expect hn nofun rfl fun hd => .ok hd _
    · exact .expect hn nofun rfl fun hd => .ok hd _
  · exact .unexpected hc nofun

theorem parseLiteralCondition_tracks {c : Cursor} (hc : Lexed c.tokens) :
    c.Tracks (parseLiteralCondition c) := by
  refine .bind (parseLiteral_tracks hc) fun l c hc => ?_
  dsimp only
  split
  · rename_i op hop
    refine .behind hc (fun he => ?_) fun hn => .bind (parseField_tracks hn) fun f d hd =>
      .check hd (checkComparison_placeless f op.flipped l)
    rw [he] at hop
    cases hop
  split
  · rename_i hin
    exact .behind hc (by simp [isIn_iff.mp hin]) fun hn =>
      .bind (parseField_tracks hn) fun f d hd => .check hd (checkContains_placeless f false l)
  split
  · rename_i hnot
    obtain ⟨hnot, hin⟩ := Bool.and_eq_true_iff.mp hnot
    rw [Cursor.peekAt_succ] at hin
    refine .behind hc (by simp [isNot_iff.mp hnot]) fun hn => ?_
    have hp : c.next.peek = .kwIn := isIn_iff.mp hin
    exact .behind hn (by simp [hp]) fun hn => .bind (parseField_tracks hn) fun f d hd =>
      .check hd (checkContains_placeless f true l)
  · exact .unexpected hc nofun

-- ---------------------------------------------------------------------------
-- Expressions
-- ---------------------------------------------------------------------------

def ExprReader.Tracks (read : ExprReader) : Prop := ∀ c : Cursor, Lexed c.tokens → c.Tracks (read c)

section
variable {isJoint : Token → Bool} {join : Expr → Expr → Expr} {operand : ExprReader}

theorem parseRowTail_tracks (hj : isJoint .eof = false) (ho : operand.Tracks) {lhs : Expr}
    {c : Cursor} (hc : Lexed c.tokens) : c.Tracks (parseRowTail isJoint join operand lhs c) := by
  have hne : ∀ {c : Cursor}, isJoint c.peek = true → c.peek ≠ .eof := by
    intro c hp he
    rw [he, hj] at hp
    cases hp
  fun_induction parseRowTail isJoint join operand lhs c with
  | case1 lhs c hp e he =>
    exact .behind hc (hne hp) fun hn => .error ((ho _ hn).1 e he)
  | case2 lhs c hp rhs after hr shorter ih =>
    refine .behind hc (hne hp) fun hn => ?_
    obtain ⟨ha, hs⟩ := (ho _ hn).2 rhs after hr
    exact (ih ha).mono hs
  | case3 lhs c hp rhs after hr stuck =>
    refine .behind hc (hne hp) fun hn => ?_
    obtain ⟨ha, hs⟩ := (ho _ hn).2 rhs after hr
    exact (Cursor.Tracks.ok ha _).mono hs
  | case4 lhs c hp => exact .ok hc lhs

theorem parseRow_tracks (hj : isJoint .eof = false) (ho : operand.Tracks) :
    ExprReader.Tracks (parseRow isJoint join operand) :=
  fun c hc => .bind (ho c hc) fun _ _ hd => parseRowTail_tracks hj ho hd

end

theorem parseDisjunction_tracks (ho : ExprReader.Tracks operand) :
    ExprReader.Tracks (parseDisjunction operand) :=
  parseRow_tracks rfl (parseRow_tracks rfl ho)

theorem parseUnary_tracks (n : Nat) : ExprReader.Tracks (parseUnary n) := by
  induction n using Nat.strongRecOn with
  | _ n ih =>
    intro c hc
    unfold parseUnary
    split
    · rename_i hp
      refine .behind hc (by simp [hp]) fun hn => ?_
      cases n with
      | zero => exact .error (.nowhere rfl)
      | succ n => exact .bind (ih n (Nat.lt_succ_self n) _ hn) fun e d hd => .ok hd _
    · rename_i hp
      refine .behind hc (by simp [hp]) fun hn => ?_
      cases n with
      | zero => exact .error (.nowhere rfl)
      | succ n =>
        refine .bind (parseDisjunction_tracks (ih n (Nat.lt_succ_self n)) _ hn) fun e d hd => ?_
        exact .expect hd nofun rfl fun hd => .ok hd e
    · rename_i hp
      split
      · exact parseLiteralCondition_tracks hc
      · exact .next hc (by simp [hp]) _
    · rename_i hp
      split
      · exact parseLiteralCondition_tracks hc
      · exact .next hc (by simp [hp]) _
    · exact parseLiteralCondition_tracks hc
    · exact parseLiteralCondition_tracks hc
    · exact parseFieldCondition_tracks hc
    · exact .unexpected hc nofun

/-- The parser fails because of a token that it is given. -/
theorem parse_blames (hl : Lexed (tokens.map Placed.token)) (h : parse tokens = .error e) :
    e.Blames tokens := by
  have hc : Lexed (Cursor.ofTokens tokens).tokens := hl
  unfold parse at h
  dsimp only at h
  split at h
  · cases h
    exact .nowhere rfl
  · have ht := parseDisjunction_tracks (parseUnary_tracks maxDepth) _ hc
    obtain h | ⟨⟨x, d⟩, hx, h⟩ := bind_eq_error.mp h
    · exact ht.1 e h
    · obtain ⟨hd, hs⟩ := ht.2 x d hx
      dsimp only at h
      split at h
      · cases h
      · cases h
        have hb : (d.unexpected .endOfInput).Blames d.rest := Cursor.unexpected_blames hd nofun
        exact hb.mono hs

-- ---------------------------------------------------------------------------
-- Whole sources
-- ---------------------------------------------------------------------------

theorem Laid.boundary (h : Laid dot pos cs ts) (ht : t ∈ ts) :
    ∃ front back, cs = front ++ back ∧ pos + byteLength front = t.pos := by
  induction h with
  | @done blanks dot pos hb =>
    obtain rfl := List.mem_singleton.mp ht
    exact ⟨blanks, [], (List.append_nil _).symm, rfl⟩
  | @token blanks dot w t' rest pos ts hb hr hl ih =>
    obtain rfl | ht := List.mem_cons.mp ht
    · exact ⟨blanks, w ++ rest, List.append_assoc .., rfl⟩
    · obtain ⟨front, back, rfl, hp⟩ := ih ht
      refine ⟨blanks ++ w ++ front, back, (List.append_assoc ..).symm, ?_⟩
      rw [← hp, Text.byteLength_append (blanks ++ w), Nat.add_assoc]

theorem Laid.eof_pos (h : Laid dot pos cs ts) (ht : t ∈ ts) (he : t.token = .eof) :
    t.pos = pos + byteLength cs := by
  obtain ⟨body, rfl, hb⟩ := h.eof
  obtain ht | ht := List.mem_append.mp ht
  · exact absurd he (hb t ht)
  · rw [List.mem_singleton.mp ht]

theorem CompileError.Fits.boundary {source : String} {e : CompileError} (h : e.Fits source)
    (hp : e.pos? = some pos) :
    ∃ front back, source.toList = front ++ back ∧ byteLength front = pos := by
  have hstuck : ∀ {pos rest}, Stuck source.toList pos rest →
      ∃ front back, source.toList = front ++ back ∧ byteLength front = pos :=
    fun hs => hs.place.imp fun _ hf => ⟨_, hf⟩
  cases h with
  | unexpectedChar hs => exact Option.some.inj hp ▸ hstuck hs
  | openQuote hs _ => exact Option.some.inj hp ▸ hstuck hs
  | openRaw hs _ => exact Option.some.inj hp ▸ hstuck hs
  | invalidNumber hs _ => exact Option.some.inj hp ▸ hstuck hs
  | @invalidEscape pos body c rest text hs _ _ =>
    obtain ⟨front, hf, rfl⟩ := hs.place
    refine ⟨front ++ '"' :: body, '\\' :: c :: rest, ?_, ?_⟩
    · rw [hf, List.append_assoc, List.cons_append]
    · rw [Text.byteLength_append, ← Option.some.inj hp]
  | unexpectedToken hts ht _ _ =>
    obtain ⟨front, back, hf, hb⟩ := (tokensFrom_iff.mp hts).boundary ht
    rw [Nat.zero_add] at hb
    exact ⟨front, back, hf, hb.trans (Option.some.inj hp)⟩

theorem parse_fits {source : String} (hts : tokenize source = .ok ts) (h : parse ts = .error e)
    (hp : e.pos? = some pos) : e.Fits source := by
  cases parse_blames (tokenize_lexed hts) h with
  | token ht hn =>
    refine .unexpectedToken hts ht hn fun he => ?_
    rw [(tokensFrom_iff.mp hts).eof_pos ht he, Nat.zero_add, Text.byteLength_toList]
  | nowhere hn =>
    rw [hn] at hp
    cases hp

/-- An error of compilation that tells an offset tells a boundary of characters in the source, and
the source has there what the error names. -/
theorem compile_error_fits {source : String} (h : compile source = .error e)
    (hp : e.pos? = some pos) :
    pos ≤ source.utf8ByteSize ∧
      (∃ front back, source.toList = front ++ back ∧ byteLength front = pos) ∧ e.Fits source := by
  have hfits : e.Fits source := by
    unfold compile at h
    split at h
    · cases h
      cases hp
    · obtain h | ⟨ts, hts, h⟩ := bind_eq_error.mp h
      · exact tokenize_error h
      · obtain h | ⟨root, -, h⟩ := bind_eq_error.mp h
        · exact parse_fits hts h hp
        · cases h
  obtain ⟨front, back, hf, hb⟩ := hfits.boundary hp
  refine ⟨?_, ⟨front, back, hf, hb⟩, hfits⟩
  rw [← Text.byteLength_toList, hf, Text.byteLength_append, hb]
  exact Nat.le_add_right ..

theorem compile_error_fits_end :
    compile "Header[\"é\"" = .error (.unexpectedToken .closeBracket "end of input" 11) ∧
      11 ≤ "Header[\"é\"".utf8ByteSize ∧
      (∃ front back, "Header[\"é\"".toList = front ++ back ∧ byteLength front = 11) ∧
      (CompileError.unexpectedToken .closeBracket "end of input" 11).Fits "Header[\"é\"" := by
  have h : compile "Header[\"é\"" =
      .error (.unexpectedToken .closeBracket "end of input" 11) := by cbv
  exact ⟨h, compile_error_fits h rfl⟩

end ConditionalGateway.Predicate
