import ConditionalGateway.Proofs.Predicate.Spelling
import ConditionalGateway.Proofs.Text.ByteLength
import Mathlib

/-!
# Tokens and the blanks between them

`Laid` cuts a text into tokens with blanks in front of each and at the end;
that is how `tokensFrom` reads it (`tokensFrom_iff`). So the tokens cover the
text, and blanks that are put between them change nothing (`tokenize_covers`).
-/

namespace ConditionalGateway.Predicate

open Text (byteLength)
open Unicode (isBlank)

def Blank (cs : List Char) : Prop := ∀ c ∈ cs, isBlank c = true

@[simp] theorem blank_nil : Blank [] := nofun

@[simp] theorem blank_cons : Blank (c :: cs) ↔ isBlank c = true ∧ Blank cs := List.forall_mem_cons

@[simp] theorem blank_append : Blank (cs ++ cs') ↔ Blank cs ∧ Blank cs' := List.forall_mem_append

/-- A text from some offset on is made of tokens with blanks in front of each and at the end. The
flag tells whether the token before it is a dot. -/
inductive Laid : Bool → Nat → List Char → List Placed → Prop
  | done : Blank blanks → Laid dot pos blanks [⟨.eof, pos + byteLength blanks⟩]
  | token : Blank blanks → Reads dot w t rest →
      Laid t.isDot (pos + byteLength (blanks ++ w)) rest ts →
      Laid dot pos (blanks ++ w ++ rest) (⟨t, pos + byteLength blanks⟩ :: ts)

-- ---------------------------------------------------------------------------
-- Reading
-- ---------------------------------------------------------------------------

theorem Laid.blank (hc : isBlank c = true) (h : Laid dot (pos + c.utf8Size) cs ts) :
    Laid dot pos (c :: cs) ts := by
  cases h with
  | done hb =>
    rw [Nat.add_assoc, ← Text.byteLength_cons]
    exact .done (blank_cons.mpr ⟨hc, hb⟩)
  | token hb hr hl =>
    rw [Nat.add_assoc, ← Text.byteLength_cons] at hl ⊢
    exact .token (blank_cons.mpr ⟨hc, hb⟩) hr hl

theorem tokensFrom_blanks (hb : Blank blanks) (dot : Bool) (pos : Nat) (cs : List Char) :
    tokensFrom dot pos (blanks ++ cs) = tokensFrom dot (pos + byteLength blanks) cs := by
  induction blanks generalizing pos with
  | nil => rfl
  | cons c blanks ih =>
    obtain ⟨hc, hb⟩ := List.forall_mem_cons.mp hb
    rw [List.cons_append, tokensFrom, if_pos hc, ih hb, Text.byteLength_cons, Nat.add_assoc]

theorem laid_of_tokensFrom (h : tokensFrom dot pos cs = .ok ts) : Laid dot pos cs ts := by
  fun_induction tokensFrom dot pos cs generalizing ts with
  | case1 dot pos =>
    cases h
    exact .done blank_nil
  | case2 dot pos c rest blank ih => exact (ih h).blank blank
  | case3 => cases h
  | case4 dot pos c rest solid lexeme scanned next =>
    rename_i ih
    obtain ⟨more, hm, h⟩ := bind_eq_ok.mp h
    cases h
    obtain ⟨w, rest', hcs, hl, hr⟩ := scan_iff.mp scanned
    obtain ⟨d, tail, rfl, -⟩ := hr.solid.1
    have hnext : next = pos + byteLength (d :: tail) := by
      simp only [next]
      rw [hcs, hl, List.take_left]
    have hdrop : rest.drop (lexeme.length - 1) = rest' := by
      rw [hl, (List.cons.inj hcs).2]
      exact List.drop_left
    have hlaid := ih hm
    rw [hdrop, hnext] at hlaid
    rw [hcs]
    exact .token blank_nil hr hlaid

theorem Laid.tokensFrom (h : Laid dot pos cs ts) : tokensFrom dot pos cs = .ok ts := by
  induction h with
  | @done blanks dot pos hb =>
    have ht := tokensFrom_blanks hb dot pos []
    rwa [List.append_nil, Predicate.tokensFrom] at ht
  | @token blanks dot w t rest pos ts hb hr hl ih =>
    obtain ⟨c, tail, rfl, hc⟩ := hr.solid.1
    have hs := scan_complete hr List.cons_append.symm
    rw [List.append_assoc, tokensFrom_blanks hb, List.cons_append, Predicate.tokensFrom,
      if_neg (by simp [hc]), hs]
    refine bind_eq_ok.mpr ⟨ts, ?_, rfl⟩
    simpa [Nat.add_assoc] using ih

theorem tokensFrom_iff : tokensFrom dot pos cs = .ok ts ↔ Laid dot pos cs ts :=
  ⟨laid_of_tokensFrom, Laid.tokensFrom⟩

-- ---------------------------------------------------------------------------
-- Positions
-- ---------------------------------------------------------------------------

theorem Laid.pos_le (h : Laid dot pos cs ts) : ∀ t ∈ ts, pos ≤ t.pos := by
  induction h with
  | done => simp
  | token hb hr hl ih =>
    refine List.forall_mem_cons.mpr ⟨Nat.le_add_right .., fun u hu => ?_⟩
    exact (Nat.le_add_right ..).trans (ih u hu)

theorem byteLength_pos (h : Reads dot w t rest) : 0 < byteLength w := by
  obtain ⟨c, tail, rfl, -⟩ := h.solid.1
  simp [Char.utf8Size_pos]

theorem Laid.increasing (h : Laid dot pos cs ts) : ts.Pairwise (·.pos < ·.pos) := by
  induction h with
  | done => exact List.pairwise_singleton ..
  | token hb hr hl ih =>
    refine List.pairwise_cons.mpr ⟨fun u hu => ?_, ih⟩
    have hu := hl.pos_le u hu
    have hw := byteLength_pos hr
    simp only [Text.byteLength_append] at hu ⊢
    omega

theorem Laid.eof (h : Laid dot pos cs ts) :
    ∃ body, ts = body ++ [⟨.eof, pos + byteLength cs⟩] ∧ ∀ t ∈ body, t.token ≠ .eof := by
  induction h with
  | done => exact ⟨[], rfl, nofun⟩
  | @token blanks dot w t rest pos ts hb hr hl ih =>
    obtain ⟨body, rfl, hbody⟩ := ih
    have ht : t ≠ .eof := fun ht => by simpa [ht, Token.Lexed] using hr.lexed
    refine ⟨⟨t, pos + byteLength blanks⟩ :: body, ?_, List.forall_mem_cons.mpr ⟨ht, hbody⟩⟩
    simp [Nat.add_assoc]

/-- Some text stands between two offsets of a text that starts at an offset. -/
def Within (pos : Nat) (cs : List Char) (p q : Nat) (w : List Char) : Prop :=
  ∃ front back, cs = front ++ w ++ back ∧ p = pos + byteLength front ∧ q = p + byteLength w

theorem Laid.first (h : Laid dot pos cs (t :: ts)) :
    ∃ blanks rest, Blank blanks ∧ cs = blanks ++ rest ∧ t.pos = pos + byteLength blanks := by
  cases h with
  | done hb => exact ⟨_, [], hb, (List.append_nil _).symm, rfl⟩
  | token hb _ _ => exact ⟨_, _, hb, List.append_assoc .., rfl⟩

theorem Within.behind (h : Within (pos + byteLength front) rest p q w) :
    Within pos (front ++ rest) p q w := by
  obtain ⟨front', back, rfl, rfl, rfl⟩ := h
  exact ⟨front ++ front', back, by simp, by simp [Nat.add_assoc], rfl⟩

theorem Laid.between (h : Laid dot pos cs ts) (hi : [t, u] <:+: ts) : ∃ dot' rest w blanks,
    Reads dot' w t.token rest ∧ Blank blanks ∧ Within pos cs t.pos u.pos (w ++ blanks) := by
  induction h with
  | done => simpa using hi.length_le
  | @token blanks dot w t' rest pos ts hb hr hl ih =>
    obtain hp | hi := List.infix_cons_iff.mp hi
    · obtain ⟨rfl, more, rfl⟩ := List.cons_prefix_cons.mp hp
      obtain ⟨blanks', back, hb', rfl, hu⟩ := hl.first
      refine ⟨dot, _, w, blanks', hr, hb', blanks, back, by simp, rfl, ?_⟩
      simp only [hu, Text.byteLength_append]
      omega
    · obtain ⟨dot', rest', w', blanks', hr', hb', hw⟩ := ih hi
      exact ⟨dot', rest', w', blanks', hr', hb', hw.behind⟩

-- ---------------------------------------------------------------------------
-- Blanks put in
-- ---------------------------------------------------------------------------

/-- A text from some offset on, with the given text put in at each offset. -/
def spread (gap : Nat → List Char) (pos : Nat) : List Char → List Char
  | [] => gap pos
  | c :: cs => gap pos ++ c :: spread gap (pos + c.utf8Size) cs

/-- From an offset to the start of some token there are only blanks. -/
def Boundary (pos : Nat) (cs : List Char) (ts : List Placed) (p : Nat) : Prop :=
  ∃ t ∈ ts, ∃ blanks, Blank blanks ∧ Within pos cs p t.pos blanks

theorem Within.boundary (h : Within pos cs p t.pos (w ++ blanks)) (ht : t ∈ ts)
    (hb : Blank blanks) : Boundary pos cs ts (p + byteLength w) := by
  obtain ⟨front, back, rfl, rfl, hq⟩ := h
  refine ⟨t, ht, blanks, hb, front ++ w, back, by simp, by simp [Nat.add_assoc], ?_⟩
  rw [hq, Text.byteLength_append]
  omega

section
variable {gap : Nat → List Char}

theorem spread_blanks (hg : ∀ p, Blank (gap p)) (hb : Blank blanks) (pos : Nat) :
    ∃ blanks', Blank blanks' ∧ ∀ rest,
      spread gap pos (blanks ++ rest) = blanks' ++ spread gap (pos + byteLength blanks) rest := by
  induction blanks generalizing pos with
  | nil => exact ⟨[], blank_nil, fun rest => rfl⟩
  | cons c blanks ih =>
    obtain ⟨hc, hb⟩ := blank_cons.mp hb
    obtain ⟨blanks', hb', hs⟩ := ih hb (pos + c.utf8Size)
    refine ⟨gap pos ++ c :: blanks', by simp [hg, hc, hb'], fun rest => ?_⟩
    simp [spread, hs, Nat.add_assoc]

theorem spread_closed (h : ∀ p, pos ≤ p → p < pos + byteLength w → gap p = []) (rest : List Char) :
    spread gap pos (w ++ rest) = w ++ spread gap (pos + byteLength w) rest := by
  induction w generalizing pos with
  | nil => rfl
  | cons c w ih =>
    have hc := Char.utf8Size_pos c
    rw [Text.byteLength_cons] at h
    rw [List.cons_append, spread, h pos le_rfl (by omega),
      ih fun p hp hlt => h p (by omega) (by omega)]
    simp [Nat.add_assoc]

theorem spread_fades (hg : ∀ p, Blank (gap p)) (pos : Nat) (cs : List Char) :
    Fades cs (spread gap pos cs) := by
  induction cs generalizing pos with
  | nil => exact .stop fun c hc => isDelimiter_of_blank (hg pos c (List.mem_of_mem_head? hc))
  | cons c cs ih =>
    cases hgap : gap pos with
    | nil =>
      rw [spread, hgap]
      exact .step (ih _)
    | cons d ds =>
      have hd := hg pos
      rw [hgap, blank_cons] at hd
      rw [spread, hgap]
      exact .stop fun e he => Option.some.inj he ▸ isDelimiter_of_blank hd.1

theorem eq_nil_of_byteLength (h : byteLength cs = 0) : cs = [] := by
  cases cs with
  | nil => rfl
  | cons c cs =>
    have hc := Char.utf8Size_pos c
    rw [Text.byteLength_cons] at h
    omega

theorem Blank.of_byteLength_le (hb : Blank blanks) (he : blanks ++ back = w ++ rest)
    (hl : byteLength w ≤ byteLength blanks) : Blank w := by
  obtain ⟨more, rfl, -⟩ | ⟨more, rfl, -⟩ := List.append_eq_append_iff.mp he
  · rw [Text.byteLength_append] at hl
    rw [eq_nil_of_byteLength (by omega : byteLength more = 0), List.append_nil]
    exact hb
  · exact (blank_append.mp hb).1

/-- Behind the start of a token, the offsets from which there are only blanks to the next one are
those behind the token. -/
theorem Boundary.behind (hr : Reads dot w t rest)
    (hl : Laid t.isDot (pos + byteLength (blanks ++ w)) rest ts)
    (h : Boundary pos (blanks ++ w ++ rest) (⟨t, pos + byteLength blanks⟩ :: ts) p)
    (hp : pos + byteLength blanks < p) :
    pos + byteLength (blanks ++ w) ≤ p ∧
      Boundary (pos + byteLength (blanks ++ w)) rest ts p := by
  obtain ⟨u, hu, blanks', hb', front, back, hcs, rfl, hq⟩ := h
  obtain rfl | hu := List.mem_cons.mp hu
  · simp only at hq
    omega
  have hle := hl.pos_le u hu
  rw [List.append_assoc front] at hcs
  obtain ⟨more, rfl, rfl⟩ | ⟨inside, hw, hrest⟩ := List.append_eq_append_iff.mp hcs
  · refine ⟨by simp, u, hu, blanks', hb', more, back, by simp, by simp [Nat.add_assoc], hq⟩
  · -- what is left of the token is blank, but no token ends with a blank
    have hblank : Blank inside := by
      refine hb'.of_byteLength_le hrest ?_
      rw [hw, hq] at hle
      simp only [Text.byteLength_append] at hle
      omega
    obtain ⟨init, c, rfl, hc⟩ := hr.solid.2
    obtain rfl | ⟨inside, d, rfl⟩ := inside.eq_nil_or_concat'
    · rw [List.append_nil] at hw
      refine ⟨by rw [hw], u, hu, blanks', hb', [], back, by simpa using hrest.symm, ?_, hq⟩
      rw [hw, Text.byteLength_nil, Nat.add_zero]
    · have hlast := congrArg List.getLast? hw
      simp only [← List.append_assoc, List.getLast?_concat, Option.some.injEq] at hlast
      rw [hlast, hblank d (by simp)] at hc
      cases hc

theorem Laid.spread (h : Laid dot pos cs ts) (hg : ∀ p, Blank (gap p))
    (hgap : ∀ p, pos ≤ p → gap p ≠ [] → Boundary pos cs ts p) (pos' : Nat) :
    ∃ ts', Laid dot pos' (spread gap pos cs) ts' ∧
      ts'.map Placed.token = ts.map Placed.token := by
  induction h generalizing pos' with
  | @done blanks dot pos hb =>
    obtain ⟨blanks', hb', hs⟩ := spread_blanks hg hb pos
    have hs := hs []
    rw [List.append_nil] at hs
    rw [hs]
    exact ⟨_, .done (blank_append.mpr ⟨hb', hg _⟩), rfl⟩
  | @token blanks dot w t rest pos ts hb hr hl ih =>
    obtain ⟨blanks', hb', hs⟩ := spread_blanks hg hb pos
    obtain ⟨c, tail, rfl, -⟩ := hr.solid.1
    have hc := Char.utf8Size_pos c
    have hinside : ∀ p, pos + byteLength blanks + c.utf8Size ≤ p →
        p < pos + byteLength blanks + c.utf8Size + byteLength tail → gap p = [] := by
      intro p hp hlt
      by_contra hne
      have hle := ((hgap p (by omega) hne).behind hr hl (by omega)).1
      simp only [Text.byteLength_append, Text.byteLength_cons] at hle
      omega
    have htext : Predicate.spread gap pos (blanks ++ c :: tail ++ rest) =
        (blanks' ++ gap (pos + byteLength blanks)) ++ c :: tail ++
          Predicate.spread gap (pos + byteLength (blanks ++ c :: tail)) rest := by
      rw [List.append_assoc, hs, List.cons_append, Predicate.spread,
        spread_closed (hinside · · ·)]
      simp [Nat.add_assoc]
    have hrest : ∀ p, pos + byteLength (blanks ++ c :: tail) ≤ p → gap p ≠ [] →
        Boundary (pos + byteLength (blanks ++ c :: tail)) rest ts p := by
      intro p hp hne
      simp only [Text.byteLength_append, Text.byteLength_cons] at hp
      exact ((hgap p (by omega) hne).behind hr hl (by omega)).2
    obtain ⟨ts', hl', hts⟩ := ih hrest (pos' + byteLength
      ((blanks' ++ gap (pos + byteLength blanks)) ++ c :: tail))
    rw [htext]
    exact ⟨_, .token (blank_append.mpr ⟨hb', hg _⟩) (hr.fades (spread_fades hg _ rest)) hl',
      by simp [hts]⟩

end

-- ---------------------------------------------------------------------------
-- Whole texts
-- ---------------------------------------------------------------------------

/-- The tokens of a text cover it: each stands where the one before it and some blanks end, and the
end of the input stands at the end. A token that is cut out is read again, and blanks may be put at
the start and the end of every token and between them, wherever no token would be cut in two. -/
theorem tokenize_covers {source : String} (h : tokenize source = .ok ts) :
    (∃ body, ts = body ++ [⟨.eof, source.utf8ByteSize⟩] ∧ ∀ t ∈ body, t.token ≠ .eof) ∧
      ts.Pairwise (·.pos < ·.pos) ∧
      (∀ t ∈ ts.head?, ∃ blanks, Blank blanks ∧ Within 0 source.toList 0 t.pos blanks) ∧
      (∀ t u, [t, u] <:+: ts → ∃ w blanks, Spells w t.token ∧ Blank blanks ∧
        Within 0 source.toList t.pos u.pos (w ++ blanks) ∧
        Boundary 0 source.toList ts (t.pos + byteLength w) ∧
        tokenize (.ofList (w ++ blanks)) = .ok [⟨t.token, 0⟩, ⟨.eof, u.pos - t.pos⟩]) ∧
      ∀ gap : Nat → List Char, (∀ p, Blank (gap p)) →
        (∀ p, gap p ≠ [] → Boundary 0 source.toList ts p) →
        ∃ ts', tokenize (.ofList (spread gap 0 source.toList)) = .ok ts' ∧
          ts'.map Placed.token = ts.map Placed.token := by
  have hl : Laid false 0 source.toList ts := tokensFrom_iff.mp h
  refine ⟨?_, hl.increasing, ?_, ?_, ?_⟩
  · have he := hl.eof
    rwa [Text.byteLength_toList, Nat.zero_add] at he
  · intro t ht
    obtain ⟨more, rfl⟩ := List.head?_eq_some_iff.mp ht
    obtain ⟨blanks, rest, hb, hs, ht⟩ := hl.first
    exact ⟨blanks, hb, [], rest, hs, rfl, ht⟩
  · intro t u hi
    obtain ⟨dot, rest, w, blanks, hr, hb, hw⟩ := hl.between hi
    have hu : u ∈ ts := hi.subset (by simp)
    refine ⟨w, blanks, hr.alone nofun, hb, hw, hw.boundary hu hb, ?_⟩
    have hcut : u.pos - t.pos = byteLength w + byteLength blanks := by
      obtain ⟨-, -, -, -, hu⟩ := hw
      rw [hu, Nat.add_sub_cancel_left, Text.byteLength_append]
    have hl' : Laid false 0 ([] ++ w ++ blanks)
        [⟨t.token, 0⟩, ⟨.eof, 0 + byteLength ([] ++ w) + byteLength blanks⟩] :=
      .token blank_nil
        (hr.alone fun c hc => isDelimiter_of_blank (hb c (List.mem_of_mem_head? hc))) (.done hb)
    rw [List.nil_append, Nat.zero_add, ← hcut] at hl'
    rw [tokenize, String.toList_ofList]
    exact hl'.tokensFrom
  · intro gap hg hgap
    obtain ⟨ts', hl', hts⟩ := hl.spread hg (fun p _ => hgap p) 0
    refine ⟨ts', ?_, hts⟩
    rw [tokenize, String.toList_ofList]
    exact hl'.tokensFrom

theorem tokenize_covers_wideBlank :
    tokenize "!x" = .ok [⟨.kwNot, 0⟩, ⟨.ident "x", 1⟩, ⟨.eof, 2⟩] ∧
      ∃ ts, tokenize "!\u3000x" = .ok ts ∧ ts.map Placed.token = [.kwNot, .ident "x", .eof] := by
  have h : tokenize "!x" = .ok [⟨.kwNot, 0⟩, ⟨.ident "x", 1⟩, ⟨.eof, 2⟩] := by cbv
  obtain ⟨-, -, -, -, hspread⟩ := tokenize_covers h
  let gap : Nat → List Char := fun p => if p = 1 then ['\u3000'] else []
  have hgap : ∀ p, Blank (gap p) := by
    intro p
    simp only [gap]
    split
    · exact blank_cons.mpr ⟨by decide, blank_nil⟩
    · exact blank_nil
  have hb : ∀ p, gap p ≠ [] → Boundary 0 "!x".toList
      [⟨.kwNot, 0⟩, ⟨.ident "x", 1⟩, ⟨.eof, 2⟩] p := by
    intro p hp
    obtain rfl : p = 1 := by
      by_contra hne
      exact hp (if_neg hne)
    exact ⟨⟨.ident "x", 1⟩, by simp, [], blank_nil, ['!'], ['x'], by simp, by decide, by decide⟩
  obtain ⟨ts, ht, hts⟩ := hspread gap hgap hb
  exact ⟨h, ts, ht, hts⟩

end ConditionalGateway.Predicate
