import ConditionalGateway.Proofs.Predicate.Spelling

/-!
# Lexing in parts

`Lexes dot cs ts dot' rest` says that the tokens `ts` lie between the texts `cs`
and `rest`; whether the last token read was a dot is told on both sides. Parts
of a text are put together with `Lexes.trans`. A text keeps its tokens when
something is put behind it that starts with a blank or a closing parenthesis
(`Lexes.before`), for no token goes on there.
-/

namespace ConditionalGateway.Predicate

open Unicode (isBlank)

/-- The tokens between two texts, each as long as the text in front of it allows. -/
inductive Lexes : Bool → List Char → List Token → Bool → List Char → Prop
  | done (dot : Bool) (cs : List Char) : Lexes dot cs [] dot cs
  | blank : isBlank c = true → Lexes dot cs ts dot' rest → Lexes dot (c :: cs) ts dot' rest
  | token : isBlank c = false → scan dot c cs = .ok lexeme →
      Lexes lexeme.token.isDot (cs.drop (lexeme.length - 1)) ts dot' rest →
      Lexes dot (c :: cs) (lexeme.token :: ts) dot' rest

theorem Lexes.trans (h : Lexes dot cs ts dot' ms) (h' : Lexes dot' ms us dot'' rest) :
    Lexes dot cs (ts ++ us) dot'' rest := by
  induction h with
  | done => exact h'
  | blank hb _ ih => exact .blank hb (ih h')
  | token hb hs _ ih => exact .token hb hs (ih h')

theorem Lexes.reads (h : Reads dot w t rest) : Lexes dot (w ++ rest) [t] t.isDot rest := by
  obtain ⟨c, tail, rfl, hc⟩ := h.solid.1
  have hs := scan_complete h List.cons_append.symm
  refine .token hc hs ?_
  rw [List.length_cons, Nat.add_one_sub_one, List.drop_left]
  exact .done ..

-- ---------------------------------------------------------------------------
-- Whole texts
-- ---------------------------------------------------------------------------

theorem Lexes.of_tokensFrom (h : tokensFrom dot pos cs = .ok tokens) :
    ∃ body dot', tokens.map Placed.token = body ++ [.eof] ∧ Lexes dot cs body dot' [] := by
  fun_induction tokensFrom dot pos cs generalizing tokens with
  | case1 dot pos =>
    cases h
    exact ⟨[], dot, rfl, .done dot []⟩
  | case2 dot pos c rest blank ih =>
    obtain ⟨body, dot', hb, hl⟩ := ih h
    exact ⟨body, dot', hb, .blank blank hl⟩
  | case3 => cases h
  | case4 dot pos c rest solid lexeme scanned next =>
    rename_i ih
    obtain ⟨more, hm, h⟩ := bind_eq_ok.mp h
    cases h
    obtain ⟨body, dot', hb, hl⟩ := ih hm
    exact ⟨lexeme.token :: body, dot', by simp [hb], .token (by simpa using solid) scanned hl⟩

theorem Lexes.tokensFrom_append (h : Lexes dot cs ts dot' rest) (pos : Nat) :
    ∃ ps pos', ps.map Placed.token = ts ∧
      tokensFrom dot pos cs = (tokensFrom dot' pos' rest).map (ps ++ ·) := by
  induction h generalizing pos with
  | done dot cs =>
    refine ⟨[], pos, rfl, ?_⟩
    cases Predicate.tokensFrom dot pos cs <;> rfl
  | @blank c dot cs ts dot' rest hb _ ih =>
    obtain ⟨ps, pos', hps, hp⟩ := ih (pos + c.utf8Size)
    exact ⟨ps, pos', hps, by rw [Predicate.tokensFrom, if_pos hb, hp]⟩
  | @token c dot cs lexeme ts dot' rest hb hs _ ih =>
    obtain ⟨ps, pos', hps, hp⟩ := ih (pos + Text.byteLength ((c :: cs).take lexeme.length))
    refine ⟨⟨lexeme.token, pos⟩ :: ps, pos', by simp [hps], ?_⟩
    rw [Predicate.tokensFrom, if_neg (by simp [hb]), hs]
    simp only [hp]
    cases Predicate.tokensFrom dot' pos' rest <;> rfl

theorem Lexes.tokensFrom (h : Lexes dot cs body dot' []) (pos : Nat) :
    ∃ tokens, tokensFrom dot pos cs = .ok tokens ∧ tokens.map Placed.token = body ++ [.eof] := by
  obtain ⟨ps, pos', rfl, hp⟩ := h.tokensFrom_append pos
  rw [Predicate.tokensFrom.eq_1] at hp
  exact ⟨_, hp, List.map_append⟩

/-- The tokens of a text are those that lie before its end. -/
theorem tokenize_ok_iff {source : String} :
    (∃ tokens, tokenize source = .ok tokens ∧ tokens.map Placed.token = body ++ [.eof]) ↔
      ∃ dot, Lexes false source.toList body dot [] := by
  constructor
  · rintro ⟨tokens, ht, hb⟩
    obtain ⟨body', dot, hb', hl⟩ := Lexes.of_tokensFrom ht
    obtain rfl : body' = body := List.append_cancel_right (hb'.symm.trans hb)
    exact ⟨dot, hl⟩
  · rintro ⟨dot, hl⟩
    exact hl.tokensFrom 0

-- ---------------------------------------------------------------------------
-- What is put behind a text
-- ---------------------------------------------------------------------------

/-- No token goes on at the start of a text. -/
inductive Delimits : List Char → Prop
  | blank (rest : List Char) : Delimits (' ' :: rest)
  | close (rest : List Char) : Delimits (')' :: rest)

theorem Delimits.head (h : Delimits rest) : ∀ c ∈ rest.head?, isDelimiter c = true := by
  cases h <;> exact fun c hc => Option.some.inj hc ▸ by decide

theorem Delimits.fades (h : Delimits rest) (cs : List Char) : Fades cs (cs ++ rest) := by
  induction cs with
  | nil => exact .stop h.head
  | cons c cs ih => exact .step ih

/-- A text keeps its tokens when no token can go on behind it. -/
theorem Lexes.before (h : Lexes dot cs ts dot' []) (hd : Delimits rest) :
    Lexes dot (cs ++ rest) ts dot' rest := by
  generalize hr : ([] : List Char) = tail at h
  induction h with
  | done dot cs =>
    subst hr
    exact .done dot rest
  | blank hb _ ih => exact .blank hb (ih hr)
  | @token c dot cs lexeme ts dot' tail hb hs _ ih =>
    obtain ⟨w, behind, hcs, hl, hw⟩ := scan_iff.mp hs
    have hs' : scan dot c (cs ++ rest) = .ok lexeme := by
      refine scan_iff.mpr ⟨w, behind ++ rest, ?_, hl, hw.fades (hd.fades behind)⟩
      rw [← List.cons_append, hcs, List.append_assoc]
    have hlen := congrArg List.length hcs
    simp only [List.length_cons, List.length_append] at hlen
    have hdrop : (cs ++ rest).drop (lexeme.length - 1) = cs.drop (lexeme.length - 1) ++ rest :=
      List.drop_append_of_le_length (by omega)
    exact .token hb hs' (hdrop ▸ ih hr)

end ConditionalGateway.Predicate
