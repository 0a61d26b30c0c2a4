import ConditionalGateway.Pipeline.Chain

/-!
# What names resolve to

The links that names resolve to, and the names that are reported missing, are
reached from the names through chains (`Reaches`). Resolution fails for a name
that is reached and missing, for a cycle, or for too many links.
-/

namespace ConditionalGateway.Pipeline

section
variable {δ : Type}

/-- A name stands in a list, or in a chain that the list leads to. -/
inductive Reaches (members : δ → Option (List String)) (table : List (String × δ))
    (names : List String) : String → Prop
  | here : name ∈ names → Reaches members table names name
  | through : Reaches members table names chain → table.lookup chain = some d →
      members d = some ms → name ∈ ms → Reaches members table names name

variable {members : δ → Option (List String)} {table : List (String × δ)}

theorem mem_of_lookup (h : table.lookup name = some d) : (name, d) ∈ table := by
  obtain ⟨_, _, rfl, -⟩ := List.lookup_eq_some_iff.mp h
  simp

theorem Reaches.of_subset (h : Reaches members table names n)
    (hs : ∀ m ∈ names, Reaches members table names' m) : Reaches members table names' n := by
  induction h with
  | here hm => exact hs _ hm
  | through _ hl hd hm ih => exact .through ih hl hd hm

/-- What an expansion has beyond another one is reached from the names. -/
structure Expansion.Extends (members : δ → Option (List String)) (table : List (String × δ))
    (names : List String) (x y : Expansion δ) : Prop where
  links : ∀ e ∈ y.links, e ∈ x.links ∨
    Reaches members table names e.1 ∧ table.lookup e.1 = some e.2 ∧ members e.2 = none
  missing : ∀ n ∈ y.missing, n ∈ x.missing ∨
    Reaches members table names n ∧ table.lookup n = none

variable {x y z : Expansion δ}

theorem Expansion.Extends.refl (x : Expansion δ) : x.Extends members table names x :=
  ⟨fun _ => .inl, fun _ => .inl⟩

theorem Expansion.Extends.trans (h : x.Extends members table names y)
    (h' : y.Extends members table names z) : x.Extends members table names z := by
  constructor
  · intro e he
    obtain he | he := h'.links e he
    · exact h.links e he
    · exact .inr he
  · intro n hn
    obtain hn | hn := h'.missing n hn
    · exact h.missing n hn
    · exact .inr hn

theorem Expansion.Extends.of_subset (h : x.Extends members table names y)
    (hs : ∀ m ∈ names, Reaches members table names' m) : x.Extends members table names' y := by
  constructor
  · intro e he
    exact (h.links e he).imp id fun ⟨hr, hl⟩ => ⟨hr.of_subset hs, hl⟩
  · intro n hn
    exact (h.missing n hn).imp id fun ⟨hr, hl⟩ => ⟨hr.of_subset hs, hl⟩

theorem Expansion.Extends.of_rest (h : x.Extends members table names y) :
    x.Extends members table (name :: names) y :=
  h.of_subset fun _ hm => .here (List.mem_cons_of_mem _ hm)

theorem Expansion.addLink_extends (hn : name ∈ names) (hl : table.lookup name = some d)
    (hd : members d = none) : x.Extends members table names (x.addLink name d) := by
  constructor
  · intro e he
    obtain he | he := List.mem_append.mp he
    · exact .inl he
    · obtain rfl := List.mem_singleton.mp he
      exact .inr ⟨.here hn, hl, hd⟩
  · exact fun _ => .inl

theorem Expansion.addMissing_extends (hn : name ∈ names) (hl : table.lookup name = none) :
    x.Extends members table names (x.addMissing name) := by
  unfold addMissing
  split
  · exact .refl x
  · constructor
    · exact fun _ => .inl
    · intro n hm
      obtain hm | hm := List.mem_append.mp hm
      · exact .inl hm
      · obtain rfl := List.mem_singleton.mp hm
        exact .inr ⟨.here hn, hl⟩

theorem expand_extends (h : expand members table opened names x = .ok y) :
    x.Extends members table names y := by
  fun_induction expand members table opened names x generalizing y with
  | case1 => cases h; exact .refl _
  | case2 opened x name rest found ih =>
    exact (Expansion.addMissing_extends List.mem_cons_self found).trans (ih h).of_rest
  | case3 => cases h
  | case4 opened x name rest d found plain room ih =>
    exact (Expansion.addLink_extends List.mem_cons_self found plain).trans (ih h).of_rest
  | case5 => cases h
  | case6 => cases h
  | case7 opened x name rest d found inner chain fresh _ x' done ih ih' =>
    have hi : x.Extends members table (name :: rest) x' :=
      (ih done).of_subset fun m hm => .through (.here List.mem_cons_self) found chain hm
    exact hi.trans (ih' h).of_rest

theorem expand_error (h : expand members table opened names x = .error err) :
    (∃ path, err = .cycle path) ∨ err = .tooLong maxLinks := by
  fun_induction expand members table opened names x with
  | case1 => cases h
  | case2 _ _ _ _ _ ih => exact ih h
  | case3 => cases h; exact .inr rfl
  | case4 _ _ _ _ _ _ _ _ ih => exact ih h
  | case5 => cases h; exact .inl ⟨_, rfl⟩
  | case6 _ _ _ _ _ _ _ _ _ _ _ failed ih => cases h; exact ih failed
  | case7 _ _ _ _ _ _ _ _ _ _ _ _ _ ih' => exact ih' h

theorem resolve_ok (h : resolve members table names = .ok links) (he : e ∈ links) :
    Reaches members table names e.1 ∧ table.lookup e.1 = some e.2 ∧ members e.2 = none := by
  unfold resolve at h
  split at h
  · cases h
  · rename_i x hx
    split at h
    · cases h
      obtain he | he := (expand_extends hx).links e he
      · cases he
      · exact he
    · cases h

theorem resolve_error (h : resolve members table names = .error err) :
    (∃ path, err = .cycle path) ∨ err = .tooLong maxLinks ∨
      ∃ n ns, err = .missing (n :: ns) ∧ Reaches members table names n ∧
        table.lookup n = none := by
  unfold resolve at h
  split at h
  · rename_i err' hx
    cases h
    exact (expand_error hx).imp id .inl
  · rename_i x hx
    split at h
    · cases h
    · rename_i hm
      cases h
      cases hl : x.missing with
      | nil => simp [hl] at hm
      | cons n ns =>
        obtain hn | hn := (expand_extends hx).missing n (by simp [hl])
        · cases hn
        · exact .inr (.inr ⟨n, ns, rfl, hn⟩)

end

-- ---------------------------------------------------------------------------
-- Making links
-- ---------------------------------------------------------------------------

/-- The links to the right of the first one that fails have been made. -/
theorem makeLinks_split {factory : Factory δ ε H σ}
    (he : makeLinks factory links next s = (.error err, s')) :
    ∃ left n d right inner t err', links = left ++ (n, d) :: right ∧
      makeLinks factory right next s = (.ok inner, t) ∧
      factory n d inner t = (.error err', s') ∧ err = .link n err' := by
  induction links generalizing err s' with
  | nil => cases he
  | cons e rest ih =>
    unfold makeLinks at he
    split at he
    · rename_i hr
      cases he
      obtain ⟨left, n, d, right, inner, t, err', rfl, hright, hd, rfl⟩ := ih hr
      exact ⟨e :: left, n, d, right, inner, t, err', rfl, hright, hd, rfl⟩
    · rename_i inner t hr
      split at he
      · rename_i hd
        cases he
        exact ⟨[], _, _, rest, inner, t, _, rfl, hr, hd, rfl⟩
      · cases he

theorem makeLinks_error {factory : Factory δ ε H σ}
    (h : makeLinks factory links next s = (.error err, s')) :
    ∃ name d err' next' t t', (name, d) ∈ links ∧ factory name d next' t = (.error err', t') ∧
      err = .link name err' := by
  obtain ⟨left, name, d, right, inner, t, err', rfl, -, hd, rfl⟩ := makeLinks_split h
  exact ⟨name, d, err', inner, t, s', List.mem_append_right left List.mem_cons_self, hd, rfl⟩

theorem buildChain_error {factory : Factory δ ε H σ}
    (h : buildChain members factory table names next s = (.error err, s')) :
    (∃ e, resolve members table names = .error e ∧ err = .unresolved e) ∨
      ∃ name d err' next' t t', Reaches members table names name ∧
        table.lookup name = some d ∧ members d = none ∧
        factory name d next' t = (.error err', t') ∧ err = .link name err' := by
  unfold buildChain at h
  split at h
  · rename_i e hr
    cases h
    exact .inl ⟨e, hr, rfl⟩
  · rename_i links hr
    obtain ⟨name, d, err', next', t, t', hm, hf, rfl⟩ := makeLinks_error h
    obtain ⟨hn, hl, hd⟩ := resolve_ok hr hm
    exact .inr ⟨name, d, err', next', t, t', hn, hl, hd, hf, rfl⟩

end ConditionalGateway.Pipeline
