import ConditionalGateway.Proofs.Pipeline.Outcome

/-!
# How a chain is put together

`buildChain_calls` says which calls of the factory make a chain. None is made
before all names are resolved; then the links are made from the last to the
first, each around the handler that was made before it (`HandsOn`), up to the
first one that fails. So a request meets the links in the order in which the
names unfold.

The calls are seen through a factory that writes them down (`recorded`). Writing
them down changes neither what is built nor what happens meanwhile, as
`makeLinks_recorded` shows.
-/

namespace ConditionalGateway.Pipeline

variable {δ ε H σ : Type}

/-- A call of a factory: the link to be made, the handler that it was to hand requests to, and what
the factory returned. -/
structure Creation (δ ε H : Type) where
  name : String
  descriptor : δ
  given : H
  returned : Except ε H

def Creation.link (c : Creation δ ε H) : String × δ := (c.name, c.descriptor)

def recorded (factory : Factory δ ε H σ) : Factory δ ε H (σ × List (Creation δ ε H)) :=
  fun name d next s =>
    let (returned, s') := factory name d next s.1
    (returned, s', s.2 ++ [⟨name, d, next, returned⟩])

/-- Calls that hand on handlers: the first is given `given`, each of the others what the one before
it returned, and the last handler returned is the result. A call that fails is the last one, and
its error is the result. -/
inductive HandsOn : H → List (Creation δ ε H) → Except (ChainError ε) H → Prop
  | done (given : H) : HandsOn given [] (.ok given)
  | made : HandsOn around calls result →
      HandsOn given (⟨name, d, given, .ok around⟩ :: calls) result
  | failed : HandsOn given [⟨name, d, given, .error e⟩] (.error (.link name e))

theorem HandsOn.append {calls calls' : List (Creation δ ε H)}
    (h : HandsOn given calls (.ok around)) (h' : HandsOn around calls' result) :
    HandsOn given (calls ++ calls') result := by
  generalize hr : (.ok around : Except (ChainError ε) H) = first at h
  induction h with
  | done given =>
    cases hr
    exact h'
  | made _ ih => exact .made (ih hr)
  | failed => cases hr

theorem HandsOn.outcome {calls : List (Creation δ ε H)} (h : HandsOn given calls result) :
    (∃ built, result = .ok built ∧ ∀ c ∈ calls, ∃ h, c.returned = .ok h) ∨
      ∃ before c e, calls = before ++ [c] ∧ c.returned = .error e ∧
        result = .error (.link c.name e) ∧ ∀ c ∈ before, ∃ h, c.returned = .ok h := by
  induction h with
  | done given => exact .inl ⟨given, rfl, by simp⟩
  | @made around calls result given name d _ ih =>
    obtain ⟨built, rfl, hall⟩ | ⟨before, c, e, rfl, hc, rfl, hall⟩ := ih
    · exact .inl ⟨built, rfl, List.forall_mem_cons.mpr ⟨⟨around, rfl⟩, hall⟩⟩
    · exact .inr ⟨_ :: before, c, e, rfl, hc, rfl, List.forall_mem_cons.mpr ⟨⟨around, rfl⟩, hall⟩⟩
  | @failed given name d e => exact .inr ⟨[], _, e, rfl, rfl, rfl, by simp⟩

/-- If each handler that was made is met at its own link first, and then the one that it was made
around, then the result is met at the links that were made, the last one first. -/
theorem HandsOn.meets {calls : List (Creation δ ε H)} (h : HandsOn given calls (.ok built))
    (meets : H → ρ → List (String × δ))
    (hm : ∀ c ∈ calls, ∀ made, c.returned = .ok made →
      ∀ r, ∃ r', meets made r = c.link :: meets c.given r') (r : ρ) :
    ∃ r', meets built r = (calls.map Creation.link).reverse ++ meets given r' := by
  generalize hr : (.ok built : Except (ChainError ε) H) = result at h
  induction h with
  | done given =>
    cases hr
    exact ⟨r, rfl⟩
  | made _ ih =>
    obtain ⟨hfirst, hrest⟩ := List.forall_mem_cons.mp hm
    obtain ⟨r', hr'⟩ := ih hrest hr
    obtain ⟨r'', hr''⟩ := hfirst _ rfl r'
    exact ⟨r'', by rw [hr', hr'']; simp [Creation.link]⟩
  | failed => cases hr

theorem makeLinks_recorded (factory : Factory δ ε H σ) (links : List (String × δ)) (next : H)
    (s : σ) : ∃ calls,
      makeLinks (recorded factory) links next (s, []) =
        ((makeLinks factory links next s).1, (makeLinks factory links next s).2, calls) ∧
      HandsOn next calls (makeLinks factory links next s).1 ∧
      calls.map Creation.link <+: links.reverse ∧
      ∀ h, (makeLinks factory links next s).1 = .ok h →
        calls.map Creation.link = links.reverse := by
  induction links with
  | nil => exact ⟨[], rfl, .done next, List.prefix_rfl, fun _ _ => rfl⟩
  | cons link rest ih =>
    obtain ⟨name, d⟩ := link
    obtain ⟨calls, hrun, hcalls, hprefix, hall⟩ := ih
    simp only [makeLinks, hrun, List.reverse_cons]
    generalize makeLinks factory rest next s = built at hcalls hall
    obtain ⟨result, t⟩ := built
    cases result with
    | error e =>
      refine ⟨calls, rfl, hcalls, hprefix.trans (List.prefix_append _ _), fun h he => ?_⟩
      cases he
    | ok around =>
      have hlinks := hall around rfl
      simp only [recorded]
      generalize factory name d around t = made
      obtain ⟨returned, t'⟩ := made
      have hmade : (calls ++ [(⟨name, d, around, returned⟩ : Creation δ ε H)]).map Creation.link =
          rest.reverse ++ [(name, d)] := by
        rw [List.map_append, hlinks]
        rfl
      refine ⟨calls ++ [⟨name, d, around, returned⟩], ?_⟩
      cases returned with
      | error e =>
        refine ⟨rfl, hcalls.append .failed, hmade ▸ List.prefix_rfl, fun h he => ?_⟩
        cases he
      | ok h =>
        exact ⟨rfl, hcalls.append (.made (.done h)), hmade ▸ List.prefix_rfl, fun _ _ => hmade⟩

/-- Building a chain calls the factory only for names that resolve: for the links that they unfold
to, from the last one to the first, each call being given the handler that the one before it
returned, until one fails. If none does, a request meets the links in the order in which they are
read, and then the handler that the chain was built in front of. -/
theorem buildChain_calls (members : δ → Option (List String)) (factory : Factory δ ε H σ)
    (table : List (String × δ)) (names : List String) (next : H) (s : σ) : ∃ calls,
    -- Writing down the calls changes nothing.
    buildChain members (recorded factory) table names next (s, []) =
      ((buildChain members factory table names next s).1,
        (buildChain members factory table names next s).2, calls) ∧
    -- There is no call if the names do not resolve.
    (∀ e, resolve members table names = .error e → calls = [] ∧
      (buildChain members factory table names next s).1 = .error (.unresolved e)) ∧
    ∀ links, resolve members table names = .ok links →
      -- The links are what the names unfold to in place, and no call is for a chain.
      (∃ leaves, Unfolds members table names leaves [] ∧ links = linksOf table leaves) ∧
      (∀ c ∈ calls, members c.descriptor = none) ∧
      -- The calls go from the last link to the first, and hand on what is made.
      calls.map Creation.link <+: links.reverse ∧
      HandsOn next calls (buildChain members factory table names next s).1 ∧
      -- Either every link is made, and a request meets them in order,
      (∀ h, (buildChain members factory table names next s).1 = .ok h →
        calls.map Creation.link = links.reverse ∧
        ∀ (ρ : Type) (meets : H → ρ → List (String × δ)),
          (∀ c ∈ calls, ∀ made, c.returned = .ok made →
            ∀ r, ∃ r', meets made r = c.link :: meets c.given r') →
          ∀ r, ∃ r', meets h r = links ++ meets next r') ∧
      -- or one fails, those to its right are made, and none to its left.
      ∀ err, (buildChain members factory table names next s).1 = .error err →
        ∃ before c e, calls = before ++ [c] ∧ (∀ c ∈ before, ∃ h, c.returned = .ok h) ∧
          c.returned = .error e ∧ err = .link c.name e ∧
          ∃ left, links = left ++ c.link :: (before.map Creation.link).reverse := by
  unfold buildChain
  cases hr : resolve members table names with
  | error e => exact ⟨[], rfl, fun _ he => ⟨rfl, by cases he; rfl⟩, nofun⟩
  | ok links =>
    obtain ⟨calls, hrun, hcalls, hprefix, hall⟩ := makeLinks_recorded factory links next s
    refine ⟨calls, hrun, nofun, ?_⟩
    rintro _ ⟨⟩
    refine ⟨?_, fun c hc => ?_, hprefix, hcalls, fun h hok => ⟨hall h hok, ?_⟩, fun err herr => ?_⟩
    · obtain ⟨-, -, leaves, hu, -⟩ := resolve_ok_iff.mp ⟨links, hr⟩
      exact ⟨leaves, hu, resolve_links hr hu⟩
    · have hmem := hprefix.subset (List.mem_map_of_mem hc)
      exact (resolve_ok hr (List.mem_reverse.mp hmem)).2.2
    · intro ρ meets hm r
      obtain ⟨r', hr'⟩ := HandsOn.meets (hok ▸ hcalls) meets hm r
      rw [hall h hok, List.reverse_reverse] at hr'
      exact ⟨r', hr'⟩
    · obtain ⟨h, hok, -⟩ | ⟨before, c, e, rfl, hc, hfail, hbefore⟩ := hcalls.outcome
      · cases hok.symm.trans herr
      · cases hfail.symm.trans herr
        obtain ⟨left, hleft⟩ := hprefix
        refine ⟨before, c, e, rfl, hbefore, hc, rfl, left.reverse, ?_⟩
        rw [← List.reverse_reverse links, ← hleft]
        simp

end ConditionalGateway.Pipeline
