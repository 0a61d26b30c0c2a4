import ConditionalGateway.Proofs.Pipeline.Frame

/-!
# Headers descriptors in a row

`headers_nest`: links for headers lie around each other. The end of a chain sees
of a header what the last link that mentions it made of it, and the client what
the first one did, since a response passes the links the other way round.

What edits do to one header is said by `HeaderEdits.Decides`, and what a list of
edits leaves of it by `Leaves`; rules that are applied again change nothing.
-/

namespace ConditionalGateway.Pipeline

open Http

-- ---------------------------------------------------------------------------
-- Edits
-- ---------------------------------------------------------------------------

def HeaderEdits.Ordered (edits : HeaderEdits) : Prop := (edits.map Prod.fst).Pairwise (· < ·)

def Spells (entry : String × String) (n : HeaderName) : Prop :=
  HeaderName.ofString? entry.1 = some n

def HeaderEdits.Mentions (edits : HeaderEdits) (n : HeaderName) : Prop :=
  ∃ entry ∈ edits, Spells entry n

/-- The greatest of the names that are for a header has some value. -/
def HeaderEdits.Decides (edits : HeaderEdits) (n : HeaderName) (value : String) : Prop :=
  ∃ name, (name, value) ∈ edits ∧ Spells (name, value) n ∧
    ∀ entry ∈ edits, Spells entry n → ¬ name < entry.1

/-- The values that a header is given: one, or none if that is empty. -/
def givenValues (value : String) : List HeaderValue := if value = "" then [] else [.ofText value]

/-- What edits, one after the other, leave of the values of a header: what the last of them that
mention it decide. -/
inductive Leaves (n : HeaderName) (layers : List HeaderEdits) (old : List HeaderValue) :
    List HeaderValue → Prop
  | decided : layers = earlier ++ edits :: later → edits.Decides n value →
      (∀ edits ∈ later, ¬ edits.Mentions n) → Leaves n layers old (givenValues value)
  | kept : (∀ edits ∈ layers, ¬ edits.Mentions n) → Leaves n layers old old

theorem HeaderRule.ofEntry_apply (h : ofEntry entry = .ok rule) (hs : Headers) :
    (rule.apply hs).getAll rule.name = givenValues entry.2 := by
  unfold ofEntry at h
  split at h
  · cases h
  · split at h
    · rename_i hempty
      cases h
      simp [apply, givenValues, Headers.getAll_remove, String.isEmpty_iff.mp hempty]
    · rename_i hempty
      split at h
      · cases h
      · rename_i v hv
        cases h
        obtain ⟨-, rfl⟩ : _ ∧ HeaderValue.ofText entry.2 = v := by
          simpa [HeaderValue.ofString?, HeaderValue.ofBytes?, HeaderValue.ofText] using hv
        have hne : entry.2 ≠ "" := fun he => hempty (String.isEmpty_iff.mpr he)
        simp [apply, givenValues, Headers.getAll_insert, hne]

theorem applyRules_decided {edits : HeaderEdits} (ho : edits.Ordered)
    (hr : edits.mapM HeaderRule.ofEntry = .ok rules) (n : HeaderName) :
    (∃ value, edits.Decides n value ∧ ∀ hs, (applyRules rules hs).getAll n = givenValues value) ∨
      ¬ edits.Mentions n ∧ ∀ hs, (applyRules rules hs).getAll n = hs.getAll n := by
  induction edits generalizing rules with
  | nil =>
    cases hr
    exact .inr ⟨by simp [HeaderEdits.Mentions], fun _ => rfl⟩
  | cons entry edits ih =>
    rw [List.mapM_cons] at hr
    obtain ⟨rule, hrule, hr⟩ := bind_eq_ok.mp hr
    obtain ⟨rules, hrules, hr⟩ := bind_eq_ok.mp hr
    cases hr
    obtain ⟨hfirst, hrest⟩ := List.pairwise_cons.mp ho
    have hname : Spells entry rule.name := HeaderRule.ofEntry_name hrule
    obtain ⟨value, ⟨name, hmem, hspells, hmax⟩, hgiven⟩ | ⟨hnot, hkept⟩ := ih hrest hrules
    · -- the names behind are greater
      refine .inl ⟨value, ⟨name, List.mem_cons_of_mem _ hmem, hspells, ?_⟩, fun hs => hgiven _⟩
      refine List.forall_mem_cons.mpr ⟨fun _ => ?_, hmax⟩
      exact String.lt_asymm (hfirst name (List.mem_map_of_mem hmem))
    · by_cases he : rule.name = n
      · subst he
        refine .inl ⟨entry.2, ⟨entry.1, List.mem_cons_self, hname, ?_⟩, fun hs => ?_⟩
        · refine List.forall_mem_cons.mpr ⟨fun _ => String.lt_irrefl _, fun other hother hs => ?_⟩
          exact absurd ⟨other, hother, hs⟩ hnot
        · exact (hkept _).trans (HeaderRule.ofEntry_apply hrule hs)
      · refine .inr ⟨?_, fun hs => (hkept _).trans (rule.apply_getAll hs he)⟩
        rintro ⟨other, hother, hs⟩
        obtain rfl | hother := List.mem_cons.mp hother
        · exact he (Option.some.inj (hname.symm.trans hs))
        · exact hnot ⟨other, hother, hs⟩

theorem applyRules_append (rules later : List HeaderRule) (hs : Headers) :
    applyRules (rules ++ later) hs = applyRules later (applyRules rules hs) := List.foldl_append

theorem applyRules_again {edits : HeaderEdits} (ho : edits.Ordered)
    (hr : edits.mapM HeaderRule.ofEntry = .ok rules) (hs : Headers) (n : HeaderName) :
    (applyRules rules (applyRules rules hs)).getAll n = (applyRules rules hs).getAll n := by
  obtain ⟨value, -, hgiven⟩ | ⟨-, hkept⟩ := applyRules_decided ho hr n
  · rw [hgiven, hgiven]
  · rw [hkept]

theorem applyRules_leaves {layers : List HeaderEdits} {rules : List (List HeaderRule)}
    (ho : ∀ edits ∈ layers, edits.Ordered)
    (hr : List.Forall₂ (fun edits rules => edits.mapM HeaderRule.ofEntry = .ok rules) layers rules)
    (hs : Headers) (n : HeaderName) :
    Leaves n layers (hs.getAll n) ((applyRules rules.flatten hs).getAll n) := by
  induction hr generalizing hs with
  | nil => exact .kept nofun
  | @cons edits first layers rules hfirst _ ih =>
    obtain ⟨hordered, ho⟩ := List.forall_mem_cons.mp ho
    rw [List.flatten_cons, applyRules_append]
    have hrest := ih ho (applyRules first hs)
    generalize (applyRules rules.flatten (applyRules first hs)).getAll n = new at hrest
    cases hrest with
    | decided hl hd hlater => exact .decided (hl ▸ (List.cons_append ..).symm) hd hlater
    | kept hlater =>
      obtain ⟨value, hd, hgiven⟩ | ⟨hnot, hkept⟩ := applyRules_decided hordered hfirst n
      · rw [hgiven]
        exact .decided (List.nil_append _).symm hd hlater
      · rw [hkept]
        exact .kept (List.forall_mem_cons.mpr ⟨hnot, hlater⟩)

-- ---------------------------------------------------------------------------
-- Links
-- ---------------------------------------------------------------------------

/-- The rules of a link for headers, for requests and for responses. -/
structure Layer where
  request : List HeaderRule
  response : List HeaderRule

def Layer.link (layer : Layer) (next : Handler Builtin) : Handler Builtin :=
  .link (.headers layer.request layer.response) next

def Descriptor.requestEdits : Descriptor → HeaderEdits
  | .headers request _ => request
  | _ => []

def Descriptor.responseEdits : Descriptor → HeaderEdits
  | .headers _ response => response
  | _ => []

structure Descriptor.SetsHeaders (d : Descriptor) : Prop where
  kind : d.kind = .headers
  request : d.requestEdits.Ordered
  response : d.responseEdits.Ordered

structure Descriptor.Lays (d : Descriptor) (layer : Layer) : Prop where
  makes : Makes d (.headers layer.request layer.response)
  request : d.requestEdits.mapM HeaderRule.ofEntry = .ok layer.request
  response : d.responseEdits.mapM HeaderRule.ofEntry = .ok layer.response

section
variable {Q : Type} [RateLimit.Amount Q] {w w' : World Q}

theorem makeLink_lays {d : Descriptor} (hd : d.kind = .headers)
    (hm : makeLink name d next w = (.ok h, w')) :
    ∃ layer, d.Lays layer ∧ h = layer.link next ∧ w' = w := by
  cases d with
  | headers request response =>
    replace hm : linkChecked (checkHeaders request response) next w = (.ok h, w') := hm
    unfold linkChecked at hm
    split at hm
    · cases hm
    · rename_i hc
      cases hm
      obtain ⟨rules, hrules, h⟩ := bind_eq_ok.mp hc
      obtain ⟨answers, hanswers, h⟩ := bind_eq_ok.mp h
      cases h
      exact ⟨⟨rules, answers⟩, ⟨.headers hc, hrules, hanswers⟩, rfl, rfl⟩
  | _ => cases hd

theorem makeLinks_lays {links : List (String × Descriptor)}
    (hl : ∀ e ∈ links, e.2.kind = .headers) (hm : makeLinks makeLink links next w = (.ok h, w')) :
    ∃ layers, List.Forall₂ (fun e layer => e.2.Lays layer) links layers ∧
      h = layers.foldr Layer.link next := by
  induction links generalizing h w' with
  | nil =>
    cases hm
    exact ⟨[], .nil, rfl⟩
  | cons e links ih =>
    obtain ⟨hfirst, hrest⟩ := List.forall_mem_cons.mp hl
    unfold makeLinks at hm
    split at hm
    · cases hm
    · rename_i inner v hr
      split at hm
      · cases hm
      · rename_i hlink
        cases hm
        obtain ⟨layers, hlays, rfl⟩ := ih hrest hr
        obtain ⟨layer, hlay, rfl, -⟩ := makeLink_lays hfirst hlink
        exact ⟨layer :: layers, .cons hlay hlays, rfl⟩

/-- A call goes through the layers to the end, and the response comes back the other way. -/
theorem call_layers (layers : List Layer) (terminal : Terminal) (r : Request) :
    (layers.foldr Layer.link next).call terminal r w =
      let sent := { r with headers := applyRules (layers.map Layer.request).flatten r.headers }
      let (response, w') := next.call terminal sent w
      ({ response with
          headers := applyRules (layers.map Layer.response).reverse.flatten response.headers }, w') := by
  induction layers generalizing r with
  | nil => rfl
  | cons layer layers ih =>
    simp only [List.foldr_cons, Layer.link, Handler.call, Link.receive, Builtin.receive, ih,
      List.map_cons, List.flatten_cons, List.reverse_cons, List.flatten_append, List.flatten_nil,
      List.append_nil, applyRules_append]

/-- Links for headers lie around each other. What is behind a chain of them sees of a header what
the last link that mentions it decides, and the client what the first one does; where no link
mentions it, it is left as it is. Nothing else of the request and of the response is touched, and
the rules of a link change nothing when they are applied again. -/
theorem headers_nest {links : List (String × Descriptor)}
    (hr : resolve Descriptor.members? table names = .ok links)
    (hl : ∀ e ∈ links, e.2.SetsHeaders)
    (hb : buildChain Descriptor.members? makeLink table names next w = (.ok h, w')) :
    (∀ (terminal : Terminal) (r : Request) (v : World Q), ∃ sent answer,
      h.call terminal r v =
        ({ (next.call terminal { r with headers := sent } v).1 with headers := answer },
          (next.call terminal { r with headers := sent } v).2) ∧
      ∀ n,
        Leaves n (links.map fun e => e.2.requestEdits) (r.headers.getAll n) (sent.getAll n) ∧
        Leaves n (links.map fun e => e.2.responseEdits).reverse
          ((next.call terminal { r with headers := sent } v).1.headers.getAll n)
          (answer.getAll n)) ∧
    ∀ e ∈ links, ∃ rules answers, Descriptor.Makes e.2 (.headers rules answers) ∧ ∀ hs n,
      (applyRules rules (applyRules rules hs)).getAll n = (applyRules rules hs).getAll n ∧
      (applyRules answers (applyRules answers hs)).getAll n = (applyRules answers hs).getAll n := by
  rw [buildChain, hr] at hb
  obtain ⟨layers, hlays, rfl⟩ := makeLinks_lays (fun e he => (hl e he).kind) hb
  have hrequest : List.Forall₂ (fun edits rules => edits.mapM HeaderRule.ofEntry = .ok rules)
      (links.map fun e => e.2.requestEdits) (layers.map Layer.request) := by
    rw [List.forall₂_map_left_iff, List.forall₂_map_right_iff]
    exact hlays.imp fun _ _ hlay => hlay.request
  have hresponse : List.Forall₂ (fun edits rules => edits.mapM HeaderRule.ofEntry = .ok rules)
      (links.map fun e => e.2.responseEdits).reverse (layers.map Layer.response).reverse := by
    rw [List.forall₂_reverse_iff, List.forall₂_map_left_iff, List.forall₂_map_right_iff]
    exact hlays.imp fun _ _ hlay => hlay.response
  refine ⟨fun terminal r v => ⟨_, _, call_layers layers terminal r, fun n => ⟨?_, ?_⟩⟩, ?_⟩
  · exact applyRules_leaves (List.forall_mem_map.mpr fun e he => (hl e he).request) hrequest _ n
  · refine applyRules_leaves (fun edits hedits => ?_) hresponse _ n
    obtain ⟨e, he, rfl⟩ := List.mem_map.mp (List.mem_reverse.mp hedits)
    exact (hl e he).response
  · intro e he
    obtain ⟨i, hi, rfl⟩ := List.mem_iff_getElem.mp he
    have hlay := hlays.get hi (hlays.length_eq ▸ hi)
    have hsets := hl _ he
    exact ⟨_, _, hlay.makes, fun hs n => ⟨applyRules_again hsets.request hlay.request hs n,
      applyRules_again hsets.response hlay.response hs n⟩⟩

end

/-- One link gives a header twice and takes another from responses, where the other link sets it. -/
def taggedTwice : Table :=
  [("inner", .headers [("Via", "b")] [("Chain", "b")]),
    ("outer", .headers [("X-Tag", "1"), ("x-tag", "2")] [("chain", "")])]

theorem headers_nest_taggedTwice : ∃ links h,
    resolve Descriptor.members? taggedTwice ["outer", "inner"] = .ok links ∧
    (∀ e ∈ links, e.2.SetsHeaders) ∧
    buildChain Descriptor.members? makeLink taggedTwice ["outer", "inner"] .terminal
      ({} : World Float) = (.ok h, {}) ∧
    ∀ (terminal : Terminal) (r : Request) (v : World Float), ∃ sent answer,
      (h.call terminal r v).1.headers = answer ∧
      (h.call terminal r v).2.delivered = v.delivered ++ [{ r with headers := sent }] ∧
      Leaves ⟨"x-tag"⟩ [[("X-Tag", "1"), ("x-tag", "2")], [("Via", "b")]]
        (r.headers.getAll ⟨"x-tag"⟩) (sent.getAll ⟨"x-tag"⟩) ∧
      Leaves ⟨"chain"⟩ [[("Chain", "b")], [("chain", "")]]
        ((terminal v.delivered { r with headers := sent }).headers.getAll ⟨"chain"⟩)
        (answer.getAll ⟨"chain"⟩) := by
  let links := taggedTwice.reverse
  have hr : resolve Descriptor.members? taggedTwice ["outer", "inner"] = .ok links := by cbv
  have hl : ∀ e ∈ links, e.2.SetsHeaders := by
    have ho : ∀ e ∈ links, e.2.kind = .headers ∧ (e.2.requestEdits.map Prod.fst).Pairwise (· < ·) ∧
        (e.2.responseEdits.map Prod.fst).Pairwise (· < ·) := by decide
    exact fun e he => ⟨(ho e he).1, (ho e he).2.1, (ho e he).2.2⟩
  obtain ⟨h, hb⟩ : ∃ h, buildChain Descriptor.members? makeLink taggedTwice ["outer", "inner"]
      .terminal ({} : World Float) = (.ok h, {}) := ⟨_, by cbv⟩
  obtain ⟨hcall, -⟩ := headers_nest hr hl hb
  refine ⟨links, h, hr, hl, hb, fun terminal r v => ?_⟩
  obtain ⟨sent, answer, hc, hleaves⟩ := hcall terminal r v
  rw [hc]
  exact ⟨sent, answer, rfl, rfl, (hleaves ⟨"x-tag"⟩).1, (hleaves ⟨"chain"⟩).2⟩

end ConditionalGateway.Pipeline
