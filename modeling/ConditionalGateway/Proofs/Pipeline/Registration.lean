import ConditionalGateway.Proofs.Pipeline.Transparency

/-!
# The routers that are made

`Creates` lists the routers that were made on the way from one handler to
another, each once, however many parts of the handler lead to it. Their names
can be told from the descriptors (`stackBranches_registers`), and those are the
names that counters were registered under.

Routers of one name share their counters. So the counters of a name tell the
requests that any of its routers decided (`Creates.decisions_run`).
-/

namespace ConditionalGateway.Pipeline

open Http RateLimit

variable {Q : Type}

structure Junction where
  router : Router
  branch : Handler Builtin
  next : Handler Builtin

namespace Junction

def handler (j : Junction) : Handler Builtin := .router j.router j.branch j.next

def label (j : Junction) : String := j.router.name

theorem handler_injective {i j : Junction} (h : i.handler = j.handler) : i = j := by
  cases i
  cases j
  simpa [handler] using h

end Junction

theorem filter_label {js : List Junction} (hn : (js.map Junction.label).Nodup) (hj : j ∈ js) :
    (js.filter fun i => i.label = j.label) = [j] := by
  induction js with
  | nil => cases hj
  | cons i js ih =>
    rw [List.map_cons, List.nodup_cons] at hn
    obtain rfl | hm := List.mem_cons.mp hj
    · have hrest : (js.filter fun i => i.label = j.label) = [] := by
        rw [List.filter_eq_nil_iff]
        intro i hi he
        exact hn.1 (of_decide_eq_true he ▸ List.mem_map_of_mem hi)
      simp [hrest]
    · have hne : i.label ≠ j.label := fun he => hn.1 (he ▸ List.mem_map_of_mem hm)
      simp [hne, ih hn.2 hm]

theorem Handler.sizeOf_lt_link (l : Builtin) (next : Handler Builtin) :
    sizeOf next < sizeOf (Handler.link l next) := by
  simp

theorem Handler.sizeOf_branch_lt (rt : Router) (branch next : Handler Builtin) :
    sizeOf branch < sizeOf (Handler.router rt branch next) := by
  simp only [Handler.router.sizeOf_spec]
  omega

/-- The routers that were made on the way from one handler to another, in that order. -/
inductive Creates : Handler Builtin → Handler Builtin → List Junction → Prop
  | refl (h : Handler Builtin) : Creates h h []
  | link (l : Builtin) : Creates base h js → Creates base (.link l h) js
  | router (rt : Router) : Creates base next js → Creates next branch js' →
      Creates base (.router rt branch next) (js ++ js' ++ [⟨rt, branch, next⟩])

section
variable {base mid h : Handler Builtin} {js js' : List Junction}

theorem Creates.trans (hb : Creates base mid js) (hm : Creates mid h js') :
    Creates base h (js ++ js') := by
  induction hm with
  | refl => simpa using hb
  | link l _ ih => exact .link l (ih hb)
  | router rt _ hbranch ih _ =>
    rw [← List.append_assoc, ← List.append_assoc]
    exact .router rt (ih hb) hbranch

theorem Creates.sizeOf_le (hc : Creates base h js) : sizeOf base ≤ sizeOf h := by
  induction hc with
  | refl => exact le_rfl
  | link l _ ih => exact ih.trans (Handler.sizeOf_lt_link l _).le
  | router rt _ _ ih _ => exact ih.trans (Handler.sizeOf_next_lt rt _ _).le

theorem Creates.sizeOf_mem (hc : Creates base h js) (hj : j ∈ js) :
    sizeOf base < sizeOf j.handler ∧ sizeOf j.handler ≤ sizeOf h := by
  induction hc with
  | refl => cases hj
  | link l _ ih => exact ⟨(ih hj).1, (ih hj).2.trans (Handler.sizeOf_lt_link l _).le⟩
  | @router base next js branch js' rt hnext hbranch ih ih' =>
    have hlt := Handler.sizeOf_next_lt rt branch next
    have hlt' := Handler.sizeOf_branch_lt rt branch next
    have hle := hnext.sizeOf_le
    simp only [List.mem_append, List.mem_singleton] at hj
    obtain (hj | hj) | rfl := hj
    · exact ⟨(ih hj).1, (ih hj).2.trans hlt.le⟩
    · exact ⟨hle.trans_lt (ih' hj).1, (ih' hj).2.trans hlt'.le⟩
    · exact ⟨hle.trans_lt hlt, le_rfl⟩

/-- What was made can be told from the two handlers. -/
theorem Creates.unique (hc : Creates base h js) (hc' : Creates base h js') : js = js' := by
  -- a handler is not larger than itself, so the last step is the same on both ways
  induction hc generalizing js' with
  | refl h =>
    cases hc' with
    | refl => rfl
    | link l hc' => exact absurd hc'.sizeOf_le (Handler.sizeOf_lt_link l _).not_ge
    | router rt hc' _ => exact absurd hc'.sizeOf_le (Handler.sizeOf_next_lt rt _ _).not_ge
  | link l hc ih =>
    cases hc' with
    | refl => exact absurd hc.sizeOf_le (Handler.sizeOf_lt_link l _).not_ge
    | link _ hc' => exact ih hc'
  | router rt hc _ ih ih' =>
    cases hc' with
    | refl => exact absurd hc.sizeOf_le (Handler.sizeOf_next_lt rt _ _).not_ge
    | router _ hc' hb' => rw [ih hc', ih' hb']

theorem Creates.nodup (hc : Creates base h js) : js.Nodup := by
  induction hc with
  | refl => exact .nil
  | link l _ ih => exact ih
  | @router base next js branch js' rt hnext hbranch ih ih' =>
    -- those behind are smaller than those of the branch, and the router is larger than all
    have hfirst : js.Disjoint js' := fun j hj hj' =>
      (hnext.sizeOf_mem hj).2.not_gt (hbranch.sizeOf_mem hj').1
    refine (ih.append ih' hfirst).append (List.nodup_singleton _) (List.disjoint_singleton.mpr ?_)
    intro hj
    obtain hj | hj := List.mem_append.mp hj
    · exact (hnext.sizeOf_mem hj).2.not_gt (Handler.sizeOf_next_lt rt branch next)
    · exact (hbranch.sizeOf_mem hj).2.not_gt (Handler.sizeOf_branch_lt rt branch next)

end

-- ---------------------------------------------------------------------------
-- Names
-- ---------------------------------------------------------------------------

mutual

def Descriptor.routers (name : String) : Descriptor → List String
  | .branching spec => nestedRouters spec ++ [name]
  | _ => []
termination_by d => sizeOf d

/-- The names of the routers in the chain of a branch, one for each link that makes one. The last
link is made first. -/
def nestedRouters (spec : BranchSpec Descriptor) : List String :=
  match h : resolve Descriptor.members? spec.middlewares spec.order with
  | .error _ => []
  | .ok links => links.attach.reverse.flatMap fun e =>
    have := List.sizeOf_lt_of_mem (mem_of_lookup (resolve_ok h e.2).2.1)
    e.1.2.routers e.1.1
termination_by sizeOf spec
decreasing_by
  obtain ⟨condition, chain, middlewares⟩ := spec
  simp only [BranchSpec.mk.sizeOf_spec, Prod.mk.sizeOf_spec] at this ⊢
  omega

end

theorem nestedRouters_eq {spec : BranchSpec Descriptor}
    (h : resolve Descriptor.members? spec.middlewares spec.order = .ok links) :
    nestedRouters spec = links.reverse.flatMap fun e => e.2.routers e.1 := by
  rw [nestedRouters]
  split
  · rename_i e he
    cases h.symm.trans he
  · rename_i links' he
    cases h.symm.trans he
    have hlinks : links.reverse = links.attach.reverse.map Subtype.val := by
      rw [List.map_reverse, List.attach_map_subtype_val]
    rw [hlinks, List.flatMap_map]

/-- A construction makes routers of some names and registers their counters; no other counters are
touched. -/
def Registers (names : List String)
    (make : Handler Builtin → Build (World Q) ε (Handler Builtin)) : Prop :=
  ∀ next w h w', make next w = (.ok h, w') → ∃ js, Creates next h js ∧
    js.map Junction.label = names ∧
    w'.counters = names.foldl Counters.registerRouter w.counters

theorem linkChecked_registers (check : Except LinkError Builtin) :
    Registers [] (linkChecked (Q := Q) check) := by
  intro next w h w' hm
  unfold linkChecked at hm
  split at hm
  · cases hm
  · cases hm
    exact ⟨[], .link _ (.refl next), rfl, rfl⟩

theorem asLink_registers
    {make : Handler Builtin → Build (World Q) (RouterError LinkError) (Handler Builtin)}
    (hm : Registers names make) : Registers names fun next => asLink (make next) := by
  intro next w h w' ha
  simp only [asLink] at ha
  split at ha
  · cases ha
  · rename_i hb
    cases ha
    exact hm _ _ _ _ hb

theorem makeLinks_registers {factory : LinkFactory Q Builtin δ ε} {links : List (String × δ)}
    {names : String × δ → List String} (hf : ∀ e ∈ links, Registers (names e) (factory e.1 e.2)) :
    Registers (links.reverse.flatMap names) (makeLinks factory links) := by
  intro next w h w' hm
  induction links generalizing h w' with
  | nil =>
    cases hm
    exact ⟨[], .refl next, rfl, rfl⟩
  | cons e rest ih =>
    obtain ⟨hfirst, hrest⟩ := List.forall_mem_cons.mp hf
    unfold makeLinks at hm
    split at hm
    · cases hm
    · rename_i inner v hr
      split at hm
      · cases hm
      · rename_i hl
        cases hm
        obtain ⟨js, hc, hn, hw⟩ := ih hrest _ _ hr
        obtain ⟨js', hc', hn', hw'⟩ := hfirst _ _ _ _ hl
        refine ⟨js ++ js', hc.trans hc', ?_, ?_⟩
        · simp [hn, hn']
        · simp [hw, hw']

theorem makeRouter_registers [Amount Q] {spec : BranchSpec Descriptor}
    (hf : ∀ e ∈ spec.middlewares, Registers (e.2.routers e.1) (makeLink (Q := Q) e.1 e.2)) :
    Registers (nestedRouters spec ++ [name])
      (makeRouter Descriptor.members? (makeLink (Q := Q)) name spec) := by
  intro next w h w' hm
  unfold makeRouter at hm
  split at hm
  · cases hm
  · rename_i p _
    unfold buildChain at hm
    split at hm
    · cases hm
    · rename_i branch v hb
      cases hm
      split at hb
      · cases hb
      · rename_i links hr
        have hlinks : Registers (links.reverse.flatMap fun e => e.2.routers e.1)
            (makeLinks makeLink links) :=
          makeLinks_registers fun e he => hf e (mem_of_lookup (resolve_ok hr he).2.1)
        obtain ⟨js, hc, hn, hw⟩ := hlinks _ _ _ _ hb
        rw [nestedRouters_eq hr]
        refine ⟨js ++ [⟨⟨name, p⟩, branch, next⟩], .router ⟨name, p⟩ (.refl next) hc, ?_, ?_⟩
        · simp [hn, Junction.label]
        · simp [hw]

theorem makeLink_registers [Amount Q] (d : Descriptor) :
    ∀ name, Registers (d.routers name) (makeLink (Q := Q) name d) := by
  -- only a branch makes a router of its own, from a table of smaller descriptors
  induction d using Descriptor.nested with
  | step d ih =>
    intro name
    cases d with
    | rateLimit settings =>
      intro next w h w' hm
      replace hm : makeRateLimit name settings next w = (.ok h, w') := hm
      unfold makeRateLimit at hm
      split at hm
      · cases hm
      · cases hm
        exact ⟨[], .link _ (.refl next), by simp [Descriptor.routers], by simp [Descriptor.routers]⟩
    | chain =>
      intro next w h w' hm
      cases hm
    | branching spec =>
      rw [funext (makeLink_branching name spec), Descriptor.routers]
      exact asLink_registers (makeRouter_registers fun e he => ih spec rfl e he e.1)
    | _ =>
      rw [Descriptor.routers]
      · exact linkChecked_registers _
      · nofun

def stackRouters (branches : List Branch) : List String :=
  branches.reverse.flatMap fun b => nestedRouters b.spec ++ [b.name]

theorem stackBranches_registers [Amount Q] (branches : List Branch) :
    Registers (stackRouters branches) (stackBranches (makeLink (Q := Q)) branches) := by
  intro next w h w' hm
  induction branches generalizing h w' with
  | nil =>
    cases hm
    exact ⟨[], .refl next, rfl, rfl⟩
  | cons b rest ih =>
    unfold stackBranches at hm
    split at hm
    · cases hm
    · rename_i inner v hr
      obtain ⟨js, hc, hn, hw⟩ := ih _ _ hr
      obtain ⟨js', hc', hn', hw'⟩ :=
        makeRouter_registers (fun e _ => makeLink_registers e.2 e.1) _ _ _ _ hm
      refine ⟨js ++ js', hc.trans hc', ?_, ?_⟩
      · simp [hn, hn', stackRouters]
      · simp [hw, hw', stackRouters]

-- ---------------------------------------------------------------------------
-- Counts
-- ---------------------------------------------------------------------------

def Counters.decisions (cs : Counters) (router : String) : Nat :=
  (Outcome.all.map fun outcome => cs.count (.decision router outcome)).sum

theorem Counters.decisions_registered (cs : Counters) (names : List String) (router : String) :
    (names.foldl registerRouter cs).decisions router = cs.decisions router := by
  induction names generalizing cs with
  | nil => rfl
  | cons name names ih =>
    rw [List.foldl_cons, ih]
    simp [decisions, registerRouter, Outcome.all, count_register]

def Handler.Routers (P : Handler Builtin → Prop) : Handler Builtin → Prop
  | .terminal => True
  | .link _ next => next.Routers P
  | .router rt branch next => P (.router rt branch next) ∧ branch.Routers P ∧ next.Routers P

theorem Creates.routers {P : Handler Builtin → Prop} (hc : Creates base h js)
    (hb : base.Routers P) (hj : ∀ j ∈ js, P j.handler) : h.Routers P := by
  induction hc with
  | refl => exact hb
  | link l _ ih => exact ih hb hj
  | router rt _ _ ih ih' =>
    simp only [List.mem_append, List.mem_singleton] at hj
    have hnext := ih hb fun j h => hj j (.inl (.inl h))
    exact ⟨hj _ (.inr rfl), ih' hnext fun j h => hj j (.inl (.inr h)), hnext⟩

def Handler.isNamed (name : String) : Handler Builtin → Bool
  | .router rt _ _ => rt.name = name
  | _ => false

@[simp] theorem Handler.isNamed_terminal : isNamed name .terminal = false := rfl

@[simp] theorem Handler.isNamed_link : isNamed name (.link l next) = false := rfl

@[simp] theorem Handler.isNamed_router :
    isNamed name (.router rt branch next) = decide (rt.name = name) := rfl

section
variable [Amount Q] {js : List Junction} {h : Handler Builtin}

theorem Handler.visits_routers {P : Handler Builtin → Prop} {h : Handler Builtin}
    (hp : h.Routers P) (r : Request) (w : World Q) :
    ∀ v ∈ h.visits r w, v.1.isNamed name = true → P v.1 := by
  induction h generalizing r w with
  | terminal => simp [visits]
  | link l next ih =>
    simp only [visits, List.forall_mem_cons]
    refine ⟨by simp, ?_⟩
    split
    · simp
    · exact ih hp _ _
  | router rt branch next ihb ihn =>
    rw [visits_router]
    refine List.forall_mem_cons.mpr ⟨fun _ => hp.1, ?_⟩
    obtain hg | hg := rt.goes_cases r
    · rw [hg]
      exact ihb hp.2.1 _ _
    · rw [hg]
      exact ihn hp.2.2 _ _

theorem Handler.watch_routers {P : Handler Builtin → Prop} {h : Handler Builtin}
    (hp : h.Routers P) (terminal : Terminal) (events : List Event) (w : World Q) :
    ∀ v ∈ h.watch terminal h.visits events w, v.1.isNamed name = true → P v.1 := by
  induction events generalizing w with
  | nil => simp [watch]
  | cons event events ih =>
    cases event with
    | call r => exact List.forall_mem_append.mpr ⟨visits_routers hp r w, ih _⟩
    | advance duration => exact ih _

theorem Counters.decisions_bump (cs : Counters) (rt : Router) (r : Request) (name : String) :
    (cs.bump (rt.counter r)).decisions name =
      cs.decisions name + if rt.name = name then 1 else 0 := by
  simp only [decisions, Outcome.all, List.map_cons, List.map_nil, List.sum_cons, List.sum_nil,
    count_bump, Router.counter, Counter.decision.injEq]
  generalize (Decision.ofValue (rt.predicate.evaluate r)).outcome = outcome
  cases outcome <;> grind

theorem Handler.decisions_call (h : Handler Builtin) (terminal : Terminal) (r : Request)
    (w : World Q) (name : String) :
    (h.call terminal r w).2.counters.decisions name =
      w.counters.decisions name + (h.visits r w).countP fun v => v.1.isNamed name := by
  induction h generalizing r w with
  | terminal => simp [call, visits]
  | link l next ih =>
    have hl := l.receive_handled r w
    simp only [call, visits, Link.receive, List.countP_cons, isNamed_link]
    generalize l.receive r w = p at hl
    cases hl with
    | @passed edit w' r' hd hc he => simp [ih, hc]
    | @rejected w' limiter hd hc => simp [hc, Counters.decisions, Counters.count_bump]
  | router rt branch next ihb ihn =>
    rw [call_router, visits_router, List.countP_cons]
    obtain hg | hg := rt.goes_cases r
    · rw [hg, ihb, World.count, Counters.decisions_bump]
      simp only [isNamed_router, decide_eq_true_eq]
      omega
    · rw [hg, ihn, World.count, Counters.decisions_bump]
      simp only [isNamed_router, decide_eq_true_eq]
      omega

theorem Handler.decisions_run (h : Handler Builtin) (terminal : Terminal) (events : List Event)
    (w : World Q) (name : String) :
    (h.run terminal events w).counters.decisions name = w.counters.decisions name +
      (h.watch terminal h.visits events w).countP fun v => v.1.isNamed name := by
  induction events generalizing w with
  | nil => simp [run, watch]
  | cons event events ih =>
    cases event with
    | call r => rw [run, watch, ih, decisions_call, List.countP_append, Nat.add_assoc]
    | advance duration => exact ih _

open scoped Classical in
theorem sum_arrivals_cons (hn : js.Nodup) (v : Handler Builtin × Request)
    (vs : List (Handler Builtin × Request)) :
    (js.map fun j : Junction => (arrivals j.handler (v :: vs)).length).sum =
      (js.map fun j : Junction => (arrivals j.handler vs).length).sum +
        if ∃ j ∈ js, v.1 = j.handler then 1 else 0 := by
  obtain ⟨h, r⟩ := v
  induction js with
  | nil => simp
  | cons j js ih =>
    obtain ⟨hj, hn⟩ := List.nodup_cons.mp hn
    rw [List.map_cons, List.sum_cons, List.map_cons, List.sum_cons, ih hn]
    by_cases he : h = j.handler
    · subst he
      have hother : ¬ ∃ i ∈ js, j.handler = i.handler := by
        rintro ⟨i, hi, he⟩
        exact hj (Junction.handler_injective he ▸ hi)
      simp [hother]
      omega
    · simp only [arrivals_cons_ne he, List.exists_mem_cons_iff, he, false_or]
      omega

theorem countP_isNamed (hn : js.Nodup) {vs : List (Handler Builtin × Request)}
    (hv : ∀ v ∈ vs, v.1.isNamed name = true → ∃ j ∈ js, v.1 = j.handler) :
    (vs.countP fun v => v.1.isNamed name) =
      ((js.filter fun j => j.label = name).map fun j => (arrivals j.handler vs).length).sum := by
  induction vs with
  | nil => simp [arrivals]
  | cons v vs ih =>
    obtain ⟨hfirst, hv⟩ := List.forall_mem_cons.mp hv
    have hnamed : (∃ j ∈ js.filter fun j => j.label = name, v.1 = j.handler) ↔
        v.1.isNamed name = true := by
      constructor
      · rintro ⟨j, hj, he⟩
        rw [he]
        exact (List.mem_filter.mp hj).2
      · intro h
        obtain ⟨j, hj, he⟩ := hfirst h
        rw [he] at h
        exact ⟨j, List.mem_filter.mpr ⟨hj, h⟩, he⟩
    rw [sum_arrivals_cons (hn.filter _), ← ih hv, List.countP_cons]
    simp only [hnamed]

/-- The decisions that a run counts under a name are those of the routers of that name. -/
theorem Creates.decisions_run (hc : Creates .terminal h js) (terminal : Terminal)
    (events : List Event) (w : World Q) (name : String) :
    (h.run terminal events w).counters.decisions name = w.counters.decisions name +
      ((js.filter fun j => j.label = name).map fun j =>
        (h.reaching terminal j.handler events w).length).sum := by
  have hp : h.Routers fun part => ∃ j ∈ js, part = j.handler :=
    hc.routers trivial fun j hj => ⟨j, hj, rfl⟩
  rw [Handler.decisions_run, countP_isNamed hc.nodup (h.watch_routers hp terminal events w)]
  rfl

end

end ConditionalGateway.Pipeline
