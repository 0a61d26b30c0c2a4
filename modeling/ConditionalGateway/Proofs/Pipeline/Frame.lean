import ConditionalGateway.Proofs.Http.TargetLaws
import ConditionalGateway.Proofs.Pipeline.Preservation
import ConditionalGateway.Proofs.Pipeline.Transparency

/-!
# What a pipeline leaves alone in a request

`delivered_frame`: a request that reaches the end of a pipeline still has its
method, its version, its body, its peer, the scheme and the authority of its
target, and a path that starts at the root. Its headers have the values they
had, but for two names that links for paths set, and for the names that the
headers descriptors on its way give.

Each link changes a request within a frame of its own (`receive_frame`), and the
frames of the links on the way add up (`Handler.call_frame`).
-/

namespace ConditionalGateway.Pipeline

open Http RateLimit

-- ---------------------------------------------------------------------------
-- Requests
-- ---------------------------------------------------------------------------

/-- What one request has in common with another: all but the path, the query and the headers with
certain names. A path at the root stays at the root. -/
structure Frame (edited : HeaderName → Prop) (r r' : Request) : Prop where
  method : r'.method = r.method
  version : r'.version = r.version
  body : r'.body = r.body
  peer : r'.peer = r.peer
  scheme : r'.target.scheme? = r.target.scheme?
  authority : r'.target.authority? = r.target.authority?
  rooted : Rooted r.target.path → Rooted r'.target.path
  headers : ∀ n, ¬ edited n → r'.headers.getAll n = r.headers.getAll n

variable {edited more : HeaderName → Prop} {r r' r'' : Request}

theorem Frame.refl (edited : HeaderName → Prop) (r : Request) : Frame edited r r :=
  ⟨rfl, rfl, rfl, rfl, rfl, rfl, id, fun _ _ => rfl⟩

theorem Frame.mono (h : Frame edited r r') (he : ∀ n, edited n → more n) : Frame more r r' :=
  { h with headers := fun n hn => h.headers n fun hn' => hn (he n hn') }

theorem Frame.trans (h : Frame edited r r') (h' : Frame edited r' r'') : Frame edited r r'' where
  method := h'.method.trans h.method
  version := h'.version.trans h.version
  body := h'.body.trans h.body
  peer := h'.peer.trans h.peer
  scheme := h'.scheme.trans h.scheme
  authority := h'.authority.trans h.authority
  rooted hp := h'.rooted (h.rooted hp)
  headers n hn := (h'.headers n hn).trans (h.headers n hn)

-- ---------------------------------------------------------------------------
-- Headers
-- ---------------------------------------------------------------------------

theorem HeaderRule.apply_getAll (rule : HeaderRule) (h : Headers) (hn : rule.name ≠ n) :
    (rule.apply h).getAll n = h.getAll n := by
  unfold apply
  split
  · rw [Headers.getAll_insert, if_neg hn.symm]
  · rw [Headers.getAll_remove, if_neg hn.symm]

theorem applyRules_getAll (h : Headers) (hn : ∀ rule ∈ rules, rule.name ≠ n) :
    (applyRules rules h).getAll n = h.getAll n := by
  unfold applyRules
  induction rules generalizing h with
  | nil => rfl
  | cons rule rules ih =>
    obtain ⟨hrule, hrules⟩ := List.forall_mem_cons.mp hn
    rw [List.foldl_cons, ih _ hrules, rule.apply_getAll h hrule]

@[simp] theorem setHeader_target (r : Request) (name : HeaderName) (text : String) :
    (setHeader r name text).target = r.target := by
  unfold setHeader
  split <;> rfl

theorem setHeader_frame (r : Request) (name : HeaderName) (text : String) :
    Frame (· = name) r (setHeader r name text) := by
  unfold setHeader
  split
  · refine { Frame.refl (· = name) r with headers := fun n hn => ?_ }
    rw [Headers.getAll_insert, if_neg hn]
  · exact .refl _ r

-- ---------------------------------------------------------------------------
-- Edits of the path
-- ---------------------------------------------------------------------------

theorem setPath?_frame (h : setPath? r path = some r')
    (hp : Rooted r.target.path → Rooted path) : Frame edited r r' := by
  obtain ⟨target, ht, rfl⟩ := Option.map_eq_some_iff.mp h
  obtain ⟨hs, ha, hrooted⟩ := Target.withPath?_frame ht
  exact { Frame.refl edited r with scheme := hs, authority := ha, rooted := fun h => hrooted (hp h) }

theorem stripFirst?_rooted (h : stripFirst? prefixes path = some (pre, rest)) : Rooted rest := by
  unfold stripFirst? at h
  obtain ⟨_, _, hfound⟩ := List.exists_of_findSome?_eq_some h
  obtain ⟨behind, -, heq⟩ := Option.map_eq_some_iff.mp hfound
  cases heq
  split
  · assumption
  · have root : Rooted "/" := by simp [Rooted]
    exact root.append behind

theorem stripRequest_frame (prefixes : List String) (r : Request) :
    Frame (· = forwardedPrefixName) r (stripRequest prefixes r) := by
  unfold stripRequest
  split
  · exact .refl _ r
  · rename_i hrest
    split
    · exact .refl _ r
    · rename_i hset
      exact (setPath?_frame hset fun _ => stripFirst?_rooted hrest).trans (setHeader_frame ..)

theorem dropSlashes_rooted (h : Rooted pre) : dropSlashes pre = "" ∨ Rooted (dropSlashes pre) := by
  -- only slashes at the end go, so the first one stays unless there is nothing else
  have hpre : pre.toList.rdropWhile (· = '/') <+: pre.toList := List.rdropWhile_prefix _ _
  have hdrop : dropSlashes pre = String.ofList (pre.toList.rdropWhile (· = '/')) := rfl
  rw [hdrop]
  unfold Rooted at h ⊢
  rw [String.toList_ofList]
  cases hcs : pre.toList.rdropWhile (· = '/') with
  | nil => exact .inl rfl
  | cons c cs =>
    rw [hcs] at hpre
    obtain ⟨more, hmore⟩ := hpre
    rw [← hmore] at h
    exact .inr h

theorem addRequest_frame (hp : pre = "" ∨ Rooted pre) : Frame edited r (addRequest pre r) := by
  unfold addRequest
  cases hset : setPath? r (pre ++ r.target.path) with
  | none => exact .refl _ r
  | some r' =>
    refine setPath?_frame hset fun hr => ?_
    obtain rfl | hp := hp
    · rwa [String.empty_append]
    · exact hp.append _

theorem replaceRequest_frame (r : Request) (hp : Rooted path) :
    Frame (· = replacedPathName) r (replaceRequest path r) := by
  unfold replaceRequest
  split
  · exact .refl _ r
  · rename_i hset
    exact (setPath?_frame hset fun _ => hp).trans (setHeader_frame ..)

-- ---------------------------------------------------------------------------
-- Links
-- ---------------------------------------------------------------------------

theorem HeaderRule.ofEntry_name (h : ofEntry entry = .ok rule) :
    HeaderName.ofString? entry.1 = some rule.name := by
  unfold ofEntry at h
  split at h
  · cases h
  · rename_i hname
    split at h
    · cases h
      exact hname
    · split at h
      · cases h
      · cases h
        exact hname

theorem checkHeaders_ok (h : checkHeaders request response = .ok l) :
    ∃ rules answers, l = .headers rules answers ∧
      (request.map fun entry => HeaderName.ofString? entry.1) =
        rules.map fun rule => some rule.name := by
  obtain ⟨rules, hrules, h⟩ := bind_eq_ok.mp h
  obtain ⟨answers, -, h⟩ := bind_eq_ok.mp h
  cases h
  exact ⟨rules, answers, rfl,
    map_eq_map_of_mapM_eq_ok hrules fun _ _ hof => HeaderRule.ofEntry_name hof⟩

theorem checkRooted_ok (h : checkRooted path = .ok u) : Rooted path := by
  unfold checkRooted at h
  split at h
  · assumption
  · cases h

theorem checkStrip_ok (h : checkStrip prefixes = .ok l) : l = .stripPrefix prefixes := by
  unfold checkStrip at h
  split at h
  · cases h
  · obtain ⟨_, -, h⟩ := bind_eq_ok.mp h
    cases h
    rfl

theorem checkAdd_ok (h : checkAdd pre = .ok l) : l = .addPrefix (dropSlashes pre) ∧ Rooted pre := by
  obtain ⟨_, hroot, h⟩ := bind_eq_ok.mp h
  cases h
  exact ⟨rfl, checkRooted_ok hroot⟩

theorem checkReplace_ok (h : checkReplace path = .ok l) : l = .replacePath path ∧ Rooted path := by
  obtain ⟨_, hroot, h⟩ := bind_eq_ok.mp h
  split at h
  · cases h
    exact ⟨rfl, checkRooted_ok hroot⟩
  · cases h

def Builtin.Edits : Builtin → HeaderName → Prop
  | .headers request _, n => ∃ rule ∈ request, rule.name = n
  | .stripPrefix _, n => n = forwardedPrefixName
  | .replacePath _, n => n = replacedPathName
  | _, _ => False

theorem Descriptor.Makes.edits (hm : Descriptor.Makes d l) (hn : l.Edits n) :
    (∃ request response, d = .headers request response ∧
        ∃ entry ∈ request, HeaderName.ofString? entry.1 = some n) ∨
      n = forwardedPrefixName ∨ n = replacedPathName := by
  cases hm with
  | headers hc =>
    obtain ⟨rules, answers, rfl, hnames⟩ := checkHeaders_ok hc
    obtain ⟨rule, hrule, rfl⟩ := hn
    have hname : some rule.name ∈ rules.map fun rule => some rule.name :=
      List.mem_map_of_mem hrule
    rw [← hnames] at hname
    obtain ⟨entry, hentry, heq⟩ := List.mem_map.mp hname
    exact .inl ⟨_, _, rfl, entry, hentry, heq⟩
  | stripPrefix hc =>
    obtain rfl := checkStrip_ok hc
    exact .inr (.inl hn)
  | addPrefix hc =>
    obtain ⟨rfl, -⟩ := checkAdd_ok hc
    exact hn.elim
  | replacePath hc =>
    obtain ⟨rfl, -⟩ := checkReplace_ok hc
    exact .inr (.inr hn)
  | rateLimit => exact hn.elim

variable {Q : Type} [Amount Q] {w w' : World Q}

theorem Builtin.receive_frame {l : Builtin} (hm : Descriptor.Makes d l)
    (h : l.receive r w = (.pass r' edit, w')) : Frame l.Edits r r' := by
  cases hm with
  | headers hc =>
    obtain ⟨rules, answers, rfl, -⟩ := checkHeaders_ok hc
    cases h
    refine { Frame.refl (Edits (.headers rules answers)) r with headers := fun n hn => ?_ }
    exact applyRules_getAll _ fun rule hrule hname => hn ⟨rule, hrule, hname⟩
  | stripPrefix hc =>
    obtain rfl := checkStrip_ok hc
    cases h
    exact stripRequest_frame ..
  | addPrefix hc =>
    obtain ⟨rfl, hroot⟩ := checkAdd_ok hc
    cases h
    exact addRequest_frame (dropSlashes_rooted hroot)
  | replacePath hc =>
    obtain ⟨rfl, hroot⟩ := checkReplace_ok hc
    cases h
    exact replaceRequest_frame r hroot
  | rateLimit =>
    unfold receive at h
    simp only at h
    split at h
    · cases h
      exact .refl _ r
    · cases h

-- ---------------------------------------------------------------------------
-- Calls
-- ---------------------------------------------------------------------------

def Handler.Meets (h : Handler Builtin) (r : Request) (w : World Q) (l : Builtin) : Prop :=
  ∃ next r', (.link l next, r') ∈ h.visits r w

theorem Handler.meets_link {l : Builtin} (h : l.receive r w = (.pass r' edit, w')) :
    (Handler.link l next).Meets r w m ↔ m = l ∨ next.Meets r' w' m := by
  simp [Meets, visits, Link.receive, h, exists_or]

theorem Handler.meets_router : (Handler.router rt branch next).Meets r w m ↔
    (rt.goes r branch next).Meets r (w.count (rt.counter r)) m := by
  simp [Meets, visits_router]

def Handler.Edits (h : Handler Builtin) (r : Request) (w : World Q) (n : HeaderName) : Prop :=
  ∃ d l, Descriptor.Makes d l ∧ h.Meets r w l ∧ l.Edits n

theorem Handler.edits_router : (Handler.router rt branch next).Edits r w =
    (rt.goes r branch next).Edits r (w.count (rt.counter r)) := by
  funext n
  simp only [Edits, meets_router]

theorem Handler.call_frame {h : Handler Builtin} {terminal : Terminal}
    (hl : h.Links fun l => ∃ d, Descriptor.Makes d l)
    (hd : (h.call terminal r w).2.delivered = w.delivered ++ [r']) :
    Frame (h.Edits r w) r r' := by
  -- what is in front of the rest of a call delivers nothing itself
  induction h generalizing r w with
  | terminal =>
    obtain rfl : r = r' := by simpa [call] using hd
    exact .refl _ r
  | link l next ih =>
    obtain ⟨⟨d, hm⟩, hnext⟩ := hl
    have hhandled := l.receive_handled r w
    simp only [call, Link.receive] at hd
    generalize hrec : l.receive r w = p at hhandled hd
    cases hhandled with
    | @passed edit w' r'' hsame =>
      have hfirst := Builtin.receive_frame hm hrec
      have hrest := ih hnext (hsame.symm ▸ hd)
      refine (hfirst.mono fun n hn => ?_).trans (hrest.mono fun n hn => ?_)
      · exact ⟨d, l, hm, (meets_link hrec).mpr (.inl rfl), hn⟩
      · obtain ⟨d', l', hm', hmeets, hn⟩ := hn
        exact ⟨d', l', hm', (meets_link hrec).mpr (.inr hmeets), hn⟩
    | rejected name hsame =>
      rw [hsame] at hd
      simp at hd
  | router rt branch next ihb ihn =>
    obtain ⟨hbranch, hnext⟩ := hl
    rw [call_router] at hd
    rw [edits_router]
    obtain hg | hg := rt.goes_cases r
    · rw [hg] at hd ⊢
      exact ihb hbranch hd
    · rw [hg] at hd ⊢
      exact ihn hnext hd

/-- A request that a pipeline delivers differs from the one it was called with in the path below
the root, in the query, and in the headers that links for paths and headers descriptors on its way
name. -/
theorem delivered_frame {h : Handler Builtin} (hb : Built Q h) (terminal : Terminal)
    (hp : Rooted r.target.path)
    (hd : (h.call terminal r w).2.delivered = w.delivered ++ [r']) :
    r'.method = r.method ∧ r'.version = r.version ∧ r'.body = r.body ∧ r'.peer = r.peer ∧
      r'.target.scheme? = r.target.scheme? ∧ r'.target.authority? = r.target.authority? ∧
      Rooted r'.target.path ∧
      ∀ n, n ≠ forwardedPrefixName → n ≠ replacedPathName →
        (∀ request response l, Descriptor.Makes (.headers request response) l → h.Meets r w l →
          ∀ entry ∈ request, HeaderName.ofString? entry.1 ≠ some n) →
        r'.headers.getAll n = r.headers.getAll n := by
  have hf := Handler.call_frame hb.made hd
  refine ⟨hf.method, hf.version, hf.body, hf.peer, hf.scheme, hf.authority, hf.rooted hp, ?_⟩
  intro n hforwarded hreplaced hnamed
  refine hf.headers n fun ⟨d, l, hm, hmeets, hedits⟩ => ?_
  obtain ⟨request, response, rfl, entry, hentry, hname⟩ | rfl | rfl := hm.edits hedits
  · exact hnamed request response l hm hmeets entry hentry hname
  · exact hforwarded rfl
  · exact hreplaced rfl

def tagAndStrip : Table :=
  [("tag", .headers [("X-Tag", "1")] []), ("strip", .stripPrefix ["/api"])]

def tagAndStripHandler : Handler Builtin :=
  .link (.headers [⟨⟨"x-tag"⟩, some (.ofText "1")⟩] []) (.link (.stripPrefix ["/api"]) .terminal)

def tracedRequest : Request where
  method := "GET"
  target := .origin ⟨"/api/ping", none⟩
  version := .http11
  headers := [(⟨"x-tag"⟩, .ofText "0"), (⟨"x-trace"⟩, .ofText "a"), (⟨"x-trace"⟩, .ofText "b")]
  body := []
  peer := none

theorem delivered_frame_tagAndStrip : ∃ r',
    buildChain Descriptor.members? makeLink tagAndStrip ["tag", "strip"] .terminal
      ({} : World Float) = (.ok tagAndStripHandler, {}) ∧
    (tagAndStripHandler.call (fun _ _ => .plain 200 "") tracedRequest
      ({} : World Float)).2.delivered = [] ++ [r'] ∧
    r'.method = "GET" ∧ Rooted r'.target.path ∧
    r'.headers.getAll ⟨"x-trace"⟩ = [.ofText "a", .ofText "b"] := by
  have hb : buildChain Descriptor.members? makeLink tagAndStrip ["tag", "strip"] .terminal
      ({} : World Float) = (.ok tagAndStripHandler, {}) := by cbv
  obtain ⟨r', hd⟩ : ∃ r', (tagAndStripHandler.call (fun _ _ => .plain 200 "") tracedRequest
      ({} : World Float)).2.delivered = [] ++ [r'] := ⟨_, rfl⟩
  have hp : Rooted tracedRequest.target.path := by cbv
  obtain ⟨hmethod, -, -, -, -, -, hroot, hheaders⟩ :=
    delivered_frame (.chain hb .terminal) _ hp hd
  refine ⟨r', hb, hd, hmethod, hroot, hheaders ⟨"x-trace"⟩ (by decide) (by decide) ?_⟩
  -- the one headers descriptor on the way gives one name, and it is another
  rintro request response l (hmakes | _) hmeets entry hentry hname
  obtain ⟨rules, answers, rfl, hnames⟩ := checkHeaders_ok hmakes
  have hmem : some ⟨"x-trace"⟩ ∈ request.map fun entry => HeaderName.ofString? entry.1 :=
    List.mem_map.mpr ⟨entry, hentry, hname⟩
  obtain h | h := (Handler.meets_link rfl).mp hmeets
  · cases h
    rw [hnames] at hmem
    simp at hmem
  · obtain h | ⟨_, _, h⟩ := (Handler.meets_link rfl).mp h
    · cases h
    · simp [Handler.visits] at h

end ConditionalGateway.Pipeline
