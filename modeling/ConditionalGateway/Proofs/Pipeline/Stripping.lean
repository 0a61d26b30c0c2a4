import ConditionalGateway.Proofs.Pipeline.Forwarding

/-!
# Prefixes that are taken off

`strips_first`: a link that strips prefixes takes the first one off whose bytes
start those of the path, and tells it in a header. It always succeeds: what is
left of a path that was read is a path, is no longer than before once it starts
at the root again, and can be the value of a header. Requests stay readable all
along a pipeline (`Built.visits_wellFormed`).

`add_then_strip`: a prefix of path characters that is added and then stripped
leaves the target as it was.
-/

namespace ConditionalGateway.Pipeline

open Http RateLimit

variable {r r' : Request} {path p rest : String} {prefixes : List String}

-- ---------------------------------------------------------------------------
-- The first prefix
-- ---------------------------------------------------------------------------

theorem dropPrefix?_eq_some : dropPrefix? p path = some rest ↔ path = p ++ rest := by
  unfold dropPrefix?
  rw [← String.toList_inj, String.toList_append]
  split
  · rename_i h
    obtain ⟨behind, hbehind⟩ := List.isPrefixOf_iff_prefix.mp h
    simp [← hbehind, ← String.toList_inj]
  · rename_i h
    refine ⟨nofun, fun hpath => absurd (List.isPrefixOf_iff_prefix.mpr ?_) h⟩
    exact hpath ▸ List.prefix_append _ _

theorem dropPrefix?_eq_none :
    dropPrefix? p path = none ↔ ¬ Text.encode p <+: Text.encode path := by
  rw [Text.encode_prefix_iff, Option.eq_none_iff_forall_ne_some, not_exists]
  simp only [ne_eq, dropPrefix?_eq_some]

def atRoot (rest : String) : String := if rest.toList.head? = some '/' then rest else "/" ++ rest

theorem stripFirst?_eq_none :
    stripFirst? prefixes path = none ↔ ∀ p ∈ prefixes, ¬ Text.encode p <+: Text.encode path := by
  simp [stripFirst?, dropPrefix?_eq_none]

theorem stripFirst?_first (hbefore : ∀ q ∈ before, ¬ Text.encode q <+: Text.encode (p ++ rest)) :
    stripFirst? (before ++ p :: after) (p ++ rest) = some (p, atRoot rest) := by
  have hskip : stripFirst? before (p ++ rest) = none := stripFirst?_eq_none.mpr hbefore
  have hdrop : dropPrefix? p (p ++ rest) = some rest := dropPrefix?_eq_some.mpr rfl
  unfold stripFirst? at hskip ⊢
  rw [List.findSome?_append, hskip, Option.none_or, List.findSome?_cons, hdrop]
  rfl

-- ---------------------------------------------------------------------------
-- Requests without a prefix
-- ---------------------------------------------------------------------------

/-- A request has lost a prefix of its path, which is told in a header; all else is as it was. -/
structure Stripped (p rest : String) (r r' : Request) : Prop where
  newPath : r'.target.path = atRoot rest
  query : r'.target.query? = r.target.query?
  frame : Frame (· = forwardedPrefixName) r r'
  told : r'.headers.getAll forwardedPrefixName = [.ofText p]

theorem atRoot_pathChars (h : PathChars rest.toList) : PathChars (atRoot rest).toList := by
  unfold atRoot
  split
  · exact h
  · rw [String.toList_append]
    exact pathChars_root.append h

theorem atRoot_ne_empty (rest : String) : atRoot rest ≠ "" := by
  unfold atRoot
  split
  · rename_i h
    exact Rooted.ne_empty h
  · simp

theorem atRoot_size (hp : p ≠ "") (rest : String) :
    (atRoot rest).utf8ByteSize ≤ (p ++ rest).utf8ByteSize := by
  have hpos : 0 < p.utf8ByteSize :=
    Nat.pos_iff_ne_zero.mpr (String.utf8ByteSize_eq_zero_iff.not.mpr hp)
  have hroot : "/".utf8ByteSize = 1 := rfl
  unfold atRoot
  split <;> simp only [String.utf8ByteSize_append] <;> omega

theorem stripRequest_stripped (hr : r.target.WellFormed) (hp : Rooted p)
    (hpath : r.target.path = p ++ rest)
    (hfirst : stripFirst? prefixes r.target.path = some (p, atRoot rest)) :
    Stripped p rest r (stripRequest prefixes r) := by
  have hchars := hr.read.pathChars
  rw [hpath, String.toList_append] at hchars
  obtain ⟨hpchars, hrchars⟩ := hchars.of_append
  have hform := Rooted.form (t := r.target) (hpath ▸ hp.append rest)
  have hfits : (r.target.pathText (atRoot rest)).utf8ByteSize ≤ maxTargetLength := by
    have hsize := atRoot_size hp.ne_empty rest
    have hold := hr.fits
    simp only [Target.byteLength_pathText, Text.byteLength_toList, hpath] at hold ⊢
    omega
  obtain ⟨t', ht', hnew, hquery⟩ :=
    Target.withPath?_pathChars hr.read hform hfits (atRoot_pathChars hrchars) (atRoot_ne_empty rest)
  have hset : setPath? r (atRoot rest) = some { r with target := t' } :=
    Option.map_eq_some_iff.mpr ⟨t', ht', rfl⟩
  have hstrip : stripRequest prefixes r =
      setHeader { r with target := t' } forwardedPrefixName p := by
    simp only [stripRequest, hfirst, hset]
  refine ⟨?_, ?_, stripRequest_frame prefixes r, ?_⟩
  · rw [hstrip, setHeader_target, hnew]
  · rw [hstrip, setHeader_target, hquery]
  · rw [hstrip, setHeader_path _ _ hpchars, Headers.getAll_insert, if_pos rfl]

theorem checkStrip_rooted (hc : checkStrip prefixes = .ok l) : ∀ p ∈ prefixes, Rooted p := by
  unfold checkStrip at hc
  split at hc
  · cases hc
  · obtain ⟨_, hall, -⟩ := bind_eq_ok.mp hc
    exact fun p hp => checkRooted_ok (forM_eq_ok.mp hall p hp)

variable {Q : Type} [Amount Q] {h next : Handler Builtin} {w w' : World Q}

/-- A link that strips prefixes forwards a request as it came if no prefix is one of its path, and
else without the first that is. What is left of the path starts where a character starts. -/
theorem strips_first (hm : makeLink name (.stripPrefix prefixes) next w = (.ok h, w'))
    (hr : r.target.WellFormed) :
    ∃ r', h.Forwards Q next r r' ∧
      ((∀ p ∈ prefixes, ¬ Text.encode p <+: Text.encode r.target.path) → r' = r) ∧
      ∀ before p after, prefixes = before ++ p :: after →
        (∀ q ∈ before, ¬ Text.encode q <+: Text.encode r.target.path) →
        Text.encode p <+: Text.encode r.target.path →
        p.rawEndPos.IsValid r.target.path ∧
          ∃ rest, r.target.path = p ++ rest ∧ Stripped p rest r r' := by
  obtain ⟨⟨l, hmakes⟩, -, hf⟩ := forwards_edit hm rfl
  cases hmakes with | stripPrefix hc => ?_
  refine ⟨_, hf r, fun hnone => ?_, ?_⟩
  · rw [stripRequest, stripFirst?_eq_none.mpr hnone]
  · rintro before p after rfl hbefore hfirst
    obtain ⟨rest, hpath⟩ := Text.encode_prefix_iff.mp hfirst
    have hroot := checkStrip_rooted hc p (by simp)
    refine ⟨String.Pos.Raw.isValid_iff_exists_append.mpr ⟨p, rest, hpath, rfl⟩, rest, hpath, ?_⟩
    refine stripRequest_stripped hr hroot hpath ?_
    rw [hpath] at hbefore ⊢
    exact stripFirst?_first hbefore

def betaRequest : Request :=
  { (default : Request) with
    target := .origin ⟨"/bêta", some "q"⟩
    headers := [(forwardedPrefixName, .ofText "/x"), (forwardedPrefixName, .ofText "/y")] }

theorem strips_first_beta : ∃ (h : Handler Builtin) (r' : Request),
    makeLink "mw" (.stripPrefix ["/be", "/bê", "/b"]) .terminal ({} : World Float) = (.ok h, {}) ∧
      h.Forwards Float .terminal betaRequest r' ∧ r'.target.path = "/ta" ∧
      r'.target.query? = some "q" ∧
      r'.headers.getAll forwardedPrefixName = [.ofText "/bê"] := by
  have hm : makeLink "mw" (.stripPrefix ["/be", "/bê", "/b"]) .terminal ({} : World Float) =
      (.ok (.link (.stripPrefix ["/be", "/bê", "/b"]) .terminal), {}) := by cbv
  have ht : Target.ofString "/bêta?q" = .ok betaRequest.target := by cbv
  obtain ⟨r', hf, -, hfirst⟩ := strips_first hm (Target.ofString_wellFormed ht)
  obtain ⟨-, rest, hpath, hs⟩ := hfirst ["/be"] "/bê" ["/b"] rfl (by decide) (by decide)
  obtain rfl : rest = "ta" := by
    have hsame := congrArg String.toList hpath
    rw [String.toList_append] at hsame
    exact String.toList_inj.mp (List.append_cancel_left hsame.symm)
  exact ⟨_, r', hm, hf, hs.newPath, hs.query, hs.told⟩

-- ---------------------------------------------------------------------------
-- All along a pipeline
-- ---------------------------------------------------------------------------

theorem setPath?_wellFormed (h : setPath? r path = some r')
    (hne : pathPart (r.target.pathText path).toList ≠ []) : r'.target.WellFormed := by
  obtain ⟨t', ht, rfl⟩ := Option.map_eq_some_iff.mp h
  exact Target.withPath?_wellFormed ht hne

theorem stripRequest_wellFormed (hr : r.target.WellFormed) :
    (stripRequest prefixes r).target.WellFormed := by
  unfold stripRequest
  split
  · exact hr
  · rename_i rest hfirst
    split
    · exact hr
    · rename_i hset
      rw [setHeader_target]
      have hroot := stripFirst?_rooted hfirst
      exact setPath?_wellFormed hset (r.target.pathPart_ne_nil hroot (by decide) (by decide))

theorem newPath_wellFormed (hm : Descriptor.Makes d l) (he : d.edit? = some edit)
    (hp : d.newPath? r.target.path = some path) (hr : r.target.WellFormed) :
    (edit r).target.WellFormed := by
  by_cases ht : r.target.Takes path
  · have hne := pathPart_newPath hm hp ht hr.read
    obtain ⟨changed, hset, -⟩ := setPath?_of_takes ht hne
    rw [edit_target he hp hset]
    exact setPath?_wellFormed hset hne
  · rw [edit_refused he hp (setPath?_eq_none_iff.mpr ht)]
    exact hr

theorem Builtin.receive_wellFormed {l : Builtin} (hm : Descriptor.Makes d l)
    (h : l.receive r w = (.pass r' edit, w')) (hr : r.target.WellFormed) :
    r'.target.WellFormed := by
  cases hm with
  | headers hc =>
    obtain ⟨rules, answers, rfl, -⟩ := checkHeaders_ok hc
    cases h
    exact hr
  | stripPrefix hc =>
    obtain rfl := checkStrip_ok hc
    cases h
    exact stripRequest_wellFormed hr
  | addPrefix hc =>
    have hmade := Descriptor.Makes.addPrefix hc
    obtain ⟨rfl, -⟩ := checkAdd_ok hc
    cases h
    exact newPath_wellFormed hmade rfl rfl hr
  | replacePath hc =>
    have hmade := Descriptor.Makes.replacePath hc
    obtain ⟨rfl, -⟩ := checkReplace_ok hc
    cases h
    exact newPath_wellFormed hmade rfl rfl hr
  | rateLimit =>
    unfold receive at h
    simp only at h
    split at h
    · cases h
      exact hr
    · cases h

variable (Q) in
def Builtin.Preserves (P : Request → Prop) (l : Builtin) : Prop :=
  ∀ (r r' : Request) edit (w w' : World Q), l.receive r w = (.pass r' edit, w') → P r → P r'

/-- What all links preserve holds of every request that a call leads to. -/
theorem Handler.visits_preserved {P : Request → Prop} {h : Handler Builtin}
    (hl : h.Links (Builtin.Preserves Q P)) (hr : P r) (w : World Q) :
    ∀ v ∈ h.visits r w, P v.2 := by
  induction h generalizing r w with
  | terminal => simpa [visits] using hr
  | link l next ih =>
    obtain ⟨hfirst, hnext⟩ := hl
    simp only [visits, Link.receive]
    refine List.forall_mem_cons.mpr ⟨hr, ?_⟩
    split
    · simp
    · rename_i hpass
      exact ih hnext (hfirst _ _ _ _ _ hpass hr) _
  | router rt branch next ihb ihn =>
    obtain ⟨hbranch, hnext⟩ := hl
    rw [visits_router]
    refine List.forall_mem_cons.mpr ⟨hr, ?_⟩
    obtain hg | hg := rt.goes_cases r
    · rw [hg]
      exact ihb hbranch hr _
    · rw [hg]
      exact ihn hnext hr _

theorem Built.visits_wellFormed (hb : Built Q h) (hr : r.target.WellFormed) (w : World Q) :
    ∀ v ∈ h.visits r w, v.2.target.WellFormed := by
  have hlinks : h.Links (Builtin.Preserves Q fun r => r.target.WellFormed) :=
    hb.keeps (fun _ _ _ hbranch hnext => ⟨hbranch, hnext⟩)
      (fun _ _ _ hm hnext => ⟨fun _ _ _ _ _ => Builtin.receive_wellFormed hm, hnext⟩) trivial
  exact Handler.visits_preserved hlinks hr w

-- ---------------------------------------------------------------------------
-- Prefixes that are added before
-- ---------------------------------------------------------------------------

theorem dropSlashes_eq (hslash : p.toList.getLast? ≠ some '/') : dropSlashes p = p := by
  have hdrop : dropSlashes p = .ofList (p.toList.rdropWhile (· = '/')) := rfl
  rw [hdrop, List.rdropWhile_eq_self_iff.mpr, String.ofList_toList]
  intro hne hlast
  rw [List.getLast?_eq_some_getLast hne] at hslash
  exact hslash (congrArg some (by simpa using hlast))

theorem checkRooted_eq (hp : Rooted p) : checkRooted p = .ok () := if_pos hp

theorem checkStrip_eq (hp : Rooted p) : checkStrip [p] = .ok (.stripPrefix [p]) := by
  have hall : [p].forM checkRooted = .ok ⟨⟩ :=
    forM_eq_ok.mpr (List.forall_mem_singleton.mpr (checkRooted_eq hp))
  rw [checkStrip, if_neg (by simp), hall]
  rfl

theorem checkAdd_eq (hp : Rooted p) (hslash : p.toList.getLast? ≠ some '/') :
    checkAdd p = .ok (.addPrefix p) := by
  rw [checkAdd, checkRooted_eq hp, dropSlashes_eq hslash]
  rfl

omit [Amount Q] in
theorem linkChecked_eq (h : check = .ok l) (next : Handler Builtin) (w : World Q) :
    linkChecked check next w = (.ok (.link l next), w) := by
  simp only [linkChecked, h]

theorem strip_addRequest (hp : Rooted p) (hchars : PathChars p.toList) (hr : r.target.IsRead)
    (hroot : Rooted r.target.path)
    (hfits : (r.target.pathText (p ++ r.target.path)).utf8ByteSize ≤ maxTargetLength) :
    Stripped p r.target.path r (stripRequest [p] (addRequest p r)) := by
  have hlong : Rooted (p ++ r.target.path) := hp.append _
  obtain ⟨t', ht', hpath, hquery⟩ := Target.withPath?_pathChars hr hroot.form hfits
    (String.toList_append ▸ hchars.append hr.pathChars) hlong.ne_empty
  have hadd : addRequest p r = { r with target := t' } := by
    rw [addRequest, setPath?, ht', Option.map_some, Option.getD_some]
  have hwell : t'.WellFormed :=
    Target.withPath?_wellFormed ht' (r.target.pathPart_ne_nil hlong (by decide) (by decide))
  have hlongest : (addRequest p r).target.path = p ++ r.target.path := by rw [hadd, hpath]
  have hfirst : stripFirst? ([] ++ [p]) (p ++ r.target.path) = some (p, atRoot r.target.path) :=
    stripFirst?_first (by simp)
  have hstrip := stripRequest_stripped (hadd ▸ hwell) hp hlongest (hlongest ▸ hfirst)
  have hframe : Frame (· = forwardedPrefixName) r (addRequest p r) := addRequest_frame (.inr hp)
  refine ⟨hstrip.newPath, hstrip.query.trans ?_, hframe.trans hstrip.frame, hstrip.told⟩
  rw [hadd, hquery]

/-- A prefix of path characters that is added and then stripped leaves the target of every request
at the root as it was, if there was room for the prefix. -/
theorem add_then_strip (hp : Rooted p) (hslash : p.toList.getLast? ≠ some '/')
    (hchars : PathChars p.toList) (next : Handler Builtin) (w : World Q)
    (hlinks : resolve Descriptor.members? table names =
      .ok [(adding, .addPrefix p), (stripping, .stripPrefix [p])]) :
    ∃ h, buildChain Descriptor.members? makeLink table names next w = (.ok h, w) ∧
      ∀ r : Request, r.target.IsRead → Rooted r.target.path →
        (r.target.pathText (p ++ r.target.path)).utf8ByteSize ≤ maxTargetLength →
        ∃ r', h.Forwards Q next r r' ∧ r'.target.path = r.target.path ∧
          r'.target.query? = r.target.query? ∧ Frame (· = forwardedPrefixName) r r' ∧
          r'.headers.getAll forwardedPrefixName = [.ofText p] := by
  have hstrip : makeLink stripping (.stripPrefix [p]) next w =
      (.ok (.link (.stripPrefix [p]) next), w) :=
    linkChecked_eq (checkStrip_eq hp) next w
  have hadd : makeLink adding (.addPrefix p) (.link (.stripPrefix [p]) next) w =
      (.ok (.link (.addPrefix p) (.link (.stripPrefix [p]) next)), w) :=
    linkChecked_eq (checkAdd_eq hp hslash) _ w
  have hbuild : buildChain Descriptor.members? makeLink table names next w =
      (.ok (.link (.addPrefix p) (.link (.stripPrefix [p]) next)), w) := by
    simp only [buildChain, hlinks, makeLinks, hstrip, hadd]
  refine ⟨_, hbuild, fun r hr hroot hfits => ?_⟩
  obtain ⟨hpath, hquery, hframe, htold⟩ := strip_addRequest hp hchars hr hroot hfits
  have hadded : (Handler.link (.addPrefix p) (.link (.stripPrefix [p]) next)).Forwards Q
      (.link (.stripPrefix [p]) next) r (addRequest p r) :=
    Handler.forwards_link (fun _ => rfl) _
  have hstripped : (Handler.link (.stripPrefix [p]) next).Forwards Q next (addRequest p r)
      (stripRequest [p] (addRequest p r)) := Handler.forwards_link (fun _ => rfl) next
  exact ⟨_, hadded.trans hstripped, hpath.trans (if_pos hroot), hquery, hframe, htold⟩

def apiRequest : Request :=
  { (default : Request) with target := .absolute "http" "shop.example" ⟨"/api//x", some "q"⟩ }

def apiTable : Table := [("add", .addPrefix "/api"), ("strip", .stripPrefix ["/api"])]

theorem add_then_strip_api : ∃ (h : Handler Builtin) (r' : Request),
    buildChain Descriptor.members? makeLink apiTable ["add", "strip"] .terminal
        ({} : World Float) = (.ok h, {}) ∧
      h.Forwards Float .terminal apiRequest r' ∧ r'.target.path = "/api//x" ∧
      r'.target.query? = some "q" ∧
      r'.headers.getAll forwardedPrefixName = [.ofText "/api"] := by
  have hp : Rooted "/api" := rfl
  have hchars : PathChars "/api".toList :=
    Target.IsRead.pathChars (t := .origin ⟨"/api", none⟩) ⟨"/api".toList, by cbv⟩
  have hlinks : resolve Descriptor.members? apiTable ["add", "strip"] = .ok apiTable := by cbv
  obtain ⟨h, hbuild, hall⟩ := add_then_strip hp (by decide) hchars .terminal ({} : World Float) hlinks
  have hr : apiRequest.target.IsRead := ⟨"/api//x?q".toList, by cbv⟩
  obtain ⟨r', hf, hpath, hquery, -, htold⟩ := hall apiRequest hr rfl (by decide)
  exact ⟨h, r', hbuild, hf, hpath, hquery, htold⟩

end ConditionalGateway.Pipeline
