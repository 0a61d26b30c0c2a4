import ConditionalGateway.Proofs.Http.WellFormed
import ConditionalGateway.Proofs.Pipeline.Frame

/-!
# Requests with another path

A link for paths forwards every request, edited or as it came (`forwards_edit`).

`rewritten_or_unchanged`: a link that adds a prefix or replaces the path gives a
request its new path if the target takes it, and else forwards the request as it
came; there is no third case. `refuses_iff`: what has passed the checks can
still be refused. A path that replaces others never is, but a prefix that cannot
be read is refused for every request, and one that ends in a query is refused
for paths with a quotation mark.
-/

namespace ConditionalGateway.Pipeline

open Http RateLimit

variable {Q : Type} [Amount Q]

-- ---------------------------------------------------------------------------
-- Forwarding
-- ---------------------------------------------------------------------------

variable (Q) in
/-- A handler forwards a request: a call of it is one call of the next handler, with what it made
of the request, and nothing more. -/
def Handler.Forwards (h next : Handler Builtin) (r r' : Request) : Prop :=
  ∀ (terminal : Terminal) (w : World Q), h.call terminal r w = next.call terminal r' w

theorem Handler.Forwards.trans {h next last : Handler Builtin} {r r' r'' : Request}
    (hf : h.Forwards Q next r r') (hf' : next.Forwards Q last r' r'') : h.Forwards Q last r r'' :=
  fun terminal w => (hf terminal w).trans (hf' terminal w)

theorem Handler.forwards_link {l : Builtin} {r r' : Request}
    (hl : ∀ w : World Q, l.receive r w = (.pass r' unedited, w)) (next : Handler Builtin) :
    (Handler.link l next).Forwards Q next r r' := fun terminal w => by
  simp only [call, Link.receive, hl w, unedited]

omit [Amount Q] in
theorem linkChecked_ok {w w' : World Q} (h : linkChecked check next w = (.ok made, w')) :
    ∃ l, check = .ok l ∧ made = .link l next ∧ w' = w := by
  unfold linkChecked at h
  split at h
  · cases h
  · cases h
    exact ⟨_, rfl, rfl, rfl⟩

def Descriptor.edit? : Descriptor → Option (Request → Request)
  | .stripPrefix prefixes => some (stripRequest prefixes)
  | .addPrefix pre => some (addRequest (dropSlashes pre))
  | .replacePath path => some (replaceRequest path)
  | _ => none

variable {h next : Handler Builtin} {w w' : World Q} {r : Request} {d : Descriptor}
  {edit : Request → Request}

theorem forwards_edit (hm : makeLink name d next w = (.ok h, w')) (he : d.edit? = some edit) :
    (∃ l, Descriptor.Makes d l) ∧ w' = w ∧ ∀ r, h.Forwards Q next r (edit r) := by
  cases d with
  | stripPrefix prefixes =>
    cases he
    obtain ⟨l, hc, rfl, rfl⟩ := linkChecked_ok hm
    obtain rfl := checkStrip_ok hc
    exact ⟨⟨_, .stripPrefix hc⟩, rfl, fun r => Handler.forwards_link (fun _ => rfl) next⟩
  | addPrefix pre =>
    cases he
    obtain ⟨l, hc, rfl, rfl⟩ := linkChecked_ok hm
    obtain ⟨rfl, -⟩ := checkAdd_ok hc
    exact ⟨⟨_, .addPrefix hc⟩, rfl, fun r => Handler.forwards_link (fun _ => rfl) next⟩
  | replacePath path =>
    cases he
    obtain ⟨l, hc, rfl, rfl⟩ := linkChecked_ok hm
    obtain ⟨rfl, -⟩ := checkReplace_ok hc
    exact ⟨⟨_, .replacePath hc⟩, rfl, fun r => Handler.forwards_link (fun _ => rfl) next⟩
  | _ => cases he

-- ---------------------------------------------------------------------------
-- New paths
-- ---------------------------------------------------------------------------

def Descriptor.newPath? : Descriptor → String → Option String
  | .addPrefix pre, path => some (dropSlashes pre ++ path)
  | .replacePath path, _ => some path
  | _, _ => none

theorem newPath?_cases (hp : d.newPath? p = some path) :
    (∃ pre, d = .addPrefix pre ∧ path = dropSlashes pre ++ p) ∨ d = .replacePath path := by
  cases d with
  | addPrefix pre =>
    cases hp
    exact .inl ⟨pre, rfl, rfl⟩
  | replacePath =>
    cases hp
    exact .inr rfl
  | _ => cases hp

/-- A request has got a new path: it is read up to a mark, and the query behind it. A path that is
replaced is told in a header; all else is as it was. -/
structure Rewritten (d : Descriptor) (path : String) (r r' : Request) : Prop where
  newPath : r'.target.path = .ofList (pathPart (r.target.pathText path).toList)
  newQuery : r'.target.query? = (queryPart (r.target.pathText path).toList).map .ofList
  frame : Frame (fun n => d.kind = .replacePath ∧ n = replacedPathName) r r'
  told : d.kind = .replacePath → r'.headers.getAll replacedPathName = [.ofText r.target.path]

theorem setPath?_eq_none_iff : setPath? r path = none ↔ ¬ r.target.Takes path := by
  rw [setPath?, Option.map_eq_none_iff, Target.takes_iff, not_exists,
    Option.eq_none_iff_forall_ne_some]

theorem setPath?_of_takes (h : r.target.Takes path)
    (hne : pathPart (r.target.pathText path).toList ≠ []) :
    ∃ r', setPath? r path = some r' ∧
      r'.target.path = .ofList (pathPart (r.target.pathText path).toList) ∧
      r'.target.query? = (queryPart (r.target.pathText path).toList).map .ofList := by
  obtain ⟨t', ht, hpath, hquery⟩ := Target.withPath?_of_takes h
  refine ⟨{ r with target := t' }, Option.map_eq_some_iff.mpr ⟨t', ht, rfl⟩, ?_, hquery⟩
  rw [hpath]
  exact PathQuery.shownPath_eq fun he => hne (String.ofList_eq_empty_iff.mp he)

theorem pathPart_newPath (hm : Descriptor.Makes d l) (hp : d.newPath? r.target.path = some path)
    (ht : r.target.Takes path) (hr : r.target.IsRead) :
    pathPart (r.target.pathText path).toList ≠ [] := by
  have hrooted (hroot : Rooted path) : pathPart (r.target.pathText path).toList ≠ [] :=
    r.target.pathPart_ne_nil hroot (by decide) (by decide)
  obtain ⟨pre, rfl, rfl⟩ | rfl := newPath?_cases hp
  · cases hm with | addPrefix hc => ?_
    obtain ⟨-, hroot⟩ := checkAdd_ok hc
    obtain hempty | hroot := dropSlashes_rooted hroot
    · rw [hempty, String.empty_append]
      obtain ⟨c, cs, hcs⟩ := List.exists_cons_of_ne_nil fun he =>
        Target.path_ne_empty ht.form (String.toList_eq_nil_iff.mp he)
      have hu := hr.path
      rw [hcs] at hu
      refine r.target.pathPart_ne_nil (c := c) (by rw [hcs]; rfl) ?_ ?_
      · exact fun he => hu.1 (he ▸ List.mem_cons_self)
      · exact fun he => hu.2 (he ▸ List.mem_cons_self)
    · exact hrooted (hroot.append _)
  · cases hm with | replacePath hc => ?_
    obtain ⟨-, hroot⟩ := checkReplace_ok hc
    exact hrooted hroot

theorem setHeader_path (r : Request) (name : HeaderName) (hp : PathChars path.toList) :
    (setHeader r name path).headers = r.headers.insert name (.ofText path) := by
  rw [setHeader, HeaderValue.ofString?_pathChars hp]

theorem exists_edit (hp : d.newPath? p = some path) : ∃ edit, d.edit? = some edit := by
  obtain ⟨pre, rfl, -⟩ | rfl := newPath?_cases hp
  · exact ⟨_, rfl⟩
  · exact ⟨_, rfl⟩

theorem edit_refused (he : d.edit? = some edit) (hp : d.newPath? r.target.path = some path)
    (hn : setPath? r path = none) : edit r = r := by
  obtain ⟨pre, rfl, rfl⟩ | rfl := newPath?_cases hp
  · cases he
    rw [addRequest, hn, Option.getD_none]
  · cases he
    rw [replaceRequest, hn]

theorem edit_target (he : d.edit? = some edit) (hp : d.newPath? r.target.path = some path)
    (hset : setPath? r path = some changed) : (edit r).target = changed.target := by
  obtain ⟨pre, rfl, rfl⟩ | rfl := newPath?_cases hp
  · cases he
    rw [addRequest, hset, Option.getD_some]
  · cases he
    rw [replaceRequest, hset, setHeader_target]

theorem edit_rewritten (hm : Descriptor.Makes d l) (he : d.edit? = some edit)
    (hp : d.newPath? r.target.path = some path) (hr : r.target.IsRead)
    (ht : r.target.Takes path) : Rewritten d path r (edit r) := by
  obtain ⟨changed, hset, hpath, hquery⟩ := setPath?_of_takes ht (pathPart_newPath hm hp ht hr)
  have htarget := edit_target he hp hset
  have hnew := htarget ▸ hpath
  have hrest := htarget ▸ hquery
  obtain ⟨pre, rfl, rfl⟩ | rfl := newPath?_cases hp
  · cases hm with | addPrefix hc => ?_
    cases he
    obtain ⟨-, hroot⟩ := checkAdd_ok hc
    exact ⟨hnew, hrest, addRequest_frame (dropSlashes_rooted hroot), nofun⟩
  · cases hm with | replacePath hc => ?_
    cases he
    obtain ⟨-, hroot⟩ := checkReplace_ok hc
    refine ⟨hnew, hrest, (replaceRequest_frame r hroot).mono fun n hn => ⟨rfl, hn⟩, fun _ => ?_⟩
    rw [replaceRequest, hset]
    simp only [setHeader_path _ _ hr.pathChars, Headers.getAll_insert, if_pos]

/-- A link that adds a prefix or replaces the path gives a request the new path if its target takes
it, and forwards the request as it came if not: if the new path with the query is too long or not
legible, or if the target is a bare authority. -/
theorem rewritten_or_unchanged (hm : makeLink name d next w = (.ok h, w'))
    (hp : d.newPath? r.target.path = some path) (hr : r.target.IsRead) :
    ∃ r', h.Forwards Q next r r' ∧ (r.target.Takes path → Rewritten d path r r') ∧
      (¬ r.target.Takes path → r' = r) := by
  obtain ⟨edit, he⟩ := exists_edit hp
  obtain ⟨⟨l, hmakes⟩, -, hf⟩ := forwards_edit hm he
  exact ⟨edit r, hf r, edit_rewritten hmakes he hp hr,
    fun hn => edit_refused he hp (setPath?_eq_none_iff.mpr hn)⟩

def claimedRequest : Request :=
  { (default : Request) with
    target := .absolute "https" "shop.example" ⟨"/orders", some "page=2"⟩
    headers := [(replacedPathName, .ofText "/a"), (replacedPathName, .ofText "/b")] }

theorem rewritten_or_unchanged_maintenance : ∃ (h : Handler Builtin) (r' : Request),
    makeLink "mw" (.replacePath "/maintenance") .terminal ({} : World Float) = (.ok h, {}) ∧
      h.Forwards Float .terminal claimedRequest r' ∧ r'.target.path = "/maintenance" ∧
      r'.headers.getAll replacedPathName = [.ofText "/orders"] := by
  have hm : makeLink "mw" (.replacePath "/maintenance") .terminal ({} : World Float) =
      (.ok (.link (.replacePath "/maintenance") .terminal), {}) := by cbv
  have hr : claimedRequest.target.IsRead := ⟨"/orders?page=2".toList, by cbv⟩
  obtain ⟨r', hf, hrewritten, -⟩ := rewritten_or_unchanged hm rfl hr
  have ht : claimedRequest.target.Takes "/maintenance" :=
    Target.takes_iff.mpr ⟨.absolute "https" "shop.example" ⟨"/maintenance", some "page=2"⟩, by cbv⟩
  have hnew := hrewritten ht
  exact ⟨_, r', hm, hf, hnew.newPath, hnew.told rfl⟩

-- ---------------------------------------------------------------------------
-- Paths that are refused
-- ---------------------------------------------------------------------------

/-- A descriptor spoils a path: its prefix is not legible, or ends in a query and comes in front of a
path with a quotation mark. -/
def Descriptor.Spoils : Descriptor → String → Prop
  | .addPrefix pre, path =>
    ¬ Legible (dropSlashes pre).toList ∨
      EndsInQuery (dropSlashes pre).toList ∧ '"' ∈ path.toList
  | _, _ => False

theorem checkReplace_legible (hc : checkReplace path = .ok l) : Legible path.toList := by
  obtain ⟨_, -, hc⟩ := bind_eq_ok.mp hc
  split at hc
  · rename_i hread
    exact (PathQuery.ofChars_ok_iff.mp hread).2.1
  · cases hc

theorem legible_newPath_iff (hm : Descriptor.Makes d l)
    (hp : d.newPath? r.target.path = some path) (hr : r.target.IsRead) :
    Legible (r.target.pathText path).toList ↔ ¬ d.Spoils r.target.path := by
  rw [Target.pathText_toList]
  obtain ⟨pre, rfl, rfl⟩ | rfl := newPath?_cases hp
  · rw [String.toList_append, List.append_assoc,
      legible_append_iff hr.pathChars hr.queryChars, Descriptor.Spoils]
    simp only [not_or, not_and, not_not]
  · cases hm with | replacePath hc => ?_
    exact iff_of_true ((legible_append_query_iff hr.queryChars).mpr (checkReplace_legible hc)) id

/-- What passed the checks when a link was made can still be refused for a request whose new path
is not too long: a prefix that is not legible is, and so is one with a query where the path has a
quotation mark. The link then does nothing. -/
theorem refuses_iff (hm : makeLink name d next w = (.ok h, w'))
    (hp : d.newPath? r.target.path = some path) (hr : r.target.IsRead)
    (hroot : Rooted r.target.path)
    (hfits : (r.target.pathText path).utf8ByteSize ≤ maxTargetLength) :
    (setPath? r path = none ↔ d.Spoils r.target.path) ∧
      (d.Spoils r.target.path → h.Forwards Q next r r) := by
  obtain ⟨edit, he⟩ := exists_edit hp
  obtain ⟨⟨l, hmakes⟩, -, hf⟩ := forwards_edit hm he
  have hrefused : setPath? r path = none ↔ d.Spoils r.target.path := by
    rw [setPath?_eq_none_iff, not_iff_comm, ← legible_newPath_iff hmakes hp hr]
    exact ⟨fun hl => ⟨hroot.form, hfits, hl⟩, fun ht => ht.legible⟩
  refine ⟨hrefused, fun hs => ?_⟩
  have hforward := hf r
  rwa [edit_refused he hp (hrefused.mpr hs)] at hforward

def quotedRequest : Request := { (default : Request) with target := .origin ⟨"/say\"hi", none⟩ }

theorem refuses_iff_query : ∃ h : Handler Builtin,
    makeLink "mw" (.addPrefix "/a?b") .terminal ({} : World Float) = (.ok h, {}) ∧
      setPath? quotedRequest ("/a?b" ++ quotedRequest.target.path) = none ∧
      h.Forwards Float .terminal quotedRequest quotedRequest := by
  have hm : makeLink "mw" (.addPrefix "/a?b") .terminal ({} : World Float) =
      (.ok (.link (.addPrefix "/a?b") .terminal), {}) := by cbv
  have hr : quotedRequest.target.IsRead := ⟨"/say\"hi".toList, by cbv⟩
  have hs : (Descriptor.addPrefix "/a?b").Spoils quotedRequest.target.path :=
    .inr ⟨⟨by decide, by decide⟩, by decide⟩
  obtain ⟨hrefused, hsame⟩ := refuses_iff hm rfl hr rfl (by decide)
  exact ⟨_, hm, hrefused.mpr hs, hsame hs⟩

def usersRequest : Request := { (default : Request) with target := .origin ⟨"/users", none⟩ }

theorem accepted_without_effect : ∃ h : Handler Builtin,
    makeLink "mw" (.addPrefix "/a b") .terminal ({} : World Float) = (.ok h, {}) ∧
      usersRequest.target.IsRead ∧ Rooted usersRequest.target.path ∧
      (usersRequest.target.pathText ("/a b" ++ usersRequest.target.path)).utf8ByteSize ≤
        maxTargetLength ∧
      setPath? usersRequest ("/a b" ++ usersRequest.target.path) = none ∧
      h.Forwards Float .terminal usersRequest usersRequest := by
  refine ⟨.link (.addPrefix "/a b") .terminal, by cbv, ⟨"/users".toList, by cbv⟩, rfl,
    by decide, by cbv, fun terminal w => ?_⟩
  have hnone : addRequest "/a b" usersRequest = usersRequest := by cbv
  simp only [Handler.call, Link.receive, Builtin.receive, hnone, unedited]

end ConditionalGateway.Pipeline
