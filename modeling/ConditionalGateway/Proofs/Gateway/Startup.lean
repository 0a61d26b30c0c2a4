import ConditionalGateway.Gateway.Basic
import ConditionalGateway.Proofs.Config.Report
import ConditionalGateway.Proofs.Http.AuthorityLaws
import ConditionalGateway.Proofs.Net.HostLaws
import Mathlib

/-!
# Origins that a gateway can start with

The address of an origin is checked twice: with the configuration, and when the
gateway is made, where its host has to stand in a request as well. Every host can,
but for domains with a character that addresses allow and requests do not
(`Origin.ofUrl_eq`). So a gateway can fail to start with an address that was
accepted (`origin_refused_iff`).
-/

namespace ConditionalGateway

open Http Net

/-- A character that the host of an address can have, and the host of a request cannot. -/
def isUnsendable (c : Char) : Bool := ['"', '`', '\x7b', '\x7d'].contains c

/-- A host that cannot stand in a request. -/
def isUnsendableHost : Host → Bool
  | .domain name => name.toList.any isUnsendable
  | _ => false

-- ---------------------------------------------------------------------------
-- The characters of an authority
-- ---------------------------------------------------------------------------

theorem nameChar_table : ∀ n < 128, Domain.isForbidden (.ofNat n) = false →
    endsAuthority (.ofNat n) = false ∧ Char.ofNat n ≠ '%' ∧ Char.ofNat n ≠ ':' ∧
      Char.ofNat n ≠ '[' ∧ Char.ofNat n ≠ ']' ∧ Char.ofNat n ≠ '@' ∧
      isAuthorityChar (.ofNat n) = !isUnsendable (.ofNat n) := by
  decide

theorem nameChar_spec (h : Domain.IsNameChar c) : endsAuthority c = false ∧
    (isUnsendable c = false → IsPlain c) ∧ (isUnsendable c = true → IsStray c) := by
  have hspec := nameChar_table c.toNat h.1
  rw [Char.ofNat_toNat] at hspec
  obtain ⟨hend, hpercent, hcolon, hopen, hclose, hat, hiff⟩ := hspec h.2
  refine ⟨hend, fun hu => ?_, fun hu => ?_⟩
  · rw [hu] at hiff
    exact ⟨hiff, hcolon, hopen, hclose, hat⟩
  · rw [hu] at hiff
    exact ⟨hiff, hpercent⟩

theorem digit_table : ∀ d < 16, endsAuthority (Nat.digitChar d) = false ∧
    isAuthorityChar (Nat.digitChar d) = true ∧ Nat.digitChar d ≠ ':' ∧ Nat.digitChar d ≠ '[' ∧
      Nat.digitChar d ≠ ']' ∧ Nat.digitChar d ≠ '@' := by
  decide

theorem isPlain_digitChar (h : d < 16) : IsPlain (Nat.digitChar d) :=
  ⟨(digit_table d h).2.1, (digit_table d h).2.2⟩

def portChars : Option Nat → List Char
  | none => []
  | some n => ':' :: Nat.toDigits 10 n

theorem toList_authorityText (host : Host) (port : Option Nat) :
    (authorityText host port).toList = host.display.toList ++ portChars port := by
  cases port with
  | none => simp [authorityText, portChars]
  | some n => simp [authorityText, portChars]

theorem isPlain_portDigit (h : c ∈ Nat.toDigits 10 n) : IsPlain c := by
  obtain ⟨d, hd, rfl⟩ := Decimal.exists_digit (by decide) h
  exact isPlain_digitChar (by omega)

theorem scan_portChars {s : AuthorityScan} (hs : s.endsWithAt = false) (hc : s.colons = 0)
    (port : Option Nat) : ∃ s', (portChars port).foldlM AuthorityScan.step s = .ok s' ∧
      s'.colons ≤ 1 ∧ s'.opened = s.opened ∧ s'.closed = s.closed ∧ s'.percent = s.percent ∧
      s'.endsWithAt = false := by
  cases port with
  | none => exact ⟨s, rfl, hc ▸ Nat.zero_le 1, rfl, rfl, rfl, hs⟩
  | some n =>
    have hcount : (portChars (some n)).count ':' = 1 := by
      rw [portChars, List.count_cons_self,
        List.count_eq_zero_of_not_mem fun h => (isPlain_portDigit h).sign.1 rfl]
    have hchars : ∀ c ∈ portChars (some n), IsPlain c ∨ c = ':' := by
      intro c h
      obtain rfl | h := List.mem_cons.mp h
      · exact .inr rfl
      · exact .inl (isPlain_portDigit h)
    exact ⟨_, AuthorityScan.scan_groups hs hchars (by omega), by dsimp only; omega, rfl, rfl, rfl, hs⟩

theorem endsAuthority_of_plain (h : IsPlain c) : endsAuthority c = false := by
  by_contra hc
  simp only [endsAuthority, Bool.not_eq_false, Bool.or_eq_true, decide_eq_true_eq] at hc
  obtain (rfl | rfl) | rfl := hc <;> exact absurd h.allowed (by decide)

theorem endsAuthority_portChars (h : c ∈ portChars port) : endsAuthority c = false := by
  cases port with
  | none => cases h
  | some n =>
    obtain rfl | h := List.mem_cons.mp h
    · rfl
    · exact endsAuthority_of_plain (isPlain_portDigit h)

-- ---------------------------------------------------------------------------
-- Hosts in requests
-- ---------------------------------------------------------------------------

theorem checkAuthority_eq_scan (host : Host) (hne : host.display ≠ "")
    (h : ∀ c ∈ host.display.toList, endsAuthority c = false) (port : Option Nat) :
    checkAuthority (authorityText host port) =
      (host.display.toList ++ portChars port).foldlM AuthorityScan.step {} >>= fun s =>
        if s.opened ≠ s.closed || 1 < s.colons || s.endsWithAt || s.percent then
          .error .invalidAuthority
        else .ok () := by
  have hne' : authorityText host port ≠ "" := by
    intro h0
    have htext := congrArg String.toList h0
    rw [toList_authorityText] at htext
    exact hne (String.toList_eq_nil_iff.mp (List.append_eq_nil_iff.mp htext).1)
  rw [checkAuthority_eq hne', toList_authorityText]
  rw [toList_authorityText]
  intro c hc
  obtain hc | hc := List.mem_append.mp hc
  · exact h c hc
  · exact endsAuthority_portChars hc

theorem checkAuthority_ok (host : Host) {s : AuthorityScan} (hne : host.display ≠ "")
    (h : ∀ c ∈ host.display.toList, endsAuthority c = false)
    (hscan : host.display.toList.foldlM AuthorityScan.step {} = .ok s) (hbrackets : s.opened = s.closed)
    (hcolons : s.colons = 0) (hpercent : s.percent = false) (hat : s.endsWithAt = false)
    (port : Option Nat) : checkAuthority (authorityText host port) = .ok () := by
  obtain ⟨s', hport, hcolons', hopened, hclosed, hpercent', hat'⟩ := scan_portChars hat hcolons port
  rw [checkAuthority_eq_scan host hne h, List.foldlM_append, hscan]
  refine bind_eq_ok.mpr ⟨s', hport, ?_⟩
  have hcolon : ¬1 < s'.colons := Nat.not_lt.mpr hcolons'
  simp [hopened, hclosed, hbrackets, hpercent', hpercent, hat', hcolon]

theorem checkAuthority_host (h : host.IsWeb) (port : Option Nat) :
    checkAuthority (authorityText host port) =
      if isUnsendableHost host then .error .invalidChar else .ok () := by
  cases h with
  | @domain name hne hname =>
    have hends : ∀ c ∈ name.toList, endsAuthority c = false := fun c hc =>
      (nameChar_spec (hname c hc)).1
    split
    · rename_i hu
      have hchars : ∀ c ∈ name.toList, IsPlain c ∨ IsStray c := by
        intro c hc
        obtain ⟨-, hplain, hstray⟩ := nameChar_spec (hname c hc)
        cases hu : isUnsendable c with
        | false => exact .inl (hplain hu)
        | true => exact .inr (hstray hu)
      have hex : ∃ c ∈ name.toList, IsStray c := by
        obtain ⟨c, hc, hu⟩ := List.any_eq_true.mp hu
        exact ⟨c, hc, (nameChar_spec (hname c hc)).2.2 hu⟩
      rw [checkAuthority_eq_scan (.domain name) hne hends, Host.display,
        AuthorityScan.scan_stray {} hchars hex]
      rfl
    · rename_i hu
      have hchars : ∀ c ∈ name.toList, IsPlain c := by
        intro c hc
        refine (nameChar_spec (hname c hc)).2.1 (Bool.eq_false_iff.mpr fun hbad => ?_)
        exact hu (List.any_eq_true.mpr ⟨c, hc, hbad⟩)
      exact checkAuthority_ok (.domain name) hne hends
        (AuthorityScan.scan_plain rfl (Nat.zero_le _) hchars) rfl rfl rfl rfl port
  | v4 address =>
    have hchars : ∀ c ∈ (Host.v4 address).display.toList, IsPlain c := by
      intro c hc
      obtain rfl | ⟨d, hd, rfl⟩ := isDottedChar_dotted hc
      · exact ⟨by decide, by decide⟩
      · exact isPlain_digitChar (by omega)
    have hne : (Host.v4 address).display ≠ "" := by
      intro h
      have hdot : '.' ∈ (Host.v4 address).display.toList := dot_mem_dotted ..
      rw [h] at hdot
      cases hdot
    exact checkAuthority_ok (.v4 address) hne (fun c hc => endsAuthority_of_plain (hchars c hc))
      (AuthorityScan.scan_plain rfl (Nat.zero_le _) hchars) rfl rfl rfl rfl port
  | @v6 groups hlen =>
    have htext : (Host.v6 groups).display.toList = '[' :: ((shortGroups groups).toList ++ [']']) := by
      simp [Host.display]
    have hchars : ∀ c ∈ (shortGroups groups).toList, IsPlain c ∨ c = ':' := by
      intro c hc
      obtain rfl | ⟨d, hd, rfl⟩ := isGroupChar_shortGroups hc
      · exact .inr rfl
      · exact .inl (isPlain_digitChar hd)
    have hends : ∀ c ∈ (Host.v6 groups).display.toList, endsAuthority c = false := by
      rw [htext, List.forall_mem_cons, List.forall_mem_append, List.forall_mem_singleton]
      refine ⟨rfl, fun c hc => ?_, rfl⟩
      obtain hc | rfl := hchars c hc
      · exact endsAuthority_of_plain hc
      · rfl
    have hne : (Host.v6 groups).display ≠ "" := by
      intro h
      rw [h] at htext
      cases htext
    -- the closing bracket takes back the colons
    have hscan : (Host.v6 groups).display.toList.foldlM AuthorityScan.step {} =
        .ok { opened := true, closed := true } := by
      have hcolons := count_shortGroups hlen
      have hgroups := AuthorityScan.scan_groups (s := { opened := true }) rfl hchars
        (by dsimp only; omega)
      rw [htext, List.foldlM_cons]
      refine bind_eq_ok.mpr ⟨{ opened := true }, rfl, ?_⟩
      rw [List.foldlM_append]
      exact bind_eq_ok.mpr ⟨_, hgroups, rfl⟩
    exact checkAuthority_ok (.v6 groups) hne hends hscan rfl rfl rfl rfl port

-- ---------------------------------------------------------------------------
-- Both checks
-- ---------------------------------------------------------------------------

theorem checkOrigin_isWeb (h : checkOrigin text = .ok (url, host)) : host.IsWeb := by
  unfold checkOrigin at h
  split at h
  · cases h
  · rename_i hread
    split at h
    · cases h
    · rename_i hscheme
      split at h
      · cases h
      · rename_i hhost
        cases h
        refine Url.ofString_host hread ?_ _ hhost
        rw [not_not.mp hscheme]
        rfl

/-- What becomes of the address of an origin: it is refused for the reason for which its
configuration is, or else for its host, if that cannot stand in a request. -/
theorem Origin.ofUrl_eq (text : String) : Origin.ofUrl text = checkOrigin text >>= fun read =>
    if isUnsendableHost read.2 then .error (.authority .invalidChar)
    else .ok ⟨authorityText read.2 read.1.port, dropSlashes read.1.path⟩ := by
  unfold Origin.ofUrl
  cases hc : checkOrigin text with
  | error e => rfl
  | ok read =>
    obtain ⟨url, host⟩ := read
    simp only [bind, Except.bind, checkAuthority_host (checkOrigin_isWeb hc)]
    cases isUnsendableHost host with
    | false => rfl
    | true => rfl

theorem mem_problems_origin {c : Config} {e : OriginError} :
    .origin c.originUrl e ∈ c.problems ↔ checkOrigin c.originUrl = .error e := by
  rw [Config.mem_problems]
  constructor
  · intro h
    cases h
    assumption
  · exact .origin

/-- An address was accepted whose host cannot stand in a request. -/
def AcceptedUnsendable (url : String) : Prop :=
  ∃ read, checkOrigin url = .ok read ∧ isUnsendableHost read.2 = true

variable {Q : Type} [RateLimit.Amount Q]

/-- The address of an origin is refused exactly if its configuration has a problem with that
address, which is then the reason, or if the address was accepted and its host cannot stand in a
request. For these reasons, and no others that have to do with it, a gateway does not start. -/
theorem origin_refused_iff (c : Config) (w : Pipeline.World Q) (e : OriginError) :
    (Origin.ofUrl c.originUrl = .error e ↔ .origin c.originUrl e ∈ c.problems ∨
      e = .authority .invalidChar ∧ AcceptedUnsendable c.originUrl) ∧
    ((∃ url w', Gateway.ofConfig c w = (.error (.origin url e), w')) ↔
      Origin.ofUrl c.originUrl = .error e) := by
  constructor
  · rw [mem_problems_origin, Origin.ofUrl_eq, bind_eq_error]
    refine or_congr_right ⟨?_, ?_⟩
    · rintro ⟨read, hread, h⟩
      split at h
      · rename_i hu
        cases h
        exact ⟨rfl, read, hread, hu⟩
      · cases h
    · rintro ⟨rfl, read, hread, hu⟩
      exact ⟨read, hread, if_pos hu⟩
  · unfold Gateway.ofConfig
    constructor
    · rintro ⟨url, w', h⟩
      split at h
      · rename_i he
        cases h
        exact he
      · split at h <;> cases h
    · intro h
      rw [h]
      exact ⟨_, _, rfl⟩

/-- A configuration with nothing but an address, whose host has a quotation mark. -/
def quotedOrigin : Config := { originUrl := "http://a\"b" }

theorem read_quoted : Host.read ['a', '"', 'b'] = .ok (.domain "a\"b") := by
  have hdecoded : Text.decode? (Http.Form.percentDecode (Text.encode (.ofList ['a', '"', 'b']))) =
      some "a\"b" := by
    decide +kernel
  have hname : Domain.toAscii? "a\"b" = some "a\"b" :=
    Domain.toAscii?_ascii (by simp [Domain.IsNameChar]; decide) (by cbv) (by simp)
  have hnumber : endsInNumber "a\"b" = false := by cbv
  rw [Host.read, if_neg (by decide), hdecoded, Option.bind_some, hname]
  dsimp only
  rw [hnumber]
  rfl

theorem checkOrigin_quoted : checkOrigin "http://a\"b" =
    .ok (⟨"http", some (.domain "a\"b"), none, "/"⟩, .domain "a\"b") := by
  have hscheme : splitUrlScheme? (cleanUrl "http://a\"b") =
      some ("http", ['/', '/', 'a', '"', 'b']) := by
    decide +kernel
  have huser : splitUser true ['a', '"', 'b'] = .ok (false, ['a', '"', 'b']) := rfl
  have hhost : splitHost true false ['a', '"', 'b'] = (['a', '"', 'b'], []) := by decide
  have hpath : webPath [] = "/" := by decide +kernel
  have hauthority : readAuthorityPart "http" (.web 80) ['a', '"', 'b'] =
      .ok ⟨"http", some (.domain "a\"b"), none, "/"⟩ := by
    simp only [readAuthorityPart, SchemeClass.isSpecial, huser, bind, Except.bind, hhost,
      read_quoted, Except.map, hpath]
    rfl
  have hurl : Url.ofString "http://a\"b" = .ok ⟨"http", some (.domain "a\"b"), none, "/"⟩ := by
    rw [Url.ofString, hscheme]
    exact hauthority
  rw [checkOrigin, hurl]
  rfl

theorem quotedOrigin_refused : quotedOrigin.problems = [] ∧
    Origin.ofUrl quotedOrigin.originUrl = .error (.authority .invalidChar) ∧
    ∀ w : Pipeline.World Float, Gateway.ofConfig quotedOrigin w =
      (.error (.origin quotedOrigin.originUrl (.authority .invalidChar)), w) := by
  have horigin : Origin.ofUrl quotedOrigin.originUrl = .error (.authority .invalidChar) := by
    rw [Origin.ofUrl_eq, quotedOrigin, checkOrigin_quoted]
    rfl
  refine ⟨?_, horigin, fun w => ?_⟩
  · have hbind : Config.isSocketAddress quotedOrigin.bindAddress = true := by decide +kernel
    rw [Config.problems, Config.originProblems, quotedOrigin, checkOrigin_quoted]
    rw [quotedOrigin] at hbind
    rw [hbind]
    rfl
  · rw [Gateway.ofConfig, horigin]

end ConditionalGateway
