import ConditionalGateway.Net.Url
import ConditionalGateway.Proofs.ExceptLaws
import ConditionalGateway.Proofs.Net.AddressLaws
import ConditionalGateway.Proofs.Unicode.Blanks
import Mathlib

/-!
# Hosts that are read

What every host satisfies that an address of the web has: a domain is of
characters that a name can have, whatever its labels were before they were
mapped and written in Punycode, and an IPv6 address has eight groups
(`Url.ofString_host`).
-/

namespace ConditionalGateway.Net

-- ---------------------------------------------------------------------------
-- Punycode
-- ---------------------------------------------------------------------------

namespace Punycode

def IsDigit (c : Char) : Prop := ∃ n < 36, c = digit n

theorem isDigit_encodeNumber (bias place n : Nat) : ∀ c ∈ encodeNumber bias place n, IsDigit c := by
  fun_induction encodeNumber bias place n with
  | case1 place n t h =>
    intro c hc
    exact ⟨n, h.trans (threshold_lt bias place), List.mem_singleton.mp hc⟩
  | case2 place n t h ih =>
    intro c hc
    obtain rfl | hc := List.mem_cons.mp hc
    · have ht : t < 36 := threshold_lt bias place
      have hmod : (n - t) % (36 - t) < 36 - t := Nat.mod_lt _ (by omega)
      exact ⟨_, by omega, rfl⟩
    · exact ih c hc

def Encoding.Digits (s : Encoding) : Prop := ∀ c ∈ s.digits, IsDigit c

theorem Encoding.Digits.pass {s : Encoding} (h : s.Digits) (basic n : Nat) (c : Char) :
    (s.pass basic n c).Digits := by
  unfold Encoding.pass
  split
  · exact h
  · split
    · intro d hd
      obtain hd | hd := List.mem_append.mp hd
      · exact h d hd
      · exact isDigit_encodeNumber _ _ _ d hd
    · exact h

theorem Encoding.Digits.write {s : Encoding} (h : s.Digits) (text : List Char) (basic next n : Nat) :
    (Encoding.write text basic (s, next) n).1.Digits :=
  List.foldlRecOn text (Encoding.pass basic n) (motive := Encoding.Digits) h fun _ hs c _ =>
    hs.pass basic n c

theorem mem_encode (h : c ∈ encode text) : (c ∈ text ∧ c.toNat < 0x80) ∨ c = '-' ∨ IsDigit c := by
  obtain h | h := List.mem_append.mp h
  · split at h
    · cases h
    · obtain h | h := List.mem_append.mp h
      · have hbasic := List.mem_filter.mp h
        exact .inl ⟨hbasic.1, of_decide_eq_true hbasic.2⟩
      · exact .inr (.inl (List.mem_singleton.mp h))
  · refine .inr (.inr (?_ : IsDigit c))
    have hstart : ({ count := (text.filter fun c => c.toNat < 0x80).length } : Encoding).Digits :=
      nofun
    exact List.foldlRecOn _ _ (motive := fun p : Encoding × Nat => p.1.Digits) hstart
      (fun _ hs n _ => hs.write text _ _ n) c h

theorem isDigit_iff : ∀ n < 36, (digit n).toNat < 128 ∧ Domain.isForbidden (digit n) = false := by
  decide

end Punycode

-- ---------------------------------------------------------------------------
-- Domain names
-- ---------------------------------------------------------------------------

namespace Domain

def IsNameChar (c : Char) : Prop := c.toNat < 128 ∧ isForbidden c = false

theorem isLabel_of_readLabel? (h : readLabel? cs = some label) : isLabel label = true := by
  -- however the label is read, it is checked in the end
  have hcheck : ∀ read : Option (List Char),
      (read.bind fun l => if isLabel l = true then some l else none) = some label →
        isLabel label = true := by
    intro read h
    obtain ⟨l, -, h⟩ := Option.bind_eq_some_iff.mp h
    split at h
    · rename_i hl
      cases h
      exact hl
    · cases h
  unfold readLabel? at h
  split at h
  · dsimp only at h
    split at h
    · exact hcheck _ h
    · exact hcheck none h
  · exact hcheck (some cs) h

theorem isForbidden_of_isLabel (h : isLabel cs = true) (hc : c ∈ cs) : isForbidden c = false := by
  simp only [isLabel, Bool.and_eq_true, Bool.not_eq_true', List.any_eq_false] at h
  exact Bool.eq_false_iff.mpr (h.1.1.1 c hc)

theorem isNameChar_labelToAscii (h : isLabel cs = true) (hc : c ∈ (labelToAscii cs).toList) :
    IsNameChar c := by
  unfold labelToAscii at hc
  split at hc
  · rename_i hascii
    rw [String.toList_ofList] at hc
    exact ⟨of_decide_eq_true (List.all_eq_true.mp hascii c hc), isForbidden_of_isLabel h hc⟩
  · rw [String.toList_append, List.mem_append] at hc
    obtain hc | hc := hc
    · have hmark : c = 'x' ∨ c = 'n' ∨ c = '-' := by simpa using hc
      obtain rfl | rfl | rfl := hmark <;> exact ⟨by decide, by decide⟩
    · rw [String.toList_ofList] at hc
      obtain ⟨hc, hlt⟩ | rfl | ⟨n, hn, rfl⟩ := Punycode.mem_encode hc
      · exact ⟨hlt, isForbidden_of_isLabel h hc⟩
      · exact ⟨by decide, by decide⟩
      · exact Punycode.isDigit_iff n hn

theorem exists_of_mem_mapM {f : α → Option β} {xs : List α} (h : xs.mapM f = some ys)
    (hy : y ∈ ys) : ∃ x ∈ xs, f x = some y := by
  induction xs generalizing ys with
  | nil =>
    cases h
    cases hy
  | cons x xs ih =>
    rw [List.mapM_cons] at h
    obtain ⟨y', hy', h⟩ := Option.bind_eq_some_iff.mp h
    obtain ⟨ys', hys, h⟩ := Option.bind_eq_some_iff.mp h
    cases h
    obtain rfl | hy := List.mem_cons.mp hy
    · exact ⟨x, List.mem_cons_self, hy'⟩
    · obtain ⟨x', hx, hf⟩ := ih hys hy
      exact ⟨x', List.mem_cons_of_mem _ hx, hf⟩

theorem isNameChar_toAscii? (h : toAscii? name = some text) (hc : c ∈ text.toList) :
    IsNameChar c := by
  obtain ⟨spelled, -, h⟩ := Option.bind_eq_some_iff.mp h
  obtain ⟨labels, hlabels, h⟩ := Option.bind_eq_some_iff.mp h
  split at h
  · cases h
    rw [String.toList_intercalate, List.map_map] at hc
    obtain hc | ⟨piece, hp, hc⟩ := mem_intercalate hc
    · obtain rfl := List.mem_singleton.mp hc
      exact ⟨by decide, by decide⟩
    · obtain ⟨label, hl, rfl⟩ := List.mem_map.mp hp
      obtain ⟨_, -, hread⟩ := exists_of_mem_mapM hlabels hl
      exact isNameChar_labelToAscii (isLabel_of_readLabel? hread) hc
  · cases h

-- ---------------------------------------------------------------------------
-- Names of ASCII
-- ---------------------------------------------------------------------------

open Unicode Unicode.CharSet

def asciiRanges : List (Nat × Nat) := [(0, 127)]

theorem covers_asciiRanges (h : n < 128) : Covers asciiRanges n :=
  ⟨(0, 127), List.mem_singleton_self _, Nat.zero_le n, Nat.le_of_lt_succ h⟩

set_option maxRecDepth 20000 in
theorem marks_apart : ∀ name ∈ ["Mn", "Mc", "Me"],
    apart (written 0 0 none ((Data.categories.lookup name).getD "").toList) asciiRanges = true := by
  simp only [List.forall_mem_cons]
  exact ⟨apart_written rfl (by decide +kernel), apart_written rfl (by decide +kernel),
    apart_written rfl (by decide +kernel), nofun⟩

set_option maxRecDepth 20000 in
theorem rights_apart : ∀ name ∈ ["R", "AL", "AN"],
    apart (written 0 0 none ((Data.bidiClasses.lookup name).getD "").toList) asciiRanges = true := by
  simp only [List.forall_mem_cons]
  exact ⟨apart_written rfl (by decide +kernel), apart_written rfl (by decide +kernel),
    apart_written rfl (by decide +kernel), nofun⟩

theorem markSet_ascii (h : n < 128) : markSet.contains n = false := by
  by_contra hc
  rw [Bool.not_eq_false] at hc
  obtain ⟨r, hr, hn⟩ := covers_ofRanges (contains_covers hc)
  obtain ⟨name, hname, hr⟩ := List.mem_flatMap.mp hr
  exact not_covers_of_apart (marks_apart name hname) (tableSet_covers ⟨r, hr, hn⟩)
    (covers_asciiRanges h)

theorem isStrongRight_ascii {c : Char} (h : c.toNat < 128) :
    (bidiClass c).isStrongRight = false := by
  unfold bidiClass
  split
  · rename_i e he
    have hc := List.find?_some he
    obtain ⟨⟨name, b⟩, hname, rfl⟩ := List.mem_map.mp (List.mem_of_find?_eq_some he)
    have hright : ∀ e ∈ bidiClassNames, e.2.isStrongRight = true → e.1 ∈ ["R", "AL", "AN"] := by
      decide
    by_contra hb
    rw [Bool.not_eq_false] at hb
    exact not_covers_of_apart (rights_apart name (hright _ hname hb))
      (tableSet_covers (contains_covers hc)) (covers_asciiRanges h)
  · rfl

theorem joinersFit_ascii (h : ∀ c ∈ cs, c.toNat < 128) (before : List Char) :
    joinersFit before cs = true := by
  induction cs generalizing before with
  | nil => rfl
  | cons c cs ih =>
    obtain ⟨hc, h⟩ := List.forall_mem_cons.mp h
    have hjoiner : ¬(c = '\u200c' ∨ c = '\u200d') := by
      rintro (rfl | rfl) <;> exact absurd hc (by decide)
    rw [joinersFit, Bool.and_eq_true]
    exact ⟨by simp [hjoiner], ih h _⟩

theorem isLabel_ascii (h : ∀ c ∈ cs, IsNameChar c) : isLabel cs = true := by
  have hascii : isAscii cs = true := by
    rw [isAscii, List.all_eq_true]
    exact fun c hc => decide_eq_true (h c hc).1
  have hallowed : cs.any isForbidden = false := by
    rw [List.any_eq_false]
    exact fun c hc => Bool.eq_false_iff.mp (h c hc).2
  have hmark : (cs.head?.any fun c => markSet.contains c.toNat) = false := by
    cases cs with
    | nil => rfl
    | cons c cs => rw [List.head?_cons, Option.any_some, markSet_ascii (h c List.mem_cons_self).1]
  rw [isLabel, hallowed, hmark, joinersFit_ascii fun c hc => (h c hc).1, hascii]
  rfl

theorem isReadable_ascii (h : ∀ c ∈ cs, c.toNat < 128) : isReadable [cs] = true := by
  have hnone : ((cs.map bidiClass).any BidiClass.isStrongRight) = false := by
    rw [List.any_map, List.any_eq_false]
    exact fun c hc => Bool.eq_false_iff.mp (isStrongRight_ascii (h c hc))
  simp [isReadable, hnone]

theorem spell?_ascii (h : ∀ c ∈ cs, c.toNat < 128 ∧ asciiLower c = c) : spell? cs = some cs := by
  have hmap : cs.mapM mapChar? = some (cs.map fun c => [c]) := by
    induction cs with
    | nil => rfl
    | cons c cs ih =>
      obtain ⟨⟨hc, hlower⟩, h⟩ := List.forall_mem_cons.mp h
      have hself : mapChar? c = some [c] := by rw [mapChar?, if_pos hc, hlower]
      rw [List.mapM_cons, hself, ih h]
      rfl
  have hform : canonicalForm cs = cs := by
    refine if_pos (List.all_eq_true.mpr fun c hc => decide_eq_true ?_)
    have hlt := (h c hc).1
    omega
  rw [spell?, hmap, Option.map_some, ← List.flatMap_def, List.flatMap_singleton', hform]

/-- A name of ASCII in lower case is its own ASCII form, if it has one label that is not in
Punycode. -/
theorem toAscii?_ascii {name : String} (h : ∀ c ∈ name.toList, IsNameChar c ∧ asciiLower c = c)
    (hone : name.splitOn "." = [name]) (hx : ∀ rest, name.toList ≠ 'x' :: 'n' :: '-' :: '-' :: rest) :
    toAscii? name = some name := by
  have hspell : spell? name.toList = some name.toList :=
    spell?_ascii fun c hc => ⟨(h c hc).1.1, (h c hc).2⟩
  have hread : readLabel? name.toList = some name.toList := by
    unfold readLabel?
    split
    · rename_i rest heq
      exact absurd heq (hx rest)
    · exact if_pos (isLabel_ascii fun c hc => (h c hc).1)
  have hreadable : isReadable [name.toList] = true := isReadable_ascii fun c hc => (h c hc).1.1
  have hlabel : labelToAscii name.toList = name := by
    have hascii : isAscii name.toList = true :=
      List.all_eq_true.mpr fun c hc => decide_eq_true (h c hc).1.1
    rw [labelToAscii, if_pos hascii, String.ofList_toList]
  unfold toAscii?
  refine Option.bind_eq_some_iff.mpr ⟨_, hspell, ?_⟩
  rw [String.ofList_toList, hone]
  refine Option.bind_eq_some_iff.mpr ⟨[name.toList], ?_, ?_⟩
  · rw [List.mapM_cons, hread]
    rfl
  · rw [if_pos hreadable, List.map_singleton, hlabel]
    rfl

end Domain

-- ---------------------------------------------------------------------------
-- Hosts
-- ---------------------------------------------------------------------------

/-- What holds of a host that is read where the scheme is one of the web. -/
inductive Host.IsWeb : Host → Prop
  | domain : name ≠ "" → (∀ c ∈ name.toList, Domain.IsNameChar c) → IsWeb (.domain name)
  | v4 (address : Nat) : IsWeb (.v4 address)
  | v6 : groups.length = 8 → IsWeb (.v6 groups)

theorem readV6Address?_length (h : readV6Address? cs = some groups) : groups.length = 8 := by
  unfold readV6Address? at h
  split at h
  · obtain ⟨all, -, h⟩ := Option.bind_eq_some_iff.mp h
    split at h
    · rename_i h8
      cases h
      exact h8
    · cases h
  · obtain ⟨before, -, h⟩ := Option.bind_eq_some_iff.mp h
    obtain ⟨after, -, h⟩ := Option.bind_eq_some_iff.mp h
    split at h
    · cases h
    · rename_i hfits
      cases h
      simp only [Bool.or_eq_true, decide_eq_true_eq, not_or] at hfits
      simp only [List.length_append, List.length_replicate]
      omega
  · cases h

theorem readBracketed_isWeb (h : readBracketed cs = .ok host) : host.IsWeb := by
  unfold readBracketed at h
  split at h
  · split at h
    · rename_i hgroups
      cases h
      exact .v6 (readV6Address?_length hgroups)
    · cases h
  · cases h

theorem Host.read_isWeb (h : Host.read cs = .ok host) : host.IsWeb := by
  unfold Host.read at h
  split at h
  · exact readBracketed_isWeb h
  · split at h
    · cases h
    · rename_i name hname
      obtain ⟨_, -, hname⟩ := Option.bind_eq_some_iff.mp hname
      split at h
      · cases h
      · rename_i hne
        split at h
        · cases h
          exact .domain (by simpa using hne) fun _ => Domain.isNameChar_toAscii? hname
        · split at h
          · cases h
            exact .v4 _
          · cases h

theorem readAuthorityPart_host (h : readAuthorityPart scheme sc cs = .ok url) :
    url.scheme = scheme ∧ (sc.isSpecial = true → ∀ host ∈ url.host, host.IsWeb) := by
  unfold readAuthorityPart at h
  obtain ⟨⟨hasUser, rest⟩, -, h⟩ := bind_eq_ok.mp h
  dsimp only at h
  generalize splitHost sc.isSpecial false rest = parts at h
  obtain ⟨hostText, rest⟩ := parts
  dsimp only at h
  split at h
  · cases h
  -- whether there is a port says nothing about the host
  split at h
  · obtain ⟨host, hhost, h⟩ := bind_eq_ok.mp h
    cases hhost
    split at h
    all_goals
      obtain ⟨port, -, h⟩ := bind_eq_ok.mp h
      cases h
      exact ⟨rfl, fun _ => nofun⟩
  · split at h
    · obtain ⟨host, hhost, h⟩ := bind_eq_ok.mp h
      obtain ⟨host, hread, rfl⟩ := map_eq_ok.mp hhost
      have hweb : ∀ host' ∈ some host, host'.IsWeb := by
        rintro _ ⟨⟩
        exact Host.read_isWeb hread
      split at h
      all_goals
        obtain ⟨port, -, h⟩ := bind_eq_ok.mp h
        cases h
        exact ⟨rfl, fun _ => hweb⟩
    · rename_i hplain
      obtain ⟨host, hhost, h⟩ := bind_eq_ok.mp h
      split at h
      all_goals
        obtain ⟨port, -, h⟩ := bind_eq_ok.mp h
        cases h
        exact ⟨rfl, fun hs => absurd hs hplain⟩

theorem readFileUrl_host (h : readFileUrl cs = .ok url) : ∀ host ∈ url.host, host.IsWeb := by
  unfold readFileUrl at h
  dsimp only at h
  split at h
  · split at h
    · split at h
      · cases h
        nofun
      · obtain ⟨host, hread, h⟩ := bind_eq_ok.mp h
        cases h
        intro x hx
        obtain rfl : host = x := Option.some.inj hx
        exact Host.read_isWeb hread
    · cases h
      nofun
  · cases h
    nofun

theorem Url.ofString_host (h : Url.ofString text = .ok url)
    (hs : (SchemeClass.ofString url.scheme).isSpecial = true) : ∀ host ∈ url.host, host.IsWeb := by
  unfold Url.ofString at h
  split at h
  · cases h
  · split at h
    · exact readFileUrl_host h
    · exact (readAuthorityPart_host h).2 rfl
    · rename_i hother
      -- an address of another scheme keeps it
      split at h
      · rw [(readAuthorityPart_host h).1, hother] at hs
        cases hs
      · cases h
        rw [hother] at hs
        cases hs

end ConditionalGateway.Net
