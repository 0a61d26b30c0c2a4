import ConditionalGateway.Net.Host
import ConditionalGateway.Proofs.Text.Digits
import Mathlib

/-!
# Addresses as they are shown

What an IPv6 address looks like without its longest run of zeros, which
characters an address is shown by, and that no two addresses are shown alike
(`IpAddress.display_inj`).

The text of an address is split at the signs between its numbers. Its pieces are
the digits of the numbers, and where zeros are left out an empty piece stands
for them.
-/

namespace ConditionalGateway.Net

open Decimal (toList_toString toDigits_inj exists_digit)

-- ---------------------------------------------------------------------------
-- Runs of zeros
-- ---------------------------------------------------------------------------

theorem zeroRun_split (gs : List Nat) :
    ∃ back, gs = List.replicate (zeroRun gs) 0 ++ back := by
  fun_induction zeroRun gs with
  | case1 gs ih =>
    obtain ⟨back, h⟩ := ih
    exact ⟨back, by rw [List.replicate_succ, List.cons_append, ← h]⟩
  | case2 gs => exact ⟨gs, rfl⟩

/-- The groups in front of the longest run of zeros, the run, and the groups behind it. -/
theorem longestZeros_split (k : Nat) (gs : List Nat) (h : 0 < (longestZeros k gs).2) :
    ∃ front back, gs = front ++ List.replicate (longestZeros k gs).2 0 ++ back ∧
      (longestZeros k gs).1 = k + front.length := by
  induction gs generalizing k with
  | nil => cases h
  | cons g gs ih =>
    rw [longestZeros] at h ⊢
    split
    · obtain ⟨back, hback⟩ := zeroRun_split (g :: gs)
      exact ⟨[], back, hback, rfl⟩
    · rename_i hlater
      rw [if_neg hlater] at h
      obtain ⟨front, back, hgs, hstart⟩ := ih (k + 1) h
      refine ⟨g :: front, back, ?_, ?_⟩
      · rw [List.cons_append, List.cons_append, ← hgs]
      · rw [hstart, List.length_cons]
        omega

theorem shortGroups_cases (groups : List Nat) :
    shortGroups groups = colonJoin groups ∨
      ∃ front n back, 1 < n ∧ groups = front ++ List.replicate n 0 ++ back ∧
        shortGroups groups = colonJoin front ++ "::" ++ colonJoin back := by
  rcases hz : longestZeros 0 groups with ⟨start, n⟩
  by_cases hn : 1 < n
  · obtain ⟨front, back, hgs, hstart⟩ := longestZeros_split 0 groups (hz ▸ Nat.zero_lt_of_lt hn)
    rw [hz] at hgs hstart
    refine .inr ⟨front, n, back, hn, hgs, ?_⟩
    obtain rfl : start = front.length := hstart.trans (Nat.zero_add _)
    simp only [shortGroups, hz, if_pos hn]
    simp [hgs]
  · exact .inl (by simp only [shortGroups, hz, if_neg hn])

-- ---------------------------------------------------------------------------
-- Characters
-- ---------------------------------------------------------------------------

theorem toList_groupText (n : Nat) : (groupText n).toList = Nat.toDigits 16 n :=
  String.toList_ofList

theorem toList_colonJoin (gs : List Nat) :
    (colonJoin gs).toList = [':'].intercalate (gs.map (Nat.toDigits 16)) := by
  have hg : String.toList ∘ groupText = Nat.toDigits 16 := funext toList_groupText
  rw [colonJoin, String.toList_intercalate, List.map_map, hg]
  rfl

theorem toList_dotted (a b c d : Nat) :
    (dotted a b c d).toList = ['.'].intercalate ([a, b, c, d].map (Nat.toDigits 10)) := by
  simp [dotted, List.intercalate]

def IsGroupChar (c : Char) : Prop := c = ':' ∨ ∃ d < 16, c = Nat.digitChar d

def IsDottedChar (c : Char) : Prop := c = '.' ∨ ∃ d < 10, c = Nat.digitChar d

theorem isGroupChar_iff : ∀ d < 16, Nat.digitChar d ≠ ':' ∧ Nat.digitChar d ≠ '.' ∧
    Nat.digitChar d ≠ 's' := by decide

theorem mem_intercalate {sep : List α} {pieces : List (List α)} (h : x ∈ sep.intercalate pieces) :
    x ∈ sep ∨ ∃ piece ∈ pieces, x ∈ piece := by
  induction pieces with
  | nil => cases h
  | cons piece pieces ih =>
    cases pieces with
    | nil =>
      rw [List.intercalate_singleton] at h
      exact .inr ⟨piece, List.mem_singleton_self _, h⟩
    | cons next pieces =>
      rw [List.intercalate_cons_cons, List.append_assoc, List.mem_append, List.mem_append] at h
      obtain h | h | h := h
      · exact .inr ⟨piece, List.mem_cons_self, h⟩
      · exact .inl h
      · obtain h | ⟨piece', hp, hx⟩ := ih h
        · exact .inl h
        · exact .inr ⟨piece', List.mem_cons_of_mem _ hp, hx⟩

theorem isGroupChar_colonJoin (h : c ∈ (colonJoin gs).toList) : IsGroupChar c := by
  rw [toList_colonJoin] at h
  obtain h | ⟨piece, hp, hc⟩ := mem_intercalate h
  · exact .inl (List.mem_singleton.mp h)
  · obtain ⟨g, -, rfl⟩ := List.mem_map.mp hp
    exact .inr (exists_digit (by decide) hc)

theorem isGroupChar_shortGroups (h : c ∈ (shortGroups gs).toList) : IsGroupChar c := by
  obtain hs | ⟨front, n, back, -, -, hs⟩ := shortGroups_cases gs
  · exact isGroupChar_colonJoin (hs ▸ h)
  · simp only [hs, String.toList_append, List.mem_append] at h
    obtain (h | h) | h := h
    · exact isGroupChar_colonJoin h
    · exact .inl (by simpa using h)
    · exact isGroupChar_colonJoin h

theorem isDottedChar_dotted (h : e ∈ (dotted a b c d).toList) : IsDottedChar e := by
  rw [toList_dotted] at h
  obtain h | ⟨piece, hp, he⟩ := mem_intercalate h
  · exact .inl (List.mem_singleton.mp h)
  · obtain ⟨n, -, rfl⟩ := List.mem_map.mp hp
    exact .inr (exists_digit (by decide) he)

theorem notMem_digits {c : Char} (hc : ∀ d < 16, Nat.digitChar d ≠ c) (hb : 1 < base)
    (h16 : base ≤ 16) (n : Nat) : c ∉ Nat.toDigits base n := by
  intro h
  obtain ⟨d, hd, rfl⟩ := exists_digit hb h
  exact hc d (hd.trans_le h16) rfl

theorem count_intercalate [BEq α] [LawfulBEq α] {sep : α} {pieces : List (List α)}
    (h : ∀ p ∈ pieces, sep ∉ p) : ([sep].intercalate pieces).count sep = pieces.length - 1 := by
  induction pieces with
  | nil => rfl
  | cons piece pieces ih =>
    obtain ⟨hp, h⟩ := List.forall_mem_cons.mp h
    cases pieces with
    | nil => simpa using List.count_eq_zero_of_not_mem hp
    | cons next pieces =>
      have hrest := ih h
      simp [List.count_append, List.count_eq_zero_of_not_mem hp, hrest]

theorem colon_notMem_digits {gs : List Nat} (h : p ∈ gs.map (Nat.toDigits 16)) : ':' ∉ p := by
  obtain ⟨g, -, rfl⟩ := List.mem_map.mp h
  exact notMem_digits (by decide) (by decide) (by decide) g

theorem count_colonJoin (gs : List Nat) : (colonJoin gs).toList.count ':' = gs.length - 1 := by
  rw [toList_colonJoin, count_intercalate fun _ => colon_notMem_digits, List.length_map]

theorem count_shortGroups (h : gs.length = 8) : (shortGroups gs).toList.count ':' ≤ 7 := by
  obtain hs | ⟨front, n, back, hn, rfl, hs⟩ := shortGroups_cases gs
  · rw [hs, count_colonJoin, h]
  · have hcolons : "::".toList.count ':' = 2 := by decide
    simp only [List.length_append, List.length_replicate] at h
    rw [hs, String.toList_append, String.toList_append, List.count_append, List.count_append,
      count_colonJoin, count_colonJoin, hcolons]
    omega

-- ---------------------------------------------------------------------------
-- Addresses that are shown alike
-- ---------------------------------------------------------------------------

/-- Pieces are told by the text that they make, if none of them has the sign between them. -/
theorem intercalate_inj [BEq α] [LawfulBEq α] {sep : α} {xs ys : List (List α)}
    (hx : ∀ p ∈ xs, sep ∉ p) (hy : ∀ p ∈ ys, sep ∉ p) (hnx : xs ≠ []) (hny : ys ≠ [])
    (h : [sep].intercalate xs = [sep].intercalate ys) : xs = ys := by
  rw [← List.splitOn_intercalate sep hx hnx, h, List.splitOn_intercalate sep hy hny]

/-- The pieces of some numbers at an end of a text, where no number leaves an empty piece. -/
def endPieces (gs : List Nat) : List (List Char) :=
  if gs = [] then [[]] else gs.map (Nat.toDigits 16)

theorem endPieces_ne_nil (gs : List Nat) : endPieces gs ≠ [] := by
  unfold endPieces
  split
  · exact List.cons_ne_nil _ _
  · rename_i h
    exact List.map_eq_nil_iff.not.mpr h

theorem intercalate_endPieces (gs : List Nat) :
    [':'].intercalate (endPieces gs) = (colonJoin gs).toList := by
  rw [toList_colonJoin, endPieces]
  split
  · rename_i h
    rw [h]
    rfl
  · rfl

theorem colon_notMem_endPieces (h : p ∈ endPieces gs) : ':' ∉ p := by
  unfold endPieces at h
  split at h
  · rw [List.mem_singleton.mp h]
    exact List.not_mem_nil
  · exact colon_notMem_digits h

theorem colon_notMem_around (h : p ∈ endPieces front ++ [] :: endPieces back) : ':' ∉ p := by
  obtain h | h := List.mem_append.mp h
  · exact colon_notMem_endPieces h
  · obtain rfl | h := List.mem_cons.mp h
    · exact List.not_mem_nil
    · exact colon_notMem_endPieces h

theorem endPieces_append_nil (gs : List Nat) (more : List (List Char)) : ∃ more',
    endPieces gs ++ [] :: more = gs.map (Nat.toDigits 16) ++ [] :: more' := by
  unfold endPieces
  split
  · rename_i h
    exact ⟨[] :: more, by rw [h]; rfl⟩
  · exact ⟨more, rfl⟩

theorem nil_append_endPieces (more : List (List Char)) (gs : List Nat) : ∃ more',
    more ++ [] :: endPieces gs = more' ++ [] :: gs.map (Nat.toDigits 16) := by
  unfold endPieces
  split
  · rename_i h
    exact ⟨more ++ [[]], by rw [h]; simp⟩
  · exact ⟨more, rfl⟩

theorem takeWhile_digits (gs : List Nat) (more : List (List Char)) :
    (gs.map (Nat.toDigits 16) ++ [] :: more).takeWhile (· ≠ []) = gs.map (Nat.toDigits 16) := by
  induction gs with
  | nil => rfl
  | cons g gs ih =>
    rw [List.map_cons, List.cons_append, List.takeWhile_cons, ih]
    simp [Nat.toDigits_ne_nil]

theorem intercalate_append {sep : List α} {xs ys : List (List α)} (hx : xs ≠ []) (hy : ys ≠ []) :
    sep.intercalate (xs ++ ys) = sep.intercalate xs ++ sep ++ sep.intercalate ys := by
  induction xs with
  | nil => contradiction
  | cons x xs ih =>
    by_cases hxs : xs = []
    · rw [hxs, List.singleton_append, List.intercalate_cons_of_ne_nil hy,
        List.intercalate_singleton]
    · rw [List.cons_append, List.intercalate_cons_of_ne_nil (List.append_ne_nil_of_left_ne_nil hxs _),
        List.intercalate_cons_of_ne_nil hxs, ih hxs]
      simp only [List.append_assoc]

theorem toList_around (front back : List Nat) : (colonJoin front ++ "::" ++ colonJoin back).toList =
    [':'].intercalate (endPieces front ++ [] :: endPieces back) := by
  rw [intercalate_append (endPieces_ne_nil front) (List.cons_ne_nil _ _),
    List.intercalate_cons_of_ne_nil (endPieces_ne_nil back), intercalate_endPieces,
    intercalate_endPieces]
  simp

theorem map_digits_inj {gs gs' : List Nat}
    (h : gs.map (Nat.toDigits 16) = gs'.map (Nat.toDigits 16)) : gs = gs' :=
  (List.map_inj_right fun _ _ => toDigits_inj (by decide) (by decide)).mp h

theorem around_inj {front back front' back' : List Nat}
    (h : colonJoin front ++ "::" ++ colonJoin back = colonJoin front' ++ "::" ++ colonJoin back') :
    front = front' ∧ back = back' := by
  have hpieces : endPieces front ++ [] :: endPieces back =
      endPieces front' ++ [] :: endPieces back' := by
    refine intercalate_inj (fun _ => colon_notMem_around) (fun _ => colon_notMem_around) (by simp)
      (by simp) ?_
    rw [← toList_around, ← toList_around, h]
  constructor
  · obtain ⟨more, hm⟩ := endPieces_append_nil front (endPieces back)
    obtain ⟨more', hm'⟩ := endPieces_append_nil front' (endPieces back')
    rw [hm, hm'] at hpieces
    have htake := congrArg (List.takeWhile (· ≠ [])) hpieces
    rw [takeWhile_digits, takeWhile_digits] at htake
    exact map_digits_inj htake
  · -- the same from the other end
    obtain ⟨more, hm⟩ := nil_append_endPieces (endPieces front) back
    obtain ⟨more', hm'⟩ := nil_append_endPieces (endPieces front') back'
    rw [hm, hm'] at hpieces
    have htake := congrArg (List.takeWhile (· ≠ [])) (congrArg List.reverse hpieces)
    simp only [List.reverse_append, List.reverse_cons, List.append_assoc, List.singleton_append,
      ← List.map_reverse] at htake
    rw [takeWhile_digits, takeWhile_digits] at htake
    exact List.reverse_inj.mp (map_digits_inj htake)

theorem colonJoin_inj (hne : gs ≠ []) (hne' : gs' ≠ []) (h : colonJoin gs = colonJoin gs') :
    gs = gs' := by
  refine map_digits_inj (intercalate_inj (fun _ => colon_notMem_digits)
    (fun _ => colon_notMem_digits) (List.map_eq_nil_iff.not.mpr hne)
    (List.map_eq_nil_iff.not.mpr hne') ?_)
  rw [← toList_colonJoin, ← toList_colonJoin, h]

theorem colonJoin_ne_around (hne : gs ≠ []) (front back : List Nat) :
    colonJoin gs ≠ colonJoin front ++ "::" ++ colonJoin back := by
  intro h
  have hpieces : gs.map (Nat.toDigits 16) = endPieces front ++ [] :: endPieces back := by
    refine intercalate_inj (fun _ => colon_notMem_digits) (fun _ => colon_notMem_around)
      (List.map_eq_nil_iff.not.mpr hne) (by simp) ?_
    rw [← toList_colonJoin, ← toList_around, h]
  have hnil : [] ∈ gs.map (Nat.toDigits 16) := by
    rw [hpieces]
    simp
  obtain ⟨g, -, hg⟩ := List.mem_map.mp hnil
  exact Nat.toDigits_ne_nil hg

/-- What is left out is told by what is there, since there are always eight groups. -/
theorem shortGroups_inj (hn : gs.length = 8) (hn' : gs'.length = 8)
    (h : shortGroups gs = shortGroups gs') : gs = gs' := by
  have hne : gs ≠ [] := List.ne_nil_of_length_eq_add_one hn
  have hne' : gs' ≠ [] := List.ne_nil_of_length_eq_add_one hn'
  obtain hs | ⟨front, n, back, -, hgs, hs⟩ := shortGroups_cases gs <;>
    obtain hs' | ⟨front', n', back', -, hgs', hs'⟩ := shortGroups_cases gs' <;>
    rw [hs, hs'] at h
  · exact colonJoin_inj hne hne' h
  · exact absurd h (colonJoin_ne_around hne front' back')
  · exact absurd h.symm (colonJoin_ne_around hne' front back)
  · obtain ⟨rfl, rfl⟩ := around_inj h
    rw [hgs, List.length_append, List.length_append, List.length_replicate] at hn
    rw [hgs', List.length_append, List.length_append, List.length_replicate] at hn'
    obtain rfl : n = n' := by omega
    rw [hgs, hgs']

theorem dotted_inj (h : dotted a b c d = dotted a' b' c' d') :
    a = a' ∧ b = b' ∧ c = c' ∧ d = d' := by
  have hno : ∀ ns : List Nat, ∀ p ∈ ns.map (Nat.toDigits 10), '.' ∉ p := by
    intro ns p hp
    obtain ⟨n, -, rfl⟩ := List.mem_map.mp hp
    exact notMem_digits (by decide) (by decide) (by decide) n
  have hpieces : [a, b, c, d].map (Nat.toDigits 10) = [a', b', c', d'].map (Nat.toDigits 10) := by
    refine intercalate_inj (hno _) (hno _) (List.cons_ne_nil _ _) (List.cons_ne_nil _ _) ?_
    rw [← toList_dotted, ← toList_dotted, h]
  have hns := (List.map_inj_right fun _ _ => toDigits_inj (by decide) (by decide)).mp hpieces
  simpa using hns

def IpAddress.IsFull : IpAddress → Prop
  | .v4 .. => True
  | .v6 groups => groups.length = 8

def mapped (x y : Nat) : List Nat := [0, 0, 0, 0, 0, 0xFFFF, x, y]

theorem IpAddress.display_cases (ip : IpAddress) :
    (∃ a b c d, ip = .v4 a b c d ∧ ip.display = dotted a b c d) ∨
      (∃ x y, ip = .v6 (mapped x y) ∧
        ip.display = "::ffff:" ++ dotted (x / 256) (x % 256) (y / 256) (y % 256)) ∨
      ∃ gs, ip = .v6 gs ∧ ip.display = shortGroups gs := by
  unfold display
  split
  · exact .inl ⟨_, _, _, _, rfl, rfl⟩
  · exact .inr (.inl ⟨_, _, rfl, rfl⟩)
  · exact .inr (.inr ⟨_, rfl, rfl⟩)

theorem colon_notMem_dotted (a b c d : Nat) : ':' ∉ (dotted a b c d).toList := by
  intro h
  obtain h | ⟨n, hn, h⟩ := isDottedChar_dotted h
  · exact absurd h (by decide)
  · exact (isGroupChar_iff n (by omega)).1 h.symm

theorem dot_mem_dotted (a b c d : Nat) : '.' ∈ (dotted a b c d).toList := by
  simp [dotted]

theorem dot_notMem_shortGroups (gs : List Nat) : '.' ∉ (shortGroups gs).toList := by
  intro h
  obtain h | ⟨d, hd, h⟩ := isGroupChar_shortGroups h
  · exact absurd h (by decide)
  · exact (isGroupChar_iff d hd).2.1 h.symm

/-- No two addresses are shown alike: the points and colons tell how an address is shown, and the
pieces between them tell its numbers. -/
theorem IpAddress.display_inj {ip ip' : IpAddress} (h : ip.IsFull) (h' : ip'.IsFull)
    (heq : ip.display = ip'.display) : ip = ip' := by
  have hcolon := congrArg (fun s : String => ':' ∈ s.toList) heq
  have hdot := congrArg (fun s : String => '.' ∈ s.toList) heq
  obtain ⟨a, b, c, d, rfl, hs⟩ | ⟨x, y, rfl, hs⟩ | ⟨gs, rfl, hs⟩ := ip.display_cases <;>
    obtain ⟨a', b', c', d', rfl, hs'⟩ | ⟨x', y', rfl, hs'⟩ | ⟨gs', rfl, hs'⟩ := ip'.display_cases <;>
    rw [hs, hs'] at heq hcolon hdot
  · obtain ⟨rfl, rfl, rfl, rfl⟩ := dotted_inj heq
    rfl
  · simp [colon_notMem_dotted] at hcolon
  · simp [dot_mem_dotted, dot_notMem_shortGroups] at hdot
  · simp [colon_notMem_dotted] at hcolon
  · obtain ⟨hx, hx', hy, hy'⟩ := dotted_inj (String.append_right_inj _ |>.mp heq)
    obtain rfl : x = x' := by omega
    obtain rfl : y = y' := by omega
    rfl
  · simp [dot_mem_dotted, dot_notMem_shortGroups] at hdot
  · simp [dot_mem_dotted, dot_notMem_shortGroups] at hdot
  · simp [dot_mem_dotted, dot_notMem_shortGroups] at hdot
  · rw [shortGroups_inj h h' heq]

theorem IpAddress.display_chars {ip : IpAddress} (h : c ∈ ip.display.toList) :
    IsGroupChar c ∨ IsDottedChar c := by
  obtain ⟨_, _, _, _, rfl, hs⟩ | ⟨x, y, rfl, hs⟩ | ⟨gs, rfl, hs⟩ := ip.display_cases <;> rw [hs] at h
  · exact .inr (isDottedChar_dotted h)
  · rw [String.toList_append, List.mem_append] at h
    obtain h | h := h
    · have hmark : c = ':' ∨ c = 'f' ∨ c = ':' := by simpa using h
      obtain hc | hf | hc := hmark
      · exact .inl (.inl hc)
      · exact .inl (.inr ⟨15, by decide, hf⟩)
      · exact .inl (.inl hc)
    · exact .inr (isDottedChar_dotted h)
  · exact .inl (isGroupChar_shortGroups h)

-- ---------------------------------------------------------------------------
-- Addresses that are read
-- ---------------------------------------------------------------------------

theorem readGroups_length (first : Bool) (room : Nat) (cs : List Char) :
    (readGroups first room cs).1.1.length ≤ room := by
  induction room generalizing first cs with
  | zero => exact Nat.le_refl 0
  | succ room ih =>
    rw [readGroups]
    split
    · -- an IPv4 address is two groups, and is read where there is room for two
      rename_i h
      have hroom : room ≠ 0 := by
        intro h0
        rw [if_pos h0] at h
        cases h
      simp only [List.length_cons, List.length_nil]
      omega
    · split
      · exact Nat.zero_le _
      · exact Nat.succ_le_succ (ih ..)

theorem readV6?_length (h : readV6? cs = some (gs, rest)) : gs.length = 8 := by
  unfold readV6? at h
  have hhead := readGroups_length true 8 cs
  generalize readGroups true 8 cs = front at h hhead
  obtain ⟨⟨head, headV4⟩, back⟩ := front
  dsimp only at h hhead
  split at h
  · rename_i h8
    cases h
    exact h8
  · split at h
    · cases h
    · rename_i h8 _
      obtain ⟨back, -, h⟩ := Option.bind_eq_some_iff.mp h
      obtain ⟨back', -, h⟩ := Option.bind_eq_some_iff.mp h
      have htail := readGroups_length true (7 - head.length) back'
      generalize readGroups true (7 - head.length) back' = behind at h htail
      obtain ⟨⟨tail, _⟩, _⟩ := behind
      cases h
      simp only [List.length_append, List.length_replicate]
      dsimp only at htail
      omega

theorem readSocketV4?_isFull (h : readSocketV4? cs = some (address, rest)) : address.ip.IsFull := by
  obtain ⟨⟨⟨a, b, c, d⟩, _⟩, -, h⟩ := Option.bind_eq_some_iff.mp h
  obtain ⟨⟨_, _⟩, -, h⟩ := Option.bind_eq_some_iff.mp h
  cases h
  trivial

theorem readSocketV6?_isFull (h : readSocketV6? cs = some (address, rest)) : address.ip.IsFull := by
  obtain ⟨_, -, h⟩ := Option.bind_eq_some_iff.mp h
  obtain ⟨⟨groups, _⟩, hgroups, h⟩ := Option.bind_eq_some_iff.mp h
  obtain ⟨_, -, h⟩ := Option.bind_eq_some_iff.mp h
  obtain ⟨_, -, h⟩ := Option.bind_eq_some_iff.mp h
  obtain ⟨⟨_, _⟩, -, h⟩ := Option.bind_eq_some_iff.mp h
  cases h
  exact readV6?_length hgroups

theorem SocketAddress.ofString?_isFull (h : SocketAddress.ofString? text = some address) :
    address.ip.IsFull := by
  unfold SocketAddress.ofString? at h
  cases h4 : readSocketV4? text.toList with
  | some read =>
    obtain ⟨address', rest⟩ := read
    rw [h4, Option.orElse_some] at h
    cases rest with
    | nil =>
      cases h
      exact readSocketV4?_isFull h4
    | cons => cases h
  | none =>
    rw [h4, Option.orElse_none] at h
    split at h
    · rename_i h6
      cases h
      exact readSocketV6?_isFull h6
    · cases h

end ConditionalGateway.Net
