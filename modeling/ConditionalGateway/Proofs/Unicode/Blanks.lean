import ConditionalGateway.Unicode.Classes
import Mathlib

/-!
# Blanks stand in no word

No blank is a letter or a number (`isAlphanumeric_blank`). Beyond ASCII that is
a matter of the tables: a set has no code point but those of its ranges, the
ranges of a written table can be told from its characters (`written`), and none
of those of letters and numbers meets a range of blanks.
-/

namespace ConditionalGateway.Unicode

namespace CharSet

-- ---------------------------------------------------------------------------
-- Ranges
-- ---------------------------------------------------------------------------

def Covers (rs : List (Nat × Nat)) (n : Nat) : Prop := ∃ r ∈ rs, r.1 ≤ n ∧ n ≤ r.2

@[simp] theorem covers_nil : ¬ Covers [] n := by
  simp [Covers]

@[simp] theorem covers_cons : Covers (r :: rs) n ↔ (r.1 ≤ n ∧ n ≤ r.2) ∨ Covers rs n := by
  simp [Covers]

theorem Covers.mono (h : Covers rs n) (hs : rs ⊆ rs') : Covers rs' n := by
  obtain ⟨r, hr, hn⟩ := h
  exact ⟨r, hs hr, hn⟩

theorem search_covers {ranges : Array (Nat × Nat)} (h : search ranges n lo hi = true) :
    Covers ranges.toList n := by
  fun_induction search ranges n lo hi with
  | case1 | case5 => cases h
  | case2 _ _ _ _ _ _ _ _ ih => exact ih h
  | case3 _ _ _ _ _ _ _ _ _ ih => exact ih h
  | case4 lo hi hlt mid a b hget ha hb =>
    refine ⟨(a, b), Array.mem_toList_iff.mpr (Array.mem_of_getElem? hget), ?_, ?_⟩
    · exact not_lt.mp ha
    · exact not_lt.mp hb

theorem contains_covers {s : CharSet} (h : s.contains n = true) : Covers s.ranges.toList n :=
  search_covers h

theorem covers_joinFrom (h : Covers (joinFrom cur rs) n) : Covers (cur :: rs) n := by
  induction rs generalizing cur with
  | nil => exact h
  | cons r rs ih =>
    unfold joinFrom at h
    split at h
    · have h := ih h
      simp only [covers_cons] at h ⊢
      grind
    · simp only [covers_cons] at h ⊢
      refine h.imp id fun h => ?_
      simpa using ih h

theorem covers_ofRanges (h : Covers (ofRanges rs).ranges.toList n) : Covers rs n := by
  have hs : Covers ((rs.filter fun r => r.1 ≤ r.2).mergeSort fun a b => a.1 ≤ b.1) n := by
    unfold ofRanges joinSorted at h
    split at h
    · simp at h
    · rename_i hl
      rw [hl]
      exact covers_joinFrom h
  exact hs.mono fun r hr => (List.mem_filter.mp (List.mem_mergeSort.mp hr)).1

-- ---------------------------------------------------------------------------
-- Written tables
-- ---------------------------------------------------------------------------

/-- The range that ends in a written table, from what was read of it. -/
def DecodeState.entry (next number : Nat) (start : Option Nat) : Nat × Nat :=
  match start with
  | none => (next + number, next + number)
  | some a => (a, a + number)

/-- The ranges of a written table from some place in it on. -/
def written (next number : Nat) (start : Option Nat) : List Char → List (Nat × Nat)
  | [] => [DecodeState.entry next number start]
  | c :: cs =>
    if c = ' ' || c = '\n' then
      let r := DecodeState.entry next number start
      r :: written (r.2 + 1) 0 none cs
    else if c = '-' then written next 0 (some (next + number)) cs
    else written next (number * 16 + hexValue c) start cs

theorem DecodeState.close_eq (s : DecodeState) : s.close =
    { next := (entry s.next s.number s.start).2 + 1,
      ranges := s.ranges.push (entry s.next s.number s.start) } := by
  obtain ⟨next, number, start, ranges⟩ := s
  cases start <;> rfl

theorem DecodeState.foldl_step (s : DecodeState) (cs : List Char) :
    (cs.foldl step s).close.ranges.toList =
      s.ranges.toList ++ written s.next s.number s.start cs := by
  induction cs generalizing s with
  | nil => simp [close_eq, written]
  | cons c cs ih =>
    rw [List.foldl_cons, ih, written, step]
    split
    · simp [close_eq]
    · split <;> rfl

theorem decode_covers {text : String} (h : Covers (decode text).ranges.toList n) :
    Covers (written 0 0 none text.toList) n := by
  unfold decode at h
  split at h
  · simp [empty] at h
  · rwa [String.foldl_eq_foldl_toList, DecodeState.foldl_step] at h

end CharSet

open CharSet

theorem tableSet_covers (h : Covers (tableSet table name).ranges.toList n) :
    Covers (written 0 0 none ((table.lookup name).getD "").toList) n := by
  unfold tableSet at h
  split at h
  · rename_i text hl
    rw [hl]
    exact decode_covers h
  · simp [empty] at h

-- ---------------------------------------------------------------------------
-- Blanks
-- ---------------------------------------------------------------------------

def blankRanges : List (Nat × Nat) :=
  [(0x85, 0x85), (0xA0, 0xA0), (0x1680, 0x1680), (0x2000, 0x200A), (0x2028, 0x2029),
    (0x202F, 0x202F), (0x205F, 0x205F), (0x3000, 0x3000)]

theorem isBlank_covers (h : isBlank c = true) (hc : ¬ c.toNat < 0x80) :
    Covers blankRanges c.toNat := by
  simp only [isBlank, isAsciiBlank, Bool.or_eq_true, Bool.and_eq_true, decide_eq_true_eq,
    beq_iff_eq] at h
  simp only [blankRanges, covers_cons, covers_nil, or_false]
  omega

def apart (rs ts : List (Nat × Nat)) : Bool :=
  rs.all fun r => ts.all fun t => r.2 < t.1 || t.2 < r.1

theorem not_covers_of_apart (h : apart rs ts = true) (hr : Covers rs n) : ¬ Covers ts n := by
  rintro ⟨t, ht, hn⟩
  obtain ⟨r, hr, hn'⟩ := hr
  have hrt := List.all_eq_true.mp (List.all_eq_true.mp h r hr) t ht
  simp only [Bool.or_eq_true, decide_eq_true_eq] at hrt
  omega

theorem apart_written {text : String} (ht : text = String.ofList cs)
    (h : apart (written 0 0 none cs) ts = true) :
    apart (written 0 0 none text.toList) ts = true := by
  rw [ht, String.toList_ofList, h]

set_option maxRecDepth 20000 in
theorem alphabetic_apart :
    apart (written 0 0 none ((Data.properties.lookup "alphabetic").getD "").toList) blankRanges =
      true :=
  apart_written rfl (by decide +kernel)

set_option maxRecDepth 20000 in
theorem numeric_apart : ∀ name ∈ ["Nd", "Nl", "No"],
    apart (written 0 0 none ((Data.categories.lookup name).getD "").toList) blankRanges = true := by
  simp only [List.forall_mem_cons]
  exact ⟨apart_written rfl (by decide +kernel), apart_written rfl (by decide +kernel),
    apart_written rfl (by decide +kernel), nofun⟩

theorem alphabeticSet_blank (hn : Covers blankRanges n) : alphabeticSet.contains n = false := by
  by_contra h
  rw [Bool.not_eq_false] at h
  exact not_covers_of_apart alphabetic_apart (tableSet_covers (contains_covers h)) hn

theorem numericSet_blank (hn : Covers blankRanges n) : numericSet.contains n = false := by
  by_contra h
  rw [Bool.not_eq_false] at h
  obtain ⟨r, hr, hr'⟩ := covers_ofRanges (contains_covers h)
  obtain ⟨name, hname, hr⟩ := List.mem_flatMap.mp hr
  exact not_covers_of_apart (numeric_apart name hname) (tableSet_covers ⟨r, hr, hr'⟩) hn

theorem isAlphabetic_blank (h : isBlank c = true) : isAlphabetic c = false := by
  unfold isAlphabetic
  split
  · simp only [isBlank, isAsciiBlank, isAsciiLetter, Bool.or_eq_true, Bool.and_eq_true,
      Bool.or_eq_false_iff, Bool.and_eq_false_iff, decide_eq_true_eq, decide_eq_false_iff_not,
      beq_iff_eq] at h ⊢
    omega
  · exact alphabeticSet_blank (isBlank_covers h ‹_›)

theorem isNumeric_blank (h : isBlank c = true) : isNumeric c = false := by
  unfold isNumeric
  split
  · simp only [isBlank, isAsciiBlank, isAsciiDigit, Bool.or_eq_true, Bool.and_eq_true,
      Bool.and_eq_false_iff, decide_eq_true_eq, decide_eq_false_iff_not, beq_iff_eq] at h ⊢
    omega
  · exact numericSet_blank (isBlank_covers h ‹_›)

theorem isAlphanumeric_blank (h : isBlank c = true) : isAlphanumeric c = false := by
  rw [isAlphanumeric, isAlphabetic_blank h, isNumeric_blank h]
  rfl

end ConditionalGateway.Unicode
