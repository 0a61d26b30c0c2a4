import ConditionalGateway.Text.Utf8
import Mathlib

/-!
# How many bytes a text takes

The bytes of a text are those of its parts, and of the string that it spells.
-/

namespace ConditionalGateway.Text

@[simp] theorem byteLength_nil : byteLength [] = 0 := rfl

theorem foldl_utf8Size (n : Nat) (cs : List Char) :
    cs.foldl (fun n c => n + c.utf8Size) n = n + byteLength cs := by
  induction cs generalizing n with
  | nil => rfl
  | cons c cs ih =>
    have hc := ih c.utf8Size
    simp only [byteLength, List.foldl_cons, Nat.zero_add] at hc ih ⊢
    rw [ih, hc, Nat.add_assoc]

@[simp] theorem byteLength_cons (c : Char) (cs : List Char) :
    byteLength (c :: cs) = c.utf8Size + byteLength cs := by
  rw [byteLength, List.foldl_cons, foldl_utf8Size, Nat.zero_add]

@[simp] theorem byteLength_append (cs cs' : List Char) :
    byteLength (cs ++ cs') = byteLength cs + byteLength cs' := by
  induction cs with
  | nil => simp
  | cons c cs ih => simp [ih, Nat.add_assoc]

theorem byteLength_map {f : Char → Char} {cs : List Char}
    (h : ∀ c ∈ cs, (f c).utf8Size = c.utf8Size) : byteLength (cs.map f) = byteLength cs := by
  induction cs with
  | nil => rfl
  | cons c cs ih =>
    obtain ⟨hc, hcs⟩ := List.forall_mem_cons.mp h
    rw [List.map_cons, byteLength_cons, byteLength_cons, hc, ih hcs]

theorem byteLength_toList (s : String) : byteLength s.toList = s.utf8ByteSize := by
  have h (cs : List Char) : byteLength cs = String.utf8Len cs := by
    induction cs with
    | nil => rfl
    | cons c cs ih => rw [byteLength_cons, String.utf8Len_cons, ih, Nat.add_comm]
  rw [h, ← String.utf8ByteSize_ofList, String.ofList_toList]

end ConditionalGateway.Text
