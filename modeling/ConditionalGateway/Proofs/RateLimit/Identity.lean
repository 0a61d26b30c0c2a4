import ConditionalGateway.Proofs.Net.AddressLaws
import ConditionalGateway.Proofs.RateLimit.LimiterLaws
import Mathlib

/-!
# Who a request is from

A limiter tells clients apart by one text, whatever kind of client they are.
`clientKey_eq_iff` says what that is good for: clients of one kind are told
apart, and so are clients with an address from those without. A header can say
any text, also the one under which a client without the header is known, and
then both share a bucket.
-/

namespace ConditionalGateway.RateLimit

open Http Net

/-- Who a request is from: whom its source header names, or else who has its address. -/
inductive Client where
  | named (value : String)
  | address (ip : IpAddress)
  | unidentified
  deriving DecidableEq

def Limits.client (l : Limits) (r : Request) : Client :=
  match l.headerKey? r, r.peer with
  | some value, _ => .named value
  | none, some peer => .address peer.ip
  | none, none => .unidentified

def Client.key : Client → String
  | .named value => value
  | .address ip => ip.display
  | .unidentified => sharedKey

theorem Limits.clientKey_eq (l : Limits) (r : Request) : l.clientKey r = (l.client r).key := by
  unfold clientKey client
  cases l.headerKey? r with
  | some value => rfl
  | none => cases r.peer <;> rfl

/-- The header of one client says the text under which the other is known without one. -/
def Client.PosesAs : Client → Client → Prop
  | .named value, .address ip => value = ip.display
  | .named value, .unidentified => value = sharedKey
  | _, _ => False

instance : (a b : Client) → Decidable (a.PosesAs b)
  | .named value, .address ip => inferInstanceAs (Decidable (value = ip.display))
  | .named value, .unidentified => inferInstanceAs (Decidable (value = sharedKey))
  | .named _, .named _ => .isFalse id
  | .address _, _ => .isFalse id
  | .unidentified, _ => .isFalse id

def Client.IsFull : Client → Prop
  | .address ip => ip.IsFull
  | _ => True

theorem Limits.client_isFull {r : Request} (h : ∀ peer ∈ r.peer, peer.ip.IsFull) (l : Limits) :
    (l.client r).IsFull := by
  unfold client
  cases l.headerKey? r with
  | some value => trivial
  | none =>
    cases hp : r.peer with
    | some peer => exact h peer hp
    | none => trivial

theorem display_ne_sharedKey (ip : IpAddress) : ip.display ≠ sharedKey := by
  intro h
  have hs : 's' ∈ ip.display.toList := by
    rw [h]
    decide
  have hdigit : ∀ d < 16, 's' ≠ Nat.digitChar d := by decide
  obtain (hs | ⟨d, hd, hs⟩) | hs | ⟨d, hd, hs⟩ := IpAddress.display_chars hs
  · exact absurd hs (by decide)
  · exact hdigit d hd hs
  · exact absurd hs (by decide)
  · exact hdigit d (by omega) hs

theorem Client.key_eq_iff {a b : Client} (ha : a.IsFull) (hb : b.IsFull) :
    a.key = b.key ↔ a = b ∨ a.PosesAs b ∨ b.PosesAs a := by
  cases a with
  | named value =>
    cases b with
    | named value' => simp [key, PosesAs]
    | address ip => simp [key, PosesAs]
    | unidentified => simp [key, PosesAs]
  | address ip =>
    cases b with
    | named value => simp [key, PosesAs, eq_comm]
    | address ip' =>
      simp only [key, PosesAs, Client.address.injEq, or_false]
      exact ⟨IpAddress.display_inj ha hb, congrArg IpAddress.display⟩
    | unidentified => simp [key, PosesAs, display_ne_sharedKey]
  | unidentified =>
    cases b with
    | named value => simp [key, PosesAs, eq_comm]
    | address ip => simp [key, PosesAs, (display_ne_sharedKey ip).symm]
    | unidentified => simp [key, PosesAs]

variable {Q : Type} [Amount Q]

/-- A limiter gives two requests the same key exactly if they are from the same client or one poses
as the client of the other. Only then can the one take from what is stored for the other; all that
is done to it otherwise is to sweep. -/
theorem clientKey_eq_iff (l : Limits) {r s : Request} (hr : ∀ peer ∈ r.peer, peer.ip.IsFull)
    (hs : ∀ peer ∈ s.peer, peer.ip.IsFull) (now : Nat) (state : Limiter Q) :
    (l.clientKey r = l.clientKey s ↔ l.client r = l.client s ∨
      (l.client r).PosesAs (l.client s) ∨ (l.client s).PosesAs (l.client r)) ∧
    ((state.allow l now (l.clientKey r)).2.stored (l.clientKey s) ≠
        (state.sweep l now).stored (l.clientKey s) → l.client r = l.client s ∨
      (l.client r).PosesAs (l.client s) ∨ (l.client s).PosesAs (l.client r)) := by
  have hkey : l.clientKey r = l.clientKey s ↔ l.client r = l.client s ∨
      (l.client r).PosesAs (l.client s) ∨ (l.client s).PosesAs (l.client r) := by
    rw [l.clientKey_eq, l.clientKey_eq]
    exact Client.key_eq_iff (l.client_isFull hr) (l.client_isFull hs)
  refine ⟨hkey, fun hchanged => hkey.mp ?_⟩
  by_contra hne
  refine hchanged ?_
  rw [Limiter.stored_allow, if_neg (Ne.symm hne)]

def namedClients : Limits := ⟨1, 1, some ⟨"x-client"⟩⟩

def posing : Request := { (default : Request) with headers := [(⟨"x-client"⟩, .ofText "10.0.0.1")] }

def direct : Request := { (default : Request) with peer := some ⟨.v4 10 0 0 1, 4000⟩ }

theorem clientKey_eq_posing : (∀ peer ∈ posing.peer, peer.ip.IsFull) ∧
    (∀ peer ∈ direct.peer, peer.ip.IsFull) ∧
    namedClients.clientKey posing = namedClients.clientKey direct := by
  have hposing : ∀ peer ∈ posing.peer, peer.ip.IsFull := nofun
  have hdirect : ∀ peer ∈ direct.peer, peer.ip.IsFull := by
    intro peer hp
    obtain rfl := Option.mem_some.mp hp
    trivial
  have hiff := (clientKey_eq_iff namedClients hposing hdirect 0
    (Limiter.start namedClients 0 : Limiter Float)).1
  exact ⟨hposing, hdirect, hiff.mpr (.inr (.inl (by decide +kernel)))⟩

theorem posing_takes_token :
    namedClients.client posing = .named "10.0.0.1" ∧
      namedClients.client direct = .address (.v4 10 0 0 1) ∧
      namedClients.clientKey posing = namedClients.clientKey direct ∧
      let start : Limiter Float := .start namedClients 0
      let behind := (start.allow namedClients 0 (namedClients.clientKey posing)).2
      (start.allow namedClients 0 (namedClients.clientKey direct)).1 = true ∧
        (behind.allow namedClients 0 (namedClients.clientKey direct)).1 = false := by
  decide +kernel

end ConditionalGateway.RateLimit
