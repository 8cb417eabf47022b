import WaitAgent.Verified.HashMap
import WaitAgent.Verified.Utf8

/-!
# Enrollment tokens of a relay

The store of tokens, the file it is kept in over a restart, and the terms on which an invite
hands one out.  Keys are digests of the tokens.
-/

namespace WaitAgent.Relay

open Verified

/-! ## The store -/

structure TokenRecord where
  token : String
  expiresAtUnix : Nat
  oneTime : Bool
  deriving DecidableEq

abbrev TokenStore := HashMap String TokenRecord

inductive RedeemOutcome where
  | enrollOk (oneTime : Bool)
  | invalid
  | expired
  deriving DecidableEq

section

variable (sha256 : List UInt8 → String)

def tokenKey (token : String) : String := sha256 (utf8Bytes token.toList)

namespace TokenStore

variable (tokens : TokenStore)

def mint (token : String) (expiresAtUnix : Nat) (oneTime : Bool) : TokenStore :=
  tokens.insert (tokenKey sha256 token) { token, expiresAtUnix, oneTime }

/-- A token for one use is used up by any attempt, any other only when it is expired. -/
def redeem (token : String) (nowUnix : Nat) : TokenStore × RedeemOutcome :=
  match tokens.lookup (tokenKey sha256 token) with
  | none => (tokens, .invalid)
  | some record =>
      let kept := if record.oneTime then tokens.erase (tokenKey sha256 token) else tokens
      if record.expiresAtUnix ≤ nowUnix then
        (if record.oneTime then kept else kept.erase (tokenKey sha256 token), .expired)
      else (kept, .enrollOk record.oneTime)

/-- What is written to the file. -/
def unexpired (nowUnix : Nat) : List TokenRecord :=
  tokens.values.filter fun record => decide (nowUnix < record.expiresAtUnix)

/-- The store that a file holds; expired entries are left out. -/
def load (records : List TokenRecord) (nowUnix : Nat) : TokenStore :=
  AList.collect
    ((records.filter fun record => decide (nowUnix < record.expiresAtUnix)).map fun record =>
      (tokenKey sha256 record.token, record))

end TokenStore

end

/-! ## Invites -/

structure TokenTtlConfig where
  invite : Nat := 15 * 60
  deploy : Nat := 30 * 24 * 60 * 60

/-- How long a new token is good for, and whether for one use. -/
def inviteTerms (ttls : TokenTtlConfig) (ttlSecs : Option Nat) (deploy : Bool) : Nat × Bool :=
  match deploy, ttlSecs with
  | true, some secs => (secs, false)
  | true, none => (ttls.deploy, false)
  | false, some secs => (secs, true)
  | false, none => (ttls.invite, true)

/-! ## What the store says -/

section

variable {sha256 : List UInt8 → String} {tokens : TokenStore} {token : String} {nowUnix : Nat}

/-- Redeeming adds no token. -/
theorem lookup_redeem {key : String} {record : TokenRecord}
    (h : (tokens.redeem sha256 token nowUnix).1.lookup key = some record) :
    tokens.lookup key = some record := by
  simp only [TokenStore.redeem] at h
  split at h
  · exact h
  · split at h
    · split at h
      · exact (AList.lookup_of_erase h).2
      · exact (AList.lookup_of_erase h).2
    · split at h
      · exact (AList.lookup_of_erase h).2
      · exact h

/-- A token that is redeemed is in the store, and no more if it is for one use. -/
theorem of_redeem {oneTime : Bool}
    (h : (tokens.redeem sha256 token nowUnix).2 = .enrollOk oneTime) :
    ∃ record, tokens.lookup (tokenKey sha256 token) = some record ∧ record.oneTime = oneTime ∧
      (oneTime = true →
        (tokens.redeem sha256 token nowUnix).1 = tokens.erase (tokenKey sha256 token)) := by
  simp only [TokenStore.redeem] at h ⊢
  split at h
  · cases h
  · next record hLookup =>
    split at h
    · cases h
    · next hAlive =>
      obtain rfl := RedeemOutcome.enrollOk.inj h
      refine ⟨record, hLookup, rfl, fun hOneTime => ?_⟩
      rw [if_neg hAlive, if_pos hOneTime]

theorem mem_of_mem_unexpired {record : TokenRecord} (h : record ∈ tokens.unexpired nowUnix) :
    ∃ key, tokens.lookup key = some record :=
  AList.mem_values_iff.mp (List.mem_of_mem_filter h)

/-- A store that is loaded has only records of its file, under their keys. -/
theorem lookup_load {records : List TokenRecord} {key : String} {record : TokenRecord}
    (h : (TokenStore.load sha256 records nowUnix).lookup key = some record) :
    record ∈ records ∧ nowUnix < record.expiresAtUnix ∧ key = tokenKey sha256 record.token := by
  obtain ⟨r, hr, hEq⟩ := List.mem_map.mp (AList.mem_of_lookup_collect h)
  obtain ⟨rfl, rfl⟩ := Prod.mk.inj hEq
  obtain ⟨hMem, hAlive⟩ := List.mem_filter.mp hr
  exact ⟨hMem, of_decide_eq_true hAlive, rfl⟩

end

end WaitAgent.Relay
