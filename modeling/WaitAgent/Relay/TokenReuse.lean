import WaitAgent.Mux.Frame
import WaitAgent.Relay.Enrollment
import WaitAgent.Verified.Run

/-!
# Tokens over restarts

Tokens live in memory and in a file.  An invite mints a token, reads off the whole store and
writes it out; an enrollment takes a token for one use out of memory, and leaves the file alone.
A restart begins with what the file holds.  So a token comes back with a restart if the file was
last written before the token was used, and the rule is what a restart must not find there.

Different tokens have different keys: a mint that would break this does not happen.
-/

namespace WaitAgent.Relay

open Verified Mux

/-! ## Enrollment sessions -/

section

variable (sha256 : List UInt8 → String)

/-- The answer of a session, none if the whitelist could not be written. -/
def handleEnrollmentFrame (frame : Frame) (tokens : TokenStore) (relayFingerprint : String)
    (nowUnix : Nat) (whitelisted : Bool) : TokenStore × Option Frame :=
  match frame with
  | .enroll token =>
      let (tokens, outcome) := tokens.redeem sha256 token nowUnix
      (tokens,
        match outcome with
        | .enrollOk _ => if whitelisted then some (.enrollResponse relayFingerprint) else none
        | .invalid =>
            some (.error 0 RelayErrorCode.tokenInvalid.wireValue
              "enrollment token is unknown or already used")
        | .expired =>
            some (.error 0 RelayErrorCode.tokenExpired.wireValue "enrollment token has expired"))
  | _ =>
      (tokens, some (.error 0 RelayErrorCode.tokenInvalid.wireValue "first frame must be Enroll"))

/-- The key of the token that a session redeems, if it does. -/
def redeemedKey (frame : Frame) (tokens : TokenStore) (nowUnix : Nat) : Option String :=
  match frame with
  | .enroll token =>
      match (tokens.redeem sha256 token nowUnix).2 with
      | .enrollOk _ => some (tokenKey sha256 token)
      | .invalid | .expired => none
  | _ => none

end

/-! ## The relay and its file -/

structure TokenKeeper where
  tokens : TokenStore := ∅
  /-- The file, if there is one. -/
  file : Option (List TokenRecord) := none
  /-- The invites that have minted and are about to persist. -/
  minting : Nat := 0
  /-- What they have read off, and are about to write. -/
  saving : List (List TokenRecord) := []
  /-- Every token so far, and whether it is for one use. -/
  minted : List (String × Bool) := []
  /-- The key of every token that was redeemed, once for each time. -/
  enrolled : List String := []

inductive KeeperLabel where
  | mint (token : String) (ttlSecs : Option Nat) (deploy : Bool) (nowUnix : Nat)
  /-- The first half of `persist`, under the lock. -/
  | collect (nowUnix : Nat)
  /-- The second half; whether the file could be written. -/
  | write (i : Nat) (succeeds : Bool)
  | enroll (frame : Frame) (nowUnix : Nat) (whitelisted : Bool)
  /-- The relay starts again; whether the file could be read. -/
  | restart (nowUnix : Nat) (readable : Bool)

namespace TokenKeeper

section

variable (sha256 : List UInt8 → String) (ttls : TokenTtlConfig) (relayFingerprint : String)

/-- The key of a new token is a new one. -/
def fresh (s : TokenKeeper) (token : String) : Bool :=
  s.minted.all fun old => tokenKey sha256 old.1 ≠ tokenKey sha256 token

def mint (s : TokenKeeper) (token : String) (ttlSecs : Option Nat) (deploy : Bool)
    (nowUnix : Nat) : TokenKeeper :=
  let terms := inviteTerms ttls ttlSecs deploy
  { s with
    tokens := s.tokens.mint sha256 token (nowUnix + terms.1) terms.2
    minting := s.minting + 1
    minted := (token, terms.2) :: s.minted }

def write (s : TokenKeeper) (i : Nat) (succeeds : Bool) : TokenKeeper :=
  match s.saving[i]? with
  | some records =>
      { s with
        file := if succeeds then some records else s.file
        saving := s.saving.eraseIdx i }
  | none => s

/-- A file that is missing or cannot be read is as good as an empty one. -/
def restart (s : TokenKeeper) (nowUnix : Nat) (readable : Bool) : TokenKeeper :=
  { s with
    tokens := if readable then .load sha256 (s.file.getD []) nowUnix else ∅
    minting := 0
    saving := [] }

def step (s : TokenKeeper) : KeeperLabel → TokenKeeper
  | .mint token ttlSecs deploy nowUnix =>
      if s.fresh sha256 token then s.mint sha256 ttls token ttlSecs deploy nowUnix else s
  | .collect nowUnix =>
      if s.minting = 0 then s
      else
        { s with minting := s.minting - 1, saving := s.tokens.unexpired nowUnix :: s.saving }
  | .write i succeeds => s.write i succeeds
  | .enroll frame nowUnix whitelisted =>
      { s with
        tokens :=
          (handleEnrollmentFrame sha256 frame s.tokens relayFingerprint nowUnix whitelisted).1
        enrolled := (redeemedKey sha256 frame s.tokens nowUnix).toList ++ s.enrolled }
  | .restart nowUnix readable => s.restart sha256 nowUnix readable

/-- What a restart finds in the file of the tokens for one use is still in memory. -/
def allowed (s : TokenKeeper) : KeeperLabel → Bool
  | .restart nowUnix true =>
      (s.file.getD []).all fun record =>
        !(decide (nowUnix < record.expiresAtUnix) && record.oneTime) ||
          decide (tokenKey sha256 record.token ∈ s.tokens)
  | _ => true

/-- No token for one use has been redeemed twice. -/
def OnceEach (s : TokenKeeper) : Prop :=
  ∀ token, (token, true) ∈ s.minted → s.enrolled.count (tokenKey sha256 token) ≤ 1

end

/-! ## What is kept -/

section

variable {sha256 : List UInt8 → String} {ttls : TokenTtlConfig} {relayFingerprint : String}
  {s : TokenKeeper}

/-- A record is one of a token that was minted so. -/
def Minted (s : TokenKeeper) (record : TokenRecord) : Prop :=
  (record.token, record.oneTime) ∈ s.minted

variable (sha256) in
/-- A token for one use is in memory or has been redeemed once, and not both; every record,
wherever it is, was minted. -/
structure Inv (s : TokenKeeper) : Prop where
  stored : ∀ key record, s.tokens.lookup key = some record →
    key = tokenKey sha256 record.token ∧ s.Minted record
  filed : ∀ records ∈ s.file.toList ++ s.saving, ∀ record ∈ records, s.Minted record
  distinct : (s.minted.map fun token => tokenKey sha256 token.1).Nodup
  known : ∀ key ∈ s.enrolled, ∃ token ∈ s.minted, tokenKey sha256 token.1 = key
  once : ∀ token, (token, true) ∈ s.minted →
    s.enrolled.count (tokenKey sha256 token) +
      (if tokenKey sha256 token ∈ s.tokens then 1 else 0) ≤ 1

theorem inv_start : Inv sha256 {} where
  stored := fun _ _ h => by simp at h
  filed := fun _ h => by simp at h
  distinct := List.nodup_nil
  known := fun _ h => by simp at h
  once := fun _ h => by simp at h

theorem Inv.onceEach (h : s.Inv sha256) : s.OnceEach sha256 := fun token hMem =>
  (Nat.le_add_right _ _).trans (h.once token hMem)

/-- Two tokens with one key are the same, and of the same kind. -/
theorem Inv.same (h : s.Inv sha256) {a b : String × Bool} (ha : a ∈ s.minted) (hb : b ∈ s.minted)
    (hKey : tokenKey sha256 a.1 = tokenKey sha256 b.1) : a = b :=
  List.inj_on_of_nodup_map h.distinct ha hb hKey

/-- Fewer tokens in memory. -/
theorem Inv.shrink (h : s.Inv sha256) {tokens : TokenStore}
    (hLess : ∀ key record, tokens.lookup key = some record → s.tokens.lookup key = some record) :
    Inv sha256 { s with tokens } where
  stored := fun key record hRecord => h.stored key record (hLess key record hRecord)
  filed := h.filed
  distinct := h.distinct
  known := h.known
  once := by
    intro token hMem
    have hOnce := h.once token hMem
    by_cases hKept : tokenKey sha256 token ∈ tokens
    · rw [if_pos (AList.mem_of_lookup hLess hKept)] at hOnce
      simp only [hKept, if_true]
      exact hOnce
    · simp only [hKept, if_false]
      exact (Nat.le_add_right _ _).trans hOnce

theorem Inv.mint (h : s.Inv sha256) {token : String} (hFresh : s.fresh sha256 token = true)
    (ttlSecs : Option Nat) (deploy : Bool) (nowUnix : Nat) :
    (s.mint sha256 ttls token ttlSecs deploy nowUnix).Inv sha256 := by
  have hNew : ∀ old ∈ s.minted, tokenKey sha256 old.1 ≠ tokenKey sha256 token := by
    simpa [fresh] using hFresh
  simp only [TokenKeeper.mint, TokenStore.mint]
  generalize inviteTerms ttls ttlSecs deploy = terms
  refine ⟨fun key record hRecord => ?_, fun records hRecords record hRecord => ?_, ?_,
    fun key hKey => ?_, fun old hOld => ?_⟩
  · rw [AList.lookup_insert_eq_ite] at hRecord
    split_ifs at hRecord with hKey
    · cases hRecord
      exact ⟨hKey, List.mem_cons_self⟩
    · have hStored := h.stored key record hRecord
      exact ⟨hStored.1, List.mem_cons_of_mem _ hStored.2⟩
  · exact List.mem_cons_of_mem _ (h.filed records hRecords record hRecord)
  · refine List.nodup_cons.mpr ⟨fun hMem => ?_, h.distinct⟩
    obtain ⟨old, hOld, hKey⟩ := List.mem_map.mp hMem
    exact hNew old hOld hKey
  · obtain ⟨old, hOld, hEq⟩ := h.known key hKey
    exact ⟨old, List.mem_cons_of_mem _ hOld, hEq⟩
  · rcases List.mem_cons.mp hOld with hSame | hBefore
    · -- nobody has redeemed a token before it is minted
      have hNone : s.enrolled.count (tokenKey sha256 old) = 0 := by
        rw [List.count_eq_zero]
        intro hMem
        obtain ⟨other, hOther, hKey⟩ := h.known _ hMem
        rw [(Prod.mk.inj hSame).1] at hKey
        exact hNew other hOther hKey
      rw [hNone]
      split_ifs <;> simp
    · have hOnce := h.once old hBefore
      simp only [AList.mem_insert, hNew (old, true) hBefore, false_or]
      exact hOnce

theorem Inv.write (h : s.Inv sha256) (i : Nat) (succeeds : Bool) :
    (s.write i succeeds).Inv sha256 := by
  unfold TokenKeeper.write
  split
  · next records hSaved =>
    refine ⟨h.stored, fun rs hMem => h.filed rs ?_, h.distinct, h.known, h.once⟩
    rcases List.mem_append.mp hMem with hFile | hSaving
    · cases succeeds with
      | true =>
        obtain rfl : rs = records := by simpa using hFile
        exact List.mem_append_right _ (List.mem_of_getElem? hSaved)
      | false => exact List.mem_append_left _ hFile
    · exact List.mem_append_right _ (List.mem_of_mem_eraseIdx hSaving)
  · exact h

/-- A session that redeems a token for one use takes it out of memory. -/
theorem Inv.redeem (h : s.Inv sha256) (token : String) (nowUnix : Nat) :
    Inv sha256 { s with
      tokens := (s.tokens.redeem sha256 token nowUnix).1
      enrolled := (redeemedKey sha256 (.enroll token) s.tokens nowUnix).toList ++ s.enrolled } := by
  have hLess : Inv sha256 { s with tokens := (s.tokens.redeem sha256 token nowUnix).1 } :=
    h.shrink fun key record => lookup_redeem
  cases hOutcome : (s.tokens.redeem sha256 token nowUnix).2 with
  | invalid => simpa [redeemedKey, hOutcome] using hLess
  | expired => simpa [redeemedKey, hOutcome] using hLess
  | enrollOk oneTime =>
    obtain ⟨record, hRecord, hKind, hErased⟩ := of_redeem hOutcome
    obtain ⟨hKey, hMinted⟩ := h.stored _ record hRecord
    simp only [redeemedKey, hOutcome, Option.toList_some, List.singleton_append]
    refine ⟨hLess.stored, hLess.filed, hLess.distinct, fun key hMem => ?_, fun old hOld => ?_⟩
    · rcases List.mem_cons.mp hMem with rfl | hBefore
      · exact ⟨_, hMinted, hKey.symm⟩
      · exact h.known key hBefore
    · by_cases hSame : tokenKey sha256 token = tokenKey sha256 old
      · have hOneTime : oneTime = true := by
          have hEq := h.same hMinted hOld (hKey.symm.trans hSame)
          rw [← hKind]
          exact (Prod.mk.inj hEq).2
        have hOnce := h.once old hOld
        rw [if_pos (AList.mem_iff_lookup.mpr ⟨record, hSame ▸ hRecord⟩)] at hOnce
        simp only [hErased hOneTime, hSame, List.count_cons_self, AList.mem_erase, ne_eq,
          not_true, false_and, if_false]
        omega
      · rw [List.count_cons_of_ne hSame]
        exact hLess.once old hOld

theorem Inv.enroll (h : s.Inv sha256) (frame : Frame) (nowUnix : Nat) (whitelisted : Bool) :
    (s.step sha256 ttls relayFingerprint (.enroll frame nowUnix whitelisted)).Inv sha256 := by
  cases frame with
  | enroll token => exact h.redeem token nowUnix
  | _ => exact h

theorem Inv.restart (h : s.Inv sha256) {nowUnix : Nat} {readable : Bool}
    (hAllowed : s.allowed sha256 (.restart nowUnix readable) = true) :
    (s.restart sha256 nowUnix readable).Inv sha256 := by
  cases readable with
  | false =>
    have hNone : Inv sha256 { s with tokens := ∅ } :=
      h.shrink fun key record hRecord => by simp at hRecord
    exact ⟨hNone.stored, fun records hMem => h.filed records
      (List.mem_append_left _ (by simpa [TokenKeeper.restart] using hMem)),
      h.distinct, h.known, hNone.once⟩
  | true =>
    have hFile : ∀ record ∈ s.file.getD [], s.Minted record := by
      intro record hMem
      cases hFile : s.file with
      | none => simp [hFile] at hMem
      | some records =>
        rw [hFile] at hMem
        exact h.filed records (by simp [hFile]) record hMem
    have hStored : ∀ key record,
        (TokenStore.load sha256 (s.file.getD []) nowUnix).lookup key = some record →
        key = tokenKey sha256 record.token ∧ s.Minted record := by
      intro key record hRecord
      obtain ⟨hMem, -, hKey⟩ := lookup_load hRecord
      exact ⟨hKey, hFile record hMem⟩
    refine ⟨hStored, fun records hMem => h.filed records
      (List.mem_append_left _ (by simpa [TokenKeeper.restart] using hMem)),
      h.distinct, h.known, fun token hToken => ?_⟩
    have hOnce := h.once token hToken
    simp only [TokenKeeper.restart, if_true]
    split_ifs with hBack
    · -- the file has the token, so memory has it too
      obtain ⟨record, hRecord⟩ := AList.mem_iff_lookup.mp hBack
      obtain ⟨hMem, hAlive, hKey⟩ := lookup_load hRecord
      have hSame := h.same hToken (hFile record hMem) hKey
      have hKept := List.all_eq_true.mp hAllowed record hMem
      have hOneTime : record.oneTime = true := (Prod.mk.inj hSame).2.symm
      have hIn : tokenKey sha256 record.token ∈ s.tokens := by
        simpa [hAlive, hOneTime] using hKept
      rw [hKey, if_pos hIn] at hOnce
      rw [hKey]
      exact hOnce
    · exact (Nat.le_add_right _ _).trans hOnce

theorem Inv.step (h : s.Inv sha256) {l : KeeperLabel} (hAllowed : s.allowed sha256 l = true) :
    (s.step sha256 ttls relayFingerprint l).Inv sha256 := by
  cases l with
  | mint token ttlSecs deploy nowUnix =>
    simp only [TokenKeeper.step]
    split_ifs with hFresh
    · exact h.mint hFresh ttlSecs deploy nowUnix
    · exact h
  | collect nowUnix =>
    simp only [TokenKeeper.step]
    split_ifs
    · exact h
    · refine ⟨h.stored, fun records hMem record hRecord => ?_, h.distinct, h.known, h.once⟩
      simp only [List.mem_append, List.mem_cons] at hMem
      rcases hMem with hFile | rfl | hSaving
      · exact h.filed records (List.mem_append_left _ hFile) record hRecord
      · obtain ⟨key, hStored⟩ := mem_of_mem_unexpired hRecord
        exact (h.stored key record hStored).2
      · exact h.filed records (List.mem_append_right _ hSaving) record hRecord
  | write i succeeds => exact h.write i succeeds
  | enroll frame nowUnix whitelisted => exact h.enroll frame nowUnix whitelisted
  | restart nowUnix readable => exact h.restart hAllowed

end

/-- In a run in which every restart finds in the file only tokens for one use that are still in
memory, no such token is redeemed twice. -/
theorem one_time_tokens_enroll_once (sha256 : List UInt8 → String) (ttls : TokenTtlConfig)
    (relayFingerprint : String) (labels : List KeeperLabel)
    (hEach : EachStep (step sha256 ttls relayFingerprint)
      (fun s l => s.allowed sha256 l = true) {} labels) :
    Always (step sha256 ttls relayFingerprint) (OnceEach sha256) {} labels :=
  Always.of_eachStep (I := Inv sha256) (fun _ _ h hAllowed => h.step hAllowed)
    (fun _ h => h.onceEach) labels {} hEach inv_start

/-- A digest for the runs below. -/
def plainDigest (bytes : List UInt8) : String :=
  String.ofList (bytes.map fun byte => Char.ofNat byte.toNat)

/-- An invite, up to the file. -/
def invited : List KeeperLabel :=
  [.mint "t" none false 0, .collect 0, .write 0 true]

/-- The relay starts again before the token is used, and the token is tried twice after it. -/
def restarted : List KeeperLabel :=
  invited ++ [.restart 1 true, .enroll (.enroll "t") 2 true, .enroll (.enroll "t") 3 true]

theorem token_used_after_restart :
    (run (step plainDigest {} "relay") {} restarted).enrolled = ["t"] ∧
      Always (step plainDigest {} "relay") (OnceEach plainDigest) {} restarted :=
  ⟨by decide +kernel, one_time_tokens_enroll_once plainDigest {} "relay" restarted
    (by decide +kernel)⟩

/-- The token is used, the relay starts again, and the token is used once more. -/
theorem token_used_twice :
    (run (step plainDigest {} "relay") {} (invited ++ [.enroll (.enroll "t") 1 true,
        .restart 2 true, .enroll (.enroll "t") 3 true])).enrolled = ["t", "t"] ∧
      ¬ OnceEach plainDigest (run (step plainDigest {} "relay") {} (invited ++
        [.enroll (.enroll "t") 1 true, .restart 2 true, .enroll (.enroll "t") 3 true])) := by
  refine ⟨by decide +kernel, fun hOnce => ?_⟩
  exact absurd (hOnce "t" (by decide +kernel)) (by decide +kernel)

end TokenKeeper

end WaitAgent.Relay
