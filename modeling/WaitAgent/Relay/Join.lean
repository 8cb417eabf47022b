import WaitAgent.Mux.Frame
import WaitAgent.Net.ProxyStream
import WaitAgent.Relay.PinFile

/-!
# Joining a relay

A join is tried on the main port and, where the TLS handshake fails there, on the port
of the former enrollment listener; transient failures are tried again, three times in
all.  What the network answers and whether the file can be written is given with each
attempt.  The pin names the port of the attempt that succeeded.
-/

namespace WaitAgent.Relay

open Verified Mux Net

/-! ## Errors -/

def relayEnrollPortOffset : Nat := 1

def joinMaxAttempts : Nat := 3

inductive RelayJoinError where
  | io (message : String)
  | credentials (message : String)
  | tls (message : String)
  | address (error : AddressError)
  | tokenInvalid
  | tokenExpired
  | protocol (message : String)
  | timeout (what : String)
  | toml (message : String)
  | bothPathsFailed (main legacy : RelayJoinError)
  deriving DecidableEq

/-- Worth another attempt. -/
def RelayJoinError.isRetryable : RelayJoinError → Bool
  | bothPathsFailed _ legacy => legacy.isRetryable
  | io _ | timeout _ | tls _ => true
  | _ => false

inductive EnrollAttemptError where
  /-- The dial failed, before TLS began. -/
  | dial (error : RelayJoinError)
  /-- The TLS handshake failed; only this leads to the other port. -/
  | handshake (error : RelayJoinError)
  /-- The relay speaks the protocol, and the session failed. -/
  | protocol (error : RelayJoinError)

def EnrollAttemptError.intoError : EnrollAttemptError → RelayJoinError
  | dial error | handshake error | protocol error => error

/-- An addition of ports left the sixteen bits. -/
inductive PortOverflow where
  | mk
  deriving DecidableEq

/-! ## Attempts -/

structure EnrollAttempt where
  host : String
  port : Nat
  proxy : Option SshProxy
  enrollAlpn : Bool
  token : String

/-- What becomes of the session after the handshake. -/
inductive Session where
  | writeFailed (error : String)
  | responseTimedOut
  | readFailed (error : String)
  /-- The relay answers, and a pin that is to be written then is saved or not. -/
  | answered (response : Frame) (saved : Except String Unit)

/-- What becomes of an attempt. -/
inductive Exchange where
  | dialFailed (error : String)
  | handshakeTimedOut
  | handshakeFailed (error : String)
  | session (session : Session)

/-- One round: the identity is loaded, and each port would answer as it does. -/
structure Round where
  connector : Except RelayJoinError Unit
  main : Exchange
  legacy : Exchange

section

variable (printable : Char → Bool) (toLowercase : String → String)

def hexDigits4 (code : Nat) : String :=
  String.ofList ((Nat.toDigits 16 code).leftpad 4 '0')

/-- The pin that the answer leads to; it is written before anything else happens. -/
def enrolledPin (pinAddress : String) (viaProxy : Bool) (response : Frame) :
    Except RelayJoinError RelayTomlConfig :=
  match response with
  | .enrollResponse fingerprint =>
      .ok
        { address := pinAddress, relayFingerprint := toLowercase fingerprint, useProxy := viaProxy }
  | .error _ code message =>
      match RelayErrorCode.fromWire code with
      | some .tokenInvalid => .error .tokenInvalid
      | some .tokenExpired => .error .tokenExpired
      | _ =>
          .error (.protocol ("relay rejected enrollment with code 0x" ++ hexDigits4 code ++ ": " ++
            message))
  | other => .error (.protocol ("unexpected enrollment response: " ++ other.debug printable))

/-- The session after the handshake; its result is the pin that was saved. -/
def runEnrollSession (pinAddress : String) (viaProxy : Bool) :
    Session → Except RelayJoinError RelayTomlConfig
  | .writeFailed error | .readFailed error => .error (.io error)
  | .responseTimedOut => .error (.timeout "enrollment response")
  | .answered response saved =>
      enrolledPin printable toLowercase pinAddress viaProxy response >>= fun config =>
        match saved with
        | .ok () => .ok config
        | .error error => .error (.toml error)

def enrollSingleAttempt (attempt : EnrollAttempt) (exchange : Exchange) :
    Except EnrollAttemptError RelayTomlConfig :=
  match exchange with
  | .dialFailed error => .error (.dial (.io error))
  | .handshakeTimedOut => .error (.handshake (.timeout "relay enrollment handshake"))
  | .handshakeFailed error => .error (.handshake (.tls error))
  | .session session =>
      (runEnrollSession printable toLowercase (attempt.host ++ ":" ++ toString attempt.port)
        attempt.proxy.isSome session).mapError .protocol

/-- The fallback after a failed handshake. -/
def joinLegacy (host : String) (port : Nat) (token : String) (proxy : Option SshProxy)
    (mainError : RelayJoinError) (legacy : Exchange) :
    Except PortOverflow (Except RelayJoinError RelayTomlConfig) :=
  if port + relayEnrollPortOffset < 2 ^ 16 then
    match enrollSingleAttempt printable toLowercase
        { host, port := port + relayEnrollPortOffset, proxy, enrollAlpn := false, token }
        legacy with
    | .ok config => .ok (.ok config)
    | .error fallback => .ok (.error (.bothPathsFailed mainError fallback.intoError))
  else .error .mk

/-- One round: the main port, and after a failed handshake the port next to it. -/
def joinRelayOnce (address token : String) (proxy : Option SshProxy) (round : Round) :
    Except PortOverflow (Except RelayJoinError RelayTomlConfig) :=
  match parseRelayAddress address with
  | .error error => .ok (.error (.address error))
  | .ok (host, port) =>
      match round.connector with
      | .error error => .ok (.error error)
      | .ok () =>
          match enrollSingleAttempt printable toLowercase
              { host, port, proxy, enrollAlpn := true, token } round.main with
          | .ok config => .ok (.ok config)
          | .error (.protocol error) | .error (.dial error) => .ok (.error error)
          | .error (.handshake mainError) =>
              joinLegacy printable toLowercase host port token proxy mainError round.legacy

/-- The attempts from `attempt` on, of which `more` follow after it. -/
def joinAttempts (once : Nat → Except PortOverflow (Except RelayJoinError RelayTomlConfig)) :
    (attempt more : Nat) → Except PortOverflow (Except RelayJoinError RelayTomlConfig)
  | attempt, 0 => once attempt
  | attempt, more + 1 =>
      match once attempt with
      | .ok (.error error) =>
          if error.isRetryable then joinAttempts once (attempt + 1) more else .ok (.error error)
      | result => result

/-- `rounds` says what each attempt meets, counted from one. -/
def joinRelay (address token : String) (proxy : Option SshProxy) (rounds : Nat → Round) :
    Except PortOverflow (Except RelayJoinError RelayTomlConfig) :=
  joinAttempts (fun attempt => joinRelayOnce printable toLowercase address token proxy
    (rounds attempt)) 1 (joinMaxAttempts - 1)

end

/-! ## The pinned address -/

def Exchange.HandshakeFails (exchange : Exchange) : Prop :=
  exchange = .handshakeTimedOut ∨ ∃ error, exchange = .handshakeFailed error

/-- The relay hands out its fingerprint, and the pin is saved. -/
def Exchange.Enrolls (exchange : Exchange) : Prop :=
  ∃ fingerprint, exchange = .session (.answered (.enrollResponse fingerprint) (.ok ()))

/-- The file names this address. -/
def PinsAddress (text address : String) : Prop :=
  ∃ fields, readPinFields text = .ok fields ∧ fields.address = some address

/-- No port overflowed, and a pin that was written names this address. -/
def NamesAddress (address : String)
    (result : Except PortOverflow (Except RelayJoinError RelayTomlConfig)) : Prop :=
  ∃ joined, result = .ok joined ∧
    ∀ config, joined = .ok config → PinsAddress (serializeRelayToml config) address

section

variable {printable : Char → Bool} {toLowercase : String → String}

theorem enrolledPin_ok_iff {pinAddress : String} {viaProxy : Bool} {response : Frame}
    {config : RelayTomlConfig} :
    enrolledPin printable toLowercase pinAddress viaProxy response = .ok config ↔
      ∃ fingerprint, response = .enrollResponse fingerprint ∧
        config = { address := pinAddress, relayFingerprint := toLowercase fingerprint,
                   useProxy := viaProxy } := by
  unfold enrolledPin
  split
  · simp [eq_comm]
  · split <;> simp
  · next hNot _ => simpa using fun fingerprint hEq => absurd hEq (hNot fingerprint)

theorem enrollSingleAttempt_ok_iff {attempt : EnrollAttempt} {exchange : Exchange}
    {config : RelayTomlConfig} :
    enrollSingleAttempt printable toLowercase attempt exchange = .ok config ↔
      ∃ fingerprint, exchange = .session (.answered (.enrollResponse fingerprint) (.ok ())) ∧
        config = { address := attempt.host ++ ":" ++ toString attempt.port
                   relayFingerprint := toLowercase fingerprint
                   useProxy := attempt.proxy.isSome } := by
  have hSession : ∀ {x : Except RelayJoinError RelayTomlConfig},
      x.mapError EnrollAttemptError.protocol = .ok config ↔ x = .ok config := by
    intro x
    cases x <;> simp [Except.mapError]
  unfold enrollSingleAttempt
  split
  · simp
  · simp
  · simp
  · next session =>
    rw [hSession]
    cases session with
    | writeFailed error => simp [runEnrollSession]
    | responseTimedOut => simp [runEnrollSession]
    | readFailed error => simp [runEnrollSession]
    | answered response saved =>
      rw [runEnrollSession, bind_eq_ok]
      constructor
      · rintro ⟨pin, hPin, hSaved⟩
        obtain ⟨fingerprint, rfl, rfl⟩ := enrolledPin_ok_iff.mp hPin
        cases saved with
        | ok _ =>
          cases hSaved
          exact ⟨fingerprint, rfl, rfl⟩
        | error error => cases hSaved
      · rintro ⟨fingerprint, ⟨⟩, rfl⟩
        exact ⟨_, enrolledPin_ok_iff.mpr ⟨fingerprint, rfl, rfl⟩, rfl⟩

variable (printable toLowercase) in
theorem enrollSingleAttempt_isOk_iff (attempt : EnrollAttempt) (exchange : Exchange) :
    (enrollSingleAttempt printable toLowercase attempt exchange).isOk = true ↔
      exchange.Enrolls := by
  constructor
  · intro h
    cases hResult : enrollSingleAttempt printable toLowercase attempt exchange with
    | ok config =>
      obtain ⟨fingerprint, hEq, -⟩ := enrollSingleAttempt_ok_iff.mp hResult
      exact ⟨fingerprint, hEq⟩
    | error error => simp [hResult, Except.isOk, Except.toBool] at h
  · rintro ⟨fingerprint, hEq⟩
    have hOk : enrollSingleAttempt printable toLowercase attempt exchange = .ok _ :=
      enrollSingleAttempt_ok_iff.mpr ⟨fingerprint, hEq, rfl⟩
    rw [hOk]
    rfl

variable (printable toLowercase) in
theorem enrollSingleAttempt_handshake_iff (attempt : EnrollAttempt) (exchange : Exchange) :
    (∃ error, enrollSingleAttempt printable toLowercase attempt exchange
      = .error (.handshake error)) ↔ exchange.HandshakeFails := by
  cases exchange with
  | session session =>
    have hNot : ∀ {x : Except RelayJoinError RelayTomlConfig} {error},
        x.mapError EnrollAttemptError.protocol ≠ .error (.handshake error) := by
      intro x error
      cases x <;> simp [Except.mapError]
    simp [enrollSingleAttempt, Exchange.HandshakeFails, hNot]
  | dialFailed error => simp [enrollSingleAttempt, Exchange.HandshakeFails]
  | handshakeTimedOut => simp [enrollSingleAttempt, Exchange.HandshakeFails]
  | handshakeFailed error => simp [enrollSingleAttempt, Exchange.HandshakeFails]

theorem pinsAddress_serialize {config : RelayTomlConfig}
    (h : config.heartbeatIntervalSecs = none) (address : String) :
    PinsAddress (serializeRelayToml config) address ↔ config.address = address := by
  have hRead : readPinFields (serializeRelayToml config) = .ok config.fields := by
    refine readPinFields_serialize ?_
    rw [h]
    rintro _ ⟨⟩
  rw [PinsAddress, hRead]
  simp [RelayTomlConfig.fields]

/-- What a saved pin of an attempt names. -/
theorem namesAddress_attempt {attempt : EnrollAttempt} {exchange : Exchange}
    {config : RelayTomlConfig} (address : String)
    (h : enrollSingleAttempt printable toLowercase attempt exchange = .ok config) :
    NamesAddress address (.ok (.ok config)) ↔
      attempt.host ++ ":" ++ toString attempt.port = address := by
  obtain ⟨fingerprint, -, rfl⟩ := enrollSingleAttempt_ok_iff.mp h
  simp only [NamesAddress, Except.ok.injEq, exists_eq_left', forall_eq']
  exact pinsAddress_serialize rfl address

theorem namesAddress_error (address : String) (error : RelayJoinError) :
    NamesAddress address (.ok (.error error)) :=
  ⟨_, rfl, fun _ h => nomatch h⟩

section

variable {address token : String} {proxy : Option SshProxy} {host : String} {port : Nat}
  {round : Round}

/-- A fallback is harmless if there is a next port and nothing is pinned there. -/
theorem namesAddress_legacy (mainError : RelayJoinError) (legacy : Exchange) :
    NamesAddress (host ++ ":" ++ toString port)
        (joinLegacy printable toLowercase host port token proxy mainError legacy) ↔
      port + relayEnrollPortOffset < 2 ^ 16 ∧ ¬ legacy.Enrolls := by
  rw [joinLegacy]
  by_cases hPort : port + relayEnrollPortOffset < 2 ^ 16
  · rw [if_pos hPort, and_iff_right hPort]
    have hEnrolls := enrollSingleAttempt_isOk_iff printable toLowercase
      { host, port := port + relayEnrollPortOffset, proxy, enrollAlpn := false, token } legacy
    cases hLegacy : enrollSingleAttempt printable toLowercase
        { host, port := port + relayEnrollPortOffset, proxy, enrollAlpn := false, token }
        legacy with
    | ok config =>
      rw [hLegacy] at hEnrolls
      -- the two texts differ in the port
      have hOther : host ++ ":" ++ toString (port + relayEnrollPortOffset)
          ≠ host ++ ":" ++ toString port := by
        intro hSame
        have hPorts := eq_of_toString_eq (String.append_right_inj _ |>.mp hSame)
        simp [relayEnrollPortOffset] at hPorts
      simpa [hEnrolls.mp rfl] using mt (namesAddress_attempt _ hLegacy).mp hOther
    | error fallback =>
      rw [hLegacy] at hEnrolls
      have hNot : ¬ legacy.Enrolls := fun h => nomatch hEnrolls.mpr h
      simpa only [hNot, not_false_eq_true, iff_true] using namesAddress_error _ _
  · rw [if_neg hPort]
    simp only [hPort, false_and, iff_false]
    rintro ⟨joined, hJoined, -⟩
    cases hJoined

/-- A round is harmless unless it ends on the other port, or there is none. -/
theorem namesAddress_once (hParse : parseRelayAddress address = .ok (host, port)) :
    NamesAddress (host ++ ":" ++ toString port)
        (joinRelayOnce printable toLowercase address token proxy round) ↔
      (round.connector = .ok () → round.main.HandshakeFails →
        port + relayEnrollPortOffset < 2 ^ 16 ∧ ¬ round.legacy.Enrolls) := by
  rw [joinRelayOnce, hParse]
  cases hConnector : round.connector with
  | error error => simpa [hConnector] using namesAddress_error _ error
  | ok _ =>
    simp only [forall_const]
    cases hMain : enrollSingleAttempt printable toLowercase
        { host, port, proxy, enrollAlpn := true, token } round.main with
    | ok config =>
      have hNot : ¬ round.main.HandshakeFails := by
        obtain ⟨fingerprint, hEq, -⟩ := enrollSingleAttempt_ok_iff.mp hMain
        simp [hEq, Exchange.HandshakeFails]
      simpa only [hNot, false_imp_iff, iff_true] using (namesAddress_attempt _ hMain).mpr rfl
    | error failed =>
      have hFails := enrollSingleAttempt_handshake_iff printable toLowercase
        { host, port, proxy, enrollAlpn := true, token } round.main
      rw [hMain] at hFails
      cases failed with
      | dial error =>
        have hNot : ¬ round.main.HandshakeFails := by simp [← hFails]
        simpa only [hNot, false_imp_iff, iff_true] using namesAddress_error _ error
      | protocol error =>
        have hNot : ¬ round.main.HandshakeFails := by simp [← hFails]
        simpa only [hNot, false_imp_iff, iff_true] using namesAddress_error _ error
      | handshake error =>
        simp only [hFails.mp ⟨_, rfl⟩, forall_const]
        exact namesAddress_legacy error round.legacy

end

/-! ## All attempts -/

section

variable {once : Nat → Except PortOverflow (Except RelayJoinError RelayTomlConfig)}

/-- The attempt failed in a way that is worth another one. -/
def Retried (result : Except PortOverflow (Except RelayJoinError RelayTomlConfig)) : Prop :=
  ∃ error, result = .ok (.error error) ∧ error.isRetryable

/-- All attempts from the first to this one are tried again. -/
def Reached (once : Nat → Except PortOverflow (Except RelayJoinError RelayTomlConfig))
    (first k : Nat) : Prop :=
  first ≤ k ∧ ∀ j, first ≤ j → j < k → Retried (once j)

theorem reached_self (first : Nat) : Reached once first first :=
  ⟨Nat.le_refl _, fun j hLe hLt => absurd hLt (by omega)⟩

theorem reached_of_lt {first k : Nat} (h : first < k) :
    Reached once first k ↔ Retried (once first) ∧ Reached once (first + 1) k := by
  constructor
  · rintro ⟨-, hAll⟩
    exact ⟨hAll first (Nat.le_refl _) h, h, fun j hLe hLt => hAll j (by omega) hLt⟩
  · rintro ⟨hFirst, hLe, hAll⟩
    refine ⟨by omega, fun j hj hLt => ?_⟩
    obtain rfl | hj := Nat.eq_or_lt_of_le hj
    · exact hFirst
    · exact hAll j hj hLt

theorem joinAttempts_of_not_retried {first : Nat} (h : ¬ Retried (once first)) (more : Nat) :
    joinAttempts once first more = once first := by
  cases more with
  | zero => rfl
  | succ more =>
    rw [joinAttempts]
    split
    · next error hOnce =>
      rw [hOnce]
      exact if_neg fun hRetry => h ⟨error, hOnce, hRetry⟩
    · rfl

/-- The result of a join is that of the last attempt it comes to. -/
theorem joinAttempts_last
    (once : Nat → Except PortOverflow (Except RelayJoinError RelayTomlConfig)) (more first : Nat) :
    ∃ k, k ≤ first + more ∧ Reached once first k ∧ joinAttempts once first more = once k ∧
      (Retried (once k) → k = first + more) := by
  induction more generalizing first with
  | zero => exact ⟨first, Nat.le_refl _, reached_self first, rfl, fun _ => rfl⟩
  | succ more ih =>
    by_cases hRetried : Retried (once first)
    · obtain ⟨error, hOnce, hRetry⟩ := id hRetried
      obtain ⟨k, hLe, hReached, hLast, hEnd⟩ := ih (first + 1)
      refine ⟨k, by omega, (reached_of_lt hReached.1).mpr ⟨hRetried, hReached⟩, ?_, ?_⟩
      · rw [joinAttempts, hOnce, ← hLast]
        exact if_pos hRetry
      · exact fun h => (hEnd h).trans (by omega)
    · exact ⟨first, by omega, reached_self first, joinAttempts_of_not_retried hRetried _,
        fun h => absurd h hRetried⟩

/-- A join is harmless exactly if each attempt that it comes to is. -/
theorem namesAddress_attempts (address : String) (more first : Nat) :
    NamesAddress address (joinAttempts once first more) ↔
      ∀ k, k ≤ first + more → Reached once first k → NamesAddress address (once k) := by
  induction more generalizing first with
  | zero =>
    constructor
    · intro h k hLe hReached
      obtain rfl : first = k := Nat.le_antisymm hReached.1 hLe
      exact h
    · exact fun h => h first (Nat.le_refl _) (reached_self first)
  | succ more ih =>
    by_cases hRetried : Retried (once first)
    · obtain ⟨error, hOnce, hRetry⟩ := id hRetried
      have hNext : joinAttempts once first (more + 1) = joinAttempts once (first + 1) more := by
        rw [joinAttempts, hOnce]
        exact if_pos hRetry
      rw [hNext, ih]
      constructor
      · intro h k hLe hReached
        obtain rfl | hLt := Nat.eq_or_lt_of_le hReached.1
        · rw [hOnce]
          exact namesAddress_error address error
        · exact h k (by omega) ((reached_of_lt hLt).mp hReached).2
      · exact fun h k hLe hReached =>
          h k (by omega) ((reached_of_lt hReached.1).mpr ⟨hRetried, hReached⟩)
    · rw [joinAttempts_of_not_retried hRetried]
      constructor
      · intro h k _ hReached
        obtain rfl | hLt := Nat.eq_or_lt_of_le hReached.1
        · exact h
        · exact absurd ((reached_of_lt hLt).mp hReached).1 hRetried
      · exact fun h => h first (by omega) (reached_self first)

end

end

/-! ## The pin of a join -/

section

variable {printable : Char → Bool} {toLowercase : String → String} {config : RelayTomlConfig}

/-- A join pins an address that can be read, and sets no cadence. -/
theorem joinRelay_ok {address token : String} {proxy : Option SshProxy} {rounds : Nat → Round}
    (h : joinRelay printable toLowercase address token proxy rounds = .ok (.ok config)) :
    (parseRelayAddress config.address).isOk ∧ config.heartbeatIntervalSecs = none := by
  obtain ⟨k, -, -, hLast, -⟩ := joinAttempts_last (fun attempt =>
      joinRelayOnce printable toLowercase address token proxy (rounds attempt))
    (joinMaxAttempts - 1) 1
  have hOnce := hLast.symm.trans h
  -- the address is one of an attempt
  have hAttempt : ∀ {attempt : EnrollAttempt} {exchange : Exchange} {host : String} {port : Nat},
      enrollSingleAttempt printable toLowercase attempt exchange = .ok config →
      parseRelayAddress address = .ok (host, port) → attempt.host = host →
      attempt.port < 2 ^ 16 →
      (parseRelayAddress config.address).isOk ∧ config.heartbeatIntervalSecs = none := by
    intro attempt exchange host port hOk hParse hHost hPort
    obtain ⟨fingerprint, -, rfl⟩ := enrollSingleAttempt_ok_iff.mp hOk
    rw [hHost, parseRelayAddress_host hParse hPort]
    exact ⟨rfl, rfl⟩
  unfold joinRelayOnce at hOnce
  split at hOnce
  · cases hOnce
  · next host port hParse =>
    split at hOnce
    · cases hOnce
    · split at hOnce
      · next hMain =>
        cases hOnce
        exact hAttempt hMain hParse rfl (lt_of_parseRelayAddress hParse)
      · cases hOnce
      · cases hOnce
      · unfold joinLegacy at hOnce
        split at hOnce
        · next hPort =>
          split at hOnce
          · next hLegacy =>
            cases hOnce
            exact hAttempt hLegacy hParse rfl hPort
          · cases hOnce
        · cases hOnce

end

/-! ## The port of the pin -/

/-- The pin names the given host and port, and no port overflows, exactly if in every
round that is come to, a failed handshake on the main port leaves a port for the other
attempt and nothing is pinned there. -/
theorem join_pins_base_port_iff (printable : Char → Bool) (toLowercase : String → String)
    (address token host : String) (port : Nat) (proxy : Option SshProxy) (rounds : Nat → Round)
    (hParse : parseRelayAddress address = .ok (host, port)) :
    NamesAddress (host ++ ":" ++ toString port)
        (joinRelay printable toLowercase address token proxy rounds) ↔
      ∀ k, k ≤ joinMaxAttempts →
        Reached (fun attempt => joinRelayOnce printable toLowercase address token proxy
          (rounds attempt)) 1 k →
        (rounds k).connector = .ok () → (rounds k).main.HandshakeFails →
        port + relayEnrollPortOffset < 2 ^ 16 ∧ ¬ (rounds k).legacy.Enrolls := by
  rw [joinRelay, namesAddress_attempts]
  exact forall_congr' fun k => imp_congr_right fun _ => imp_congr_right fun _ =>
    namesAddress_once hParse

/-- A relay that answers on its main port. -/
theorem join_pins_given_port :
    NamesAddress ("relay" ++ ":" ++ toString 7475)
      (joinRelay (fun _ => true) id "relay" "token" none fun _ =>
        ⟨.ok (), .session (.answered (.enrollResponse "ab") (.ok ())), .dialFailed "refused"⟩) :=
  (join_pins_base_port_iff _ _ _ _ _ _ _ _ (by decide +kernel)).mpr (by
    rintro k - - - (hMain | ⟨error, hMain⟩) <;> cases hMain)

/-- A relay whose main port knows no enrollment, reached on the port next to it: this
is the port that gets pinned.  And next to the last port there is none. -/
theorem join_pins_enrollment_port :
    joinRelay (fun _ => true) id "relay:9000" "token" none (fun _ =>
        ⟨.ok (), .handshakeFailed "alert", .session (.answered (.enrollResponse "ab") (.ok ()))⟩)
      = .ok (.ok { address := "relay:9001", relayFingerprint := "ab" }) ∧
    ¬ NamesAddress "relay:9000" (.ok (.ok { address := "relay:9001", relayFingerprint := "ab" })) ∧
    joinRelay (fun _ => true) id "relay:65535" "token" none (fun _ =>
        ⟨.ok (), .handshakeFailed "alert", .dialFailed "refused"⟩)
      = .error .mk := by
  refine ⟨by decide +kernel, ?_, by decide +kernel⟩
  rintro ⟨joined, hJoined, hNames⟩
  cases hJoined
  have hPins := (pinsAddress_serialize rfl _).mp (hNames _ rfl)
  exact absurd hPins (by decide)

end WaitAgent.Relay
