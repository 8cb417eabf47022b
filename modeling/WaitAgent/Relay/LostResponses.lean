import Mathlib.Data.Finset.Insert
import WaitAgent.Relay.Join
import WaitAgent.Relay.TokenReuse

/-!
# Responses that are lost

A join whose connection breaks is tried again from the start, and nothing tells the node
whether the relay had seen its frame.  The relay uses a one-time token up on its first
use.  If it enrolls the node and the response is lost, the next attempt that gets an answer
is refused with the token it has been enrolled with.
-/

namespace WaitAgent.Relay

open Verified Mux Net

/-! ## The relay -/

structure EnrollRelay where
  tokens : TokenStore
  whitelist : Finset String

/-- A join: the node with its token, the relay, and what both compute with. -/
structure Enrolling where
  sha256 : List UInt8 → String
  toLowercase : String → String
  address : String
  token : String
  peerFingerprint : String
  relayFingerprint : String

/-- The relay after the frame of a join, and its answer.  A node that is enrolled is on the
whitelist; `added` says whether its entry can be written. -/
def Enrolling.handle (e : Enrolling) (relay : EnrollRelay) (added : Bool) (nowUnix : Nat) :
    EnrollRelay × Option Frame :=
  let (tokens, answer) := handleEnrollmentFrame e.sha256 (.enroll e.token) relay.tokens
    e.relayFingerprint nowUnix added
  match answer with
  | some (.enrollResponse _) =>
      (⟨tokens, insert (e.toLowercase e.peerFingerprint) relay.whitelist⟩, answer)
  | _ => (⟨tokens, relay.whitelist⟩, answer)

/-! ## Attempts against the relay -/

/-- How the node learns that a session has failed. -/
inductive Loss where
  | writeFailed (error : String)
  | responseTimedOut
  | readFailed (error : String)

def Loss.session : Loss → Session
  | writeFailed error => .writeFailed error
  | responseTimedOut => .responseTimedOut
  | readFailed error => .readFailed error

/-- What becomes of an attempt on one port. -/
inductive Course where
  | dialFailed (error : String)
  | handshakeTimedOut
  | handshakeFailed (error : String)
  /-- The session fails before the relay has seen the frame. -/
  | unseen (loss : Loss)
  /-- The relay has handled the frame, and its response is lost. -/
  | lost (added : Bool) (nowUnix : Nat) (loss : Loss)
  /-- The response arrives, or the end of the connection if there is none. -/
  | answered (added : Bool) (nowUnix : Nat) (closed : String) (saved : Except String Unit)

namespace Course

/-- The relay after an attempt, and its response, if it has seen the frame. -/
def handled (e : Enrolling) (relay : EnrollRelay) : Course → Option (EnrollRelay × Option Frame)
  | lost added nowUnix _ | answered added nowUnix _ _ =>
      some (e.handle relay added nowUnix)
  | _ => none

/-- What the node sees of an attempt. -/
def exchange (e : Enrolling) (relay : EnrollRelay) : Course → Exchange
  | dialFailed error => .dialFailed error
  | handshakeTimedOut => .handshakeTimedOut
  | handshakeFailed error => .handshakeFailed error
  | unseen loss | lost _ _ loss => .session loss.session
  | answered added nowUnix closed saved =>
      match (e.handle relay added nowUnix).2 with
      | some response => .session (.answered response saved)
      | none => .session (.readFailed closed)

def handshakeFails : Course → Bool
  | handshakeTimedOut | handshakeFailed _ => true
  | _ => false

def isAnswered : Course → Bool
  | answered _ _ _ _ => true
  | _ => false

end Course

/-- The failures of `build_enroll_connector`. -/
inductive ConnectorError where
  | io (message : String)
  | credentials (message : String)
  | tls (message : String)

def ConnectorError.intoError : ConnectorError → RelayJoinError
  | io message => .io message
  | credentials message => .credentials message
  | tls message => .tls message

/-- What one round meets. -/
structure JoinDraw where
  connector : Except ConnectorError Unit
  main : Course
  legacy : Course

/-- The attempt that decides a round: the one on the main port, unless its handshake
fails. -/
def JoinDraw.decisive (draw : JoinDraw) (address : String) : Option Course :=
  match parseRelayAddress address, draw.connector with
  | .ok (_, port), .ok () =>
      if draw.main.handshakeFails then
        if port + relayEnrollPortOffset < 2 ^ 16 then some draw.legacy else none
      else some draw.main
  | _, _ => none

namespace Enrolling

variable (e : Enrolling) (relay : EnrollRelay) (draws : Nat → JoinDraw)

/-- A failed handshake leaves the relay as it is, so both ports meet the same one. -/
def round (draw : JoinDraw) : Round where
  connector := draw.connector.mapError ConnectorError.intoError
  main := draw.main.exchange e relay
  legacy := draw.legacy.exchange e relay

/-- The relay after the first `n` rounds. -/
def relayAfter : Nat → EnrollRelay
  | 0 => relay
  | n + 1 =>
      (((draws (n + 1)).decisive e.address).bind (·.handled e (relayAfter n))).elim
        (relayAfter n) Prod.fst

/-- The result of a join whose rounds meet the relay. -/
def join (printable : Char → Bool) (proxy : Option SshProxy) :
    Except PortOverflow (Except RelayJoinError RelayTomlConfig) :=
  joinRelay printable e.toLowercase e.address e.token proxy fun k =>
    e.round (e.relayAfter relay draws (k - 1)) (draws k)

/-- The result of round `k`. -/
def once (printable : Char → Bool) (proxy : Option SshProxy) (k : Nat) :
    Except PortOverflow (Except RelayJoinError RelayTomlConfig) :=
  joinRelayOnce printable e.toLowercase e.address e.token proxy
    (e.round (e.relayAfter relay draws (k - 1)) (draws k))

/-- Round `k` takes place. -/
def TriedIn (printable : Char → Bool) (proxy : Option SshProxy) (k : Nat) : Prop :=
  k ≤ joinMaxAttempts ∧ Reached (e.once relay draws printable proxy) 1 k

/-- The relay redeems the token in round `k` and puts the node on its whitelist. -/
def WhitelistedIn (k : Nat) : Prop :=
  ∃ course after, (draws k).decisive e.address = some course ∧
    course.handled e (e.relayAfter relay draws (k - 1))
      = some (after, some (.enrollResponse e.relayFingerprint))

/-- An answer of the relay arrives in round `k`. -/
def AnsweredIn (k : Nat) : Prop :=
  ∃ course, (draws k).decisive e.address = some course ∧ course.isAnswered = true

end Enrolling

/-- The token is reported as invalid, on either port. -/
def RelayJoinError.isRefusal : RelayJoinError → Bool
  | bothPathsFailed _ legacy => legacy.isRefusal
  | tokenInvalid => true
  | _ => false

def Refused (result : Except PortOverflow (Except RelayJoinError RelayTomlConfig)) : Prop :=
  ∃ error, result = .ok (.error error) ∧ error.isRefusal = true

/-! ## One round -/

section

variable {printable : Char → Bool} {toLowercase : String → String}

theorem not_isRetryable_of_isRefusal {error : RelayJoinError} (h : error.isRefusal = true) :
    error.isRetryable = false := by
  induction error with
  | bothPathsFailed main legacy _ ih => exact ih h
  | tokenInvalid => rfl
  | _ => cases h

theorem Refused.not_retried {result : Except PortOverflow (Except RelayJoinError RelayTomlConfig)}
    (h : Refused result) : ¬Retried result := by
  rintro ⟨error, hResult, hRetry⟩
  obtain ⟨refusal, hRefusal, hIs⟩ := h
  obtain rfl : refusal = error := by simpa using hRefusal.symm.trans hResult
  simp [not_isRetryable_of_isRefusal hIs] at hRetry

/-- The relay does not know the token and says so. -/
def Course.Refuses (e : Enrolling) (relay : EnrollRelay) (course : Course) : Prop :=
  ∃ added nowUnix closed saved, course = .answered added nowUnix closed saved
    ∧ (relay.tokens.redeem e.sha256 e.token nowUnix).2 = .invalid

variable {e : Enrolling} {relay : EnrollRelay} {draws : Nat → JoinDraw} {proxy : Option SshProxy}

theorem runEnrollSession_answered {pinAddress : String} {viaProxy added : Bool} {nowUnix : Nat}
    {closed : String} {saved : Except String Unit} {session : Session}
    (h : (Course.answered added nowUnix closed saved).exchange e relay = .session session) :
    (∃ error, runEnrollSession printable toLowercase pinAddress viaProxy session = .error error
        ∧ error.isRefusal = true)
      ↔ (relay.tokens.redeem e.sha256 e.token nowUnix).2 = .invalid := by
  simp only [Course.exchange, Enrolling.handle, handleEnrollmentFrame] at h
  cases hOutcome : (relay.tokens.redeem e.sha256 e.token nowUnix).2 with
  | enrollOk oneTime =>
    simp only [hOutcome] at h
    cases added with
    | true =>
      obtain rfl := Exchange.session.inj h
      cases saved <;>
        simp [runEnrollSession, enrolledPin, RelayJoinError.isRefusal, bind, Except.bind]
    | false =>
      obtain rfl := Exchange.session.inj h
      simp [runEnrollSession, RelayJoinError.isRefusal]
  | invalid =>
    simp only [hOutcome] at h
    obtain rfl := Exchange.session.inj h
    exact iff_of_true ⟨.tokenInvalid, rfl, rfl⟩ rfl
  | expired =>
    simp only [hOutcome] at h
    obtain rfl := Exchange.session.inj h
    have hExpired : runEnrollSession printable toLowercase pinAddress viaProxy
        (.answered (.error 0 RelayErrorCode.tokenExpired.wireValue "enrollment token has expired")
          saved) = .error .tokenExpired := rfl
    simp [hExpired, RelayJoinError.isRefusal]

theorem enrollSingleAttempt_refusal_iff (printable : Char → Bool) (toLowercase : String → String)
    (attempt : EnrollAttempt) {course : Course} :
    (∃ failed, enrollSingleAttempt printable toLowercase attempt (course.exchange e relay)
        = .error failed ∧ failed.intoError.isRefusal = true) ↔ course.Refuses e relay := by
  have hMap : ∀ {x : Except RelayJoinError RelayTomlConfig},
      (∃ failed, x.mapError EnrollAttemptError.protocol = .error failed
        ∧ failed.intoError.isRefusal = true) ↔ ∃ error, x = .error error
          ∧ error.isRefusal = true := by
    intro x
    cases x <;> simp [Except.mapError, EnrollAttemptError.intoError]
  have hLoss : ∀ (pinAddress : String) (viaProxy : Bool) (loss : Loss),
      ¬∃ error, runEnrollSession printable toLowercase pinAddress viaProxy loss.session
        = .error error ∧ error.isRefusal = true := by
    intro pinAddress viaProxy loss
    cases loss <;> simp [Loss.session, runEnrollSession, RelayJoinError.isRefusal]
  unfold Course.Refuses
  cases course with
  | dialFailed error =>
    simp [Course.exchange, enrollSingleAttempt, EnrollAttemptError.intoError,
      RelayJoinError.isRefusal]
  | handshakeTimedOut =>
    simp [Course.exchange, enrollSingleAttempt, EnrollAttemptError.intoError,
      RelayJoinError.isRefusal]
  | handshakeFailed error =>
    simp [Course.exchange, enrollSingleAttempt, EnrollAttemptError.intoError,
      RelayJoinError.isRefusal]
  | unseen loss =>
    simp only [Course.exchange, enrollSingleAttempt]
    rw [hMap]
    simpa using hLoss _ _ loss
  | lost added nowUnix loss =>
    simp only [Course.exchange, enrollSingleAttempt]
    rw [hMap]
    simpa using hLoss _ _ loss
  | answered added nowUnix closed saved =>
    obtain ⟨session, hSession⟩ : ∃ session,
        (Course.answered added nowUnix closed saved).exchange e relay = .session session := by
      simp only [Course.exchange]
      split <;> exact ⟨_, rfl⟩
    rw [hSession, enrollSingleAttempt, hMap, runEnrollSession_answered hSession]
    simp

theorem exchange_handshakeFails_iff {course : Course} :
    (course.exchange e relay).HandshakeFails ↔ course.handshakeFails = true := by
  cases course with
  | answered added nowUnix closed saved =>
    simp only [Course.exchange]
    split <;> simp [Exchange.HandshakeFails, Course.handshakeFails]
  | _ => simp [Course.exchange, Exchange.HandshakeFails, Course.handshakeFails]

/-- Other results than an error of the attempt itself are no refusals. -/
theorem refused_error_iff {error : RelayJoinError} :
    Refused (.ok (.error error)) ↔ error.isRefusal = true := by
  simp [Refused]

theorem not_refused_ok {config : RelayTomlConfig} : ¬Refused (.ok (.ok config)) := by
  simp [Refused]

theorem refused_legacy_iff {host : String} {port : Nat} {mainError : RelayJoinError}
    {legacy : Course} :
    Refused (joinLegacy printable toLowercase host port e.token proxy mainError
        (legacy.exchange e relay))
      ↔ port + relayEnrollPortOffset < 2 ^ 16 ∧ legacy.Refuses e relay := by
  rw [joinLegacy]
  by_cases hPort : port + relayEnrollPortOffset < 2 ^ 16
  · rw [if_pos hPort, and_iff_right hPort, ← enrollSingleAttempt_refusal_iff printable
      toLowercase ⟨host, port + relayEnrollPortOffset, proxy, false, e.token⟩]
    cases hLegacy : enrollSingleAttempt printable toLowercase
        { host, port := port + relayEnrollPortOffset, proxy, enrollAlpn := false, token := e.token }
        (legacy.exchange e relay) with
    | ok config => simpa [hLegacy] using not_refused_ok
    | error failed => simp [refused_error_iff, RelayJoinError.isRefusal]
  · rw [if_neg hPort]
    exact iff_of_false (by simp [Refused]) fun h => hPort h.1

/-- A round is refused exactly if the attempt that decides it is. -/
theorem refused_once_iff {draw : JoinDraw} :
    Refused (joinRelayOnce printable toLowercase e.address e.token proxy (e.round relay draw))
      ↔ ∃ course, draw.decisive e.address = some course ∧ course.Refuses e relay := by
  unfold joinRelayOnce JoinDraw.decisive
  cases hParse : parseRelayAddress e.address with
  | error error => simp [refused_error_iff, RelayJoinError.isRefusal]
  | ok target =>
    obtain ⟨host, port⟩ := target
    cases hConnector : draw.connector with
    | error error =>
      cases error <;> simp [Enrolling.round, hConnector, Except.mapError,
        ConnectorError.intoError, refused_error_iff, RelayJoinError.isRefusal]
    | ok _ =>
      simp only [Enrolling.round, hConnector, Except.mapError]
      have hMain : _ ↔ draw.main.Refuses e relay := enrollSingleAttempt_refusal_iff printable
        toLowercase { host, port, proxy, enrollAlpn := true, token := e.token }
      have hFails := (enrollSingleAttempt_handshake_iff printable toLowercase
        { host, port, proxy, enrollAlpn := true, token := e.token }
        (draw.main.exchange e relay)).trans exchange_handshakeFails_iff
      cases hResult : enrollSingleAttempt printable toLowercase
          { host, port, proxy, enrollAlpn := true, token := e.token }
          (draw.main.exchange e relay) with
      | ok config =>
        simp only [hResult, reduceCtorEq, false_and, exists_false,
          false_iff] at hMain hFails
        simp [hFails, hMain, not_refused_ok]
      | error failed =>
        rw [hResult] at hMain hFails
        cases failed with
        | dial error =>
          have hNot : ¬draw.main.handshakeFails = true := by simp [← hFails]
          simp [hNot, refused_error_iff, ← hMain, EnrollAttemptError.intoError]
        | protocol error =>
          have hNot : ¬draw.main.handshakeFails = true := by simp [← hFails]
          simp [hNot, refused_error_iff, ← hMain, EnrollAttemptError.intoError]
        | handshake error =>
          rw [if_pos (hFails.mp ⟨error, rfl⟩)]
          exact refused_legacy_iff.trans (by simp)

end

/-! ## All rounds -/

namespace Enrolling

variable {printable : Char → Bool} {e : Enrolling} {relay : EnrollRelay} {draws : Nat → JoinDraw}
  {proxy : Option SshProxy}

theorem tokens_handled {course : Course} {after : EnrollRelay} {response : Option Frame}
    (h : course.handled e relay = some (after, response)) :
    ∃ nowUnix, after.tokens = (relay.tokens.redeem e.sha256 e.token nowUnix).1 ∧
      (response = some (.enrollResponse e.relayFingerprint) →
        ∃ oneTime, (relay.tokens.redeem e.sha256 e.token nowUnix).2 = .enrollOk oneTime) := by
  have hHandle : ∀ added nowUnix,
      e.handle relay added nowUnix = (after, response) →
      after.tokens = (relay.tokens.redeem e.sha256 e.token nowUnix).1 ∧
        (response = some (.enrollResponse e.relayFingerprint) →
          ∃ oneTime, (relay.tokens.redeem e.sha256 e.token nowUnix).2 = .enrollOk oneTime) := by
    intro added nowUnix hEq
    simp only [handle, handleEnrollmentFrame] at hEq
    cases hOutcome : (relay.tokens.redeem e.sha256 e.token nowUnix).2 with
    | enrollOk oneTime =>
      simp only [hOutcome] at hEq
      split at hEq <;> cases hEq <;> exact ⟨rfl, fun _ => ⟨oneTime, rfl⟩⟩
    | invalid =>
      simp only [hOutcome] at hEq
      cases hEq
      exact ⟨rfl, fun hResponse => by cases hResponse⟩
    | expired =>
      simp only [hOutcome] at hEq
      cases hEq
      exact ⟨rfl, fun hResponse => by cases hResponse⟩
  cases course with
  | lost added nowUnix loss => exact ⟨nowUnix, hHandle added nowUnix (Option.some.inj h)⟩
  | answered added nowUnix closed saved =>
    exact ⟨nowUnix, hHandle added nowUnix (Option.some.inj h)⟩
  | _ => cases h

/-- Rounds add no token. -/
theorem lookup_relayAfter {n : Nat} {key : String} {record : TokenRecord}
    (h : (e.relayAfter relay draws (n + 1)).tokens.lookup key = some record) :
    (e.relayAfter relay draws n).tokens.lookup key = some record := by
  rw [relayAfter] at h
  cases hHandled : ((draws (n + 1)).decisive e.address).bind
      (·.handled e (e.relayAfter relay draws n)) with
  | none =>
    rw [hHandled] at h
    exact h
  | some handled =>
    rw [hHandled] at h
    obtain ⟨course, -, hCourse⟩ := Option.bind_eq_some_iff.mp hHandled
    obtain ⟨after, response⟩ := handled
    obtain ⟨nowUnix, hTokens, -⟩ := tokens_handled hCourse
    rw [Option.elim_some, hTokens] at h
    exact lookup_redeem h

theorem lookup_relayAfter_of_le {n m : Nat} (hLe : n ≤ m) {key : String} {record : TokenRecord}
    (h : (e.relayAfter relay draws m).tokens.lookup key = some record) :
    (e.relayAfter relay draws n).tokens.lookup key = some record := by
  induction hLe with
  | refl => exact h
  | step _ ih => exact ih (lookup_relayAfter h)

/-- A one-time token is gone after the round in which the node was enrolled with it. -/
theorem WhitelistedIn.used {k : Nat} (h : e.WhitelistedIn relay draws (k + 1))
    (hOneTime : ∀ record, relay.tokens.lookup (tokenKey e.sha256 e.token) = some record →
      record.oneTime = true) :
    (e.relayAfter relay draws (k + 1)).tokens.lookup (tokenKey e.sha256 e.token) = none := by
  obtain ⟨course, after, hDecisive, hHandled⟩ := h
  rw [Nat.add_sub_cancel] at hHandled
  obtain ⟨nowUnix, hTokens, hOk⟩ := tokens_handled hHandled
  obtain ⟨oneTime, hRedeemed⟩ := hOk rfl
  obtain ⟨record, hRecord, rfl, hErased⟩ := of_redeem hRedeemed
  have hOne := hOneTime record (lookup_relayAfter_of_le (Nat.zero_le _) hRecord)
  rw [relayAfter, hDecisive, Option.bind_some, hHandled, Option.elim_some, hTokens, hErased hOne,
    AList.lookup_erase_eq_ite, if_pos rfl]

theorem redeem_invalid_iff {tokens : TokenStore} {sha256 : List UInt8 → String} {token : String}
    {nowUnix : Nat} :
    (tokens.redeem sha256 token nowUnix).2 = .invalid
      ↔ tokens.lookup (tokenKey sha256 token) = none := by
  unfold TokenStore.redeem
  split
  · next h => simp [h]
  · next record h =>
    dsimp only
    split <;> simp [h]

/-- A join that the relay has accepted in one round is reported as refused exactly if a
later round gets an answer. -/
theorem join_refused_iff (printable : Char → Bool) (e : Enrolling) (relay : EnrollRelay)
    (draws : Nat → JoinDraw) (proxy : Option SshProxy) (k : Nat)
    (hOneTime : ∀ record, relay.tokens.lookup (tokenKey e.sha256 e.token) = some record →
      record.oneTime = true)
    (hTried : e.TriedIn relay draws printable proxy k)
    (hWhitelisted : e.WhitelistedIn relay draws k) :
    Refused (e.join relay draws printable proxy) ↔
      ∃ m, k < m ∧ e.TriedIn relay draws printable proxy m ∧ e.AnsweredIn draws m := by
  obtain ⟨hMax, hReached⟩ := hTried
  obtain ⟨k, rfl⟩ : ∃ j, k = j + 1 := ⟨k - 1, by have := hReached.1; omega⟩
  obtain ⟨last, hLastLe, hLastReached, hLast, hEnd⟩ :=
    joinAttempts_last (e.once relay draws printable proxy) (joinMaxAttempts - 1) 1
  have hJoin : e.join relay draws printable proxy = e.once relay draws printable proxy last := hLast
  have hThree : 1 + (joinMaxAttempts - 1) = joinMaxAttempts := rfl
  rw [hJoin]
  constructor
  · intro hRefused
    obtain ⟨course, hDecisive, added, nowUnix, closed, saved, rfl, hInvalid⟩ :=
      refused_once_iff.mp hRefused
    -- Rounds before an accepted one are retried, and the accepted one is not refused.
    have hLe : k + 1 ≤ last := by
      by_contra hLt
      have := hEnd (hReached.2 last hLastReached.1 (by omega))
      omega
    have hNe : last ≠ k + 1 := by
      rintro rfl
      obtain ⟨other, after, hOther, hHandled⟩ := hWhitelisted
      obtain rfl : _ = other := Option.some.inj (hDecisive.symm.trans hOther)
      rw [Nat.add_sub_cancel] at hInvalid hHandled
      simp [Course.handled, handle, handleEnrollmentFrame, hInvalid] at hHandled
    exact ⟨last, by omega, ⟨by omega, hLastReached⟩, _, hDecisive, rfl⟩
  · rintro ⟨m, hLt, ⟨hMaxM, hReachedM⟩, course, hDecisive, hAnswered⟩
    -- The token is gone, so the answer is a refusal, and the join ends with it.
    have hGone : (e.relayAfter relay draws (m - 1)).tokens.lookup (tokenKey e.sha256 e.token)
        = none := by
      rw [Option.eq_none_iff_forall_ne_some]
      intro record hRecord
      have hKept := lookup_relayAfter_of_le (n := k + 1) (by omega) hRecord
      rw [hWhitelisted.used hOneTime] at hKept
      cases hKept
    have hRefused : Refused (e.once relay draws printable proxy m) := by
      refine refused_once_iff.mpr ⟨course, hDecisive, ?_⟩
      cases course with
      | answered added nowUnix closed saved =>
        exact ⟨added, nowUnix, closed, saved, rfl, redeem_invalid_iff.mpr hGone⟩
      | _ => cases hAnswered
    have hSame : last = m := by
      by_contra hNe
      obtain hBefore | hAfter := Nat.lt_or_gt_of_ne hNe
      · have := hEnd (hReachedM.2 last hLastReached.1 hBefore)
        omega
      · exact hRefused.not_retried (hLastReached.2 m hReachedM.1 hAfter)
    rw [hSame]
    exact hRefused

end Enrolling

/-! ## A lost response -/

/-- A node that joins with the one-time token `t`. -/
def enrollingOnce : Enrolling where
  sha256 _ := "digest of t"
  toLowercase text := text
  address := "relay.test:7474"
  token := "t"
  peerFingerprint := "ab"
  relayFingerprint := "cd"

def relayWithToken : EnrollRelay where
  tokens := AList.insert "digest of t" ⟨"t", 900, true⟩ ∅
  whitelist := ∅

/-- In the first round the response times out after the relay has enrolled the node; the
later ones go as given. -/
def lostThen (later : Course) (k : Nat) : JoinDraw where
  connector := .ok ()
  main := if k = 1 then .lost true 100 .responseTimedOut else later
  legacy := .dialFailed ""

theorem whitelistedIn_lostThen (later : Course) :
    enrollingOnce.WhitelistedIn relayWithToken (lostThen later) 1 :=
  ⟨.lost true 100 .responseTimedOut, ⟨_, {"ab"}⟩, rfl, rfl⟩

/-- Without an answer in the later rounds, the join is not refused. -/
theorem join_not_refused_unanswered :
    ¬Refused (enrollingOnce.join relayWithToken (lostThen (.dialFailed "refused"))
      (fun _ => true) none) := by
  rw [Enrolling.join_refused_iff (fun _ => true) enrollingOnce relayWithToken
    (lostThen (.dialFailed "refused")) none 1 (fun record h => by cases h; rfl)
    ⟨by decide, reached_self 1⟩ (whitelistedIn_lostThen _)]
  rintro ⟨m, hLt, -, course, hDecisive, hAnswered⟩
  have hDial : (lostThen (.dialFailed "refused") m).decisive enrollingOnce.address
      = some (.dialFailed "refused") := by
    simp only [lostThen, if_neg (Nat.ne_of_gt hLt)]
    rfl
  cases hDial.symm.trans hDecisive
  cases hAnswered

/-- The relay has the node on its whitelist, and the join ends with the refusal of its
token. -/
theorem join_refused_after_lost_response :
    enrollingOnce.WhitelistedIn relayWithToken (lostThen (.answered true 101 "" (.ok ()))) 1
      ∧ (enrollingOnce.relayAfter relayWithToken
        (lostThen (.answered true 101 "" (.ok ()))) 2).whitelist = {"ab"}
      ∧ enrollingOnce.join relayWithToken (lostThen (.answered true 101 "" (.ok ())))
        (fun _ => true) none = .ok (.error .tokenInvalid) :=
  ⟨whitelistedIn_lostThen _, rfl, rfl⟩

end WaitAgent.Relay
