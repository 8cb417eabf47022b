import WaitAgent.Remote.SyncLoop

/-!
# The authority hosts of the session sync

`SessionSyncAuthorityManager` spawns a host for a target when a command comes for it, reuses it
for later commands, and replaces it when it cannot be reached.  A host that leaves the table is
to be shut down.  It is not on two paths: when the check before a delivery finds it closed, and
when a delivery fails that is already the second attempt.
-/

namespace WaitAgent.Remote

open Verified

inductive AuthorityHostSignal where
  | ready
  | starting
  | closed
  deriving DecidableEq, Repr

/-- What the backend answers in one attempt to deliver a command. -/
structure HostAnswers where
  /-- The stored host is running, and so are its threads. -/
  healthy : Bool := true
  rebound : Except String Unit := .ok ()
  spawned : Except String Unit := .ok ()
  /-- `authority_host_signal` for the stored host. -/
  signal : AuthorityHostSignal := .ready
  delivered : Except String AuthorityHostSignal := .ok .ready

structure HostManager where
  runningHosts : HashMap String AuthorityTargetHost := ∅
  /-- Hosts are numbered in the order in which they are spawned. -/
  nextHost : Nat := 0
  /-- The hosts that were shut down, oldest first. -/
  shutDown : List Nat := []

inductive HostLabel where
  /-- A command for a target over a session, with the answers to both attempts. -/
  | command (session target : String) (first second : HostAnswers)
  | targetExited (nodeId qualifiedTarget : String)
  | shutdown

namespace HostManager

/-! ## The manager -/

/-- The entry goes; nobody tells the host. -/
def dropHost (m : HostManager) (target : String) : HostManager :=
  { m with runningHosts := m.runningHosts.erase target }

/-- The entry goes, and the host is shut down. -/
def stopHost (m : HostManager) (target : String) : HostManager :=
  { m.dropHost target with
    shutDown := m.shutDown ++ ((m.runningHosts.lookup target).map AuthorityTargetHost.host).toList }

def spawnHost (m : HostManager) (answers : HostAnswers) (session target : String) :
    Except String Unit × HostManager :=
  match answers.spawned with
  | .error error => (.error error, m)
  | .ok () =>
      (.ok (), { m with
        runningHosts := m.runningHosts.insert target ⟨session, m.nextHost⟩
        nextHost := m.nextHost + 1 })

/-- `ensure_authority_host`. -/
def ensureAuthorityHost (m : HostManager) (answers : HostAnswers) (session target : String) :
    Except String Unit × HostManager :=
  match m.runningHosts.lookup target with
  | some host =>
      if answers.healthy then
        (answers.rebound, { m with
          runningHosts := m.runningHosts.insert target { host with
            boundSessionInstanceId := session } })
      else (m.stopHost target).spawnHost answers session target
  | none => m.spawnHost answers session target

def closedBefore (target : String) : String :=
  "authority host for `" ++ target ++ "` closed before accepting command"

/-- The body of `deliver_with_host_rebuild`; `again` is what it does after a rebuild, which there
is only one of. -/
def deliver (m : HostManager) (answers : HostAnswers) (target : String) (rebuilt : Bool)
    (again : HostManager → Except String Unit × HostManager) : Except String Unit × HostManager :=
  match m.runningHosts.lookup target with
  | none =>
      -- no host counts as a closed one, so the later "authority host cache lost entry" of the
      -- source is never met
      if rebuilt then (.error (closedBefore target), m) else again (m.dropHost target)
  | some _ =>
      if answers.signal = .closed then
        if rebuilt then (.error (closedBefore target), m) else again (m.dropHost target)
      else
        match answers.delivered with
        | .error error => (.error error, m)
        | .ok .ready => (.ok (), m)
        | .ok .starting =>
            (.error ("authority host for `" ++ target ++ "` did not become ready"), m)
        | .ok .closed =>
            if rebuilt then (.error (closedBefore target), m.dropHost target)
            else again (m.stopHost target)

/-- Another host, and the second attempt. -/
def rebuild (m : HostManager) (answers : HostAnswers) (session target : String) :
    Except String Unit × HostManager :=
  match m.ensureAuthorityHost answers session target with
  | (.error error, m) => (.error error, m)
  | (.ok (), m) => m.deliver answers target true fun m => (.ok (), m)

/-- `ensure_and_send_command`. -/
def ensureAndSendCommand (m : HostManager) (session target : String)
    (first second : HostAnswers) : Except String Unit × HostManager :=
  let again := fun m : HostManager => m.rebuild second session target
  if target.isEmpty then m.deliver first target false again
  else
    match m.ensureAuthorityHost first session target with
    | (.error error, m) => (.error error, m)
    | (.ok (), m) => m.deliver first target false again

/-- `handle_local_target_exited`. -/
def handleLocalTargetExited (m : HostManager) (nodeId qualifiedTarget : String) : HostManager :=
  match rsplitOnce ':' qualifiedTarget with
  | none => m
  | some (_, sessionId) => m.stopHost (nodeId ++ ":" ++ sessionId)

def shutdown (m : HostManager) : HostManager :=
  { m with
    runningHosts := ∅
    shutDown := m.shutDown ++ m.runningHosts.values.map AuthorityTargetHost.host }

def step (m : HostManager) : HostLabel → HostManager
  | .command session target first second => (m.ensureAndSendCommand session target first second).2
  | .targetExited nodeId qualifiedTarget => m.handleLocalTargetExited nodeId qualifiedTarget
  | .shutdown => m.shutdown

/-! ## Where the hosts are -/

/-- How many entries hold the host. -/
def stored (m : HostManager) (host : Nat) : Nat :=
  AList.sumValues (fun entry => if entry.host = host then 1 else 0) m.runningHosts

/-- Every host that was spawned is stored or was shut down, exactly once. -/
def NoneLeaked (m : HostManager) : Prop :=
  ∀ host, m.stored host + m.shutDown.count host = if host < m.nextHost then 1 else 0

/-- No host is found closed before the first delivery, and none on the second. -/
def FindsOpen : HostLabel → Prop
  | .command _ _ first second => first.signal ≠ .closed ∧ second.delivered ≠ .ok .closed
  | _ => True

variable {m : HostManager} {answers : HostAnswers} {session target : String}

theorem noneLeaked_stopHost (h : m.NoneLeaked) (target : String) :
    (m.stopHost target).NoneLeaked := by
  intro host
  have hErase := AList.sumValues_erase
    (fun entry : AuthorityTargetHost => if entry.host = host then 1 else 0) m.runningHosts target
  have hHost := h host
  show AList.sumValues _ (m.runningHosts.erase target) + List.count host (m.shutDown ++ _) =
    if host < m.nextHost then 1 else 0
  rw [List.count_append]
  simp only [stored] at hHost
  cases hEntry : m.runningHosts.lookup target with
  | none =>
    rw [hEntry] at hErase
    simp only [Option.map_none, Option.getD_none, Option.toList_none, List.count_nil] at hErase ⊢
    omega
  | some entry =>
    rw [hEntry] at hErase
    simp only [Option.map_some, Option.getD_some, Option.toList_some, List.count_singleton,
      beq_iff_eq] at hErase ⊢
    omega

/-- Without an entry there is nothing to leak. -/
theorem noneLeaked_dropHost (h : m.NoneLeaked) (hNone : m.runningHosts.lookup target = none) :
    (m.dropHost target).NoneLeaked := by
  have hStop := noneLeaked_stopHost h target
  rwa [stopHost, hNone, Option.map_none, Option.toList_none, List.append_nil] at hStop

theorem noneLeaked_spawnHost (h : m.NoneLeaked) (hNone : m.runningHosts.lookup target = none) :
    (m.spawnHost answers session target).2.NoneLeaked := by
  unfold spawnHost
  split
  · exact h
  · intro host
    have hInsert := AList.sumValues_insert
      (fun entry : AuthorityTargetHost => if entry.host = host then 1 else 0) m.runningHosts target
      ⟨session, m.nextHost⟩
    have hHost := h host
    simp only [stored, hNone, Option.map_none, Option.getD_none] at hHost hInsert ⊢
    split_ifs at hHost hInsert ⊢ <;> omega

theorem noneLeaked_ensure (h : m.NoneLeaked) (answers : HostAnswers) (session target : String) :
    (m.ensureAuthorityHost answers session target).2.NoneLeaked := by
  unfold ensureAuthorityHost
  split
  · next entry hEntry =>
    split_ifs
    · intro host
      have hInsert := AList.sumValues_insert
        (fun entry : AuthorityTargetHost => if entry.host = host then 1 else 0) m.runningHosts
        target { entry with boundSessionInstanceId := session }
      have hHost := h host
      simp only [stored, hEntry, Option.map_some, Option.getD_some] at hHost hInsert ⊢
      omega
    · refine noneLeaked_spawnHost (noneLeaked_stopHost h target) ?_
      exact AList.lookup_erase target m.runningHosts
  · next hNone => exact noneLeaked_spawnHost h hNone

theorem noneLeaked_deliver (h : m.NoneLeaked) {rebuilt : Bool}
    {again : HostManager → Except String Unit × HostManager}
    (hSignal : rebuilt = false → answers.signal ≠ .closed)
    (hDelivered : rebuilt = true → answers.delivered ≠ .ok .closed)
    (hAgain : ∀ m, NoneLeaked m → (again m).2.NoneLeaked) :
    (m.deliver answers target rebuilt again).2.NoneLeaked := by
  unfold deliver
  split
  · next hNone =>
    split_ifs
    · exact h
    · exact hAgain _ (noneLeaked_dropHost h hNone)
  · by_cases hClosed : answers.signal = .closed
    · rw [if_pos hClosed]
      split_ifs with hRebuilt
      · exact h
      · exact absurd hClosed (hSignal (by simpa using hRebuilt))
    · rw [if_neg hClosed]
      split
      · exact h
      · exact h
      · exact h
      · next hLost =>
        split_ifs with hRebuilt
        · exact absurd hLost (hDelivered hRebuilt)
        · exact hAgain _ (noneLeaked_stopHost h target)

theorem noneLeaked_rebuild (h : m.NoneLeaked) (hDelivered : answers.delivered ≠ .ok .closed) :
    (m.rebuild answers session target).2.NoneLeaked := by
  have hEnsured := noneLeaked_ensure h answers session target
  unfold rebuild
  split
  · next hCase =>
    rw [hCase] at hEnsured
    exact hEnsured
  · next hCase =>
    rw [hCase] at hEnsured
    exact noneLeaked_deliver hEnsured (fun hFirst => by cases hFirst) (fun _ => hDelivered)
      fun _ hNext => hNext

theorem noneLeaked_step (h : m.NoneLeaked) {l : HostLabel} (hOpen : FindsOpen l) :
    (m.step l).NoneLeaked := by
  cases l with
  | command session target first second =>
    have hAgain (m : HostManager) (hm : m.NoneLeaked) :
        (m.rebuild second session target).2.NoneLeaked := noneLeaked_rebuild hm hOpen.2
    have hEnsured := noneLeaked_ensure h first session target
    simp only [step, ensureAndSendCommand]
    split_ifs
    · exact noneLeaked_deliver h (fun _ => hOpen.1) (fun hLater => by cases hLater) hAgain
    · split
      · next hCase =>
        rw [hCase] at hEnsured
        exact hEnsured
      · next hCase =>
        rw [hCase] at hEnsured
        exact noneLeaked_deliver hEnsured (fun _ => hOpen.1) (fun hLater => by cases hLater)
          hAgain
  | targetExited nodeId qualifiedTarget =>
    simp only [step, handleLocalTargetExited]
    split
    · exact h
    · exact noneLeaked_stopHost h _
  | shutdown =>
    intro host
    have hHost := h host
    have hCount : ∀ entries : List AuthorityTargetHost,
        (entries.map AuthorityTargetHost.host).count host =
          (entries.map fun entry => if entry.host = host then 1 else 0).sum := by
      intro entries
      induction entries with
      | nil => rfl
      | cons entry entries ih =>
        simp only [List.map_cons, List.count_cons, List.sum_cons, beq_iff_eq, ih]
        omega
    show 0 + List.count host (m.shutDown ++ m.runningHosts.values.map AuthorityTargetHost.host) =
      if host < m.nextHost then 1 else 0
    simp only [stored, AList.sumValues] at hHost
    rw [List.count_append, hCount]
    omega

/-! ## Every run -/

/-- No host is leaked in a run whose commands find their hosts open. -/
theorem no_host_is_leaked (labels : List HostLabel) (hOpen : ∀ l ∈ labels, FindsOpen l) :
    Always step NoneLeaked {} labels := by
  refine Always.of_eachStep (I := NoneLeaked) (P := fun _ l => FindsOpen l)
    (fun m l h hStep => noneLeaked_step h hStep) (fun _ h => h) labels _
    (EachStep.of_forall labels _ fun l hMem _ => hOpen l hMem) fun host => ?_
  simp [stored, AList.sumValues, AList.values]

/-- The first delivery fails, and the rebuilt host takes the command; then the target exits. -/
def rebuiltOnce : List HostLabel :=
  [.command "s" "n:1" { delivered := .ok .closed } {}, .targetExited "n" "local:1"]

theorem rebuilt_once_leaks_none : Always step NoneLeaked {} rebuiltOnce := by
  refine no_host_is_leaked rebuiltOnce ?_
  simp [rebuiltOnce, FindsOpen]

/-- Both deliveries fail: the second host is neither stored nor shut down. -/
theorem second_failure_leaks_host :
    ¬NoneLeaked (step {} (.command "s" "n:1" { delivered := .ok .closed }
      { delivered := .ok .closed })) := by
  intro h
  have hSecond := h 1
  revert hSecond
  decide +kernel

end HostManager

end WaitAgent.Remote
