import Mathlib.Data.Finset.Basic
import WaitAgent.Verified.HashMap
import WaitAgent.Verified.Run

/-!
# Answers to connect requests

A client that asks the state loop for a connect to a profile gets its answer when the connect has
finished.  While one is running for the profile, whether a client asked for it or the loop started
it from the snapshot, further clients wait for its result.

Every request is numbered here, so that two requests of one client for one profile can be told
apart; the source keeps only the id of the client, and no handler reads the number.
-/

namespace WaitAgent.Node

open Verified

/-- A `ConnectRemoteHost` of a client. -/
structure ConnectCommand where
  serial : Nat
  clientId : Nat
  profileName : String
  deriving DecidableEq, Repr

/-- What a client is answered. -/
inductive ConnectOutcome where
  | message (text : String)
  | error (text : String)
  deriving DecidableEq, Repr

structure ConnectResult where
  /-- The error of the connect, or what applying its outcome came to. -/
  outcome : Except String ConnectOutcome
  /-- The outcome asks for a join of a relay. -/
  relayJoin : Bool := false

/-- A thread that connects; without a command if the snapshot asked for it. -/
structure RunningConnect where
  profileName : String
  command : Option ConnectCommand
  deriving DecidableEq, Repr

/-- A response written to the client of the command. -/
structure ConnectAnswer where
  command : ConnectCommand
  outcome : ConnectOutcome
  deriving DecidableEq, Repr

structure ConnectQueue where
  connectingProfiles : Finset String := ∅
  connectWaiters : HashMap String (List ConnectCommand) := ∅
  running : List RunningConnect := []
  written : List ConnectAnswer := []
  /-- The clients for which a join of a relay was started; no client is 0. -/
  relayJoins : List Nat := []
  /-- All commands so far, oldest first. -/
  commands : List ConnectCommand := []

/-- An entry of the snapshot; it is skipped when its node is connected, has a session online, or
has a worker that reconnects it. -/
structure SnapshotEntry where
  profileName : String
  skipped : Bool := false

inductive ConnectLabel where
  | command (clientId : Nat) (profileName : String)
  | reconnectSnapshot (entries : List SnapshotEntry)
  /-- The thread at this place of `running` delivers its result. -/
  | result (thread : Nat) (result : ConnectResult)

namespace ConnectQueue

variable {s : ConnectQueue}

/-! ## The handlers -/

def connectRemoteHostTarget (s : ConnectQueue) (command : ConnectCommand) : ConnectQueue :=
  let profileName := command.profileName
  if profileName ∈ s.connectingProfiles then
    if command.clientId ≠ 0 then
      { s with
        connectWaiters := s.connectWaiters.insert profileName
          ((s.connectWaiters.lookup profileName).getD [] ++ [command]) }
    else
      { s with
        written := s.written ++ [⟨command,
          .error ("connect already in progress for profile `" ++ profileName ++ "`")⟩] }
  else
    { s with
      connectingProfiles := insert profileName s.connectingProfiles
      running := s.running ++ [⟨profileName, some command⟩] }

/-- One entry in the loop of `reconnect_snapshot_hosts`. -/
def reconnectEntry (s : ConnectQueue) (entry : SnapshotEntry) : ConnectQueue :=
  if entry.skipped ∨ entry.profileName ∈ s.connectingProfiles then s
  else
    { s with
      connectingProfiles := insert entry.profileName s.connectingProfiles
      running := s.running ++ [⟨entry.profileName, none⟩] }

/-- Whom the result of a connect is written to. -/
def recipients (s : ConnectQueue) (connect : RunningConnect) : List ConnectCommand :=
  connect.command.toList ++ (s.connectWaiters.lookup connect.profileName).getD []

/-- `RemoteHostConnectResult` and `SnapshotHostReconnectResult`, which differ in whether there is
a client that started the connect.  A relay is joined for the first of the recipients. -/
def finishConnect (s : ConnectQueue) (connect : RunningConnect) (result : ConnectResult) :
    ConnectQueue :=
  let recipients := s.recipients connect
  let answer (outcome : ConnectOutcome) : List ConnectAnswer :=
    recipients.map fun command => ⟨command, outcome⟩
  let s := { s with
    connectingProfiles := s.connectingProfiles.erase connect.profileName
    connectWaiters := s.connectWaiters.erase connect.profileName }
  match result.outcome with
  | .ok outcome =>
      { s with
        written := s.written ++ answer outcome
        relayJoins :=
          if result.relayJoin then
            s.relayJoins ++ [(recipients.head?.map ConnectCommand.clientId).getD 0]
          else s.relayJoins }
  | .error error => { s with written := s.written ++ answer (.error error) }

def step (s : ConnectQueue) : ConnectLabel → ConnectQueue
  | .command clientId profileName =>
      let command := ⟨s.commands.length, clientId, profileName⟩
      { s with commands := s.commands ++ [command] }.connectRemoteHostTarget command
  | .reconnectSnapshot entries => entries.foldl reconnectEntry s
  | .result thread result =>
      match s.running[thread]? with
      | none => s
      | some connect =>
          { s with running := s.running.eraseIdx thread }.finishConnect connect result

/-! ## Who waits -/

/-- The commands that wait for a connect. -/
def waiting (s : ConnectQueue) : List ConnectCommand := s.running.flatMap s.recipients

/-- The commands that were answered, one for each answer. -/
def answered (s : ConnectQueue) : List ConnectCommand := s.written.map ConnectAnswer.command

structure OneAnswer (s : ConnectQueue) : Prop where
  waiters : ∀ profileName ∈ s.connectWaiters, profileName ∈ s.connectingProfiles
  connecting : ∀ profileName,
    profileName ∈ s.connectingProfiles ↔ profileName ∈ s.running.map RunningConnect.profileName
  single : (s.running.map RunningConnect.profileName).Nodup
  own : ∀ connect ∈ s.running, ∀ command ∈ s.recipients connect,
    command.profileName = connect.profileName
  once : (s.waiting ++ s.answered).Perm s.commands

theorem OneAnswer.lookup_none (h : s.OneAnswer) {profileName : String}
    (hNot : profileName ∉ s.connectingProfiles) :
    s.connectWaiters.lookup profileName = none :=
  AList.lookup_eq_none.mpr fun hMem => hNot (h.waiters _ hMem)

/-- The connects beside one of them are for other profiles. -/
theorem profile_ne_of_split {before after : List RunningConnect} {connect other : RunningConnect}
    (hNodup : ((before ++ connect :: after).map RunningConnect.profileName).Nodup)
    (hOther : other ∈ before ++ after) : other.profileName ≠ connect.profileName := by
  rw [List.map_append, List.map_cons, List.nodup_middle, ← List.map_append,
    List.nodup_cons] at hNodup
  intro hSame
  exact hNodup.1 (hSame ▸ List.mem_map_of_mem hOther)

/-- New commands that wait. -/
theorem OneAnswer.once_added (h : s.OneAnswer) {waits added : List ConnectCommand}
    (hWaits : waits.Perm (s.waiting ++ added)) :
    (waits ++ s.answered).Perm (s.commands ++ added) := by
  have hSwap : (s.waiting ++ (added ++ s.answered)).Perm (s.waiting ++ (s.answered ++ added)) :=
    List.perm_append_comm.append_left _
  rw [← List.append_assoc, ← List.append_assoc] at hSwap
  exact (hWaits.append_right _).trans (hSwap.trans (h.once.append_right _))

/-! ## One step -/

/-- A connect for a profile that had none. -/
theorem oneAnswer_start (h : s.OneAnswer) {profileName : String}
    (command : Option ConnectCommand) (hNot : profileName ∉ s.connectingProfiles)
    (hOwn : ∀ c ∈ command, c.profileName = profileName) :
    OneAnswer { s with
      connectingProfiles := insert profileName s.connectingProfiles
      running := s.running ++ [⟨profileName, command⟩]
      commands := s.commands ++ command.toList } := by
  have hNone := h.lookup_none hNot
  refine ⟨?_, ?_, ?_, ?_, ?_⟩
  · intro other hMem
    exact Finset.mem_insert_of_mem (h.waiters other hMem)
  · intro other
    simp only [Finset.mem_insert, h.connecting other, List.map_append, List.mem_append,
      List.map_cons, List.map_nil, List.mem_singleton]
    tauto
  · rw [List.map_append, List.nodup_append]
    refine ⟨h.single, by simp, ?_⟩
    intro other hMem last hLast hSame
    simp only [List.map_cons, List.map_nil, List.mem_singleton] at hLast
    exact hNot ((h.connecting _).mpr (hLast ▸ hSame ▸ hMem))
  · intro connect hMem c hc
    rcases List.mem_append.mp hMem with hOld | hNew
    · exact h.own connect hOld c hc
    · rw [List.mem_singleton.mp hNew] at hc ⊢
      simp only [recipients, hNone, Option.getD_none, List.append_nil, Option.mem_toList] at hc
      exact hOwn c hc
  · have hWaiting : waiting { s with
        connectingProfiles := insert profileName s.connectingProfiles
        running := s.running ++ [⟨profileName, command⟩]
        commands := s.commands ++ command.toList } = s.waiting ++ command.toList := by
      simp only [waiting, List.flatMap_append, List.flatMap_singleton]
      show s.running.flatMap s.recipients ++ s.recipients ⟨profileName, command⟩ = _
      simp [recipients, hNone]
    exact h.once_added (.of_eq hWaiting)

/-- A command joins the connect that is running for its profile. -/
theorem oneAnswer_join (h : s.OneAnswer) (command : ConnectCommand)
    (hMem : command.profileName ∈ s.connectingProfiles) :
    OneAnswer { s with
      connectWaiters := s.connectWaiters.insert command.profileName
        ((s.connectWaiters.lookup command.profileName).getD [] ++ [command])
      commands := s.commands ++ [command] } := by
  obtain ⟨connect, hRunning, hProfile⟩ := List.mem_map.mp ((h.connecting _).mp hMem)
  obtain ⟨before, after, hSplit⟩ := List.append_of_mem hRunning
  have hSingle := h.single
  rw [hSplit] at hSingle
  generalize hNext : ({ s with
    connectWaiters := s.connectWaiters.insert command.profileName
      ((s.connectWaiters.lookup command.profileName).getD [] ++ [command])
    commands := s.commands ++ [command] } : ConnectQueue) = next
  have hJoined : next.recipients connect = s.recipients connect ++ [command] := by
    rw [← hNext, recipients, recipients, hProfile, AList.lookup_insert, Option.getD_some,
      List.append_assoc]
  have hOther {other : RunningConnect} (hNe : other.profileName ≠ connect.profileName) :
      next.recipients other = s.recipients other := by
    simp [← hNext, recipients, AList.lookup_insert_ne (hProfile ▸ hNe)]
  have hFrame : next.connectingProfiles = s.connectingProfiles ∧ next.running = s.running ∧
      next.answered = s.answered ∧ next.commands = s.commands ++ [command] := by
    subst hNext
    exact ⟨rfl, rfl, rfl, rfl⟩
  obtain ⟨hProfiles, hSame, hAnswered, hCommands⟩ := hFrame
  refine ⟨?_, ?_, ?_, ?_, ?_⟩
  · intro other hOtherMem
    rw [← hNext, AList.mem_insert] at hOtherMem
    rw [hProfiles]
    rcases hOtherMem with rfl | hOld
    · exact hMem
    · exact h.waiters other hOld
  · rw [hProfiles, hSame]
    exact h.connecting
  · rw [hSame]
    exact h.single
  · intro other hOtherMem c hc
    rw [hSame] at hOtherMem
    by_cases hNe : other.profileName = connect.profileName
    · obtain rfl : other = connect := List.inj_on_of_nodup_map h.single hOtherMem hRunning hNe
      rw [hJoined, List.mem_append, List.mem_singleton] at hc
      rcases hc with hOld | rfl
      · exact h.own _ hOtherMem c hOld
      · exact hProfile.symm
    · rw [hOther hNe] at hc
      exact h.own _ hOtherMem c hc
  · have hRest (part : List RunningConnect) (hPart : ∀ other ∈ part, other ∈ before ++ after) :
        part.flatMap next.recipients = part.flatMap s.recipients :=
      List.flatMap_congr fun other hOtherMem =>
        hOther (profile_ne_of_split hSingle (hPart other hOtherMem))
    have hWaiting : next.waiting.Perm (s.waiting ++ [command]) := by
      rw [waiting, waiting, hSame, hSplit]
      simp only [List.flatMap_append, List.flatMap_cons, hJoined,
        hRest before (fun _ => List.mem_append_left _), hRest after
          (fun _ => List.mem_append_right _), List.append_assoc]
      exact (List.perm_append_comm.append_left _).append_left _
    rw [hAnswered, hCommands]
    exact h.once_added hWaiting

/-- A command that is answered at once. -/
theorem oneAnswer_reject (h : s.OneAnswer) (command : ConnectCommand) (outcome : ConnectOutcome) :
    OneAnswer { s with
      written := s.written ++ [⟨command, outcome⟩]
      commands := s.commands ++ [command] } where
  waiters := h.waiters
  connecting := h.connecting
  single := h.single
  own := h.own
  once := by
    show (s.waiting ++ (s.written ++ [_]).map ConnectAnswer.command).Perm _
    rw [List.map_append, ← List.append_assoc]
    exact h.once.append_right _

theorem oneAnswer_reconnect (entries : List SnapshotEntry) :
    ∀ s : ConnectQueue, s.OneAnswer → (entries.foldl reconnectEntry s).OneAnswer := by
  induction entries with
  | nil => exact fun s h => h
  | cons entry entries ih =>
    intro s h
    refine ih _ ?_
    unfold reconnectEntry
    split_ifs with hSkip
    · exact h
    · have hStart := oneAnswer_start h none (fun hMem => hSkip (.inr hMem))
        fun c hc => by cases hc
      rwa [Option.toList_none, List.append_nil] at hStart

/-- What `finishConnect` does to the parts the invariant speaks of, for either outcome. -/
theorem finishConnect_frame (s : ConnectQueue) (connect : RunningConnect)
    (result : ConnectResult) :
    let next := s.finishConnect connect result
    next.connectingProfiles = s.connectingProfiles.erase connect.profileName ∧
      next.connectWaiters = s.connectWaiters.erase connect.profileName ∧
      next.running = s.running ∧ next.answered = s.answered ++ s.recipients connect ∧
      next.commands = s.commands := by
  cases hResult : result.outcome <;>
    simp [finishConnect, hResult, answered, Function.comp_def]

theorem oneAnswer_result (h : s.OneAnswer) {thread : Nat} {connect : RunningConnect}
    (hThread : s.running[thread]? = some connect) (result : ConnectResult) :
    OneAnswer ({ s with running := s.running.eraseIdx thread }.finishConnect connect result) := by
  obtain ⟨hProfiles, hWaiters, hRunning, hAnswered, hCommands⟩ :=
    finishConnect_frame { s with running := s.running.eraseIdx thread } connect result
  generalize finishConnect { s with running := s.running.eraseIdx thread } connect result = next
    at hProfiles hWaiters hRunning hAnswered hCommands
  obtain ⟨hLt, hGet⟩ := List.getElem?_eq_some_iff.mp hThread
  have hSplit : s.running = s.running.take thread ++ connect :: s.running.drop (thread + 1) := by
    rw [← hGet, List.getElem_cons_drop, List.take_append_drop]
  have hErase : s.running.eraseIdx thread =
      s.running.take thread ++ s.running.drop (thread + 1) := List.eraseIdx_eq_take_drop_succ ..
  have hSingle := h.single
  rw [hSplit] at hSingle
  have hNe {other : RunningConnect} (hMem : other ∈ s.running.eraseIdx thread) :
      other.profileName ≠ connect.profileName :=
    profile_ne_of_split hSingle (hErase ▸ hMem)
  have hOther {other : RunningConnect} (hMem : other ∈ s.running.eraseIdx thread) :
      next.recipients other = s.recipients other := by
    simp only [recipients, hWaiters, AList.lookup_erase_ne (hNe hMem)]
  refine ⟨?_, ?_, ?_, ?_, ?_⟩
  · intro profileName hMem
    rw [hWaiters, AList.mem_erase] at hMem
    rw [hProfiles]
    exact Finset.mem_erase.mpr ⟨hMem.1, h.waiters _ hMem.2⟩
  · intro profileName
    rw [hProfiles, Finset.mem_erase, h.connecting, hRunning]
    show _ ↔ profileName ∈ (s.running.eraseIdx thread).map RunningConnect.profileName
    rw [hErase]
    nth_rewrite 1 [hSplit]
    simp only [List.map_append, List.map_cons, List.mem_append, List.mem_cons]
    constructor
    · rintro ⟨hNot, hBefore | rfl | hAfter⟩
      · exact .inl hBefore
      · exact absurd rfl hNot
      · exact .inr hAfter
    · intro hMem
      rw [← List.mem_append, ← List.map_append, ← hErase] at hMem
      obtain ⟨other, hOtherMem, rfl⟩ := List.mem_map.mp hMem
      refine ⟨hNe hOtherMem, ?_⟩
      rw [hErase] at hOtherMem
      rcases List.mem_append.mp hOtherMem with hBefore | hAfter
      · exact .inl (List.mem_map_of_mem hBefore)
      · exact .inr (.inr (List.mem_map_of_mem hAfter))
  · rw [hRunning]
    exact h.single.sublist ((List.eraseIdx_sublist ..).map _)
  · intro other hMem c hc
    rw [hRunning] at hMem
    rw [hOther hMem] at hc
    exact h.own other (List.mem_of_mem_eraseIdx hMem) c hc
  · have hRest : next.waiting = (s.running.eraseIdx thread).flatMap s.recipients := by
      rw [waiting, hRunning]
      exact List.flatMap_congr fun other hMem => hOther hMem
    have hWaiting : s.waiting.Perm (next.waiting ++ s.recipients connect) := by
      rw [hRest, hErase, waiting]
      nth_rewrite 1 [hSplit]
      simp only [List.flatMap_append, List.flatMap_cons, List.append_assoc]
      exact List.perm_append_comm.append_left _
    rw [hAnswered, hCommands]
    refine (List.perm_append_comm.append_left _).trans ?_
    rw [← List.append_assoc]
    exact (hWaiting.symm.append_right _).trans h.once

theorem oneAnswer_step (h : s.OneAnswer) (l : ConnectLabel) : (s.step l).OneAnswer := by
  cases l with
  | command clientId profileName =>
    simp only [step, connectRemoteHostTarget]
    split_ifs with hMem hClient
    · exact oneAnswer_join h ⟨_, clientId, profileName⟩ hMem
    · exact oneAnswer_reject h _ _
    · exact oneAnswer_start h (some ⟨_, clientId, profileName⟩) hMem fun c hc => by cases hc; rfl
  | reconnectSnapshot entries => exact oneAnswer_reconnect entries s h
  | result thread result =>
    simp only [step]
    split
    · exact h
    · next hThread => exact oneAnswer_result h hThread result

/-! ## The commands of a run -/

def ConnectLabel.request : ConnectLabel → Option (Nat × String)
  | .command clientId profileName => some (clientId, profileName)
  | _ => none

/-- The requests as commands, numbered from `first`. -/
def numbered (requests : List (Nat × String)) (first : Nat) : List ConnectCommand :=
  (requests.zipIdx first).map fun request => ⟨request.2, request.1.1, request.1.2⟩

theorem commands_step (s : ConnectQueue) (l : ConnectLabel) :
    (s.step l).commands =
      s.commands ++ numbered (ConnectLabel.request l).toList s.commands.length := by
  cases l with
  | command clientId profileName =>
    simp only [step, connectRemoteHostTarget]
    split_ifs <;> rfl
  | reconnectSnapshot entries =>
    have hKept (s : ConnectQueue) : (entries.foldl reconnectEntry s).commands = s.commands := by
      induction entries generalizing s with
      | nil => rfl
      | cons entry entries ih =>
        rw [List.foldl_cons, ih, reconnectEntry]
        split_ifs <;> rfl
    simpa [step, numbered, ConnectLabel.request] using hKept s
  | result thread result =>
    simp only [step]
    split
    · simp [numbered, ConnectLabel.request]
    · rw [(finishConnect_frame _ _ _).2.2.2.2]
      simp [numbered, ConnectLabel.request]

theorem commands_run (labels : List ConnectLabel) :
    ∀ s : ConnectQueue, (run step s labels).commands =
      s.commands ++ numbered (labels.filterMap ConnectLabel.request) s.commands.length := by
  induction labels with
  | nil => simp [numbered]
  | cons l labels ih =>
    intro s
    rw [run_cons, ih, commands_step]
    cases hRequest : ConnectLabel.request l with
    | none => simp [numbered, List.filterMap_cons_none hRequest]
    | some request => simp [numbered, List.filterMap_cons_some hRequest]

theorem numbered_nodup (requests : List (Nat × String)) (first : Nat) :
    (numbered requests first).Nodup := by
  refine List.Nodup.of_map ConnectCommand.serial ?_
  rw [numbered, List.map_map]
  show ((requests.zipIdx first).map Prod.snd).Nodup
  rw [List.zipIdx_map_snd]
  exact List.nodup_range'

/-! ## Every run -/

/-- Every connect request gets exactly one answer.  In every run, the profiles that are waited for
are being connected, and no profile is connected twice at a time; each command so far is answered
once or waits, and not both; and a command that waits is answered, with those beside it, by the
step in which the connect for its profile finishes, which is running. -/
theorem each_connect_answered_once (labels : List ConnectLabel) :
    let s := run step {} labels
    (∀ profileName ∈ s.connectWaiters, profileName ∈ s.connectingProfiles) ∧
      (s.running.map RunningConnect.profileName).Nodup ∧
      s.commands = numbered (labels.filterMap ConnectLabel.request) 0 ∧
      (s.waiting ++ s.answered).Perm s.commands ∧ (s.waiting ++ s.answered).Nodup ∧
      (∀ command ∈ s.waiting, ∃ thread connect, s.running[thread]? = some connect ∧
        connect.profileName = command.profileName ∧
        ∀ result, ((s.step (.result thread result)).answered.count command = 1) ∧
          command ∉ (s.step (.result thread result)).waiting) := by
  intro s
  have hInv : s.OneAnswer := by
    refine run_invariant (I := OneAnswer) (fun _ l h => oneAnswer_step h l) labels {} ?_
    exact ⟨by simp, by simp, by simp, by simp, by simp [waiting, answered]⟩
  have hCommands : s.commands = numbered (labels.filterMap ConnectLabel.request) 0 := by
    simpa using commands_run labels {}
  have hNodup : s.commands.Nodup := hCommands ▸ numbered_nodup _ _
  refine ⟨hInv.waiters, hInv.single, hCommands, hInv.once, hInv.once.nodup_iff.mpr hNodup, ?_⟩
  intro command hWaits
  obtain ⟨connect, hRunning, hRecipient⟩ := List.mem_flatMap.mp hWaits
  obtain ⟨thread, hThread⟩ := List.getElem?_of_mem hRunning
  refine ⟨thread, connect, hThread, (hInv.own _ hRunning _ hRecipient).symm, fun result => ?_⟩
  have hStep : s.step (.result thread result) =
      { s with running := s.running.eraseIdx thread }.finishConnect connect result := by
    simp only [step, hThread]
  obtain ⟨-, -, -, hAnswered, hSame⟩ :=
    finishConnect_frame { s with running := s.running.eraseIdx thread } connect result
  have hNext := oneAnswer_step hInv (.result thread result)
  have hUnique : ((s.step (.result thread result)).waiting ++
      (s.step (.result thread result)).answered).Nodup :=
    hNext.once.nodup_iff.mpr (by rw [hStep, hSame]; exact hNodup)
  have hMem : command ∈ (s.step (.result thread result)).answered := by
    rw [hStep, hAnswered]
    exact List.mem_append_right _ hRecipient
  rw [List.nodup_append] at hUnique
  exact ⟨List.count_eq_one_of_mem hUnique.2.1 hMem,
    fun hStill => hUnique.2.2 _ hStill _ hMem rfl⟩

end ConnectQueue

end WaitAgent.Node
