import WaitAgent.Relay.Join
import WaitAgent.Verified.Threads

/-!
# Joins and removals at the same time

Joins and removals of the pinned relay run on threads of their own and meet in the one
file.  A join reads the pin, enrolls, writes the new pin and only then compares it with
the one it has read, which it restores if they differ.  One join at a time changes no
pinned fingerprint; two can.
-/

namespace WaitAgent.Relay

open Verified Net

/-! ## Threads -/

structure JoinJob where
  address : String
  token : String
  force : Bool
  useProxy : Bool

/-- `decide_relay_join_pin`. -/
def pinMismatch (previous : Option RelayTomlConfig) (joinedFingerprint : String) (force : Bool) :
    Option RelayTomlConfig :=
  previous.filter fun previous => !force && previous.relayFingerprint != joinedFingerprint

inductive PinRequest where
  | join (job : JoinJob)
  | remove

/-- What a thread does next.  A write to the file opens it, which empties it, and then
writes the text. -/
inductive PinThread where
  | readPin (job : JoinJob)
  | resolveProxy (job : JoinJob) (previous : Option RelayTomlConfig)
  | enroll (job : JoinJob) (previous : Option RelayTomlConfig) (proxy : Option SshProxy)
  | openPin (job : JoinJob) (previous : Option RelayTomlConfig) (config : RelayTomlConfig)
  | writePin (job : JoinJob) (previous : Option RelayTomlConfig) (config : RelayTomlConfig)
  | decidePin (job : JoinJob) (previous : Option RelayTomlConfig) (config : RelayTomlConfig)
  | openRestored (previous : RelayTomlConfig)
  | writeRestored (previous : RelayTomlConfig)
  | reloadPin
  | checkFile
  | unlink

/-- What the environment of a thread decides: the active proxy profile, what the network
answers, whether the file can be opened, what a failed write leaves in it, and whether it
can be removed. -/
structure PinDraw where
  proxy : Except String (Option SshProxy)
  rounds : Nat → Round
  opened : Bool
  left : Option String
  unlinked : Bool

section

variable (printable : Char → Bool) (toLowercase : String → String)

/-- `perform_relay_join` and `perform_relay_remove`, step by step, as far as they act on
the file. -/
def pinBehave (draw : PinDraw) (file : Option String) :
    PinThread → Option String × Option PinThread
  | .readPin job => (file, some (.resolveProxy job (currentRelayPin printable file)))
  | .resolveProxy job previous =>
      if job.useProxy then
        match draw.proxy with
        | .ok proxy => (file, some (.enroll job previous proxy))
        | .error _ => (file, none)
      else (file, some (.enroll job previous none))
  | .enroll job previous proxy =>
      match joinRelay printable toLowercase job.address job.token proxy draw.rounds with
      | .ok (.ok config) => (file, some (.openPin job previous config))
      | _ => (file, none)
  | .openPin job previous config =>
      if draw.opened then (some "", some (.writePin job previous config)) else (file, none)
  | .writePin job previous config =>
      match draw.left with
      | none => (some (serializeRelayToml config), some (.decidePin job previous config))
      | some left => (some left, none)
  | .decidePin job previous config =>
      match pinMismatch previous config.relayFingerprint job.force with
      | some previous => (file, some (.openRestored previous))
      | none => (file, some .reloadPin)
  | .openRestored previous =>
      if draw.opened then (some "", some (.writeRestored previous)) else (file, none)
  | .writeRestored previous =>
      match draw.left with
      | none => (some (serializeRelayToml previous), none)
      | some left => (some left, none)
  | .reloadPin => (file, none)
  | .checkFile => if file.isSome then (file, some .unlink) else (file, none)
  | .unlink => (if draw.unlinked then none else file, none)

def pinThreads : ThreadMachine (Option String) PinRequest PinThread PinDraw Empty where
  start _
    | .join job => .readPin job
    | .remove => .checkFile
  behave _ draw file thread := pinBehave printable toLowercase draw file thread
  react _ event := nomatch event

/-- The fingerprint that the file pins. -/
def pinned (file : Option String) : Option String :=
  (currentRelayPin printable file).map RelayTomlConfig.relayFingerprint

end

abbrev PinState := Threads (Option String) PinThread

abbrev PinLabel := ThreadLabel PinRequest PinDraw Empty

/-- A forced join or a removal begins. -/
def Switches : PinLabel → Prop
  | .start _ (.join job) => job.force = true
  | .start _ .remove => True
  | _ => False

/-- No join or removal is in progress. -/
def Quiet (s : PinState) : Prop :=
  ∀ id, s.threads.lookup id = none

/-- One join at a time, and every write to the file succeeds. -/
def OneByOne (s : PinState) : PinLabel → Prop
  | .start _ _ => Quiet s
  | .advance _ draw => draw.opened = true ∧ draw.left = none
  | .outside _ => True

/-! ## One join -/

section

variable {printable : Char → Bool} {toLowercase : String → String} {f : String}

/-- The pin that a join has read. -/
def Anchor (f : String) (previous : Option RelayTomlConfig) : Prop :=
  ∃ pin, previous = some pin ∧ pin.relayFingerprint = f ∧ ValidPin pin

variable (printable) in
/-- What an unforced join knows at each point of the pin `f` that was there before it. -/
def Guards (f : String) (file : Option String) : PinThread → Prop
  | .readPin job => job.force = false ∧ pinned printable file = some f
  | .resolveProxy job previous | .enroll job previous _ =>
      job.force = false ∧ Anchor f previous ∧ pinned printable file = some f
  | .openPin job previous config =>
      job.force = false ∧ Anchor f previous ∧ pinned printable file = some f ∧
        (parseRelayAddress config.address).isOk ∧ config.heartbeatIntervalSecs = none
  | .writePin job previous config =>
      job.force = false ∧ Anchor f previous ∧
        (parseRelayAddress config.address).isOk ∧ config.heartbeatIntervalSecs = none
  | .decidePin job previous config =>
      job.force = false ∧ Anchor f previous ∧ file = some (serializeRelayToml config) ∧
        (parseRelayAddress config.address).isOk ∧ config.heartbeatIntervalSecs = none
  | .openRestored previous | .writeRestored previous =>
      previous.relayFingerprint = f ∧ ValidPin previous
  | .reloadPin => pinned printable file = some f
  | .checkFile | .unlink => False

theorem pinned_serialize {config : RelayTomlConfig} (h : ValidPin config) :
    pinned printable (some (serializeRelayToml config)) = some config.relayFingerprint := by
  rw [pinned, currentRelayPin_serialize h]
  rfl

theorem anchor_current {file : Option String} (h : pinned printable file = some f) :
    Anchor f (currentRelayPin printable file) := by
  obtain ⟨pin, hPin, hFingerprint⟩ := Option.map_eq_some_iff.mp h
  exact ⟨pin, hPin, hFingerprint, validPin_of_current hPin⟩

/-- A join that presents the fingerprint it found has written a pin that can be read. -/
theorem pinned_of_same {pin config : RelayTomlConfig} (hPin : ValidPin pin)
    (hSame : pin.relayFingerprint = config.relayFingerprint)
    (hAddress : (parseRelayAddress config.address).isOk)
    (hBeat : config.heartbeatIntervalSecs = none) :
    pinned printable (some (serializeRelayToml config)) = some pin.relayFingerprint := by
  rw [hSame]
  refine pinned_serialize ⟨hAddress, ?_, ?_, ?_, ?_⟩
  · rw [← hSame]
    exact hPin.length
  · rw [← hSame]
    exact hPin.digits
  · rw [← hSame]
    exact hPin.lower
  · rw [hBeat]
    rintro _ ⟨⟩

variable (printable) in
/-- A thread has gone on, or has ended with the pin in place. -/
def Keeps (f : String) (result : Option String × Option PinThread) : Prop :=
  match result.2 with
  | some next => Guards printable f result.1 next
  | none => pinned printable result.1 = some f

/-- The step lemma, for one thread. -/
theorem guards_behave {draw : PinDraw} {file : Option String} {thread : PinThread}
    (hDraw : draw.opened = true ∧ draw.left = none) (h : Guards printable f file thread) :
    Keeps printable f (pinBehave printable toLowercase draw file thread) := by
  cases thread with
  | readPin job => exact ⟨h.1, anchor_current h.2, h.2⟩
  | resolveProxy job previous =>
    rw [pinBehave]
    split
    · split
      · exact h
      · exact h.2.2
    · exact h
  | enroll job previous proxy =>
    rw [pinBehave]
    split
    · next hJoin => exact ⟨h.1, h.2.1, h.2.2, joinRelay_ok hJoin⟩
    · exact h.2.2
  | openPin job previous config =>
    rw [pinBehave, if_pos hDraw.1]
    exact ⟨h.1, h.2.1, h.2.2.2⟩
  | writePin job previous config =>
    rw [pinBehave, hDraw.2]
    exact ⟨h.1, h.2.1, rfl, h.2.2⟩
  | decidePin job previous config =>
    obtain ⟨hForce, ⟨pin, rfl, hPin, hValid⟩, rfl, hAddress, hBeat⟩ := h
    rw [pinBehave, pinMismatch, hForce, Option.filter_some]
    by_cases hSame : pin.relayFingerprint = config.relayFingerprint
    · rw [if_neg (by simp [hSame])]
      exact (pinned_of_same hValid hSame hAddress hBeat).trans (congrArg some hPin)
    · rw [if_pos (by simp [hSame])]
      exact ⟨hPin, hValid⟩
  | openRestored previous =>
    rw [pinBehave, if_pos hDraw.1]
    exact h
  | writeRestored previous =>
    rw [pinBehave, hDraw.2]
    exact (pinned_serialize h.2).trans (congrArg some h.1)
  | reloadPin => exact h
  | checkFile => exact h.elim
  | unlink => exact h.elim

/-! ## Runs -/

variable (printable) in
/-- The pin is in place, or the only thread under way sees to it. -/
def Held (f : String) (s : PinState) : Prop :=
  Quiet s ∧ pinned printable s.core = some f ∨
    ∃ id thread, (∀ other, s.threads.lookup other = if other = id then some thread else none) ∧
      Guards printable f s.core thread

/-- The only thread goes on or ends. -/
theorem held_next {threads : HashMap Nat PinThread} {id : Nat} {thread : PinThread}
    {result : Option String × Option PinThread}
    (hOnly : ∀ other, threads.lookup other = if other = id then some thread else none)
    (h : Keeps printable f result) :
    Held printable f { core := result.1, threads := ThreadMachine.next threads id result.2 } := by
  have hLookup := ThreadMachine.lookup_next_of_only hOnly result.2
  unfold Keeps at h
  cases hNext : result.2 with
  | none =>
    rw [hNext] at h hLookup
    refine .inl ⟨fun other => ?_, h⟩
    rw [hLookup]
    exact ite_self _
  | some next =>
    rw [hNext] at h hLookup
    exact .inr ⟨id, next, hLookup, h⟩

theorem held_quiet {s : PinState} (hs : Held printable f s) (hQuiet : Quiet s) :
    pinned printable s.core = some f := by
  obtain ⟨-, hPinned⟩ | ⟨busy, thread, hOnly, -⟩ := hs
  · exact hPinned
  · have hNone := hQuiet busy
    rw [hOnly, if_pos rfl] at hNone
    cases hNone

theorem held_step {s : PinState} {label : PinLabel} (hs : Held printable f s)
    (hSwitches : ¬ Switches label) (hOne : OneByOne s label) :
    Held printable f ((pinThreads printable toLowercase).step s label) := by
  cases label with
  | start id request =>
    have hPinned := held_quiet hs hOne
    have hFree : id ∉ s.threads := by
      rw [← AList.lookup_eq_none]
      exact hOne id
    rw [ThreadMachine.step, if_neg hFree]
    cases request with
    | remove => exact absurd trivial hSwitches
    | join job =>
      refine .inr ⟨id, .readPin job, fun other => ?_, ?_, hPinned⟩
      · show (s.threads.insert id _).lookup other = _
        rw [AList.lookup_insert_eq_ite, hOne other]
        rfl
      · exact Bool.eq_false_iff.mpr hSwitches
  | advance id draw =>
    rw [ThreadMachine.step]
    cases hThread : s.threads.lookup id with
    | none => exact hs
    | some l =>
      obtain ⟨hQuiet, -⟩ | ⟨busy, thread, hOnly, hGuards⟩ := hs
      · rw [hQuiet id] at hThread
        cases hThread
      · have hHere := hOnly id
        rw [hThread] at hHere
        split at hHere
        · next hSame =>
          obtain rfl := Option.some.inj hHere
          subst hSame
          have hKeeps : Keeps printable f (pinBehave printable toLowercase draw s.core l) :=
            guards_behave hOne hGuards
          exact held_next hOnly hKeeps
        · cases hHere
  | outside event => exact nomatch event

end

/-- The pinned fingerprint is the same whenever no join is in progress, over every run
of unforced joins in which one follows the other and each write succeeds. -/
theorem quiet_pin_unchanged (printable : Char → Bool) (toLowercase : String → String) (f : String)
    (s : PinState) (labels : List PinLabel) (hQuiet : Quiet s)
    (hPinned : pinned printable s.core = some f) (hJoins : ∀ label ∈ labels, ¬ Switches label)
    (hOne : EachStep (pinThreads printable toLowercase).step OneByOne s labels) :
    Always (pinThreads printable toLowercase).step
      (fun s => Quiet s → pinned printable s.core = some f) s labels := by
  have hAll : ∀ (labels : List PinLabel) (s : PinState), Held printable f s →
      (∀ label ∈ labels, ¬ Switches label) →
      EachStep (pinThreads printable toLowercase).step OneByOne s labels →
      Always (pinThreads printable toLowercase).step
        (fun s => Quiet s → pinned printable s.core = some f) s labels := by
    intro labels
    induction labels with
    | nil => exact fun s hs _ _ => held_quiet hs
    | cons label labels ih =>
      intro s hs hJoins hOne
      rw [List.forall_mem_cons] at hJoins
      exact ⟨held_quiet hs, ih _ (held_step hs hJoins.1 hOne.1) hJoins.2 hOne.2⟩
  exact hAll labels s (.inl ⟨hQuiet, hPinned⟩) hJoins hOne

/-! ## Two joins at the same time -/

/-- The pin of a relay on its default port. -/
def samplePin (fingerprint : String) : RelayTomlConfig :=
  { address := "relay:7475", relayFingerprint := fingerprint }

/-- An answer with this fingerprint on the main port, and no trouble with the file. -/
def answerWith (fingerprint : String) : PinDraw where
  proxy := .ok none
  rounds _ := ⟨.ok (), .session (.answered (.enrollResponse fingerprint) (.ok ())),
    .dialFailed "refused"⟩
  opened := true
  left := none
  unlinked := true

def sampleJob : JoinJob where
  address := "relay"
  token := "token"
  force := false
  useProxy := false

def oldFingerprint : String := String.ofList (List.replicate 64 'a')

def newFingerprint : String := String.ofList (List.replicate 64 'b')

theorem validPin_old : ValidPin (samplePin oldFingerprint) :=
  ⟨by decide, by decide, by decide, by decide, by rintro _ ⟨⟩⟩

theorem validPin_new : ValidPin (samplePin newFingerprint) :=
  ⟨by decide, by decide, by decide, by decide, by rintro _ ⟨⟩⟩

theorem joinRelay_sample :
    joinRelay (fun _ => true) id sampleJob.address sampleJob.token none
      (answerWith newFingerprint).rounds = .ok (.ok (samplePin newFingerprint)) := by
  decide +kernel

/-- The file pins the old fingerprint, and nothing is under way. -/
def beforeJoins : PinState :=
  { core := some (serializeRelayToml (samplePin oldFingerprint)) }

/-- A join from its start to its end, on a thread of its own. -/
def wholeJoin (id : Nat) : List PinLabel :=
  .start id (.join sampleJob) :: List.replicate 8 (.advance id (answerWith newFingerprint))

/-- Two joins that meet another relay, one after the other, leave the pin as it was. -/
theorem quiet_pin_unchanged_once :
    Always (pinThreads (fun _ => true) id).step
      (fun s => Quiet s → pinned (fun _ => true) s.core = some oldFingerprint) beforeJoins
      (wholeJoin 1 ++ wholeJoin 2) := by
  refine quiet_pin_unchanged (fun _ => true) id oldFingerprint beforeJoins _ (fun id => rfl)
    (pinned_serialize validPin_old) ?_ ?_
  · intro label hMem
    simp only [wholeJoin, List.mem_append, List.mem_cons, List.mem_replicate] at hMem
    rcases hMem with (rfl | ⟨-, rfl⟩) | rfl | ⟨-, rfl⟩ <;> simp [Switches, sampleJob]
  · have hEnded : (run (pinThreads (fun _ => true) id).step beforeJoins
        (wholeJoin 1)).threads.keys = [] := by decide +kernel
    rw [eachStep_append]
    refine ⟨⟨fun id => rfl, by simp [EachStep, OneByOne, answerWith]⟩, fun id => ?_,
      by simp [EachStep, OneByOne, answerWith]⟩
    rw [AList.lookup_eq_none, AList.mem_keys, hEnded]
    exact List.not_mem_nil

/-- The second join reads the pin while that of the first is in the file, and finds its
own answer consistent with it after the first has restored the old one. -/
def overlappingJoins (job : JoinJob) (draw : PinDraw) : List PinLabel :=
  let a : PinLabel := .advance 1 draw
  let b : PinLabel := .advance 2 draw
  [.start 1 (.join job), a, a, a, a, a,
    .start 2 (.join job), b,
    a, a, a,
    b, b, b, b, b, b]

/-- However the relay names itself, the pin is gone when both joins have ended. -/
theorem run_overlappingJoins {printable : Char → Bool} {toLowercase : String → String}
    {old new : RelayTomlConfig} {job : JoinJob} {draw : PinDraw} (hOld : ValidPin old)
    (hNew : ValidPin new) (hNe : old.relayFingerprint ≠ new.relayFingerprint)
    (hForce : job.force = false) (hProxy : job.useProxy = false) (hOpened : draw.opened = true)
    (hLeft : draw.left = none)
    (hJoin : joinRelay printable toLowercase job.address job.token none draw.rounds
      = .ok (.ok new)) :
    (run (pinThreads printable toLowercase).step { core := some (serializeRelayToml old) }
        (overlappingJoins job draw)).core = some (serializeRelayToml new) ∧
      Quiet (run (pinThreads printable toLowercase).step { core := some (serializeRelayToml old) }
        (overlappingJoins job draw)) := by
  have hReadOld : currentRelayPin printable _ = _ := currentRelayPin_serialize hOld
  have hReadNew : currentRelayPin printable _ = _ := currentRelayPin_serialize hNew
  have hDiffers : pinMismatch (some old) new.relayFingerprint false = some old := by
    rw [pinMismatch, Option.filter_some, if_pos (by simp [hNe])]
  have hSame : pinMismatch (some new) new.relayFingerprint false = none := by
    rw [pinMismatch, Option.filter_some, if_neg (by simp)]
  simp [overlappingJoins, run, ThreadMachine.step, ThreadMachine.next, pinThreads, pinBehave, Quiet,
    AList.lookup_erase_eq_ite, AList.lookup_insert_eq_ite, hForce, hProxy, hOpened, hLeft, hJoin,
    hReadOld, hReadNew, hDiffers, hSame, -AList.insert_empty]
  intro id hId
  rw [if_neg hId]
  split <;> rfl

theorem overlapping_joins_switch_pin :
    (∀ label ∈ overlappingJoins sampleJob (answerWith newFingerprint), ¬ Switches label) ∧
      pinned (fun _ => true) beforeJoins.core = some oldFingerprint ∧
      Quiet (run (pinThreads (fun _ => true) id).step beforeJoins
        (overlappingJoins sampleJob (answerWith newFingerprint))) ∧
      pinned (fun _ => true) (run (pinThreads (fun _ => true) id).step beforeJoins
          (overlappingJoins sampleJob (answerWith newFingerprint))).core
        = some newFingerprint := by
  have hRun := run_overlappingJoins validPin_old validPin_new (by decide) rfl rfl rfl rfl
    joinRelay_sample
  refine ⟨?_, pinned_serialize validPin_old, hRun.2, ?_⟩
  · simp [overlappingJoins, Switches, sampleJob]
  · rw [beforeJoins, hRun.1]
    exact pinned_serialize validPin_new

end WaitAgent.Relay
