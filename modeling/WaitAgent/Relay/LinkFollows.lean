import WaitAgent.Relay.PinJoins

/-!
# The link and the pin

Joins and removals change the file of the pin on threads of their own and report to the
state loop, which starts and stops the link by what the reports say.  The link follows
the pin when one join or removal begins after the report of the other was handled, and
not when reports cross.
-/

namespace WaitAgent.Relay

open Verified Net

/-! ## Reports -/

structure RelayJoinApplied where
  pinned : RelayTomlConfig
  linkRestarted : Bool

/-- `RelayJoinResult` and `RelayRemoveResult`; an error changes nothing. -/
inductive RelayEvent where
  | joinResult (applied : Option RelayJoinApplied)
  | removeResult (removed : Bool)

/-- The link after `handle_relay_join_result` and `handle_relay_remove_result`.  A link is
given by the configuration it was started from. -/
def RelayEvent.apply (link : Option RelayTomlConfig) : RelayEvent → Option RelayTomlConfig
  | joinResult (some applied) => if applied.linkRestarted then some applied.pinned else link
  | joinResult none => link
  | removeResult true => none
  | removeResult false => link

/-- The file, the slot `relay_client` and the reports that wait for the state loop. -/
structure LinkCore where
  file : Option String := none
  relayClient : Option RelayTomlConfig := none
  events : List RelayEvent := []

def LinkCore.handleEvent (core : LinkCore) : LinkCore :=
  match core.events with
  | [] => core
  | event :: events => { core with relayClient := event.apply core.relayClient, events }

/-! ## Threads -/

/-- A thread acts on the file, looks whether there is a link, and reports. -/
inductive LinkThread where
  | onFile (previous : Option RelayTomlConfig) (point : PinThread)
  | checkSlot (previous : Option RelayTomlConfig) (pinned : RelayTomlConfig)
  | send (event : RelayEvent)

section

variable (printable : Char → Bool) (toLowercase : String → String)

/-- `previous`, which a join binds first. -/
def previousPin (file : Option String) (previous : Option RelayTomlConfig) :
    PinThread → Option RelayTomlConfig
  | .readPin _ => currentRelayPin printable file
  | _ => previous

/-- What follows the last step on the file. -/
def afterFile (draw : PinDraw) (file : Option String) (previous : Option RelayTomlConfig) :
    PinThread → LinkThread
  | .reloadPin =>
    match currentRelayPin printable file with
    | some pinned => .checkSlot previous pinned
    | none => .send (.joinResult none)
  | .checkFile => .send (.removeResult true)
  | .unlink => .send (.removeResult draw.unlinked)
  | _ => .send (.joinResult none)

def fileStep (draw : PinDraw) (file : Option String) (previous : Option RelayTomlConfig)
    (point : PinThread) : Option String × LinkThread :=
  let result := pinBehave printable toLowercase draw file point
  (result.1,
    match result.2 with
    | some next => .onFile (previousPin printable file previous point) next
    | none => afterFile printable draw file previous point)

def linkBehave (draw : PinDraw) (core : LinkCore) : LinkThread → LinkCore × Option LinkThread
  | .onFile previous point =>
    let result := fileStep printable toLowercase draw core.file previous point
    ({ core with file := result.1 }, some result.2)
  | .checkSlot previous pinned =>
    let linkRestarted := core.relayClient.isNone || decide (previous ≠ some pinned)
    (core, some (.send (.joinResult (some { pinned, linkRestarted }))))
  | .send event => ({ core with events := core.events ++ [event] }, none)

/-- The threads, and the state loop that handles one report after the other. -/
def linkThreads : ThreadMachine LinkCore PinRequest LinkThread PinDraw Unit where
  start _
    | .join job => .onFile none (.readPin job)
    | .remove => .onFile none .checkFile
  behave _ draw core thread := linkBehave printable toLowercase draw core thread
  react core _ := core.handleEvent

/-- There is a link exactly if there is a file, and it was started from what is in it. -/
def Follows (file : Option String) (link : Option RelayTomlConfig) : Prop :=
  link = currentRelayPin printable file ∧ (link.isSome ↔ file.isSome)

end

abbrev LinkState := Threads LinkCore LinkThread

abbrev LinkLabel := ThreadLabel PinRequest PinDraw Unit

/-- No join or removal is in progress, and no report waits. -/
def AtRest (s : LinkState) : Prop :=
  (∀ id, s.threads.lookup id = none) ∧ s.core.events = []

/-- A join or a removal begins at rest, writes succeed, and a relay that enrolls the node
names a fingerprint that can be read back from the file. -/
def InTurn (printable : Char → Bool) (toLowercase : String → String) (s : LinkState) :
    LinkLabel → Prop
  | .start _ _ => AtRest s
  | .advance id draw =>
    draw.opened = true ∧ draw.left = none ∧
      ∀ before job previous proxy config,
        s.threads.lookup id = some (.onFile before (.enroll job previous proxy)) →
        joinRelay printable toLowercase job.address job.token proxy draw.rounds =
          .ok (.ok config) → ValidPin config
  | .outside _ => True

/-! ## One thread -/

section

variable {printable : Char → Bool} {toLowercase : String → String} {file : Option String}
  {link : Option RelayTomlConfig}

theorem follows_none : Follows printable none none :=
  ⟨rfl, Iff.rfl⟩

theorem follows_serialize {pin : RelayTomlConfig} (h : ValidPin pin) :
    Follows printable (some (serializeRelayToml pin)) (some pin) :=
  ⟨(currentRelayPin_serialize h).symm, iff_of_true rfl rfl⟩

theorem Follows.valid (h : Follows printable file link) : ∀ pin ∈ link, ValidPin pin := by
  intro pin hPin
  exact validPin_of_current (h.1.symm.trans hPin)

variable (printable) in
/-- What a thread that is alone knows of the file and the link at each point. -/
def LinkGuards (file : Option String) (link : Option RelayTomlConfig) : LinkThread → Prop
  | .onFile _ (.readPin _) | .onFile _ .checkFile | .onFile _ .unlink => Follows printable file link
  | .onFile before (.resolveProxy _ previous) | .onFile before (.enroll _ previous _) =>
    Follows printable file link ∧ before = link ∧ previous = link
  | .onFile before (.openPin _ previous config) =>
    Follows printable file link ∧ before = link ∧ previous = link ∧ ValidPin config
  | .onFile before (.writePin _ previous config) =>
    (∀ pin ∈ link, ValidPin pin) ∧ before = link ∧ previous = link ∧ ValidPin config
  | .onFile before (.decidePin _ previous config) =>
    (∀ pin ∈ link, ValidPin pin) ∧ before = link ∧ previous = link ∧
      Follows printable file (some config)
  | .onFile _ (.openRestored pin) | .onFile _ (.writeRestored pin) =>
    link = some pin ∧ ValidPin pin
  | .onFile before .reloadPin => before = link ∧ ∃ config, Follows printable file (some config)
  | .checkSlot before pinned => before = link ∧ Follows printable file (some pinned)
  | .send event => Follows printable file (event.apply link)

/-- The step lemma, for one thread on the file. -/
theorem linkGuards_fileStep {draw : PinDraw} {before : Option RelayTomlConfig} {point : PinThread}
    (hOpened : draw.opened = true) (hLeft : draw.left = none)
    (hValid : ∀ job previous proxy config, point = .enroll job previous proxy →
      joinRelay printable toLowercase job.address job.token proxy draw.rounds =
        .ok (.ok config) → ValidPin config)
    (h : LinkGuards printable file link (.onFile before point)) :
    LinkGuards printable (fileStep printable toLowercase draw file before point).1 link
      (fileStep printable toLowercase draw file before point).2 := by
  unfold fileStep
  cases point with
  | readPin job => exact ⟨h, h.1.symm, h.1.symm⟩
  | resolveProxy job previous =>
    simp only [pinBehave]
    split
    · split
      · exact h
      · exact h.1
    · exact h
  | enroll job previous proxy =>
    simp only [pinBehave]
    split
    · next config hJoin => exact ⟨h.1, h.2.1, h.2.2, hValid _ _ _ _ rfl hJoin⟩
    · exact h.1
  | openPin job previous config =>
    simp only [pinBehave, hOpened, if_true]
    exact ⟨h.1.valid, h.2⟩
  | writePin job previous config =>
    simp only [pinBehave, hLeft]
    exact ⟨h.1, h.2.1, h.2.2.1, follows_serialize h.2.2.2⟩
  | decidePin job previous config =>
    obtain ⟨hLink, hBefore, hPrevious, hFile⟩ := h
    simp only [pinBehave]
    split
    · next pin hMismatch =>
      -- the pin that is put back is the one the link runs from
      have hPin := (Option.filter_eq_some_iff.mp hMismatch).1
      rw [hPrevious] at hPin
      exact ⟨hPin, hLink pin hPin⟩
    · exact ⟨hBefore, config, hFile⟩
  | openRestored pin =>
    simp only [pinBehave, hOpened, if_true]
    exact h
  | writeRestored pin =>
    simp only [pinBehave, hLeft]
    obtain ⟨rfl, hPin⟩ := h
    exact follows_serialize hPin
  | reloadPin =>
    obtain ⟨hBefore, config, hFile⟩ := h
    simp only [pinBehave, afterFile, ← hFile.1]
    exact ⟨hBefore, hFile⟩
  | checkFile =>
    simp only [pinBehave]
    split
    · exact h
    · next hNone =>
      rw [Option.not_isSome_iff_eq_none.mp hNone]
      exact follows_none
  | unlink =>
    simp only [pinBehave, afterFile]
    cases draw.unlinked with
    | true => exact follows_none
    | false => exact h

/-- A join looks at the slot before it reports. -/
theorem follows_checkSlot {before : Option RelayTomlConfig} {pinned : RelayTomlConfig}
    (h : LinkGuards printable file link (.checkSlot before pinned)) :
    Follows printable file (RelayEvent.apply link (.joinResult (some
      { pinned, linkRestarted := link.isNone || decide (before ≠ some pinned) }))) := by
  obtain ⟨rfl, hFile⟩ := h
  rw [RelayEvent.apply]
  split
  · exact hFile
  · next hKept =>
    -- there is a link, and the join has found the pin it was started from
    have hSame : before = some pinned := by
      simp only [Bool.or_eq_true, decide_eq_true_eq, not_or, not_not] at hKept
      exact hKept.2
    rw [hSame]
    exact hFile

/-! ## Runs -/

/-- The link once all reports are handled. -/
def LinkCore.drained (core : LinkCore) : Option RelayTomlConfig :=
  core.events.foldl RelayEvent.apply core.relayClient

theorem handleEvent_keeps (core : LinkCore) :
    core.handleEvent.file = core.file ∧ core.handleEvent.drained = core.drained := by
  obtain ⟨file, link, events⟩ := core
  cases events <;> exact ⟨rfl, rfl⟩

variable (printable) in
/-- The link will follow the pin, or the only thread under way sees to it. -/
def Attended (s : LinkState) : Prop :=
  (∀ id, s.threads.lookup id = none) ∧ Follows printable s.core.file s.core.drained ∨
    s.core.events = [] ∧
      ∃ id thread, (∀ other, s.threads.lookup other = if other = id then some thread else none) ∧
        LinkGuards printable s.core.file s.core.relayClient thread

theorem Attended.follows {s : LinkState} (hs : Attended printable s) (hRest : AtRest s) :
    Follows printable s.core.file s.core.relayClient := by
  obtain ⟨-, hFollows⟩ | ⟨-, id, thread, hOnly, -⟩ := hs
  · rwa [LinkCore.drained, hRest.2] at hFollows
  · have hNone := hRest.1 id
    rw [hOnly, if_pos rfl] at hNone
    cases hNone

/-- The only thread goes on or reports. -/
theorem attended_advance {s : LinkState} {id : Nat} {thread : LinkThread} {draw : PinDraw}
    (hEvents : s.core.events = [])
    (hOnly : ∀ other, s.threads.lookup other = if other = id then some thread else none)
    (hGuards : LinkGuards printable s.core.file s.core.relayClient thread)
    (hTurn : InTurn printable toLowercase s (.advance id draw)) :
    Attended printable ((linkThreads printable toLowercase).step s (.advance id draw)) := by
  obtain ⟨hOpened, hLeft, hValid⟩ := hTurn
  have hHere : s.threads.lookup id = some thread := (hOnly id).trans (if_pos rfl)
  have hNext := ThreadMachine.lookup_next_of_only hOnly
  rw [ThreadMachine.step, hHere]
  cases thread with
  | onFile before point =>
    refine .inr ⟨hEvents, id, _, hNext _, linkGuards_fileStep hOpened hLeft ?_ hGuards⟩
    rintro job previous proxy config rfl hJoin
    exact hValid before job previous proxy config hHere hJoin
  | checkSlot before pinned =>
    exact .inr ⟨hEvents, id, _, hNext _, follows_checkSlot hGuards⟩
  | send event =>
    -- the queue was empty, so its report is the only one to be handled
    refine .inl ⟨fun other => (hNext none other).trans (ite_self _), ?_⟩
    show Follows printable s.core.file ((s.core.events ++ [event]).foldl _ s.core.relayClient)
    rw [hEvents]
    exact hGuards

theorem attended_step {s : LinkState} {label : LinkLabel} (hs : Attended printable s)
    (hTurn : InTurn printable toLowercase s label) :
    Attended printable ((linkThreads printable toLowercase).step s label) := by
  cases label with
  | start id request =>
    have hFollows := hs.follows hTurn
    have hFree : id ∉ s.threads := by
      rw [← AList.lookup_eq_none]
      exact hTurn.1 id
    rw [ThreadMachine.step, if_neg hFree]
    refine .inr ⟨hTurn.2, id, (linkThreads printable toLowercase).start s.core request, ?_, ?_⟩
    · intro other
      show (s.threads.insert id _).lookup other = _
      rw [AList.lookup_insert_eq_ite, hTurn.1 other]
    · cases request <;> exact hFollows
  | advance id draw =>
    have hIdle (hNone : s.threads.lookup id = none) :
        (linkThreads printable toLowercase).step s (.advance id draw) = s := by
      rw [ThreadMachine.step, hNone]
    obtain ⟨hNone, hFollows⟩ | ⟨hEvents, busy, thread, hOnly, hGuards⟩ := hs
    · rw [hIdle (hNone id)]
      exact .inl ⟨hNone, hFollows⟩
    · by_cases hSame : id = busy
      · subst hSame
        exact attended_advance hEvents hOnly hGuards hTurn
      · rw [hIdle ((hOnly id).trans (if_neg hSame))]
        exact .inr ⟨hEvents, busy, thread, hOnly, hGuards⟩
  | outside event =>
    rw [ThreadMachine.step]
    obtain ⟨hNone, hFollows⟩ | ⟨hEvents, hThread⟩ := hs
    · refine .inl ⟨hNone, ?_⟩
      show Follows printable s.core.handleEvent.file s.core.handleEvent.drained
      rwa [(handleEvent_keeps s.core).1, (handleEvent_keeps s.core).2]
    · have hCore : s.core.handleEvent = s.core := by
        rw [LinkCore.handleEvent, hEvents]
      show Attended printable { s with core := s.core.handleEvent }
      rw [hCore]
      exact .inr ⟨hEvents, hThread⟩

end

/-- Over every run in which a join or a removal begins at rest and each write succeeds, the
link follows the pin whenever nothing is under way. -/
theorem link_follows_pin (printable : Char → Bool) (toLowercase : String → String)
    (s : LinkState) (labels : List LinkLabel) (hRest : AtRest s)
    (hFollows : Follows printable s.core.file s.core.relayClient)
    (hTurn : EachStep (linkThreads printable toLowercase).step
      (InTurn printable toLowercase) s labels) :
    Always (linkThreads printable toLowercase).step
      (fun s => AtRest s → Follows printable s.core.file s.core.relayClient) s labels := by
  refine Always.of_eachStep (fun _ _ => attended_step) (fun _ hs => hs.follows) labels s hTurn ?_
  refine .inl ⟨hRest.1, ?_⟩
  rwa [LinkCore.drained, hRest.2]

/-- A link that runs from the pinned configuration. -/
def linkedState : LinkState :=
  ⟨{ file := some (serializeRelayToml (samplePin oldFingerprint)),
     relayClient := some (samplePin oldFingerprint) }, ∅⟩

/-- A removal from its start until its report is handled. -/
def wholeRemoval (id : Nat) : List LinkLabel :=
  .start id .remove :: List.replicate 3 (.advance id (answerWith newFingerprint)) ++ [.outside ()]

/-- Two removals, the second when the first is over: the file is gone, and the link stops. -/
theorem link_follows_pin_removed :
    Always (linkThreads (fun _ => true) id).step
        (fun s => AtRest s → Follows (fun _ => true) s.core.file s.core.relayClient) linkedState
        (wholeRemoval 1 ++ wholeRemoval 2) ∧
      (run (linkThreads (fun _ => true) id).step linkedState
        (wholeRemoval 1 ++ wholeRemoval 2)).core = {} := by
  refine ⟨link_follows_pin (fun _ => true) id linkedState _ ⟨fun _ => rfl, rfl⟩
    (follows_serialize validPin_old) ?_, rfl⟩
  refine ⟨⟨fun _ => rfl, rfl⟩, ⟨rfl, rfl, ?_⟩, ⟨rfl, rfl, ?_⟩, ⟨rfl, rfl, ?_⟩, trivial,
    ⟨fun _ => rfl, rfl⟩, ⟨rfl, rfl, ?_⟩, ⟨rfl, rfl, ?_⟩, ⟨rfl, rfl, ?_⟩, trivial, trivial⟩ <;>
    · intro before job previous proxy config hThread
      cases hThread

/-- A join that is about to report when a removal begins and reports. -/
def crossingReports (job : JoinJob) (draw : PinDraw) : List LinkLabel :=
  let a : LinkLabel := .advance 1 draw
  let b : LinkLabel := .advance 2 draw
  [.start 1 (.join job), a, a, a, a, a, a, a, a, .start 2 .remove, b, b, b, a,
    .outside (), .outside ()]

theorem run_crossingReports {printable : Char → Bool} {toLowercase : String → String}
    {pin : RelayTomlConfig} {job : JoinJob} {draw : PinDraw} (hPin : ValidPin pin)
    (hProxy : job.useProxy = false) (hOpened : draw.opened = true) (hLeft : draw.left = none)
    (hUnlinked : draw.unlinked = true)
    (hJoin : joinRelay printable toLowercase job.address job.token none draw.rounds
      = .ok (.ok pin)) :
    AtRest (run (linkThreads printable toLowercase).step ⟨{}, ∅⟩ (crossingReports job draw)) ∧
      (run (linkThreads printable toLowercase).step ⟨{}, ∅⟩ (crossingReports job draw)).core =
        { relayClient := some pin } := by
  have hRead : currentRelayPin printable _ = _ := currentRelayPin_serialize hPin
  have hNone : currentRelayPin printable none = none := rfl
  have hFirst : pinMismatch none pin.relayFingerprint job.force = none := rfl
  simp [crossingReports, run, ThreadMachine.step, ThreadMachine.next, linkThreads, linkBehave,
    fileStep, previousPin, afterFile, pinBehave, LinkCore.handleEvent, RelayEvent.apply, AtRest,
    AList.lookup_erase_eq_ite, AList.lookup_insert_eq_ite, hProxy, hOpened, hLeft, hUnlinked,
    hJoin, hRead, hNone, hFirst, -AList.insert_empty]
  intro other hOne hTwo
  rw [if_neg hTwo, if_neg hOne]

/-- At rest the pin is removed, and the link runs. -/
theorem crossing_reports_leave_link :
    AtRest (run (linkThreads (fun _ => true) id).step ⟨{}, ∅⟩
        (crossingReports sampleJob (answerWith newFingerprint))) ∧
      (run (linkThreads (fun _ => true) id).step ⟨{}, ∅⟩
        (crossingReports sampleJob (answerWith newFingerprint))).core =
        { relayClient := some (samplePin newFingerprint) } :=
  run_crossingReports validPin_new rfl rfl rfl rfl joinRelay_sample

end WaitAgent.Relay
