import WaitAgent.Relay.ConnectionTable
import WaitAgent.Relay.PinFile
import WaitAgent.Relay.Routing

/-!
# The tasks of a relay

Every link has a task: it registers, serves the frames that come in, and ends with an epilogue
that takes its traces out of the tables.  Beside the links, the sweeper evicts nodes that have
been silent, and the operator removes nodes.  The tasks share the connection table, the routes
and the watchers, each behind a lock that is held for one access only, so every access is a step
and the tasks interleave between any two of them.

What a task does next is its state; the environment decides which task goes on, what a link
reads, and what clocks and meters say.  Queues are known by the connection id of their link and
never full.  The sweep and the removals, of which there is one at a time in the source or one
per admin connection, are tasks that are begun at will, and requests of the admin channel are
followed only if they change a table.
-/

namespace WaitAgent.Relay

open Verified Mux

/-! ## Names -/

def eqIgnoreAsciiCase (a b : String) : Bool :=
  asciiLowercase a = asciiLowercase b

/-- The fingerprint of a certificate, in hexadecimal. -/
abbrev Fingerprint :=
  { text : String //
    text.toList.length = 64 ∧ ∀ c ∈ text.toList, c ∈ "0123456789abcdef".toList }

/-- The fingerprint of one digit only. -/
def fingerprintOf (c : Char) (hDigit : c ∈ "0123456789abcdef".toList) : Fingerprint :=
  ⟨String.ofList (List.replicate 64 c), by simp, fun d hd => by
    rw [String.toList_ofList] at hd
    rw [List.eq_of_mem_replicate hd]
    exact hDigit⟩

structure ServerConfig where
  maxNodes : Nat
  maxStreams : Nat
  toLowercase : String → String
  toLowercase_ascii : ∀ text : String, (∀ c ∈ text.toList, c.toNat < 128) →
    toLowercase text = asciiLowercase text

/-! ## Tasks -/

structure RegisteredLink where
  nodeId : String
  connectionId : Nat
  deriving DecidableEq

structure RoutingTarget where
  connectionId : Nat
  /-- The number of the entry, which the allocator of its stream ids belongs to. -/
  serial : Nat
  deriving DecidableEq

/-- How far `handle_open_stream` has come. -/
inductive OpenStage where
  | resolved
  | admitted
  | numbered (relayStreamId : Nat)
  deriving DecidableEq

/-- A frame in the hands of a task, and the stream that it is about. -/
structure Forward where
  parcel : Parcel
  stream : Option Nat := none
  deriving DecidableEq

/-- What a task is about to do. -/
inductive Task where
  | absent
  /-- The first frame of a link is awaited. -/
  | connected (fingerprint : Fingerprint)
  /-- The node is unknown; its place is to be checked. -/
  | checking (nodeId : String)
  | admitted (nodeId : String)
  /-- The entry is in the table; what it replaced is to be told, or the watchers. -/
  | registered (self : RegisteredLink) (previous : Option Nat)
  | serving (self : RegisteredLink)
  | touching (self : RegisteredLink) (serial : Nat)
  | watching (self : RegisteredLink) (target : String) (online inserted : Bool)
  | opening (self : RegisteredLink) (streamId : Nat) (target : RoutingTarget) (stage : OpenStage)
  | sending (forwards : List Forward) (next : Task)
  /-- A `publish`, which first reads off the watchers. -/
  | publishing (nodeId : String) (online : Bool) (senders : Option (List Nat)) (next : Task)
  /-- The three parts of the epilogue. -/
  | leaving (self : RegisteredLink)
  | unwatching (self : RegisteredLink)
  | tearing (self : RegisteredLink)
  | gone (self : Option RegisteredLink)
  /-- A removal whose node is off the whitelist. -/
  | removing (fingerprint : String)
  | revoked (fingerprint : String)
  /-- It has returned, and has left these entries of the node. -/
  | returned (fingerprint : String) (left : List String)
  | sweeping (evicted : List (String × ConnectionEntry Nat))
  deriving DecidableEq

structure RelayServer where
  table : RelayConnectionTable Nat := {}
  routing : RoutingTable := ∅
  /-- The next id of a stream that the relay opens towards a link, by the number of its entry. -/
  nextRelayStream : Nat → Nat := fun _ => 2
  /-- The connections that watch a node. -/
  watchers : HashMap String (List Nat) := ∅
  tasks : Nat → Task := fun _ => .absent
  /-- How many tasks there are. -/
  spawned : Nat := 0
  /-- What has been queued on the links, the newest first. -/
  queued : List Parcel := []
  /-- What has been queued on links that have no connection id yet, by their tasks. -/
  refused : List (Nat × Frame) := []
  /-- How many streams have been routed, and which of them a key was last opened for. -/
  opened : Nat := 0
  streamOf : RouteKey → Nat := fun _ => 0

/-- What is decided outside. -/
structure Choice where
  now : Nat := 0
  overThroughput : Bool := false
  order : List RouteKey := []
  pick : Nat := 0

inductive ServerLabel where
  | accept (fingerprint : Fingerprint)
  | read (i : Nat) (frame : Frame)
  /-- The link fails, is retired, or is silent for too long at first. -/
  | quit (i : Nat)
  | announce (i : Nat) (labels : List String)
  /-- Any task goes on. -/
  | next (i : Nat) (choice : Choice)
  /-- `handle_remove`; whether the file could be removed or was missing. -/
  | remove (fingerprint : String) (unlisted : Bool)
  | sweep (now maxIdle : Nat)

namespace RelayServer

variable (config : ServerConfig)

section

variable (s : RelayServer) (i : Nat) (self : RegisteredLink)

def put (task : Task) : RelayServer :=
  { s with tasks := Function.update s.tasks i task }

def spawn (task : Task) : RelayServer :=
  { s.put s.spawned task with spawned := s.spawned + 1 }

def setTable (table : RelayConnectionTable Nat) : RelayServer :=
  { s with table }

def setRouting (routing : RoutingTable) : RelayServer :=
  { s with routing }

def enqueue (parcel : Parcel) : RelayServer :=
  { s with queued := parcel :: s.queued }

/-- `retire_tx.send(true)`, by whoever was handed the entry. -/
def tell (serial : Nat) : RelayServer :=
  s.setTable { s.table with
    retire := Function.update s.table.retire serial (s.table.retire serial).send }

/-! ### Registration -/

/-- The first frame of a link; the entry of the node is looked up. -/
def registerLink (fingerprint : Fingerprint) : Frame → RelayServer
  | .register nodeId =>
      if eqIgnoreAsciiCase nodeId fingerprint.1 then
        s.put i (if (s.table.lookup nodeId).isSome then .admitted nodeId else .checking nodeId)
      else s.put i (.gone none)
  | _ => s.put i (.gone none)

def admitRegister (registeredNodes : Nat) : Bool := registeredNodes < config.maxNodes

/-- The link is told that the relay is full, and ends. -/
def refuse : RelayServer :=
  { s with
    refused := (i, .error 0 RelayErrorCode.nodeCapacity.wireValue
      "relay is at max_nodes capacity") :: s.refused }.put i (.gone none)

def register (nodeId : String) (now : Nat) : RelayServer :=
  let self : RegisteredLink := ⟨nodeId, connectionIdOf s.table.registrations⟩
  let (previous, table) := s.table.register nodeId now self.connectionId
  (s.setTable table).put i (.registered self (previous.map ConnectionEntry.serial))

/-! ### Streams -/

/-- An answer to the link itself. -/
def reply (parcel : Parcel) : RelayServer :=
  s.put i (.sending [{ parcel }] (.serving self))

def handleOpenStream (streamId : Nat) (targetNodeId : String) : RelayServer :=
  if streamId % 2 = 0 then s.put i (.leaving self)
  else
    match s.table.lookup targetNodeId with
    | none =>
        s.reply i self
          (streamError ⟨self.connectionId, streamId⟩ .targetUnknown
            "target node is unknown or offline")
    | some entry =>
        s.put i (.opening self streamId ⟨entry.connectionId, entry.serial⟩ .resolved)

/-- `admit_open`, and the answer if it refuses. -/
def admitOpen (streamId : Nat) (target : RoutingTarget) (overThroughput : Bool) : RelayServer :=
  if s.routing.streamCount ≥ config.maxStreams then
    s.reply i self
      (streamError ⟨self.connectionId, streamId⟩ .streamCapacity
        "relay is at max_streams capacity")
  else if overThroughput then
    s.reply i self
      (streamError ⟨self.connectionId, streamId⟩ .throughputExceeded
        "relay forwarded-throughput threshold exceeded")
  else s.put i (.opening self streamId target .admitted)

def takeRelayStream (streamId : Nat) (target : RoutingTarget) : RelayServer :=
  let relayStreamId := s.nextRelayStream target.serial
  { s with
    nextRelayStream := Function.update s.nextRelayStream target.serial
      ((relayStreamId + 2) % 2 ^ 32) }.put i
    (.opening self streamId target (.numbered relayStreamId))

/-- Both legs; what is left to do is to tell the target. -/
def openRoute (streamId : Nat) (target : RoutingTarget) (relayStreamId : Nat) : RelayServer :=
  let source : RouteKey := ⟨self.connectionId, streamId⟩
  let peer : RouteKey := ⟨target.connectionId, relayStreamId⟩
  { s with
    routing := s.routing.openRoute source peer
    opened := s.opened + 1
    streamOf := Function.update (Function.update s.streamOf source s.opened) peer s.opened }.put i
    (.sending
      [{ parcel := ⟨peer.connectionId, .openStream relayStreamId self.nodeId⟩
         stream := some s.opened }]
      (.serving self))

def isError : Frame → Bool
  | .error _ _ _ => true
  | _ => false

/-- The arms of the loop for the frames of a stream. -/
def dispatchFrame (frame : Frame) : RelayServer :=
  let (routing, parcel) := dispatchStream s.routing self.connectionId frame
  (s.setRouting routing).put i
    (.sending
      (parcel.toList.map fun parcel =>
        { parcel
          stream :=
            if isError parcel.frame then none
            else some (s.streamOf ⟨self.connectionId, frame.streamId⟩) })
      (.serving self))

/-! ### The loop of a link -/

/-- The entry of the link goes if it is the current one, and then the watchers are told. -/
def removeCurrent (next : Task) : RelayServer :=
  let (found, table) := s.table.removeIfCurrent self.nodeId self.connectionId
  (s.setTable table).put i (if found then .publishing self.nodeId false none next else next)

def serve : Frame → RelayServer
  | .heartbeat =>
      match s.table.touch self.nodeId self.connectionId with
      | some serial => s.put i (.touching self serial)
      | none => s
  | .unregister => s.removeCurrent i self (.leaving self)
  | .watch target => s.put i (.watching self target (s.table.lookup target).isSome false)
  | .adminRequest _ _ => s
  | .openStream streamId targetNodeId => s.handleOpenStream i self streamId targetNodeId
  | .data streamId payload => s.dispatchFrame i self (.data streamId payload)
  | .window streamId credit => s.dispatchFrame i self (.window streamId credit)
  | .close streamId => s.dispatchFrame i self (.close streamId)
  | .closeStream streamId => s.dispatchFrame i self (.closeStream streamId)
  | _ => s.put i (.leaving self)

/-! ### Presence -/

/-- The first part of `PresenceHub::watch`. -/
def insertWatcher (target : String) : RelayServer :=
  let key := config.toLowercase target
  { s with
    watchers := s.watchers.insert key
      (((s.watchers.lookup key).getD []).insert self.connectionId) }

def presence (nodeId : String) (online : Bool) (connectionId : Nat) : Parcel :=
  ⟨connectionId, .presence (config.toLowercase nodeId) online⟩

/-- Who watches a node. -/
def watchersOf (nodeId : String) : List Nat :=
  (s.watchers.lookup (config.toLowercase nodeId)).getD []

def publish (nodeId : String) (online : Bool) (senders : Option (List Nat)) (next : Task) :
    RelayServer :=
  match senders with
  | none => s.put i (.publishing nodeId online (some (s.watchersOf config nodeId)) next)
  | some [] => s.put i next
  | some (sender :: senders) =>
      (s.enqueue (presence config nodeId online sender)).put i
        (.publishing nodeId online (some senders) next)

def unwatchConnection (connectionId : Nat) : RelayServer :=
  { s with
    watchers := (s.watchers.mapValues fun _ interests =>
      interests.filter (· ≠ connectionId)).retain fun _ interests => !interests.isEmpty }

/-! ### The end of a link -/

/-- The legs that go, each with the key of its other end. -/
def tornLegs (t : RoutingTable) : List RouteKey → List (RouteKey × RouteKey)
  | [] => []
  | key :: keys =>
      match t.teardownPair key with
      | (none, t) => tornLegs t keys
      | (some leg, t) => (key, leg.peer) :: tornLegs t keys

/-- The keys of the link, in this order if they are those. -/
def keysInOrder (order : List RouteKey) : List RouteKey :=
  let keys := s.routing.keysOf self.connectionId
  if order.Perm keys then order else keys

/-- `teardown_connection`. -/
def teardown (order : List RouteKey) : RelayServer :=
  let order := s.keysInOrder self order
  (s.setRouting (s.routing.teardownKeys order).2).put i
    (.sending
      ((tornLegs s.routing order).map fun torn =>
        { parcel := ⟨torn.2.connectionId, .closeStream torn.2.streamId⟩
          stream := some (s.streamOf torn.1) })
      (.gone (some self)))

/-! ### Removal and eviction -/

def retire (fingerprint : String) : RelayServer :=
  let nodeId := config.toLowercase fingerprint
  match s.table.retireNotifying nodeId .nodeRevoked with
  | (some (outbound, frame), table) =>
      ((s.setTable table).enqueue ⟨outbound, frame⟩).put i
        (.publishing nodeId false none (.revoked fingerprint))
  | (none, table) => (s.setTable table).put i (.revoked fingerprint)

/-- The entries of a node, in any letter case. -/
def entriesOf (fingerprint : String) : List String :=
  s.table.entries.keys.filter fun nodeId => eqIgnoreAsciiCase nodeId fingerprint

def evictOne (evicted : List (String × ConnectionEntry Nat)) (pick : Nat) : RelayServer :=
  match evicted[pick]? with
  | some (nodeId, entry) =>
      ((s.enqueue ⟨entry.outbound, RelayConnectionTable.notice .heartbeatLost⟩).tell
        entry.serial).put i
        (.publishing nodeId false none (.sweeping (evicted.eraseIdx pick)))
  | none => if evicted = [] then s.put i (.gone none) else s

end

/-! ## Steps -/

def next (s : RelayServer) (i : Nat) (choice : Choice) : Task → RelayServer
  | .checking nodeId =>
      if admitRegister config s.table.len then s.put i (.admitted nodeId) else s.refuse i
  | .admitted nodeId => s.register i nodeId choice.now
  | .registered self (some serial) => (s.tell serial).put i (.serving self)
  | .registered self none => s.put i (.publishing self.nodeId true none (.serving self))
  | .touching self serial =>
      (s.setTable (s.table.writeLastSeen choice.now serial)).put i (.serving self)
  | .watching self target online false =>
      (s.insertWatcher config self target).put i (.watching self target online true)
  | .watching self target online true =>
      (s.enqueue (presence config target online self.connectionId)).put i (.serving self)
  | .opening self streamId target .resolved =>
      s.admitOpen config i self streamId target choice.overThroughput
  | .opening self streamId target .admitted => s.takeRelayStream i self streamId target
  | .opening self streamId target (.numbered relayStreamId) =>
      s.openRoute i self streamId target relayStreamId
  | .sending [] next => s.put i next
  | .sending (forward :: forwards) next =>
      (s.enqueue forward.parcel).put i (.sending forwards next)
  | .publishing nodeId online senders next => s.publish config i nodeId online senders next
  | .leaving self => s.removeCurrent i self (.unwatching self)
  | .unwatching self => (s.unwatchConnection self.connectionId).put i (.tearing self)
  | .tearing self => s.teardown i self choice.order
  | .removing fingerprint => s.retire config i fingerprint
  | .revoked fingerprint => s.put i (.returned fingerprint (s.entriesOf fingerprint))
  | .sweeping evicted => s.evictOne i evicted choice.pick
  | .absent | .connected _ | .serving _ | .gone _ | .returned _ _ => s

def read (s : RelayServer) (i : Nat) (frame : Frame) : Task → RelayServer
  | .connected fingerprint => s.registerLink i fingerprint frame
  | .serving self => s.serve i self frame
  | _ => s

def quit (s : RelayServer) (i : Nat) : Task → RelayServer
  | .connected _ => s.put i (.gone none)
  | .serving self => s.put i (.leaving self)
  | _ => s

def announce (s : RelayServer) (labels : List String) : Task → RelayServer
  | .serving self => s.setTable (s.table.setLabels self.nodeId self.connectionId labels)
  | _ => s

def sweep (s : RelayServer) (now maxIdle : Nat) : RelayServer :=
  let (evicted, table) := s.table.evictIdle now maxIdle
  (s.setTable table).spawn (.sweeping evicted)

def step (s : RelayServer) : ServerLabel → RelayServer
  | .accept fingerprint => s.spawn (.connected fingerprint)
  | .read i frame => s.read i frame (s.tasks i)
  | .quit i => s.quit i (s.tasks i)
  | .announce i labels => s.announce labels (s.tasks i)
  | .next i choice => s.next config i choice (s.tasks i)
  | .remove fingerprint unlisted =>
      s.spawn (if unlisted then .removing fingerprint else .revoked fingerprint)
  | .sweep now maxIdle => s.sweep now maxIdle

/-! ## Which tasks there are -/

section

variable {config} {s : RelayServer}

theorem tasks_put (s : RelayServer) (i j : Nat) (task : Task) :
    (s.put i task).tasks j = if j = i then task else s.tasks j :=
  Function.update_apply s.tasks i task j

theorem tasks_spawn (s : RelayServer) (j : Nat) (task : Task) :
    (s.spawn task).tasks j = if j = s.spawned then task else s.tasks j :=
  tasks_put s s.spawned j task

theorem mem_keysInOrder {self : RegisteredLink} (order : List RouteKey) {key : RouteKey}
    (hKey : key ∈ s.routing) (hLink : key.connectionId = self.connectionId) :
    key ∈ s.keysInOrder self order := by
  have hMem : key ∈ s.routing.keysOf self.connectionId :=
    List.mem_filter.mpr ⟨AList.mem_keys.mp hKey, decide_eq_true hLink⟩
  dsimp only [keysInOrder]
  split_ifs with hPerm
  · exact hPerm.mem_iff.mpr hMem
  · exact hMem

/-- A property of all tasks, when one of them has changed. -/
theorem forall_put {P : Task → Prop} {i : Nat} {task : Task} (hTask : P task)
    (hAll : ∀ j, P (s.tasks j)) (j : Nat) : P ((s.put i task).tasks j) := by
  rw [tasks_put]
  split_ifs
  · exact hTask
  · exact hAll j

/-- The state differs at most in what a task does. -/
def Touches (i : Nat) (s s' : RelayServer) : Prop :=
  s'.spawned = s.spawned ∧ ∀ j, j ≠ i → s'.tasks j = s.tasks j

theorem touches_put {t : RelayServer} {i : Nat} (task : Task) (hSpawned : t.spawned = s.spawned)
    (hTasks : t.tasks = s.tasks) : Touches i s (t.put i task) := by
  refine ⟨hSpawned, fun j hj => ?_⟩
  rw [tasks_put, if_neg hj, hTasks]

theorem touches_next (s : RelayServer) (i : Nat) (choice : Choice) (task : Task) :
    Touches i s (s.next config i choice task) := by
  unfold next
  split
  all_goals first
    | exact ⟨rfl, fun _ _ => rfl⟩
    | exact touches_put _ rfl rfl
    | skip
  · split_ifs <;> exact touches_put _ rfl rfl
  · simp only [admitOpen, reply]
    split_ifs <;> exact touches_put _ rfl rfl
  · simp only [publish]
    split <;> exact touches_put _ rfl rfl
  · simp only [retire]
    split <;> exact touches_put _ rfl rfl
  · simp only [evictOne]
    split
    · exact touches_put _ rfl rfl
    · split_ifs
      · exact touches_put _ rfl rfl
      · exact ⟨rfl, fun _ _ => rfl⟩

theorem touches_read (s : RelayServer) (i : Nat) (frame : Frame) (task : Task) :
    Touches i s (s.read i frame task) := by
  unfold read
  split
  · unfold registerLink
    split
    · split_ifs <;> exact touches_put _ rfl rfl
    · exact touches_put _ rfl rfl
  · unfold serve
    split
    all_goals first
      | exact ⟨rfl, fun _ _ => rfl⟩
      | exact touches_put _ rfl rfl
      | skip
    · split
      · exact touches_put _ rfl rfl
      · exact ⟨rfl, fun _ _ => rfl⟩
    · unfold handleOpenStream
      split_ifs
      · exact touches_put _ rfl rfl
      · split <;> exact touches_put _ rfl rfl
  · exact ⟨rfl, fun _ _ => rfl⟩

theorem touches_quit (s : RelayServer) (i : Nat) (task : Task) :
    Touches i s (s.quit i task) := by
  unfold quit
  split
  · exact touches_put _ rfl rfl
  · exact touches_put _ rfl rfl
  · exact ⟨rfl, fun _ _ => rfl⟩

/-- There are no tasks but those that were spawned. -/
def Wf (s : RelayServer) : Prop :=
  ∀ i, s.spawned ≤ i → s.tasks i = .absent

theorem wf_start : Wf {} := fun _ _ => rfl

theorem Wf.touch (h : s.Wf) {s' : RelayServer} {i : Nat} (hTouches : Touches i s s')
    (hAbsent : s.tasks i = .absent → s' = s) : s'.Wf := by
  intro j hj
  rw [hTouches.1] at hj
  by_cases hi : j = i
  · subst hi
    rw [hAbsent (h j hj)]
    exact h j hj
  · rw [hTouches.2 j hi]
    exact h j hj

theorem Wf.spawn (h : s.Wf) (task : Task) : (s.spawn task).Wf := by
  intro j hj
  have hNew : s.spawned + 1 ≤ j := hj
  change (s.put s.spawned task).tasks j = .absent
  rw [tasks_put, if_neg (by omega)]
  exact h j (by omega)

theorem Wf.step (h : s.Wf) (l : ServerLabel) : (s.step config l).Wf := by
  cases l with
  | accept fingerprint => exact h.spawn _
  | read i frame =>
    refine h.touch (s.touches_read i frame (s.tasks i)) fun hAbsent => ?_
    simp only [RelayServer.step, hAbsent, read]
  | quit i =>
    refine h.touch (s.touches_quit i (s.tasks i)) fun hAbsent => ?_
    simp only [RelayServer.step, hAbsent, quit]
  | announce i labels =>
    simp only [RelayServer.step, announce]
    split
    · exact h
    · exact h
  | next i choice =>
    refine h.touch (s.touches_next i choice (s.tasks i)) fun hAbsent => ?_
    simp only [RelayServer.step, hAbsent, next]
  | remove fingerprint unlisted => exact h.spawn _
  | sweep now maxIdle =>
    have hTable : (s.setTable (s.table.evictIdle now maxIdle).2).Wf := h
    exact hTable.spawn _

theorem wf_run (config : ServerConfig) (labels : List ServerLabel) :
    (run (RelayServer.step config) {} labels).Wf :=
  run_invariant (I := Wf) (fun _ l h => h.step l) labels {} wf_start

/-- All tasks are such. -/
def allTasks (s : RelayServer) (p : Task → Bool) : Bool :=
  (List.range s.spawned).all fun i => p (s.tasks i)

theorem Wf.allTasks (h : s.Wf) {p : Task → Bool} (hAbsent : p .absent = true) :
    s.allTasks p = true ↔ ∀ i, p (s.tasks i) = true := by
  simp only [RelayServer.allTasks, List.all_eq_true, List.mem_range]
  refine ⟨fun hAll i => ?_, fun hAll i _ => hAll i⟩
  by_cases hi : i < s.spawned
  · exact hAll i hi
  · rw [h i (by omega), hAbsent]

end

/-! ## Runs -/

/-- A new link registers, as task `i`. -/
def joins (i : Nat) (fingerprint : Fingerprint) : List ServerLabel :=
  [.accept fingerprint, .read i (.register fingerprint.1)] ++ List.replicate 5 (.next i {})

/-- It opens a stream. -/
def opens (i streamId : Nat) (targetNodeId : String) : List ServerLabel :=
  .read i (.openStream streamId targetNodeId) :: List.replicate 5 (.next i {})

def smallConfig : ServerConfig where
  maxNodes := 10
  maxStreams := 10
  toLowercase := asciiLowercase
  toLowercase_ascii := fun _ _ => rfl

def aNode : Fingerprint := fingerprintOf 'a' (by decide)

def bNode : Fingerprint := fingerprintOf 'b' (by decide)

end RelayServer

end WaitAgent.Relay
