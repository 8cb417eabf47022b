import WaitAgent.Mux.Frame
import WaitAgent.Verified.HashMap
import WaitAgent.Verified.Run

/-!
# The connection table of a relay

The links that are registered, by node id.  An entry holds three things that live on outside
the table: the sender of the retire channel of its link, the cell of its last activity, and
the outbound queue.  A `register` makes the first two afresh, so they are named by its number,
and what they hold is kept beside the entries.

Every function is one critical section, except that `register` takes its id before it takes the
lock, and that `touch` gives the lock back before it writes.  Both are two steps here.
-/

namespace WaitAgent.Relay

open Verified Mux

/-! ## Entries -/

/-- The retire channel of a link, as its receiver finds it. -/
inductive Retire where
  | quiet
  | told
  /-- The sender is gone and has sent nothing, which ends the link as well. -/
  | closed
  deriving DecidableEq

namespace Retire

def send : Retire → Retire
  | quiet | told => told
  | closed => closed

/-- The last sender goes. -/
def drop : Retire → Retire
  | quiet | closed => closed
  | told => told

/-- `changed()` returns. -/
def signalled : Retire → Bool
  | quiet => false
  | told | closed => true

end Retire

structure ConnectionEntry (ω : Type*) where
  connectionId : Nat
  /-- The number of the `register` that made the entry. -/
  serial : Nat
  outbound : ω
  labels : List String := []
  deriving DecidableEq

/-- An `AtomicU64` that is counted up from 0. -/
def connectionIdOf (serial : Nat) : Nat := serial % 2 ^ 64

structure RelayConnectionTable (ω : Type*) where
  entries : HashMap String (ConnectionEntry ω) := ∅
  /-- How many ids have been handed out. -/
  registrations : Nat := 0
  lastSeen : Nat → Nat := fun _ => 0
  retire : Nat → Retire := fun _ => .quiet

namespace RelayConnectionTable

variable {ω : Type*}

/-! ## Operations -/

section

variable (t : RelayConnectionTable ω) (nodeId : String) (connectionId now : Nat)

def len : Nat := t.entries.keys.length

def lookup : Option (ConnectionEntry ω) := t.entries.lookup nodeId

/-- The part of `register` in front of the lock. -/
def allocate : RelayConnectionTable ω :=
  { t with
    registrations := t.registrations + 1
    lastSeen := Function.update t.lastSeen t.registrations now }

/-- The entry that goes in, and with it the one that it replaces, if any. -/
def insertEntry (serial : Nat) (outbound : ω) :
    Option (ConnectionEntry ω) × RelayConnectionTable ω :=
  (t.lookup nodeId,
    { t with
      entries := t.entries.insert nodeId
        { connectionId := connectionIdOf serial, serial, outbound } })

def register (outbound : ω) : Option (ConnectionEntry ω) × RelayConnectionTable ω :=
  (t.allocate now).insertEntry nodeId t.registrations outbound

/-- The part of `touch` under the lock: the cell to write, if the link is the current one. -/
def touch : Option Nat :=
  (t.lookup nodeId).bind fun entry =>
    if entry.connectionId = connectionId then some entry.serial else none

def writeLastSeen (serial : Nat) : RelayConnectionTable ω :=
  { t with lastSeen := Function.update t.lastSeen serial now }

/-- The entry is dropped, and the sender of its retire channel with it. -/
def removeIfCurrent : Bool × RelayConnectionTable ω :=
  match t.lookup nodeId with
  | some entry =>
      if entry.connectionId = connectionId then
        (true,
          { t with
            entries := t.entries.erase nodeId
            retire := Function.update t.retire entry.serial (t.retire entry.serial).drop })
      else (false, t)
  | none => (false, t)

def notice (code : RelayErrorCode) : Frame := .error 0 code.wireValue code.message

/-- The link is told; the answer is the notice that its queue is offered. -/
def retireNotifying (code : RelayErrorCode) : Option (ω × Frame) × RelayConnectionTable ω :=
  match t.lookup nodeId with
  | some entry =>
      (some (entry.outbound, notice code),
        { t with
          entries := t.entries.erase nodeId
          retire := Function.update t.retire entry.serial (t.retire entry.serial).send.drop })
  | none => (none, t)

def idle (maxIdle : Nat) (entry : ConnectionEntry ω) : Bool :=
  maxIdle ≤ now - t.lastSeen entry.serial

def evictIdle (maxIdle : Nat) : List (String × ConnectionEntry ω) × RelayConnectionTable ω :=
  ((t.entries.entries.filter fun e => t.idle now maxIdle e.2).map fun e => (e.1, e.2),
    { t with entries := t.entries.retain fun _ entry => !t.idle now maxIdle entry })

def setLabels (labels : List String) : RelayConnectionTable ω :=
  match t.lookup nodeId with
  | some entry =>
      if entry.connectionId = connectionId then
        { t with entries := t.entries.insert nodeId { entry with labels } }
      else t
  | none => t

/-- What the table says about a node. -/
def view : Option (ConnectionEntry ω × Nat) :=
  (t.lookup nodeId).map fun entry => (entry, t.lastSeen entry.serial)

end

/-! ### What the guarded calls do -/

section

variable {t : RelayConnectionTable ω} {nodeId : String} {connectionId : Nat}

theorem removeIfCurrent_current {entry : ConnectionEntry ω} (hEntry : t.lookup nodeId = some entry)
    (hCurrent : entry.connectionId = connectionId) :
    t.removeIfCurrent nodeId connectionId =
      (true, { t with
        entries := t.entries.erase nodeId
        retire := Function.update t.retire entry.serial (t.retire entry.serial).drop }) := by
  simp only [removeIfCurrent, hEntry, hCurrent, if_true]

/-- A link that is not the current one finds nothing to do. -/
def Stale (t : RelayConnectionTable ω) (nodeId : String) (connectionId : Nat) : Prop :=
  ∀ entry, t.lookup nodeId = some entry → entry.connectionId ≠ connectionId

theorem Stale.removeIfCurrent (h : t.Stale nodeId connectionId) :
    t.removeIfCurrent nodeId connectionId = (false, t) := by
  unfold RelayConnectionTable.removeIfCurrent
  split
  · next entry hEntry => rw [if_neg (h entry hEntry)]
  · rfl

theorem Stale.touch (h : t.Stale nodeId connectionId) : t.touch nodeId connectionId = none := by
  unfold RelayConnectionTable.touch
  cases hEntry : t.lookup nodeId with
  | none => rfl
  | some entry => simp [h entry hEntry]

theorem Stale.setLabels (h : t.Stale nodeId connectionId) (labels : List String) :
    t.setLabels nodeId connectionId labels = t := by
  unfold RelayConnectionTable.setLabels
  split
  · next entry hEntry => rw [if_neg (h entry hEntry)]
  · rfl

theorem stale_or_current (t : RelayConnectionTable ω) (nodeId : String) (connectionId : Nat) :
    t.Stale nodeId connectionId ∨
      ∃ entry, t.lookup nodeId = some entry ∧ entry.connectionId = connectionId := by
  by_cases h : ∃ entry, t.lookup nodeId = some entry ∧ entry.connectionId = connectionId
  · exact .inr h
  · exact .inl fun entry hEntry hId => h ⟨entry, hEntry, hId⟩

theorem mem_evicted (t : RelayConnectionTable ω) (now maxIdle : Nat) (n : String) :
    n ∈ (t.evictIdle now maxIdle).1.map Prod.fst ↔
      ∃ entry, t.lookup n = some entry ∧ t.idle now maxIdle entry = true := by
  simp only [evictIdle, List.map_map, List.mem_map, List.mem_filter, lookup,
    AList.lookup_eq_some_iff, Function.comp]
  constructor
  · rintro ⟨e, hIdle, rfl⟩
    exact ⟨e.2, hIdle⟩
  · rintro ⟨entry, hIdle⟩
    exact ⟨⟨n, entry⟩, hIdle, rfl⟩

theorem lookup_evictIdle (t : RelayConnectionTable ω) (now maxIdle : Nat) (n : String) :
    (t.evictIdle now maxIdle).2.lookup n =
      (t.lookup n).filter fun entry => !t.idle now maxIdle entry := by
  simp only [evictIdle, lookup, AList.lookup_retain]

theorem mem_evictIdle (t : RelayConnectionTable ω) (now maxIdle : Nat) (n : String) :
    n ∈ (t.evictIdle now maxIdle).2.entries ↔
      n ∈ t.entries ∧ n ∉ (t.evictIdle now maxIdle).1.map Prod.fst := by
  have hAfter := t.lookup_evictIdle now maxIdle n
  rw [mem_evicted, ← AList.lookup_isSome, ← AList.lookup_isSome]
  change ((t.evictIdle now maxIdle).2.lookup n).isSome = true ↔ (t.lookup n).isSome = true ∧ _
  rw [hAfter]
  cases t.lookup n with
  | none => simp
  | some entry => cases hIdle : t.idle now maxIdle entry <;> simp [hIdle]

end

end RelayConnectionTable

/-! ## Calls in any order -/

inductive TableCall (ω : Type*) where
  /-- A `register` takes its id. -/
  | allocate (now : Nat)
  /-- The same `register` puts its entry in. -/
  | insert (serial : Nat) (nodeId : String) (outbound : ω)
  | touch (nodeId : String) (connectionId : Nat)
  /-- A `touch` that has found its link current writes. -/
  | writeLastSeen (serial now : Nat)
  | setLabels (nodeId : String) (connectionId : Nat) (labels : List String)
  | removeIfCurrent (nodeId : String) (connectionId : Nat)
  | retireNotifying (nodeId : String) (code : RelayErrorCode)
  | evictIdle (now maxIdle : Nat)

/-- What a call returned. -/
inductive TableEvent (ω : Type*) where
  | registered (nodeId : String) (serial : Nat) (previous : Option (ConnectionEntry ω))
  | removed (nodeId : String) (found : Bool)
  | retired (nodeId : String) (notice : Option (ω × Frame))
  | evicted (entries : List (String × ConnectionEntry ω))

structure TableUse (ω : Type*) where
  table : RelayConnectionTable ω := {}
  /-- The `register` calls that wait for the lock. -/
  entering : List Nat := []
  /-- The `touch` calls that are about to write. -/
  touching : List Nat := []
  /-- The newest first. -/
  log : List (TableEvent ω) := []

namespace TableUse

variable {ω : Type*}

def step (s : TableUse ω) : TableCall ω → TableUse ω
  | .allocate now =>
      { s with
        table := s.table.allocate now
        entering := s.table.registrations :: s.entering }
  | .insert serial nodeId outbound =>
      if serial ∈ s.entering then
        let (previous, table) := s.table.insertEntry nodeId serial outbound
        { s with
          table
          entering := s.entering.erase serial
          log := .registered nodeId serial previous :: s.log }
      else s
  | .touch nodeId connectionId =>
      { s with touching := (s.table.touch nodeId connectionId).toList ++ s.touching }
  | .writeLastSeen serial now =>
      if serial ∈ s.touching then
        { s with
          table := s.table.writeLastSeen now serial
          touching := s.touching.erase serial }
      else s
  | .setLabels nodeId connectionId labels =>
      { s with table := s.table.setLabels nodeId connectionId labels }
  | .removeIfCurrent nodeId connectionId =>
      let (found, table) := s.table.removeIfCurrent nodeId connectionId
      { s with table, log := .removed nodeId found :: s.log }
  | .retireNotifying nodeId code =>
      let (notice, table) := s.table.retireNotifying nodeId code
      { s with table, log := .retired nodeId notice :: s.log }
  | .evictIdle now maxIdle =>
      let (entries, table) := s.table.evictIdle now maxIdle
      { s with table, log := .evicted entries :: s.log }

/-- The latest `register` for a node that has not been removed since. -/
def latest (nodeId : String) : List (TableEvent ω) → Option Nat
  | [] => none
  | .registered n serial _ :: log => if n = nodeId then some serial else latest nodeId log
  | .removed n found :: log => if n = nodeId ∧ found then none else latest nodeId log
  | .retired n notice :: log => if n = nodeId ∧ notice.isSome then none else latest nodeId log
  | .evicted entries :: log =>
      if nodeId ∈ entries.map Prod.fst then none else latest nodeId log

/-- The entries that a call handed to its caller. -/
def handed : TableEvent ω → List Nat
  | .registered _ _ previous => previous.toList.map ConnectionEntry.serial
  | .evicted entries => entries.map fun e => e.2.serial
  | .removed _ _ | .retired _ _ => []

def returned (log : List (TableEvent ω)) : List Nat := log.flatMap handed

/-- How often the entry of a `register` is in the table. -/
def stored (t : RelayConnectionTable ω) (serial : Nat) : Nat :=
  t.entries.sumValues fun entry => if entry.serial = serial then 1 else 0

def signals (t : RelayConnectionTable ω) (serial : Nat) : Nat :=
  if (t.retire serial).signalled then 1 else 0

/-! ## One place for every entry -/

section

variable {t : RelayConnectionTable ω} {nodeId : String} {entry : ConnectionEntry ω}

theorem stored_insert (t : RelayConnectionTable ω) (nodeId : String) (entry : ConnectionEntry ω)
    (serial : Nat) :
    stored { t with entries := t.entries.insert nodeId entry } serial +
        ((t.lookup nodeId).toList.map ConnectionEntry.serial).count serial =
      stored t serial + if entry.serial = serial then 1 else 0 := by
  have hSum := AList.sumValues_insert
    (fun entry : ConnectionEntry ω => if entry.serial = serial then 1 else 0) t.entries nodeId entry
  have hCount : ((t.lookup nodeId).toList.map ConnectionEntry.serial).count serial =
      ((t.entries.lookup nodeId).map fun entry : ConnectionEntry ω =>
        if entry.serial = serial then 1 else 0).getD 0 := by
    cases hOld : t.entries.lookup nodeId <;>
      simp [RelayConnectionTable.lookup, hOld, List.count_singleton]
  rw [hCount]
  exact hSum

theorem stored_erase (hEntry : t.lookup nodeId = some entry) (retire : Nat → Retire)
    (serial : Nat) :
    stored { t with entries := t.entries.erase nodeId, retire } serial +
        (if entry.serial = serial then 1 else 0) = stored t serial := by
  have hSum := AList.sumValues_erase
    (fun entry : ConnectionEntry ω => if entry.serial = serial then 1 else 0) t.entries nodeId
  have hOld : t.entries.lookup nodeId = some entry := hEntry
  rw [hOld] at hSum
  exact hSum

theorem stored_evictIdle (t : RelayConnectionTable ω) (now maxIdle serial : Nat) :
    stored (t.evictIdle now maxIdle).2 serial +
        (((t.evictIdle now maxIdle).1.map fun e => e.2.serial).count serial) =
      stored t serial := by
  have hSum := AList.sumValues_retain_add
    (fun entry : ConnectionEntry ω => if entry.serial = serial then 1 else 0)
    (fun _ entry => !t.idle now maxIdle entry) t.entries
  have hCount : ∀ l : List (Sigma fun _ : String => ConnectionEntry ω),
      ((l.map fun e => (e.1, e.2)).map fun e : String × ConnectionEntry ω =>
        e.2.serial).count serial = (l.map fun e => if e.2.serial = serial then 1 else 0).sum := by
    intro l
    induction l with
    | nil => rfl
    | cons e l ih =>
      simp only [List.map_cons, List.count_cons, List.sum_cons, ih, beq_iff_eq]
      omega
  simp only [Bool.not_not] at hSum
  simp only [stored, RelayConnectionTable.evictIdle, hCount]
  exact hSum

theorem stored_pos (hEntry : t.lookup nodeId = some entry) : 0 < stored t entry.serial := by
  have hErase := stored_erase hEntry t.retire entry.serial
  rw [if_pos rfl] at hErase
  omega

end

/-- What holds between calls: the table has what the log says, and every id that was handed out
belongs to a `register` that is under way, to an entry, to one that was returned, or to a link
that was signalled. -/
structure Inv (s : TableUse ω) : Prop where
  latest : ∀ nodeId, (s.table.lookup nodeId).map ConnectionEntry.serial = latest nodeId s.log
  created : ∀ nodeId entry, s.table.lookup nodeId = some entry →
    entry.connectionId = connectionIdOf entry.serial
  placed : ∀ serial,
    s.entering.count serial + stored s.table serial + (returned s.log).count serial +
      signals s.table serial = if serial < s.table.registrations then 1 else 0

section

variable {s : TableUse ω}

theorem Inv.allocate (h : s.Inv) (now : Nat) : (s.step (.allocate now)).Inv where
  latest := h.latest
  created := h.created
  placed := by
    intro serial
    have hPlaced := h.placed serial
    change (s.table.registrations :: s.entering).count serial + stored s.table serial +
      (returned s.log).count serial + signals s.table serial =
        if serial < s.table.registrations + 1 then 1 else 0
    rw [List.count_cons]
    by_cases hNew : s.table.registrations = serial
    · simp only [hNew, beq_self_eq_true, if_true, Nat.lt_succ_self]
      rw [if_neg (by omega)] at hPlaced
      omega
    · rw [if_neg (by simpa using hNew)]
      split_ifs at hPlaced ⊢ <;> omega

theorem Inv.insert (h : s.Inv) {serial : Nat} (hMem : serial ∈ s.entering) (nodeId : String)
    (outbound : ω) : (s.step (.insert serial nodeId outbound)).Inv := by
  simp only [step, if_pos hMem, RelayConnectionTable.insertEntry]
  refine ⟨fun n => ?_, fun n entry hEntry => ?_, fun k => ?_⟩
  · simp only [RelayConnectionTable.lookup, AList.lookup_insert_eq_ite, TableUse.latest]
    by_cases hNode : n = nodeId
    · simp [hNode]
    · rw [if_neg hNode, if_neg (Ne.symm hNode)]
      exact h.latest n
  · simp only [RelayConnectionTable.lookup, AList.lookup_insert_eq_ite] at hEntry
    split_ifs at hEntry
    · cases hEntry
      rfl
    · exact h.created n entry hEntry
  · have hPlaced := h.placed k
    have hStored := stored_insert s.table nodeId
      { connectionId := connectionIdOf serial, serial, outbound } k
    have hErase : (s.entering.erase serial).count k =
        s.entering.count k - if serial == k then 1 else 0 := List.count_erase
    have hPos := List.count_pos_iff.mpr hMem
    simp only [returned, List.flatMap_cons, handed, List.count_append]
    rw [hErase]
    by_cases hSerial : serial = k
    · subst hSerial
      simp only [beq_self_eq_true, if_true] at hStored ⊢
      exact Eq.trans (by simp only [returned, signals] at hPlaced ⊢; omega) hPlaced
    · simp only [beq_iff_eq, hSerial, if_false] at hStored ⊢
      exact Eq.trans (by simp only [returned, signals] at hPlaced ⊢; omega) hPlaced

/-- An entry goes, its link is signalled, and the log says so. -/
theorem Inv.withdraw (h : s.Inv) {nodeId : String} {entry : ConnectionEntry ω} {state : Retire}
    {event : TableEvent ω} (hEntry : s.table.lookup nodeId = some entry)
    (hState : state.signalled = true) (hHanded : handed event = [])
    (hLatest : ∀ n, TableUse.latest n (event :: s.log) =
      if n = nodeId then none else TableUse.latest n s.log) :
    Inv { s with
      table := { s.table with
        entries := s.table.entries.erase nodeId
        retire := Function.update s.table.retire entry.serial state }
      log := event :: s.log } := by
  refine ⟨fun n => ?_, fun n old hOld => ?_, fun k => ?_⟩
  · rw [hLatest]
    simp only [RelayConnectionTable.lookup, AList.lookup_erase_eq_ite]
    split_ifs
    · rfl
    · exact h.latest n
  · exact h.created n old (AList.lookup_of_erase hOld).2
  · have hStored := stored_erase hEntry (Function.update s.table.retire entry.serial state) k
    have hPlaced := h.placed k
    simp only [returned, List.flatMap_cons, hHanded, List.nil_append]
    by_cases hSerial : entry.serial = k
    · subst hSerial
      have hPos := stored_pos hEntry
      simp only [if_true] at hStored
      simp only [signals, Function.update_self, hState, if_true]
      have hLe : (if entry.serial < s.table.registrations then 1 else 0) ≤ 1 := by split <;> omega
      simp only [returned, signals] at hPlaced
      split_ifs at hPlaced ⊢ <;> omega
    · rw [if_neg hSerial] at hStored
      simp only [signals, Function.update_of_ne (Ne.symm hSerial)]
      simp only [returned, signals] at hPlaced
      omega

/-- A call that finds nothing to remove is in the log, and that is all. -/
theorem Inv.note (h : s.Inv) {event : TableEvent ω} (hHanded : handed event = [])
    (hLatest : ∀ n, TableUse.latest n (event :: s.log) = TableUse.latest n s.log) :
    Inv { s with log := event :: s.log } := by
  refine ⟨fun n => (h.latest n).trans (hLatest n).symm, h.created, fun k => ?_⟩
  have hPlaced := h.placed k
  simp only [returned, List.flatMap_cons, hHanded, List.nil_append] at hPlaced ⊢
  exact hPlaced

theorem Inv.removeIfCurrent (h : s.Inv) (nodeId : String) (connectionId : Nat) :
    (s.step (.removeIfCurrent nodeId connectionId)).Inv := by
  rcases s.table.stale_or_current nodeId connectionId with hStale | ⟨entry, hEntry, hCurrent⟩
  · simp only [step, hStale.removeIfCurrent]
    exact h.note rfl fun n => by simp [TableUse.latest]
  · simp only [step, RelayConnectionTable.removeIfCurrent_current hEntry hCurrent]
    refine h.withdraw hEntry ?_ rfl fun n => ?_
    · cases s.table.retire entry.serial <;> rfl
    · simp [TableUse.latest, eq_comm]

theorem Inv.retireNotifying (h : s.Inv) (nodeId : String) (code : RelayErrorCode) :
    (s.step (.retireNotifying nodeId code)).Inv := by
  cases hEntry : s.table.lookup nodeId with
  | none =>
    simp only [step, RelayConnectionTable.retireNotifying, hEntry]
    exact h.note rfl fun n => by simp [TableUse.latest]
  | some entry =>
    simp only [step, RelayConnectionTable.retireNotifying, hEntry]
    refine h.withdraw hEntry ?_ rfl fun n => ?_
    · cases s.table.retire entry.serial <;> rfl
    · simp [TableUse.latest, eq_comm]

theorem Inv.setLabels (h : s.Inv) (nodeId : String) (connectionId : Nat) (labels : List String) :
    (s.step (.setLabels nodeId connectionId labels)).Inv := by
  rcases s.table.stale_or_current nodeId connectionId with hStale | ⟨entry, hEntry, hCurrent⟩
  · simp only [step, hStale.setLabels]
    exact h
  · simp only [step, RelayConnectionTable.setLabels, hEntry, if_pos hCurrent]
    refine ⟨fun n => ?_, fun n old hOld => ?_, fun k => ?_⟩
    · rw [← h.latest n]
      simp only [RelayConnectionTable.lookup, AList.lookup_insert_eq_ite]
      split_ifs with hNode
      · subst hNode
        have hOld : s.table.entries.lookup n = some entry := hEntry
        rw [hOld]
        rfl
      · rfl
    · simp only [RelayConnectionTable.lookup, AList.lookup_insert_eq_ite] at hOld
      split_ifs at hOld
      · cases hOld
        exact h.created nodeId entry hEntry
      · exact h.created n old hOld
    · have hStored := stored_insert s.table nodeId { entry with labels } k
      have hPlaced := h.placed k
      rw [hEntry, Option.toList_some, List.map_singleton, List.count_singleton] at hStored
      simp only [signals, returned, beq_iff_eq] at hPlaced hStored ⊢
      omega

theorem Inv.evictIdle (h : s.Inv) (now maxIdle : Nat) :
    (s.step (.evictIdle now maxIdle)).Inv := by
  have hMem := s.table.mem_evicted now maxIdle
  have hLookup := s.table.lookup_evictIdle now maxIdle
  refine ⟨fun n => ?_, fun n entry hEntry => ?_, fun k => ?_⟩
  · change ((s.table.evictIdle now maxIdle).2.lookup n).map _ =
      TableUse.latest n (.evicted (s.table.evictIdle now maxIdle).1 :: s.log)
    rw [hLookup, TableUse.latest, ← h.latest n]
    cases hEntry : s.table.lookup n with
    | none => simp
    | some entry =>
      cases hIdle : s.table.idle now maxIdle entry with
      | true =>
        rw [if_pos ((hMem n).mpr ⟨entry, hEntry, hIdle⟩)]
        simp [hIdle]
      | false =>
        rw [if_neg]
        · simp [hIdle]
        · rintro hIn
          obtain ⟨other, hOther, hBusy⟩ := (hMem n).mp hIn
          rw [hEntry] at hOther
          cases hOther
          rw [hIdle] at hBusy
          cases hBusy
  · have hKept : ((s.table.lookup n).filter fun entry => !s.table.idle now maxIdle entry) =
        some entry := (hLookup n).symm.trans hEntry
    exact h.created n entry (Option.filter_eq_some_iff.mp hKept).1
  · have hStored := stored_evictIdle s.table now maxIdle k
    have hPlaced := h.placed k
    change s.entering.count k + stored (s.table.evictIdle now maxIdle).2 k +
      (returned (.evicted (s.table.evictIdle now maxIdle).1 :: s.log)).count k +
        signals s.table k = if k < s.table.registrations then 1 else 0
    simp only [returned, List.flatMap_cons, handed, List.count_append]
    simp only [returned] at hPlaced
    omega

theorem Inv.step (h : s.Inv) (call : TableCall ω) : (s.step call).Inv := by
  cases call with
  | allocate now => exact h.allocate now
  | insert serial nodeId outbound =>
    by_cases hMem : serial ∈ s.entering
    · exact h.insert hMem nodeId outbound
    · simp only [TableUse.step, if_neg hMem]
      exact h
  | touch nodeId connectionId => exact ⟨h.latest, h.created, h.placed⟩
  | writeLastSeen serial now =>
    simp only [TableUse.step]
    split_ifs
    · exact ⟨h.latest, h.created, h.placed⟩
    · exact h
  | setLabels nodeId connectionId labels => exact h.setLabels nodeId connectionId labels
  | removeIfCurrent nodeId connectionId => exact h.removeIfCurrent nodeId connectionId
  | retireNotifying nodeId code => exact h.retireNotifying nodeId code
  | evictIdle now maxIdle => exact h.evictIdle now maxIdle

end

/-! ## Stale links -/

/-- No link reaches the entry of its successor, and no entry is lost. -/
structure Guarded (s : TableUse ω) : Prop where
  latest : ∀ nodeId, (s.table.lookup nodeId).map ConnectionEntry.serial = latest nodeId s.log
  /-- A call of a link that is not the current one changes nothing. -/
  stale : ∀ nodeId connectionId, s.table.Stale nodeId connectionId →
    s.step (.touch nodeId connectionId) = s ∧
      (∀ labels, s.step (.setLabels nodeId connectionId labels) = s) ∧
      (s.step (.removeIfCurrent nodeId connectionId)).table = s.table
  /-- Nor does the write of a `touch` whose link has been replaced after the comparison. -/
  overtaken : ∀ serial now,
    (∀ nodeId entry, s.table.lookup nodeId = some entry → entry.serial ≠ serial) →
    ∀ nodeId, (s.step (.writeLastSeen serial now)).table.view nodeId = s.table.view nodeId
  /-- Ids do not repeat, so that a link which has been replaced is not the current one. -/
  distinct : s.table.registrations ≤ 2 ^ 64 →
    (∀ i < s.table.registrations, ∀ j < s.table.registrations, i ≠ j →
      connectionIdOf i ≠ connectionIdOf j) ∧
    ∀ nodeId, ∀ serial < s.table.registrations,
      TableUse.latest nodeId s.log ≠ some serial →
        s.table.Stale nodeId (connectionIdOf serial)
  /-- An entry is to be inserted, stored, returned to its remover once, or signalled once. -/
  placed : ∀ serial < s.table.registrations,
    s.entering.count serial + stored s.table serial + (returned s.log).count serial +
      signals s.table serial = 1

section

variable {s : TableUse ω}

theorem connectionIdOf_ne {n i j : Nat} (hn : n ≤ 2 ^ 64) (hi : i < n) (hj : j < n) (hNe : i ≠ j) :
    connectionIdOf i ≠ connectionIdOf j := by
  rw [connectionIdOf, connectionIdOf, Nat.mod_eq_of_lt (by omega), Nat.mod_eq_of_lt (by omega)]
  exact hNe

theorem Inv.serial_lt (h : s.Inv) {nodeId : String} {entry : ConnectionEntry ω}
    (hEntry : s.table.lookup nodeId = some entry) : entry.serial < s.table.registrations := by
  have hPlaced := h.placed entry.serial
  have hPos := stored_pos hEntry
  by_contra hNot
  rw [if_neg hNot] at hPlaced
  omega

theorem view_writeLastSeen {serial : Nat} (now : Nat)
    (hNone : ∀ nodeId entry, s.table.lookup nodeId = some entry → entry.serial ≠ serial)
    (nodeId : String) :
    (s.table.writeLastSeen now serial).view nodeId = s.table.view nodeId := by
  change (s.table.lookup nodeId).map _ = (s.table.lookup nodeId).map _
  cases hEntry : s.table.lookup nodeId with
  | none => rfl
  | some entry =>
    simp only [Option.map_some, RelayConnectionTable.writeLastSeen,
      Function.update_of_ne (hNone nodeId entry hEntry)]

theorem Inv.guarded (h : s.Inv) : s.Guarded where
  latest := h.latest
  stale := by
    intro nodeId connectionId hStale
    refine ⟨?_, fun labels => ?_, ?_⟩
    · simp only [TableUse.step, hStale.touch, Option.toList_none, List.nil_append]
    · simp only [TableUse.step, hStale.setLabels]
    · simp only [TableUse.step, hStale.removeIfCurrent]
  overtaken := by
    intro serial now hNone nodeId
    simp only [TableUse.step]
    split_ifs
    · exact view_writeLastSeen now hNone nodeId
    · rfl
  distinct := by
    intro hFew
    refine ⟨fun i hi j hj hNe => connectionIdOf_ne hFew hi hj hNe, ?_⟩
    intro nodeId serial hSerial hOld entry hEntry
    rw [h.created nodeId entry hEntry]
    refine connectionIdOf_ne hFew (h.serial_lt hEntry) hSerial fun hSame => hOld ?_
    rw [← h.latest nodeId, hEntry, ← hSame]
    rfl
  placed := by
    intro serial hSerial
    rw [h.placed serial, if_pos hSerial]

end

theorem stale_links_are_harmless (calls : List (TableCall ω)) :
    (run step ({} : TableUse ω) calls).Guarded := by
  refine Inv.guarded (run_invariant (fun s call h => h.step call) calls _ ?_)
  refine ⟨fun nodeId => rfl, fun nodeId entry hEntry => ?_, fun serial => ?_⟩
  · cases hEntry
  · rfl

/-! ### The counter comes round -/

/-- Ids are taken, and the table stays as it is. -/
theorem run_allocate (n now : Nat) (s : TableUse ω) :
    (run step s (List.replicate n (.allocate now))).table.entries = s.table.entries ∧
      ∀ serial, s.table.registrations ≤ serial → serial < s.table.registrations + n →
        serial ∈ (run step s (List.replicate n (.allocate now))).entering := by
  induction n generalizing s with
  | zero => exact ⟨rfl, fun serial hLe hLt => by omega⟩
  | succ n ih =>
    have hEntering : ∀ m, ∀ u : TableUse ω, ∀ serial ∈ u.entering,
        serial ∈ (run step u (List.replicate m (.allocate now))).entering := by
      intro m
      induction m with
      | zero => exact fun u serial hMem => hMem
      | succ m ihm =>
        intro u serial hMem
        exact ihm (u.step (.allocate now)) serial (List.mem_cons_of_mem _ hMem)
    obtain ⟨hEntries, hRest⟩ := ih (s.step (.allocate now))
    refine ⟨hEntries, fun serial hLe hLt => ?_⟩
    rcases Nat.eq_or_lt_of_le hLe with rfl | hAfter
    · exact hEntering n (s.step (.allocate now)) _ List.mem_cons_self
    · exact hRest serial hAfter (by change serial < s.table.registrations + 1 + n; omega)

/-- A link registers, `n` more ids are handed out, and the last of them is for its successor. -/
def succeeded (n : Nat) : TableUse Unit :=
  run step {} (.allocate 0 :: .insert 0 "node" () ::
    (List.replicate n (.allocate 0) ++ [.insert n "node" ()]))

theorem succeeded_eq {n : Nat} (hn : 0 < n) :
    latest "node" (succeeded n).log = some n ∧
      (succeeded n).table.lookup "node" =
        some { connectionId := connectionIdOf n, serial := n, outbound := () } := by
  obtain ⟨-, hMem⟩ := run_allocate n 0
    ((({} : TableUse Unit).step (.allocate 0)).step (.insert 0 "node" ()))
  have hIn := hMem n hn (by change n < 1 + n; omega)
  simp only [succeeded, run_cons, run_append, run_nil]
  generalize run step _ (List.replicate n (TableCall.allocate 0)) = s at hIn
  simp only [step, if_pos hIn]
  exact ⟨rfl, AList.lookup_insert _⟩

theorem removed_by_first {n : Nat} (hn : 0 < n) (hRound : connectionIdOf n = connectionIdOf 0) :
    latest "node" (succeeded n).log = some n ∧
      ((succeeded n).step (.removeIfCurrent "node" (connectionIdOf 0))).table.lookup "node" =
        none := by
  obtain ⟨hLatest, hEntry⟩ := succeeded_eq hn
  refine ⟨hLatest, ?_⟩
  simp only [step, RelayConnectionTable.removeIfCurrent_current hEntry hRound]
  exact AList.lookup_erase _ _

/-- After 2 ^ 64 ids the link that was first removes the entry of its successor. -/
theorem first_link_removes_successor :
    ∃ n, 0 < n ∧ connectionIdOf n = connectionIdOf 0 ∧
      latest "node" (succeeded n).log = some n ∧
      ((succeeded n).step (.removeIfCurrent "node" (connectionIdOf 0))).table.lookup "node" =
        none := by
  have hRound : connectionIdOf (2 ^ 64) = connectionIdOf 0 := by decide
  have hPos : 0 < 2 ^ 64 := by decide
  exact ⟨2 ^ 64, hPos, hRound, removed_by_first hPos hRound⟩

end TableUse

end WaitAgent.Relay
