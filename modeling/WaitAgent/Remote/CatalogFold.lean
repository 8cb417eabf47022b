import WaitAgent.Remote.SessionSync
import WaitAgent.Verified.Run

/-!
# The catalog that the publications add up to

The source compares the catalog with what it published last, by the address of each session, and
its tracker suppresses repeats by the name that peers know, which has only the session id of
the address.  Folded in the order of their revisions, the publications for a target say what the
tracker remembers as its last state.  That is the state in the catalog, because the sessions of
a node have one authority id, so that a session id stays with its address.
-/

namespace WaitAgent.Remote

open Verified Domain

/-! ## Folding -/

/-- What is said about a target: a revision, and its state or that it has exited. -/
abbrev News := Nat × Option GrpcTargetPublished

def GrpcNodeSessionEnvelope.newsFor (target : String) (e : GrpcNodeSessionEnvelope) :
    Option News :=
  match e.body with
  | some (.targetPublished p) => if p.targetId = target then some (p.revision, some p) else none
  | some (.targetExited p) => if p.targetId = target then some (p.revision, none) else none
  | _ => none

def newsOf (target : String) (sent : List GrpcNodeSessionEnvelope) : List News :=
  sent.filterMap (GrpcNodeSessionEnvelope.newsFor target)

/-- The news come in the order of their revisions, and a revision says one thing. -/
def InOrder (news : List News) : Prop :=
  news.Pairwise fun a b => a.1 ≤ b.1 ∧ (a.1 = b.1 → a = b)

/-- What is known of a target after all news. -/
def foldNews (news : List News) : Option GrpcTargetPublished :=
  news.foldl (fun _ n => n.2) none

theorem foldNews_append (news : List News) (n : News) : foldNews (news ++ [n]) = n.2 := by
  simp [foldNews]

/-- The state in an envelope. -/
def GrpcNodeSessionEnvelope.published (e : GrpcNodeSessionEnvelope) : Option GrpcTargetPublished :=
  match e.body with
  | some (.targetPublished p) => some p
  | _ => none

/-- The payload is that of a publication of the session. -/
def Publishes (nodeId : String) (session : ManagedSessionRecord) (p : GrpcTargetPublished) : Prop :=
  ∃ inst sequence now revision,
    (remoteSessionPublishedEnvelope nodeId inst sequence now session revision).published = some p

/-! ## The tracker and its publications -/

/-- The session of a record, if it is not reported as exited. -/
def SourcePublicationRecord.live (r : SourcePublicationRecord) : Option ManagedSessionRecord :=
  r.lastState.bind fun state => if state.exited then none else some state.session

/-- What was sent about a target is what its record says. -/
structure Told (nodeId target : String) (r : SourcePublicationRecord) (news : List News) :
    Prop where
  inOrder : InOrder news
  bound : ∀ n ∈ news, n.1 ≤ r.latestRevision
  latest : ∀ n ∈ news, n.1 = r.latestRevision → n.2 = foldNews news
  state : foldNews news = none ∧ r.live = none ∨
    ∃ session p, foldNews news = some p ∧ r.live = some session ∧ Publishes nodeId session p
  pending : ∀ p, r.pending = some p → p.targetId = target ∧ ∀ k,
    p.envelope.newsFor k = if k = target then some (r.latestRevision, foldNews news) else none

section

variable {nodeId target : String} {r : SourcePublicationRecord} {news : List News}

theorem told_nothing : Told nodeId target {} [] where
  inOrder := List.Pairwise.nil
  bound := List.forall_mem_nil _
  latest := List.forall_mem_nil _
  state := .inl ⟨rfl, rfl⟩
  pending := fun p h => by cases h

/-- What is sent is no older than what was, and says the same if it is no newer. -/
theorem Told.append (h : Told nodeId target r news) {r' : SourcePublicationRecord}
    {x : Option GrpcTargetPublished}
    (hOlder : ∀ n ∈ news, n.1 ≤ r'.latestRevision ∧ (n.1 = r'.latestRevision → n.2 = x))
    (hState : x = none ∧ r'.live = none ∨
      ∃ session p, x = some p ∧ r'.live = some session ∧ Publishes nodeId session p)
    (hPending : ∀ p, r'.pending = some p → p.targetId = target ∧ ∀ k,
      p.envelope.newsFor k = if k = target then some (r'.latestRevision, x) else none) :
    Told nodeId target r' (news ++ [(r'.latestRevision, x)]) := by
  refine ⟨?_, ?_, ?_, ?_, ?_⟩
  · refine List.pairwise_append.mpr ⟨h.inOrder, List.pairwise_singleton _ _, fun a ha b hb => ?_⟩
    rw [List.mem_singleton.mp hb]
    exact ⟨(hOlder a ha).1, fun hEq => Prod.ext hEq ((hOlder a ha).2 hEq)⟩
  · intro n hn
    rcases List.mem_append.mp hn with hn | hn
    · exact (hOlder n hn).1
    · exact (congrArg Prod.fst (List.mem_singleton.mp hn)).le
  · intro n hn hEq
    rw [foldNews_append]
    rcases List.mem_append.mp hn with hn | hn
    · exact (hOlder n hn).2 hEq
    · exact congrArg Prod.snd (List.mem_singleton.mp hn)
  · rw [foldNews_append]
    exact hState
  · rw [foldNews_append]
    exact hPending

/-- The latest revision may be sent again. -/
theorem Told.again (h : Told nodeId target r news) :
    Told nodeId target r (news ++ [(r.latestRevision, foldNews news)]) :=
  h.append (fun n hn => ⟨h.bound n hn, h.latest n hn⟩) h.state h.pending

/-- A new revision. -/
theorem Told.next (h : Told nodeId target r news) {r' : SourcePublicationRecord}
    {x : Option GrpcTargetPublished} (hRevision : r'.latestRevision = r.latestRevision + 1)
    (hState : x = none ∧ r'.live = none ∨
      ∃ session p, x = some p ∧ r'.live = some session ∧ Publishes nodeId session p)
    (hPending : ∀ p, r'.pending = some p → p.targetId = target ∧ ∀ k,
      p.envelope.newsFor k = if k = target then some (r'.latestRevision, x) else none) :
    Told nodeId target r' (news ++ [(r'.latestRevision, x)]) := by
  refine h.append (fun n hn => ?_) hState hPending
  have hBound := h.bound n hn
  exact ⟨by omega, fun hEq => by omega⟩

/-- Of the pending publication only its times may change, or it may be dropped. -/
theorem Told.repend (h : Told nodeId target r news) {r' : SourcePublicationRecord}
    (hRevision : r'.latestRevision = r.latestRevision) (hLive : r'.live = r.live)
    (hPending : ∀ p, r'.pending = some p → ∃ q, r.pending = some q ∧ p.targetId = q.targetId ∧
      p.envelope = q.envelope) : Told nodeId target r' news := by
  refine ⟨h.inOrder, hRevision ▸ h.bound, hRevision ▸ h.latest, hLive ▸ h.state, fun p hp => ?_⟩
  obtain ⟨q, hq, hTarget, hEnvelope⟩ := hPending p hp
  rw [hTarget, hEnvelope, hRevision]
  exact h.pending q hq

end

namespace Publisher

variable {nodeId target : String} {c : Publisher}

def live (c : Publisher) (target : String) : Option ManagedSessionRecord :=
  (c.tracker.record target).live

def ToldAll (nodeId : String) (c : Publisher) : Prop :=
  ∀ target, Told nodeId target (c.tracker.record target) (newsOf target c.sent)

theorem newsOf_append (target : String) (sent : List GrpcNodeSessionEnvelope)
    (e : GrpcNodeSessionEnvelope) :
    newsOf target (sent ++ [e]) = newsOf target sent ++ (e.newsFor target).toList := by
  rw [newsOf, List.filterMap_append, newsOf]
  cases hNews : e.newsFor target <;> simp [List.filterMap, hNews]

/-- A publication is numbered and sent. -/
theorem announce_spec (hTold : c.ToldAll nodeId) {state : SourcePublicationState}
    {envelope : Nat → GrpcNodeSessionEnvelope} {x : Nat → Option GrpcTargetPublished}
    (hNews : ∀ revision k, (envelope revision).newsFor k =
      if k = target then some (revision, x revision) else none)
    (hState : ∀ revision, x revision = none ∧ state.exited = true ∨
      ∃ p, x revision = some p ∧ state.exited = false ∧ Publishes nodeId state.session p)
    (counter now : Nat) (numbered : List PendingSourcePublication) :
    let published := c.tracker.publish target state envelope
    let sent := sendSourcePublication (fun _ => true) now
      ⟨published.1, counter, numbered, c.sent⟩ published.2
    sent.2 = true ∧ sent.1.ToldAll nodeId ∧
      sent.1.live =
        Function.update c.live target (if state.exited then none else some state.session) := by
  intro published sent
  have hRecord (k : String) : published.1.record k = _ :=
    c.tracker.record_publish target k state envelope
  have hCurrent : published.1.isCurrentPending target published.2.revision = true := by
    rw [SourcePublicationTracker.isCurrentPending_iff, hRecord, if_pos rfl]
    exact ⟨_, rfl, rfl⟩
  have hSent : sent =
      (⟨published.1.onPublicationSent target published.2.revision now, counter, numbered,
        c.sent ++ [published.2.envelope]⟩, true) := by
    show sendSourcePublication _ _ _ _ = _
    unfold sendSourcePublication
    have hTarget : published.2.targetId = target := rfl
    simp [hTarget, hCurrent]
  have hAfter (k : String) : sent.1.tracker.record k =
      if k = target then
        { c.tracker.record target with
          lastState := some state
          latestRevision := (c.tracker.record target).latestRevision + 1
          pending := some (SourcePublicationTracker.sentPending now published.2) }
      else c.tracker.record k := by
    rw [hSent]
    dsimp only
    rw [SourcePublicationTracker.record_onPublicationSent]
    by_cases hk : k = target
    · rw [if_pos ⟨hk, hCurrent⟩, if_pos hk, hRecord, if_pos hk]
      rfl
    · rw [if_neg (fun h => hk h.1), if_neg hk, hRecord, if_neg hk]
  refine ⟨by rw [hSent], fun k => ?_, ?_⟩
  · have hList : newsOf k sent.1.sent = newsOf k c.sent ++ (if k = target then
        some (published.2.revision, x published.2.revision) else none).toList := by
      rw [hSent]
      dsimp only
      rw [newsOf_append]
      exact congrArg (newsOf k c.sent ++ Option.toList ·) (hNews published.2.revision k)
    rw [hList, hAfter]
    by_cases hk : k = target
    · subst hk
      simp only [if_pos, Option.toList_some]
      refine (hTold k).next rfl ?_ ?_
      · rcases hState published.2.revision with ⟨hx, hExited⟩ | ⟨p, hx, hOpen, hPub⟩
        · exact .inl ⟨hx, by simp [SourcePublicationRecord.live, hExited]⟩
        · exact .inr ⟨state.session, p, hx, by simp [SourcePublicationRecord.live, hOpen], hPub⟩
      · intro p hp
        cases hp
        exact ⟨rfl, fun k' => hNews _ k'⟩
    · simp only [if_neg hk, Option.toList_none, List.append_nil]
      exact hTold k
  · funext k
    rw [live, hAfter]
    by_cases hk : k = target
    · rw [hk, if_pos rfl, Function.update_self]
      rfl
    · rw [if_neg hk, Function.update_of_ne hk]
      rfl

theorem publishExit_spec (inst : String) (now : Nat) (hTold : c.ToldAll nodeId)
    (sessionId : String) :
    let done := c.publishExit nodeId inst (fun _ => true) now sessionId
    done.2 = true ∧ done.1.ToldAll nodeId ∧
      done.1.live = Function.update c.live (publishedTargetId nodeId sessionId) none := by
  refine announce_spec (x := fun _ => none) hTold (fun revision k => ?_) (fun _ => .inl ⟨rfl, rfl⟩)
    _ _ _
  simp only [GrpcNodeSessionEnvelope.newsFor, remoteSessionExitedEnvelope, sessionSyncEnvelope,
    eq_comm]

theorem publishState_spec (inst : String) (now : Nat) (mode : SourcePublicationMode)
    (hTold : c.ToldAll nodeId) (session : ManagedSessionRecord) :
    let done := c.publishState nodeId inst (fun _ => true) now mode session
    done.2 = true ∧ done.1.ToldAll nodeId ∧
      done.1.live = Function.update c.live (publishedTargetId nodeId session.address.sessionId)
        (some session) := by
  intro done
  by_cases hRepeat : mode = .delta ∧ (c.tracker.record (publishedTargetId nodeId
      session.address.sessionId)).lastState = some { session, exited := false }
  · have hDone : done = ({ c with
        tracker := c.tracker.setRecord (publishedTargetId nodeId session.address.sessionId)
          (c.tracker.record (publishedTargetId nodeId session.address.sessionId)) }, true) := by
      show publishState _ _ _ _ _ _ _ = _
      unfold publishState SourcePublicationTracker.onStateChangedWithMode
      simp only [if_pos hRepeat]
    have hSame (k : String) : done.1.tracker.record k = c.tracker.record k := by
      rw [hDone]
      dsimp only
      rw [SourcePublicationTracker.record_setRecord]
      split_ifs with hk
      · rw [hk]
      · rfl
    refine ⟨by rw [hDone], fun k => ?_, ?_⟩
    · rw [hSame, hDone]
      exact hTold k
    · rw [eq_comm, Function.update_eq_iff]
      refine ⟨?_, fun k _ => by rw [live, live, hSame]⟩
      rw [live, hSame, SourcePublicationRecord.live, hRepeat.2]
      rfl
  · have hDone : done = sendSourcePublication (fun _ => true) now
        { c with
          tracker := (c.tracker.publish (publishedTargetId nodeId session.address.sessionId)
            { session, exited := false } (remoteSessionPublishedEnvelope nodeId inst
              (nextMessageIdIncrement c.nextMessageId) now session)).1
          nextMessageId := nextMessageIdIncrement c.nextMessageId
          numbered := c.numbered ++ [(c.tracker.publish (publishedTargetId nodeId
            session.address.sessionId) { session, exited := false } (remoteSessionPublishedEnvelope
              nodeId inst (nextMessageIdIncrement c.nextMessageId) now session)).2] }
        (c.tracker.publish (publishedTargetId nodeId session.address.sessionId)
          { session, exited := false } (remoteSessionPublishedEnvelope nodeId inst
            (nextMessageIdIncrement c.nextMessageId) now session)).2 := by
      show publishState _ _ _ _ _ _ _ = _
      unfold publishState SourcePublicationTracker.onStateChangedWithMode
      simp only [if_neg hRepeat]
    rw [hDone]
    refine announce_spec (x := fun revision => (remoteSessionPublishedEnvelope nodeId inst
      (nextMessageIdIncrement c.nextMessageId) now session revision).published) hTold
      (fun revision k => ?_) (fun revision => .inr ⟨_, rfl, rfl, inst, 0, 0, revision, rfl⟩) _ _ _
    simp only [GrpcNodeSessionEnvelope.newsFor, remoteSessionPublishedEnvelope,
      sessionSyncEnvelope, GrpcNodeSessionEnvelope.published, eq_comm]

/-- Publications one after another. -/
theorem forEach_spec {α : Type} {f : Publisher → α → Publisher × Bool} (key : α → String)
    (value : α → Option ManagedSessionRecord)
    (hf : ∀ c a, c.ToldAll nodeId → (f c a).2 = true ∧ (f c a).1.ToldAll nodeId ∧
      (f c a).1.live = Function.update c.live (key a) (value a)) (as : List α) :
    ∀ c : Publisher, c.ToldAll nodeId → (forEach f c as).2 = true ∧
      (forEach f c as).1.ToldAll nodeId ∧
      (forEach f c as).1.live =
        as.foldl (fun live a => Function.update live (key a) (value a)) c.live := by
  induction as with
  | nil => exact fun c hTold => ⟨rfl, hTold, rfl⟩
  | cons a as ih =>
    intro c hTold
    obtain ⟨hTrue, hNext, hLive⟩ := hf c a hTold
    have hEq : forEach f c (a :: as) = forEach f (f c a).1 as := by
      rw [forEach]
      split
      · next hCase => rw [hCase]
      · next hCase => rw [hCase] at hTrue; cases hTrue
    rw [hEq, List.foldl_cons, ← hLive]
    exact ih (f c a).1 hNext

theorem toldAll_onAck (hTold : c.ToldAll nodeId) (ack : TargetPublicationAckPayload) :
    ToldAll nodeId { c with tracker := (c.tracker.onAck ack).1 } ∧
      live { c with tracker := (c.tracker.onAck ack).1 } = c.live := by
  by_cases hClears : SourcePublicationTracker.Clears (c.tracker.record ack.targetId) ack
  · have hRecord (k : String) := SourcePublicationTracker.record_setRecord c.tracker ack.targetId k
      { c.tracker.record ack.targetId with ackedRevision := ack.revision, pending := none }
    rw [SourcePublicationTracker.onAck_of_clears _ hClears]
    refine ⟨fun k => ?_, funext fun k => ?_⟩
    · dsimp only
      rw [hRecord]
      split_ifs with hk
      · rw [← hk]
        exact (hTold k).repend rfl rfl fun p hp => by cases hp
      · exact hTold k
    · rw [live, hRecord]
      split_ifs with hk
      · rw [live, hk]
        rfl
      · rfl
  · rw [SourcePublicationTracker.onAck_of_not_clears _ hClears]
    exact ⟨hTold, rfl⟩

/-- A pending publication may be sent again. -/
theorem toldAll_send (now : Nat) (hTold : c.ToldAll nodeId) {p : PendingSourcePublication}
    (hNews : ∀ k, p.envelope.newsFor k = if k = p.targetId then
      some ((c.tracker.record k).latestRevision, foldNews (newsOf k c.sent)) else none) :
    (c.sendSourcePublication (fun _ => true) now p).1.ToldAll nodeId ∧
      (c.sendSourcePublication (fun _ => true) now p).1.live = c.live ∧
      ∀ k, ((c.sendSourcePublication (fun _ => true) now p).1.tracker.record k).latestRevision =
          (c.tracker.record k).latestRevision ∧
        foldNews (newsOf k (c.sendSourcePublication (fun _ => true) now p).1.sent) =
          foldNews (newsOf k c.sent) := by
  unfold sendSourcePublication
  split_ifs
  · exact ⟨hTold, rfl, fun k => ⟨rfl, rfl⟩⟩
  · have hRecord (k : String) := SourcePublicationTracker.record_onPublicationSent c.tracker
      p.targetId k p.revision now
    have hList (k : String) : newsOf k (c.sent ++ [p.envelope]) = newsOf k c.sent ++
        (if k = p.targetId then some ((c.tracker.record k).latestRevision,
          foldNews (newsOf k c.sent)) else none).toList := by
      rw [newsOf_append, hNews]
    refine ⟨fun k => ?_, funext fun k => ?_, fun k => ⟨?_, ?_⟩⟩
    · have hAgain : Told nodeId k (c.tracker.record k) (newsOf k (c.sent ++ [p.envelope])) := by
        rw [hList]
        split_ifs
        · exact (hTold k).again
        · exact (List.append_nil (newsOf k c.sent)).symm ▸ hTold k
      dsimp only
      rw [hRecord]
      split_ifs
      · refine hAgain.repend rfl rfl fun q hq => ?_
        obtain ⟨old, hOld, rfl⟩ := Option.map_eq_some_iff.mp hq
        exact ⟨old, hOld, rfl, rfl⟩
      · exact hAgain
    · rw [live, hRecord]
      split_ifs <;> rfl
    · dsimp only
      rw [hRecord]
      split_ifs <;> rfl
    · rw [hList]
      split_ifs
      · rw [Option.toList_some, foldNews_append]
      · rw [Option.toList_none, List.append_nil]
  · exact ⟨hTold, rfl, fun k => ⟨rfl, rfl⟩⟩

/-- `send_pending_source_publications` for the publications that are due. -/
theorem toldAll_retry (hTold : c.ToldAll nodeId) (now : Nat) :
    let retried := c.sendPendingSourcePublications (fun _ => true) now
      (c.tracker.dueRetryPublications now)
    retried.1.ToldAll nodeId ∧ retried.1.live = c.live := by
  refine (retry_invariant
    (I := fun d : Publisher => (d.ToldAll nodeId ∧ d.live = c.live) ∧
      ∀ k, (d.tracker.record k).latestRevision = (c.tracker.record k).latestRevision ∧
        foldNews (newsOf k d.sent) = foldNews (newsOf k c.sent))
    (c.tracker.dueRetryPublications now) (fun d p hp hd => ?_) c
    ⟨⟨hTold, rfl⟩, fun k => ⟨rfl, rfl⟩⟩).1
  obtain ⟨-, target, hPending, -⟩ := SourcePublicationTracker.mem_dueRetryPublications.mp hp
  obtain ⟨rfl, hNews⟩ := (hTold target).pending p hPending
  obtain ⟨⟨hToldD, hLive⟩, hSame⟩ := hd
  have hSend := toldAll_send now (p := p) hToldD fun k => by
    rw [hNews, (hSame k).1, (hSame k).2]
    split_ifs with hk
    · rw [hk]
    · rfl
  exact ⟨⟨hSend.1, hSend.2.1.trans hLive⟩, fun k =>
    ⟨(hSend.2.2 k).1.trans (hSame k).1, (hSend.2.2 k).2.trans (hSame k).2⟩⟩

end Publisher

/-! ## A pass over the catalog -/

theorem eq_of_equivalent {previous current : ManagedSessionRecord}
    (h : sessionRecordsEquivalentForSync previous current = true) : previous = current := by
  unfold sessionRecordsEquivalentForSync at h
  dsimp only at h
  split_ifs at h with hBoth
  · -- only equal task states are cleared
    simp only [Bool.and_eq_true, beq_iff_eq] at hBoth
    have hEq := eq_of_beq h
    cases previous
    cases current
    simp only [ManagedSessionRecord.mk.injEq] at hEq hBoth ⊢
    simp_all
  · exact eq_of_beq h

section

variable {nodeId : String} {live : String → Option ManagedSessionRecord}

/-- The name that peers know a session by. -/
def targetOf (nodeId : String) (session : ManagedSessionRecord) : String :=
  publishedTargetId nodeId session.address.sessionId

theorem targetOf_eq_iff {session session' : ManagedSessionRecord} :
    targetOf nodeId session = targetOf nodeId session' ↔
      session.address.sessionId = session'.address.sessionId := by
  simp only [targetOf, publishedTargetId]
  exact ⟨fun h => by simpa using h, fun h => by rw [h]⟩

theorem foldl_update_of_notMem {value : ManagedSessionRecord → Option ManagedSessionRecord}
    {as : List ManagedSessionRecord} {target : String} (h : ∀ a ∈ as, targetOf nodeId a ≠ target) :
    as.foldl (fun live a => Function.update live (targetOf nodeId a) (value a)) live target =
      live target := by
  induction as generalizing live with
  | nil => rfl
  | cons a as ih =>
    rw [List.foldl_cons, ih fun b hb => h b (List.mem_cons_of_mem a hb),
      Function.update_of_ne (h a List.mem_cons_self).symm]

theorem foldl_update_of_mem {value : ManagedSessionRecord → Option ManagedSessionRecord}
    {as : List ManagedSessionRecord} {target : String} {v : Option ManagedSessionRecord}
    (hMem : ∃ a ∈ as, targetOf nodeId a = target)
    (hValue : ∀ a ∈ as, targetOf nodeId a = target → value a = v) :
    as.foldl (fun live a => Function.update live (targetOf nodeId a) (value a)) live target =
      v := by
  induction as generalizing live with
  | nil =>
    obtain ⟨a, ha, -⟩ := hMem
    cases ha
  | cons b as ih =>
    rw [List.foldl_cons]
    by_cases hLater : ∃ a ∈ as, targetOf nodeId a = target
    · exact ih hLater fun a ha => hValue a (List.mem_cons_of_mem b ha)
    · rw [foldl_update_of_notMem fun a ha hEq => hLater ⟨a, ha, hEq⟩]
      obtain ⟨a, ha, hTarget⟩ := hMem
      have hHead : a = b := (List.mem_cons.mp ha).resolve_right fun hRest =>
        hLater ⟨a, hRest, hTarget⟩
      rw [← hHead, ← hTarget, Function.update_self]
      exact hValue a ha hTarget

/-- The sessions of a map, each under the name that peers know. -/
def Lists (nodeId : String) (m : SessionMap) (live : String → Option ManagedSessionRecord) : Prop :=
  ∀ target session, live target = some session ↔
    ∃ k, m.lookup k = some session ∧ targetOf nodeId session = target

/-- The sessions are those of one node, each by the id of its address. -/
def LocalTo (authority : String) (m : SessionMap) : Prop :=
  ∀ k session, m.lookup k = some session → k = session.address.id
    ∧ session.address.transport = .localNode ∧ session.address.authorityId = authority

/-- Sessions of one node have one address exactly if they have one session id. -/
theorem LocalTo.key_iff {authority : String} {m m' : SessionMap} (h : LocalTo authority m)
    (h' : LocalTo authority m') {k k' : String} {session session' : ManagedSessionRecord}
    (hk : m.lookup k = some session) (hk' : m'.lookup k' = some session') :
    k = k' ↔ session.address.sessionId = session'.address.sessionId := by
  obtain ⟨hKey, hTransport, hAuthority⟩ := h k session hk
  obtain ⟨hKey', hTransport', hAuthority'⟩ := h' k' session' hk'
  rw [hKey, hKey', ManagedSessionAddress.id, ManagedSessionAddress.id, hTransport, hTransport',
    hAuthority, hAuthority']
  exact ⟨fun hEq => by simpa using hEq, fun hEq => by rw [hEq]⟩

/-- The targets after the changed sessions and the exits of a delta. -/
def SessionSyncDelta.fold (nodeId : String) (delta : SessionSyncDelta)
    (live : String → Option ManagedSessionRecord) : String → Option ManagedSessionRecord :=
  delta.exit.foldl (fun live session => Function.update live (targetOf nodeId session) none)
    (delta.publish.foldl
      (fun live session => Function.update live (targetOf nodeId session) (some session)) live)

theorem mem_publish {previous current : SessionMap} {mode : SessionSyncMode}
    {session : ManagedSessionRecord} :
    session ∈ (computeSessionSyncDelta previous current mode).publish ↔
      ∃ k, current.lookup k = some session ∧
        ¬(mode = .delta ∧ previous.lookup k = some session) := by
  have hRepeat (k : String) :
      ((previous.lookup k).any fun p => sessionRecordsEquivalentForSync p session) = true ↔
        previous.lookup k = some session := by
    rw [Option.any_eq_true]
    constructor
    · rintro ⟨p, hp, hEquivalent⟩
      rw [← eq_of_equivalent hEquivalent]
      exact hp
    · intro hp
      exact ⟨session, hp, by simp [sessionRecordsEquivalentForSync]⟩
  simp only [computeSessionSyncDelta, List.mem_filterMap]
  constructor
  · rintro ⟨e, he, hSome⟩
    split_ifs at hSome with hSkip
    obtain rfl := Option.some.inj hSome
    exact ⟨e.1, AList.lookup_eq_some_iff.mpr he, fun h => hSkip ⟨h.1, (hRepeat e.1).mpr h.2⟩⟩
  · rintro ⟨k, hk, hNew⟩
    refine ⟨⟨k, session⟩, AList.lookup_eq_some_iff.mp hk, ?_⟩
    rw [if_neg]
    exact fun h => hNew ⟨h.1, (hRepeat k).mp h.2⟩

theorem mem_exit {previous current : SessionMap} {mode : SessionSyncMode}
    {session : ManagedSessionRecord} :
    session ∈ (computeSessionSyncDelta previous current mode).exit ↔
      ∃ k, previous.lookup k = some session ∧ k ∉ current := by
  simp only [computeSessionSyncDelta, List.mem_filterMap]
  constructor
  · rintro ⟨e, he, hSome⟩
    split_ifs at hSome with hStays
    obtain rfl := Option.some.inj hSome
    exact ⟨e.1, AList.lookup_eq_some_iff.mpr he, hStays⟩
  · rintro ⟨k, hk, hGone⟩
    exact ⟨⟨k, session⟩, AList.lookup_eq_some_iff.mp hk, if_neg hGone⟩

/-- The delta leads from what was published to what is observed. -/
theorem Lists.fold {authority : String} {published observed : SessionMap}
    (hLists : Lists nodeId published live) (hPublished : LocalTo authority published)
    (hObserved : LocalTo authority observed) (mode : SessionSyncMode) :
    Lists nodeId observed ((computeSessionSyncDelta published observed mode).fold nodeId live) := by
  intro target record
  have hMember (session : ManagedSessionRecord)
      (h : session ∈ (computeSessionSyncDelta published observed mode).publish) :
      ∃ k, observed.lookup k = some session := (mem_publish.mp h).imp fun _ => And.left
  -- sessions of the catalog with one name are one session
  have hOne {k k' : String} {a b : ManagedSessionRecord} (ha : observed.lookup k = some a)
      (hb : observed.lookup k' = some b) (hName : targetOf nodeId a = targetOf nodeId b) :
      a = b := by
    obtain rfl := (hObserved.key_iff hObserved ha hb).mpr (targetOf_eq_iff.mp hName)
    exact Option.some.inj (ha.symm.trans hb)
  unfold SessionSyncDelta.fold
  by_cases hExit : ∃ a ∈ (computeSessionSyncDelta published observed mode).exit,
      targetOf nodeId a = target
  · rw [foldl_update_of_mem hExit fun _ _ _ => rfl]
    refine iff_of_false (fun h => by cases h) ?_
    rintro ⟨k, hk, hName⟩
    obtain ⟨a, ha, hTarget⟩ := hExit
    obtain ⟨k', hk', hGone⟩ := mem_exit.mp ha
    have hSame : k' = k := (hPublished.key_iff hObserved hk' hk).mpr
      (targetOf_eq_iff.mp (hTarget.trans hName.symm))
    exact hGone (AList.mem_iff_lookup.mpr ⟨record, hSame ▸ hk⟩)
  · rw [foldl_update_of_notMem fun a ha hEq => hExit ⟨a, ha, hEq⟩]
    by_cases hPublish : ∃ a ∈ (computeSessionSyncDelta published observed mode).publish,
        targetOf nodeId a = target
    · obtain ⟨a, ha, hTarget⟩ := hPublish
      obtain ⟨k, hk⟩ := hMember a ha
      rw [foldl_update_of_mem (v := some a) ⟨a, ha, hTarget⟩ fun b hb hName => ?_]
      · constructor
        · rintro h
          obtain rfl := Option.some.inj h
          exact ⟨k, hk, hTarget⟩
        · rintro ⟨k', hk', hName⟩
          rw [hOne hk hk' (hTarget.trans hName.symm)]
      · obtain ⟨k', hk'⟩ := hMember b hb
        rw [hOne hk' hk (hName.trans hTarget.symm)]
    · rw [foldl_update_of_notMem fun a ha hEq => hPublish ⟨a, ha, hEq⟩, hLists]
      constructor
      · rintro ⟨k, hk, hName⟩
        have hStill : k ∈ observed := by
          by_contra hGone
          exact hExit ⟨record, mem_exit.mpr ⟨k, hk, hGone⟩, hName⟩
        obtain ⟨other, hOther⟩ := AList.mem_iff_lookup.mp hStill
        have hSame : targetOf nodeId record = targetOf nodeId other :=
          targetOf_eq_iff.mpr ((hPublished.key_iff hObserved hk hOther).mp rfl)
        by_cases hEq : other = record
        · exact ⟨k, hEq ▸ hOther, hName⟩
        · refine absurd ⟨other, mem_publish.mpr ⟨k, hOther, fun h => hEq ?_⟩, ?_⟩ hPublish
          · exact Option.some.inj (h.2.symm.trans hk)
          · exact hSame.symm.trans hName
      · rintro ⟨k, hk, hName⟩
        have hOld : mode = .delta ∧ published.lookup k = some record := by
          by_contra hNew
          exact hPublish ⟨record, mem_publish.mpr ⟨k, hk, hNew⟩, hName⟩
        exact ⟨k, hOld.2, hName⟩

end

theorem publishDelta_spec {nodeId : String} (inst : String) (now : Nat) (mode : SessionSyncMode)
    {c : Publisher} (hTold : c.ToldAll nodeId) (delta : SessionSyncDelta) :
    let pass := publishDelta nodeId inst (fun _ => true) now mode c delta
    pass.2 = true ∧ pass.1.ToldAll nodeId ∧ pass.1.live = delta.fold nodeId c.live := by
  intro pass
  obtain ⟨hTrue, hStates, hLive⟩ := Publisher.forEach_spec (targetOf nodeId) some
    (fun c session hTold => Publisher.publishState_spec inst now mode.publicationMode hTold session)
    delta.publish c hTold
  obtain ⟨hTrue', hExits, hLive'⟩ := Publisher.forEach_spec (targetOf nodeId) (fun _ => none)
    (fun c (session : ManagedSessionRecord) hTold =>
      Publisher.publishExit_spec inst now hTold session.address.sessionId) delta.exit _ hStates
  have hPass : pass = Publisher.forEach
      (fun c previous => c.publishExit nodeId inst (fun _ => true) now previous.address.sessionId)
      (c.forEach (Publisher.publishState nodeId inst (fun _ => true) now mode.publicationMode)
        delta.publish).1 delta.exit := by
    show publishDelta _ _ _ _ _ _ _ = _
    unfold publishDelta
    split
    · next hCase => rw [hCase] at hTrue; cases hTrue
    · next hCase => rw [hCase]
  rw [hPass]
  exact ⟨hTrue', hExits, by rw [hLive', hLive]; rfl⟩

/-! ## Every run -/

/-- What the loop keeps for its publications. -/
structure CatalogSource where
  publisher : Publisher := {}
  published : SessionMap := ∅
  observed : SessionMap := ∅

inductive CatalogLabel where
  /-- `publish_current_local_sessions` for a session with the peer, after the catalog was
  observed; only local sessions are. -/
  | publish (inst : String) (now : Nat) (mode : SessionSyncMode)
      (catalog : List ManagedSessionRecord)
  | ack (payload : TargetPublicationAckPayload)
  | retry (now : Nat)

namespace CatalogSource

/-- No send fails. -/
def step (nodeId : String) (s : CatalogSource) : CatalogLabel → CatalogSource
  | .publish inst now mode catalog =>
      let observed := localSessionsByLocalId (catalog.filter (·.address.transport == .localNode))
      let done := publishCurrentLocalSessions nodeId inst (fun _ => true) now mode s.publisher
        s.published observed
      { publisher := done.1, published := done.2.1, observed }
  | .ack payload =>
      { s with publisher := { s.publisher with tracker := (s.publisher.tracker.onAck payload).1 } }
  | .retry now =>
      { s with
        publisher := (s.publisher.sendPendingSourcePublications (fun _ => true) now
          (s.publisher.tracker.dueRetryPublications now)).1 }

/-- The publications come in the order of their revisions, and folded they are the observed
catalog: each session is known as an equivalent one, and no other target is known. -/
structure FoldsToCatalog (nodeId : String) (s : CatalogSource) : Prop where
  inOrder : ∀ target, InOrder (newsOf target s.publisher.sent)
  sessions : ∀ k session, s.observed.lookup k = some session →
    ∃ p known, foldNews (newsOf (targetOf nodeId session) s.publisher.sent) = some p ∧
      Publishes nodeId known p ∧ sessionRecordsEquivalentForSync known session = true
  only : ∀ target p, foldNews (newsOf target s.publisher.sent) = some p →
    ∃ k session, s.observed.lookup k = some session ∧ targetOf nodeId session = target

/-- The local sessions of the catalog carry the authority id of the node, as
`local_authority_id` gives it. -/
def OfNode (authority : String) : CatalogLabel → Prop
  | .publish _ _ _ catalog =>
      ∀ session ∈ catalog, session.address.transport = .localNode →
        session.address.authorityId = authority
  | _ => True

instance (authority : String) : DecidablePred (OfNode authority)
  | .publish _ _ _ _ => inferInstanceAs (Decidable (∀ _ ∈ _, _))
  | .ack _ | .retry _ => isTrue trivial

structure Inv (nodeId authority : String) (s : CatalogSource) : Prop where
  told : s.publisher.ToldAll nodeId
  lists : Lists nodeId s.published s.publisher.live
  localTo : LocalTo authority s.published
  same : s.published = s.observed

variable {nodeId authority : String} {s : CatalogSource}

theorem localTo_catalog {catalog : List ManagedSessionRecord}
    (h : ∀ session ∈ catalog, session.address.transport = .localNode →
      session.address.authorityId = authority) :
    LocalTo authority
      (localSessionsByLocalId (catalog.filter (·.address.transport == .localNode))) := by
  intro k session hk
  obtain ⟨listed, hMem, hEq⟩ := List.mem_map.mp (AList.mem_of_lookup_collect hk)
  obtain ⟨rfl, rfl⟩ := Prod.mk.injEq .. ▸ hEq
  obtain ⟨hCatalog, hLocal⟩ := List.mem_filter.mp hMem
  have hLocal := eq_of_beq hLocal
  exact ⟨rfl, hLocal, h listed hCatalog hLocal⟩

theorem Inv.step (h : s.Inv nodeId authority) {l : CatalogLabel} (hNode : OfNode authority l) :
    (s.step nodeId l).Inv nodeId authority := by
  cases l with
  | publish inst now mode catalog =>
    have hObserved := localTo_catalog hNode
    simp only [CatalogSource.step]
    generalize localSessionsByLocalId (catalog.filter (·.address.transport == .localNode)) =
      observed at hObserved
    obtain ⟨hTrue, hTold, hLive⟩ := publishDelta_spec inst now mode h.told
      (computeSessionSyncDelta s.published observed mode)
    have hDone : publishCurrentLocalSessions nodeId inst (fun _ => true) now mode s.publisher
        s.published observed = ((publishDelta nodeId inst (fun _ => true) now mode s.publisher
          (computeSessionSyncDelta s.published observed mode)).1, observed, true) := by
      unfold publishCurrentLocalSessions
      split
      · next hCase => rw [hCase]
      · next hCase => rw [hCase] at hTrue; cases hTrue
    simp only [hDone]
    refine ⟨hTold, ?_, hObserved, rfl⟩
    rw [hLive]
    exact h.lists.fold h.localTo hObserved mode
  | ack payload =>
    obtain ⟨hTold, hLive⟩ := Publisher.toldAll_onAck h.told payload
    exact ⟨hTold, hLive ▸ h.lists, h.localTo, h.same⟩
  | retry now =>
    obtain ⟨hTold, hLive⟩ := Publisher.toldAll_retry h.told now
    exact ⟨hTold, hLive ▸ h.lists, h.localTo, h.same⟩

theorem Inv.folds (h : s.Inv nodeId authority) : s.FoldsToCatalog nodeId := by
  refine ⟨fun target => (h.told target).inOrder, fun k session hk => ?_, fun target p hp => ?_⟩
  · have hLive := (h.lists (targetOf nodeId session) session).mpr ⟨k, h.same ▸ hk, rfl⟩
    rcases (h.told (targetOf nodeId session)).state with ⟨-, hNone⟩ | ⟨known, p, hp, hKnown, hPub⟩
    · exact absurd (hLive.symm.trans hNone) (by simp)
    · obtain rfl := Option.some.inj (hKnown.symm.trans hLive)
      exact ⟨p, known, hp, hPub, by simp [sessionRecordsEquivalentForSync]⟩
  · rcases (h.told target).state with ⟨hNone, -⟩ | ⟨known, -, -, hKnown, -⟩
    · exact absurd (hp.symm.trans hNone) (by simp)
    · obtain ⟨k, hk, hName⟩ := (h.lists target known).mp hKnown
      exact ⟨k, known, h.same ▸ hk, hName⟩

/-- In every run over the catalogs of one node, the publications fold to the catalog that was
observed last. -/
theorem publications_fold_to_catalog (nodeId authority : String) (labels : List CatalogLabel)
    (hNode : ∀ l ∈ labels, OfNode authority l) :
    Always (step nodeId) (FoldsToCatalog nodeId) {} labels := by
  have hNone (k : String) (session : ManagedSessionRecord) :
      (∅ : SessionMap).lookup k ≠ some session := by simp
  refine Always.of_eachStep (I := Inv nodeId authority) (fun s l h hStep => h.step hStep)
    (fun s h => h.folds) labels {} (EachStep.of_forall labels _ fun l hl _ => hNode l hl)
    ⟨fun _ => told_nothing, fun target session => ?_, fun k session hk => ?_, rfl⟩
  · refine iff_of_false (fun h => by cases h) ?_
    rintro ⟨k, hk, -⟩
    exact hNone k session hk
  · exact absurd hk (hNone k session)

/-- A session of this machine. -/
def sessionAt (authority session : String) : ManagedSessionRecord :=
  { address := ⟨.localNode, authority, session⟩, availability := .online }

/-- A session, a second one with a remote one, and the first one again without it. -/
def changingLabels : List CatalogLabel :=
  let first := sessionAt "local#7474" "1"
  let second := sessionAt "local#7474" "2"
  let remote := { second with address := ⟨.remotePeer, "peer", "3"⟩ }
  [.publish "i" 0 .fullBaseline [first],
    .publish "i" 0 .delta [{ first with attachedClients := 1 }, second, remote],
    .retry sourcePublicationRetryMaxDelay,
    .publish "j" 0 .delta [second]]

theorem changing_labels_fold : Always (step "n") (FoldsToCatalog "n") {} changingLabels :=
  publications_fold_to_catalog "n" "local#7474" changingLabels (by decide)

end CatalogSource

end WaitAgent.Remote
