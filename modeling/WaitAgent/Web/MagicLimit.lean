import WaitAgent.Verified.HashMap

/-!
# The limit on login links

An address may ask for three login links in ten minutes.  The store counts per address in
windows that begin with a request and are replaced by a request ten minutes later, and
admits the first three requests of each.  An interval that reaches over the end of a window
can hold the rest of one window and the front of the next: the limit holds in all intervals
exactly if the requests at the same place, counted from the limit, are ten minutes apart.
-/

namespace WaitAgent.Web

open Verified

variable {IpAddr : Type} [DecidableEq IpAddr]

/-! ## The store -/

/-- `MAGIC_RATE_WINDOW` in nanoseconds. -/
def magicRateWindow : Nat := 10 * 60 * 1000000000

/-- `MAGIC_RATE_LIMIT`. -/
def magicRateLimit : Nat := 3

structure RateRecord where
  count : Nat
  windowStarted : Nat
deriving DecidableEq

/-- The record an address is counted with at `now`: a new one for a new address, and a
new window if the old one is over. -/
def rateRecord (limits : HashMap IpAddr RateRecord) (ip : IpAddr) (now : Nat) : RateRecord :=
  let record := (limits.lookup ip).getD ⟨0, now⟩
  if now - record.windowStarted ≥ magicRateWindow then ⟨0, now⟩ else record

/-- `AuthStores::allow_magic_request`. -/
def allowMagicRequest (limits : HashMap IpAddr RateRecord) (ip : IpAddr) (now : Nat) :
    HashMap IpAddr RateRecord × Bool :=
  let record := rateRecord limits ip now
  if record.count ≥ magicRateLimit then (limits.insert ip record, false)
  else (limits.insert ip { record with count := record.count + 1 }, true)

/-! ## Sequences of requests -/

/-- A request with its outcome. -/
structure Decision (IpAddr : Type) where
  ip : IpAddr
  time : Nat
  admitted : Bool
deriving DecidableEq

def decisions : HashMap IpAddr RateRecord → List (IpAddr × Nat) → List (Decision IpAddr)
  | _, [] => []
  | limits, (ip, now) :: requests =>
    ⟨ip, now, (allowMagicRequest limits ip now).2⟩
      :: decisions (allowMagicRequest limits ip now).1 requests

/-- An admitted request of an address between two times. -/
def AdmittedBetween (ip : IpAddr) (first last : Nat) (d : Decision IpAddr) : Prop :=
  d.ip = ip ∧ d.admitted = true ∧ first ≤ d.time ∧ d.time ≤ last

instance (ip : IpAddr) (first last : Nat) : DecidablePred (AdmittedBetween ip first last) :=
  fun _ => inferInstanceAs (Decidable (_ ∧ _))

/-- The times of the requests of one address, the current window and the later ones: a
request that is not within `magicRateWindow` of the first one of its window begins the next. -/
def windowsFrom (started : Nat) (current : List Nat) : List Nat → List (List Nat)
  | [] => [current]
  | now :: times =>
    if now - started ≥ magicRateWindow then current :: windowsFrom now [now] times
    else windowsFrom started (current ++ [now]) times

def windows : List Nat → List (List Nat)
  | [] => []
  | now :: times => windowsFrom now [now] times

/-- The requests of a window that count. -/
def firstOf (window : List Nat) : List Nat := window.take magicRateLimit

/-- The last requests that count in one window, and those that fill up the limit behind
them in the next, are at least `magicRateWindow` apart. -/
def Apart (window next : List Nat) : Prop :=
  ∀ p ∈ (firstOf window).zip (next.drop (magicRateLimit - (firstOf window).length)),
    p.1 + magicRateWindow ≤ p.2

instance : DecidableRel Apart := fun _ _ => inferInstanceAs (Decidable (∀ _ ∈ _, _))

variable {limits limits' : HashMap IpAddr RateRecord} {ip : IpAddr}

theorem lookup_allowMagicRequest_of_ne (limits : HashMap IpAddr RateRecord) {other : IpAddr}
    (h : ip ≠ other) (now : Nat) :
    (allowMagicRequest limits other now).1.lookup ip = limits.lookup ip := by
  unfold allowMagicRequest
  dsimp only
  split <;> rw [AList.lookup_insert_eq_ite, if_neg h]

/-- A request changes the record of its address as that record alone says. -/
theorem allowMagicRequest_congr (h : limits.lookup ip = limits'.lookup ip) (now : Nat) :
    (allowMagicRequest limits ip now).2 = (allowMagicRequest limits' ip now).2
      ∧ (allowMagicRequest limits ip now).1.lookup ip
        = (allowMagicRequest limits' ip now).1.lookup ip := by
  have hRecord : rateRecord limits ip now = rateRecord limits' ip now := by
    rw [rateRecord, rateRecord, h]
  unfold allowMagicRequest
  dsimp only
  rw [hRecord]
  split <;> simp

/-- The decisions on an address are those on its own requests. -/
theorem decisions_filter (requests : List (IpAddr × Nat)) :
    ∀ {limits limits' : HashMap IpAddr RateRecord}, limits.lookup ip = limits'.lookup ip →
      (decisions limits requests).filter (·.ip = ip)
        = decisions limits' (requests.filter (·.1 = ip)) := by
  induction requests with
  | nil => intros; rfl
  | cons request requests ih =>
    intro limits limits' hLookup
    obtain ⟨asker, now⟩ := request
    by_cases hIp : asker = ip
    · subst hIp
      obtain ⟨hAllowed, hNext⟩ := allowMagicRequest_congr hLookup now
      simp [decisions, hAllowed, ih hNext]
    · have hNext := lookup_allowMagicRequest_of_ne limits (Ne.symm hIp) now
      simp [decisions, hIp, ih (hNext.trans hLookup)]

/-! ## What is admitted -/

/-- The times at which requests are admitted. -/
def admittedTimes (decisions : List (Decision IpAddr)) : List Nat :=
  (decisions.filter (·.admitted)).map (·.time)

theorem countP_admittedBetween (ip : IpAddr) (first last : Nat)
    (decisions : List (Decision IpAddr)) :
    decisions.countP (AdmittedBetween ip first last) =
      (admittedTimes (decisions.filter (·.ip = ip))).countP fun now =>
        first ≤ now ∧ now ≤ last := by
  simp only [admittedTimes, List.countP_map, List.countP_filter]
  refine List.countP_congr fun d _ => ?_
  simp only [Function.comp_apply, Bool.and_eq_true, decide_eq_true_eq]
  unfold AdmittedBetween
  tauto

/-- From the middle of a window on. -/
theorem admittedTimes_from (ip : IpAddr) (times : List Nat) :
    ∀ {limits : HashMap IpAddr RateRecord} {started : Nat} {current : List Nat},
      limits.lookup ip = some ⟨(firstOf current).length, started⟩ →
      firstOf current ++ admittedTimes (decisions limits (times.map (ip, ·))) =
        (windowsFrom started current times).flatMap firstOf := by
  induction times with
  | nil => simp [decisions, admittedTimes, windowsFrom]
  | cons now times ih =>
    intro limits started current hLookup
    rw [List.map_cons, decisions, windowsFrom]
    by_cases hOver : now - started ≥ magicRateWindow
    · have hRecord : rateRecord limits ip now = ⟨0, now⟩ := by
        rw [rateRecord, hLookup, Option.getD_some, if_pos hOver]
      have hRest := @ih (limits.insert ip ⟨1, now⟩) now [now] (by simp [firstOf, magicRateLimit])
      rw [if_pos hOver, List.flatMap_cons, ← hRest, allowMagicRequest, hRecord]
      rfl
    · have hRecord : rateRecord limits ip now = ⟨(firstOf current).length, started⟩ := by
        rw [rateRecord, hLookup, Option.getD_some, if_neg hOver]
      rw [if_neg hOver, allowMagicRequest, hRecord]
      by_cases hFull : (firstOf current).length ≥ magicRateLimit
      · have hSame : firstOf (current ++ [now]) = firstOf current := by
          rw [firstOf, List.length_take] at hFull
          exact List.take_append_of_le_length (by omega)
        have hRest := @ih (limits.insert ip ⟨(firstOf current).length, started⟩) started
          (current ++ [now]) (by rw [hSame]; simp)
        rw [hSame] at hRest
        simpa [hFull, admittedTimes] using hRest
      · have hMore : firstOf (current ++ [now]) = firstOf current ++ [now] := by
          rw [firstOf, List.length_take] at hFull
          rw [firstOf, firstOf, List.take_of_length_le (by simp; omega),
            List.take_of_length_le (by omega)]
        have hRest := @ih (limits.insert ip ⟨(firstOf current).length + 1, started⟩) started
          (current ++ [now]) (by rw [hMore]; simp)
        rw [hMore, List.append_assoc] at hRest
        simpa [hFull, admittedTimes] using hRest

/-- The first three requests of each window are admitted. -/
theorem admittedTimes_eq (ip : IpAddr) (times : List Nat) :
    admittedTimes (decisions ∅ (times.map (ip, ·))) = (windows times).flatMap firstOf := by
  cases times with
  | nil => rfl
  | cons now times =>
    have hRest := @admittedTimes_from _ _ ip times (AList.insert ip ⟨1, now⟩ ∅) now [now]
      (AList.lookup_insert _)
    rw [windows, ← hRest, List.map_cons, decisions]
    simp [allowMagicRequest, rateRecord, magicRateWindow, magicRateLimit, firstOf, admittedTimes]

/-! ## Two windows -/

/-- A window begins so long before the next one. -/
def Spaced (window next : List Nat) : Prop :=
  ∃ started ∈ window, ∀ now ∈ next, started + magicRateWindow ≤ now

theorem flatten_windowsFrom (times : List Nat) : ∀ started current,
    (windowsFrom started current times).flatten = current ++ times := by
  induction times with
  | nil => simp [windowsFrom]
  | cons now times ih =>
    intro started current
    rw [windowsFrom]
    split <;> simp [ih]

theorem spaced_windowsFrom (times : List Nat) : ∀ {started current},
    started ∈ current → (started :: times).Pairwise (· ≤ ·) →
      (windowsFrom started current times).Pairwise Spaced := by
  induction times with
  | nil => simp [windowsFrom]
  | cons now times ih =>
    intro started current hMem hOrder
    obtain ⟨hStarted, hRest⟩ := List.pairwise_cons.mp hOrder
    rw [windowsFrom]
    split
    · next hOver =>
      have hNext : ∀ time ∈ (windowsFrom now [now] times).flatten,
          started + magicRateWindow ≤ time := by
        rw [flatten_windowsFrom]
        have hLater := (List.pairwise_cons.mp hRest).1
        have := hStarted now (by simp)
        simp only [List.singleton_append, List.mem_cons, forall_eq_or_imp]
        exact ⟨by omega, fun time hTime => by have := hLater time hTime; omega⟩
      refine List.pairwise_cons.mpr
        ⟨fun next hMemNext => ?_, ih (List.mem_singleton_self now) hRest⟩
      exact ⟨started, hMem, fun time hTime => hNext time (List.mem_flatten_of_mem hMemNext hTime)⟩
    · exact ih (by simp [hMem]) (hOrder.sublist (by simp))

section Pair

variable {window next : List Nat} (hOrder : (window ++ next).Pairwise (· ≤ ·))

include hOrder

/-- The part of the limit that one window leaves over is what the next one can use. -/
theorem countP_pair_le (hApart : Apart window next) {first last : Nat}
    (hWithin : last < first + magicRateWindow) (hSome : ∃ now ∈ firstOf window, first ≤ now) :
    (firstOf window ++ firstOf next).countP (fun now => first ≤ now ∧ now ≤ last)
      ≤ magicRateLimit := by
  obtain ⟨-, hNext, -⟩ := List.pairwise_append.mp hOrder
  have hLength : (firstOf window).length ≤ magicRateLimit := List.length_take_le _ _
  -- the window up to its first request in the interval
  obtain ⟨now, hFind⟩ : ∃ now, (firstOf window).find? (fun now => first ≤ now) = some now :=
    Option.isSome_iff_exists.mp (by simpa using hSome)
  obtain ⟨hFirst, early, late, hWindow, hEarly⟩ := List.find?_eq_some_iff_append.mp hFind
  simp only [decide_eq_true_eq] at hFirst
  unfold Apart at hApart
  rw [hWindow] at hApart hLength ⊢
  set used := magicRateLimit - (early ++ now :: late).length
  have hNone : early.countP (fun now => first ≤ now ∧ now ≤ last) = 0 := by
    refine List.countP_eq_zero.mpr fun time hTime => ?_
    have := hEarly time hTime
    simp at this ⊢
    omega
  have hIn : (now :: late).countP (fun now => first ≤ now ∧ now ≤ last) ≤ (now :: late).length :=
    List.countP_le_length
  -- behind as many in the next window it is too late
  have hLate : ((firstOf next).drop (used + early.length)).countP
      (fun now => first ≤ now ∧ now ≤ last) = 0 := by
    refine List.countP_eq_zero.mpr fun time hTime => ?_
    have hTime : time ∈ (next.drop used).drop early.length := by
      rw [List.drop_drop]
      exact ((List.take_sublist _ _).drop _).mem hTime
    have hSorted : ((next.drop used).drop early.length).Pairwise (· ≤ ·) :=
      (hNext.sublist (List.drop_sublist _ _)).sublist (List.drop_sublist _ _)
    have hSplit := List.take_append_drop early.length (next.drop used)
    cases hDrop : (next.drop used).drop early.length with
    | nil => simp [hDrop] at hTime
    | cons met rest =>
      have hMet : now + magicRateWindow ≤ met := by
        refine hApart (now, met) ?_
        rw [← hSplit, hDrop, List.zip_append (by
          have := congrArg List.length hDrop
          simp at this ⊢
          omega)]
        simp
      rw [hDrop] at hTime hSorted
      have : met ≤ time := by
        obtain rfl | hTime := List.mem_cons.mp hTime
        · exact le_rfl
        · exact (List.pairwise_cons.mp hSorted).1 _ hTime
      simp
      omega
  have hNextIn : (firstOf next).countP (fun now => first ≤ now ∧ now ≤ last)
      ≤ used + early.length := by
    rw [← List.take_append_drop (used + early.length) (firstOf next), List.countP_append, hLate]
    exact le_trans List.countP_le_length (List.length_take_le _ _)
  rw [List.countP_append, List.countP_append, hNone]
  have : used + (early ++ now :: late).length = magicRateLimit := by omega
  rw [List.length_append] at this
  omega

theorem apart_of_countP_pair_le
    (h : ∀ first last, last < first + magicRateWindow →
      (firstOf window ++ firstOf next).countP (fun now => first ≤ now ∧ now ≤ last)
        ≤ magicRateLimit) :
    Apart window next := by
  obtain ⟨hWindow, hNext, hAcross⟩ := List.pairwise_append.mp hOrder
  have hLength : (firstOf window).length ≤ magicRateLimit := List.length_take_le _ _
  intro p hp
  obtain ⟨i, hi, rfl⟩ := List.getElem_of_mem hp
  rw [List.length_zip, List.length_drop] at hi
  by_contra hNear
  rw [List.getElem_zip, List.getElem_drop, Nat.not_le] at hNear
  set met := magicRateLimit - (firstOf window).length + i
  have hMore : List.Sublist ((firstOf window).drop i ++ next.take (met + 1))
      (firstOf window ++ firstOf next) :=
    (List.drop_sublist _ _).append (List.take_sublist_take_left (by omega))
  have hAll : ((firstOf window).drop i ++ next.take (met + 1)).countP
      (fun now => (firstOf window)[i] ≤ now ∧ now ≤ next[met]) =
        ((firstOf window).drop i ++ next.take (met + 1)).length := by
    refine List.countP_eq_length.mpr fun now hNow => ?_
    have hMet : next[met] ∈ next := List.getElem_mem _
    have hCounted : (firstOf window)[i] ∈ window := List.mem_of_mem_take (List.getElem_mem _)
    rw [decide_eq_true_eq]
    obtain hNow | hNow := List.mem_append.mp hNow
    · have hSorted : (firstOf window).Pairwise (· ≤ ·) := hWindow.sublist (List.take_sublist _ _)
      refine ⟨?_, hAcross _ (List.mem_of_mem_take (List.mem_of_mem_drop hNow)) _ hMet⟩
      obtain ⟨j, hj, rfl⟩ := List.mem_drop_iff_getElem.mp hNow
      exact hSorted.rel_get_of_le (Fin.mk_le_mk.mpr (Nat.le_add_right i j))
    · refine ⟨hAcross _ hCounted _ (List.mem_of_mem_take hNow), ?_⟩
      obtain ⟨j, hj, rfl⟩ := List.mem_take_iff_getElem.mp hNow
      exact hNext.rel_get_of_le (Fin.mk_le_mk.mpr (by omega))
  have := le_trans (hMore.countP_le (p := _)) (h _ _ hNear)
  rw [hAll, List.length_append, List.length_drop, List.length_take] at this
  omega

end Pair

theorem pairwise_two {window next : List Nat} {rest : List (List Nat)}
    (hOrder : (window :: next :: rest).flatten.Pairwise (· ≤ ·)) :
    (window ++ next).Pairwise (· ≤ ·) :=
  hOrder.sublist (by simp)

/-- Over all windows. -/
theorem countP_windows_le {windows : List (List Nat)} (hOrder : windows.flatten.Pairwise (· ≤ ·))
    (hSpaced : windows.Pairwise Spaced) (hApart : windows.IsChain Apart) {first last : Nat}
    (hWithin : last < first + magicRateWindow) :
    (windows.flatMap firstOf).countP (fun now => first ≤ now ∧ now ≤ last) ≤ magicRateLimit := by
  induction windows with
  | nil => simp
  | cons window rest ih =>
    have hRest := ih (List.pairwise_append.mp hOrder).2.1 (List.pairwise_cons.mp hSpaced).2
      hApart.of_cons
    rw [List.flatMap_cons, List.countP_append]
    by_cases hSome : ∃ now ∈ firstOf window, first ≤ now ∧ now ≤ last
    · obtain ⟨now, hNow, hFirst, hLast⟩ := hSome
      cases rest with
      | nil =>
        calc _ ≤ (firstOf window).length := by simpa using List.countP_le_length
          _ ≤ _ := List.length_take_le _ _
      | cons next rest =>
        -- what comes after the next window is too late
        have hTwo := pairwise_two hOrder
        have hLate : (rest.flatMap firstOf).countP (fun now => first ≤ now ∧ now ≤ last) = 0 := by
          refine List.countP_eq_zero.mpr fun time hTime => ?_
          obtain ⟨later, hLater, hTime⟩ := List.mem_flatMap.mp hTime
          obtain ⟨started, hStarted, hFar⟩ :=
            (List.pairwise_cons.mp (List.pairwise_cons.mp hSpaced).2).1 later hLater
          have := (List.pairwise_append.mp hTwo).2.2 now (List.mem_of_mem_take hNow) started
            hStarted
          have := hFar time (List.mem_of_mem_take hTime)
          simp
          omega
        have hPair :=
          countP_pair_le hTwo (List.isChain_cons_cons.mp hApart).1 hWithin ⟨now, hNow, hFirst⟩
        rw [List.countP_append] at hPair
        simp only [List.flatMap_cons, List.countP_append, hLate]
        omega
    · have hNone : (firstOf window).countP (fun now => first ≤ now ∧ now ≤ last) = 0 := by
        simpa [List.countP_eq_zero] using hSome
      omega

theorem isChain_apart {windows : List (List Nat)} (hOrder : windows.flatten.Pairwise (· ≤ ·))
    (h : ∀ first last, last < first + magicRateWindow →
      (windows.flatMap firstOf).countP (fun now => first ≤ now ∧ now ≤ last) ≤ magicRateLimit) :
    windows.IsChain Apart := by
  induction windows with
  | nil => exact List.IsChain.nil
  | cons window rest ih =>
    have hRest := ih (List.pairwise_append.mp hOrder).2.1 fun first last hWithin =>
      le_trans (List.Sublist.countP_le (by simp)) (h first last hWithin)
    cases rest with
    | nil => exact List.IsChain.singleton _
    | cons next rest =>
      refine hRest.cons_cons (apart_of_countP_pair_le (pairwise_two hOrder)
        fun first last hWithin => le_trans (List.Sublist.countP_le ?_) (h first last hWithin))
      simp

theorem windows_sorted {times : List Nat} (hOrder : times.Pairwise (· ≤ ·)) :
    (windows times).flatten.Pairwise (· ≤ ·) ∧ (windows times).Pairwise Spaced := by
  cases times with
  | nil => simp [windows]
  | cons now times =>
    rw [windows, flatten_windowsFrom]
    exact ⟨hOrder, spaced_windowsFrom times (List.mem_singleton_self now) hOrder⟩

/-- Requests of two addresses, three of them at the ends of windows. -/
def sharedRequests : List (Bool × Nat) :=
  [(false, 0), (true, 5), (false, 599 * 1000000000), (false, 600 * 1000000000),
    (false, 1200 * 1000000000)]

end WaitAgent.Web
