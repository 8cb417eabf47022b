import WaitAgent.Verified.HashMap
import WaitAgent.Verified.Lines
import WaitAgent.Verified.Run

/-!
# The process tree of a session

The monitor keeps one node for every process it has seen below a session's shell and
updates the nodes from fork, exec and exit events.  Events can be missed and pids come
back, so a node may be listed by several parents, or by a parent that saw an earlier
process of the same pid.  The primary process is found by a recursive walk that has no
other guard than the shape of the tree: the walk ends because a list entry always leads
to a node that was inserted after the node that holds the list.
-/

namespace WaitAgent.Process

open Verified

/-! ## Nodes -/

/-- `SHELL_NAMES`. -/
def shellNames : List String :=
  ["bash", "zsh", "fish", "sh"]

/-- `first_argv_token`: the last path component, up to its first blank. -/
def firstArgvToken (argv0 : String) : String :=
  let base := (splitChar '/' argv0).getLastD argv0
  match (base.toList.dropWhile isWhitespace).takeWhile (!isWhitespace ·) with
  | [] => base
  | token => String.ofList token

/-- The loop of `shell_script_arg`, which skips flags and the value of `-c`. -/
def scriptArg : List String → Option String
  | [] => none
  | arg :: rest =>
    if arg = "-c" then
      match rest with
      | [] => none
      | _ :: rest => scriptArg rest
    else if arg.startsWith "-" then scriptArg rest
    else some arg

/-- `shell_script_arg`. -/
def shellScriptArg (argv : List String) : Option String :=
  scriptArg (argv.drop 1)

structure ProcessNode where
  parentPid : Option Nat
  commandName : String
  argv : List String
  children : List Nat

namespace ProcessNode

def isShell (node : ProcessNode) : Bool :=
  shellNames.contains node.commandName

def isShellScript (node : ProcessNode) : Bool :=
  node.isShell && (shellScriptArg node.argv).isSome

def isApplication (node : ProcessNode) : Bool :=
  node.commandName != "" && (!node.isShell || node.isShellScript)

end ProcessNode

/-! ## The tree -/

structure SessionProcessTree where
  shellPid : Nat
  processes : HashMap Nat ProcessNode

namespace SessionProcessTree

def new (shellPid : Nat) (argv0 : String) (argv : List String) : SessionProcessTree where
  shellPid := shellPid
  processes := AList.insert shellPid ⟨none, firstArgvToken argv0, argv, []⟩ ∅

/-- The node at `pid`, if there is one, changed in place. -/
def modify (t : SessionProcessTree) (pid : Nat) (f : ProcessNode → ProcessNode) :
    SessionProcessTree :=
  match t.processes.lookup pid with
  | none => t
  | some node => { t with processes := t.processes.insert pid (f node) }

def addChild (t : SessionProcessTree) (parentPid childPid : Nat) (argv0 : String)
    (argv : List String) : SessionProcessTree :=
  if parentPid ∉ t.processes ∧ parentPid ≠ t.shellPid then t
  else
    let node : ProcessNode := ⟨some parentPid, firstArgvToken argv0, argv, []⟩
    let t := t.modify parentPid fun parent =>
      if childPid ∈ parent.children then parent
      else { parent with children := parent.children ++ [childPid] }
    { t with processes := t.processes.insert childPid node }

def updateExec (t : SessionProcessTree) (pid : Nat) (argv0 : String) (argv : List String) :
    SessionProcessTree :=
  t.modify pid fun node => { node with commandName := firstArgvToken argv0, argv := argv }

def remove (t : SessionProcessTree) (pid : Nat) : SessionProcessTree :=
  match t.processes.lookup pid with
  | none => t
  | some node =>
    let t := { t with processes := t.processes.erase pid }
    match node.parentPid with
    | none => t
    | some parentPid => t.modify parentPid fun parent =>
        { parent with children := parent.children.filter (· ≠ pid) }

end SessionProcessTree

/-- The calls that change a tree. -/
inductive TreeCall where
  | addChild (parentPid childPid : Nat) (argv0 : String) (argv : List String)
  | updateExec (pid : Nat) (argv0 : String) (argv : List String)
  | remove (pid : Nat)

namespace SessionProcessTree

def call (t : SessionProcessTree) : TreeCall → SessionProcessTree
  | .addChild parentPid childPid argv0 argv => t.addChild parentPid childPid argv0 argv
  | .updateExec pid argv0 argv => t.updateExec pid argv0 argv
  | .remove pid => t.remove pid

/-! ## The walk -/

/-- `node_score`. -/
def nodeScore (node : ProcessNode) (depth : Nat) : Nat :=
  let tier := if node.isShell then 1 else 2
  let depthBonus := if depth ≤ 1 then 100 else 0
  tier * 1000 + depthBonus + node.children.length

/-- `best` after a node of the given score has been met. -/
def offer (best : Option (Nat × ProcessNode)) (score : Nat) (node : ProcessNode) :
    Option (Nat × ProcessNode) :=
  match best with
  | none => some (score, node)
  | some (bestScore, bestNode) =>
    if score > bestScore then some (score, node) else some (bestScore, bestNode)

/-- `visit_application_nodes`; `none` when `fuel` calls inside each other are not enough. -/
def visitApplicationNodes (t : SessionProcessTree) :
    Nat → Nat → Nat → Option (Nat × ProcessNode) → Option (Option (Nat × ProcessNode))
  | 0, _, _, _ => none
  | fuel + 1, pid, depth, best =>
    match t.processes.lookup pid with
    | none => some best
    | some node =>
      let best := if node.isApplication then offer best (nodeScore node depth) node else best
      if node.isShell then
        node.children.foldlM
          (fun best child => t.visitApplicationNodes fuel child (depth + 1) best) best
      else some best

/-- The search of `primary_process` below the shell. -/
def bestDescendant (t : SessionProcessTree) (fuel : Nat) : Option (Option ProcessNode) :=
  match t.processes.lookup t.shellPid with
  | none => some none
  | some shell =>
    (shell.children.foldlM (fun best direct => t.visitApplicationNodes fuel direct 1 best)
      none).map (·.map Prod.snd)

/-- The leader of the foreground group, if it is tracked and application-like. -/
def foregroundApplication (t : SessionProcessTree) (foregroundPgid : Option Nat) :
    Option ProcessNode :=
  (foregroundPgid.bind t.processes.lookup).filter (·.isApplication)

/-- `primary_process`; `none` when the walk runs out of fuel. -/
def primaryProcess (t : SessionProcessTree) (fuel : Nat) (foregroundPgid : Option Nat) :
    Option (Option ProcessNode) :=
  match t.foregroundApplication foregroundPgid with
  | some leader => some (some leader)
  | none => t.bestDescendant fuel

/-! ## Ranks

A rank that grows along every list entry whose target is tracked.  A node that is
inserted takes a rank above all others: it holds no list yet, so only entries that lead
to it are affected. -/

/-- `child` is tracked and listed by the tracked process `parent`. -/
def Child (t : SessionProcessTree) (parent child : Nat) : Prop :=
  ∃ node, t.processes.lookup parent = some node ∧ child ∈ node.children ∧ child ∈ t.processes

structure Ranked (t : SessionProcessTree) (rank : Nat → Nat) (bound : Nat) : Prop where
  below : ∀ pid ∈ t.processes, rank pid < bound
  grows : ∀ parent child, t.Child parent child → rank parent < rank child

variable {t t' : SessionProcessTree} {rank : Nat → Nat} {bound : Nat}

theorem lookup_modify (t : SessionProcessTree) (pid q : Nat) (f : ProcessNode → ProcessNode) :
    (t.modify pid f).processes.lookup q
      = if q = pid then (t.processes.lookup pid).map f else t.processes.lookup q := by
  unfold modify
  cases h : t.processes.lookup pid with
  | none =>
    by_cases hq : q = pid
    · rw [if_pos hq, hq, h, Option.map_none]
    · rw [if_neg hq]
  | some node => simp [AList.lookup_insert_eq_ite]

/-- Every node of `t'` stands in `t` with at least the same list. -/
def Shrinks (t t' : SessionProcessTree) : Prop :=
  ∀ pid node', t'.processes.lookup pid = some node' →
    ∃ node, t.processes.lookup pid = some node ∧ node'.children ⊆ node.children

theorem Shrinks.mem (h : Shrinks t t') {pid : Nat} (hMem : pid ∈ t'.processes) :
    pid ∈ t.processes := by
  obtain ⟨node', hNode'⟩ := AList.mem_iff_lookup.mp hMem
  obtain ⟨node, hNode, -⟩ := h pid node' hNode'
  exact AList.mem_iff_lookup.mpr ⟨node, hNode⟩

theorem Ranked.shrink (h : Ranked t rank bound) (hShrinks : Shrinks t t') :
    Ranked t' rank bound where
  below pid hMem := h.below pid (hShrinks.mem hMem)
  grows parent child hChild := by
    obtain ⟨node', hNode', hIn, hMem⟩ := hChild
    obtain ⟨node, hNode, hSub⟩ := hShrinks parent node' hNode'
    exact h.grows parent child ⟨node, hNode, hSub hIn, hShrinks.mem hMem⟩

theorem shrinks_modify (t : SessionProcessTree) (pid : Nat) {f : ProcessNode → ProcessNode}
    (hf : ∀ node, (f node).children ⊆ node.children) : Shrinks t (t.modify pid f) := by
  intro q node' hNode'
  rw [lookup_modify] at hNode'
  split at hNode'
  · next hq =>
    obtain ⟨node, hNode, rfl⟩ := Option.map_eq_some_iff.mp hNode'
    exact ⟨node, hq ▸ hNode, hf node⟩
  · exact ⟨node', hNode', List.Subset.refl _⟩

theorem shrinks_erase (t : SessionProcessTree) (pid : Nat) :
    Shrinks t { t with processes := t.processes.erase pid } := by
  intro q node' hNode'
  exact ⟨node', (AList.lookup_of_erase hNode').2, List.Subset.refl _⟩

theorem Shrinks.trans {t'' : SessionProcessTree} (h : Shrinks t t') (h' : Shrinks t' t'') :
    Shrinks t t'' := by
  intro pid node'' hNode''
  obtain ⟨node', hNode', hSub'⟩ := h' pid node'' hNode''
  obtain ⟨node, hNode, hSub⟩ := h pid node' hNode'
  exact ⟨node, hNode, List.Subset.trans hSub' hSub⟩

theorem shrinks_updateExec (t : SessionProcessTree) (pid : Nat) (argv0 : String)
    (argv : List String) : Shrinks t (t.updateExec pid argv0 argv) :=
  shrinks_modify t pid fun _ => List.Subset.refl _

theorem shrinks_remove (t : SessionProcessTree) (pid : Nat) : Shrinks t (t.remove pid) := by
  unfold remove
  split
  · exact fun _ node h => ⟨node, h, List.Subset.refl _⟩
  · split
    · exact shrinks_erase t pid
    · exact (shrinks_erase t pid).trans (shrinks_modify _ _ fun _ => List.filter_subset_self _)

/-- What `addChild` leaves at the other pids: the old node, with at most `childPid` added
to its list. -/
theorem lookup_addChild {parentPid childPid : Nat} {argv0 : String} {argv : List String}
    (hKnown : ¬(parentPid ∉ t.processes ∧ parentPid ≠ t.shellPid)) {pid : Nat}
    {node' : ProcessNode}
    (h : (t.addChild parentPid childPid argv0 argv).processes.lookup pid = some node') :
    pid = childPid ∧ node'.children = [] ∨ pid ≠ childPid ∧ ∃ node,
      t.processes.lookup pid = some node
        ∧ ∀ c ∈ node'.children, c ∈ node.children ∨ c = childPid := by
  rw [addChild, if_neg hKnown] at h
  simp only [AList.lookup_insert_eq_ite, lookup_modify] at h
  split at h
  · next hPid =>
    cases h
    exact .inl ⟨hPid, rfl⟩
  · next hPid =>
    refine .inr ⟨hPid, ?_⟩
    split at h
    · next hParent =>
      obtain ⟨node, hNode, rfl⟩ := Option.map_eq_some_iff.mp h
      refine ⟨node, hParent ▸ hNode, fun c hc => ?_⟩
      split at hc
      · exact .inl hc
      · simpa using hc
    · exact ⟨node', h, fun c hc => .inl hc⟩

theorem Ranked.addChild (h : Ranked t rank bound) (parentPid childPid : Nat) (argv0 : String)
    (argv : List String) :
    ∃ rank', Ranked (t.addChild parentPid childPid argv0 argv) rank' (bound + 1) := by
  by_cases hKnown : parentPid ∉ t.processes ∧ parentPid ≠ t.shellPid
  · refine ⟨rank, fun pid hMem => ?_, fun parent child hChild => ?_⟩
    · rw [SessionProcessTree.addChild, if_pos hKnown] at hMem
      exact Nat.lt_succ_of_lt (h.below pid hMem)
    · rw [SessionProcessTree.addChild, if_pos hKnown] at hChild
      exact h.grows parent child hChild
  -- A pid other than the child's is tracked only if it was.
  have hOld : ∀ pid ∈ (t.addChild parentPid childPid argv0 argv).processes, pid ≠ childPid →
      pid ∈ t.processes := by
    intro pid hMem hPid
    obtain ⟨node', hNode'⟩ := AList.mem_iff_lookup.mp hMem
    obtain ⟨hEq, -⟩ | ⟨-, node, hNode, -⟩ := lookup_addChild hKnown hNode'
    · exact absurd hEq hPid
    · exact AList.mem_iff_lookup.mpr ⟨node, hNode⟩
  refine ⟨Function.update rank childPid bound, fun pid hMem => ?_, fun parent child hChild => ?_⟩
  · by_cases hPid : pid = childPid
    · simp [hPid]
    · rw [Function.update_of_ne hPid]
      exact Nat.lt_succ_of_lt (h.below pid (hOld pid hMem hPid))
  · obtain ⟨node', hNode', hIn, hMem⟩ := hChild
    obtain ⟨-, hNil⟩ | ⟨hParent, node, hNode, hSub⟩ := lookup_addChild hKnown hNode'
    · rw [hNil] at hIn
      cases hIn
    rw [Function.update_of_ne hParent]
    by_cases hEq : child = childPid
    · rw [hEq, Function.update_self]
      exact h.below parent (AList.mem_iff_lookup.mpr ⟨node, hNode⟩)
    · rw [Function.update_of_ne hEq]
      have hListed : child ∈ node.children := (hSub child hIn).resolve_right hEq
      exact h.grows parent child ⟨node, hNode, hListed, hOld child hMem hEq⟩

theorem Ranked.mono (h : Ranked t rank bound) : Ranked t rank (bound + 1) :=
  ⟨fun pid hMem => Nat.lt_succ_of_lt (h.below pid hMem), h.grows⟩

theorem Ranked.call (h : Ranked t rank bound) (c : TreeCall) :
    ∃ rank', Ranked (t.call c) rank' (bound + 1) := by
  cases c with
  | addChild parentPid childPid argv0 argv => exact h.addChild parentPid childPid argv0 argv
  | updateExec pid argv0 argv =>
    exact ⟨rank, (h.shrink (shrinks_updateExec t pid argv0 argv)).mono⟩
  | remove pid => exact ⟨rank, (h.shrink (shrinks_remove t pid)).mono⟩

theorem ranked_run (calls : List TreeCall) : ∀ {t : SessionProcessTree} {rank : Nat → Nat}
    {bound : Nat}, Ranked t rank bound →
      ∃ rank', Ranked (run call t calls) rank' (bound + calls.length) := by
  induction calls with
  | nil => exact fun h => ⟨_, h⟩
  | cons c calls ih =>
    intro t rank bound h
    obtain ⟨rank₁, h₁⟩ := h.call c
    obtain ⟨rank₂, h₂⟩ := ih h₁
    refine ⟨rank₂, ?_⟩
    rwa [run_cons, List.length_cons, Nat.add_comm calls.length, ← Nat.add_assoc]

theorem ranked_new (shellPid : Nat) (argv0 : String) (argv : List String) :
    Ranked (new shellPid argv0 argv) (fun _ => 0) 1 := by
  refine ⟨fun _ _ => Nat.one_pos, fun parent child hChild => ?_⟩
  obtain ⟨node, hNode, hIn, -⟩ := hChild
  simp only [new, AList.lookup_insert_eq_ite] at hNode
  split at hNode
  · cases hNode
    cases hIn
  · simp at hNode

theorem Ranked.transGen (h : Ranked t rank bound) {p q : Nat}
    (hPath : Relation.TransGen t.Child p q) : rank p < rank q := by
  induction hPath with
  | single hChild => exact h.grows _ _ hChild
  | tail _ hChild ih => exact ih.trans (h.grows _ _ hChild)

/-! ## The walk ends -/

theorem foldlM_isSome {α β : Type} {f : β → α → Option β} {l : List α}
    (h : ∀ a ∈ l, ∀ b, (f b a).isSome) (b : β) : (l.foldlM f b).isSome := by
  induction l generalizing b with
  | nil => rfl
  | cons a l ih =>
    obtain ⟨b', hb'⟩ := Option.isSome_iff_exists.mp (h a (by simp) b)
    rw [List.foldlM_cons, hb']
    exact ih (fun a ha => h a (by simp [ha])) b'

theorem Ranked.visit_isSome (h : Ranked t rank bound) (fuel : Nat) (pid depth : Nat)
    (best : Option (Nat × ProcessNode)) (hFuel : pid ∈ t.processes → bound - rank pid ≤ fuel) :
    (t.visitApplicationNodes (fuel + 1) pid depth best).isSome := by
  induction fuel generalizing pid depth best with
  | zero =>
    rw [visitApplicationNodes]
    split
    · rfl
    · next node hNode =>
      have hMem : pid ∈ t.processes := AList.mem_iff_lookup.mpr ⟨node, hNode⟩
      have hBelow := h.below pid hMem
      have hNoFuel := hFuel hMem
      omega
  | succ fuel ih =>
    rw [visitApplicationNodes]
    split
    · rfl
    · next node hNode =>
      have hRank := hFuel (AList.mem_iff_lookup.mpr ⟨node, hNode⟩)
      dsimp only
      split
      · refine foldlM_isSome (fun child hChild b => ih child _ b fun hMem => ?_) _
        have hGrows := h.grows pid child ⟨node, hNode, hChild, hMem⟩
        omega
      · rfl

theorem foldlM_eq_some_of_imp {α β : Type} {f g : β → α → Option β} {l : List α}
    (h : ∀ a b b', f b a = some b' → g b a = some b') {b b' : β}
    (hf : l.foldlM f b = some b') : l.foldlM g b = some b' := by
  induction l generalizing b with
  | nil => exact hf
  | cons a l ih =>
    obtain ⟨c, hc, hRest⟩ := Option.bind_eq_some_iff.mp hf
    exact Option.bind_eq_some_iff.mpr ⟨c, h a b c hc, ih hRest⟩

/-- A walk that ends does not change with more fuel. -/
theorem visit_mono {fuel fuel' : Nat} (hLe : fuel ≤ fuel') {pid depth : Nat}
    {best r : Option (Nat × ProcessNode)}
    (h : t.visitApplicationNodes fuel pid depth best = some r) :
    t.visitApplicationNodes fuel' pid depth best = some r := by
  induction fuel generalizing fuel' pid depth best r with
  | zero => cases h
  | succ fuel ih =>
    obtain ⟨fuel', rfl⟩ : ∃ k, fuel' = k + 1 := ⟨fuel' - 1, by omega⟩
    rw [visitApplicationNodes] at h ⊢
    split at h
    · exact h
    · next node hNode =>
      dsimp only at h ⊢
      split at h
      · next hShell =>
        rw [if_pos hShell]
        exact foldlM_eq_some_of_imp (fun _ _ _ => ih (Nat.le_of_succ_le_succ hLe)) h
      · next hShell =>
        rw [if_neg hShell]
        exact h

theorem Ranked.visit_ends (h : Ranked t rank bound) (pid depth : Nat)
    (best : Option (Nat × ProcessNode)) :
    ∃ r, ∀ fuel ≥ bound + 1, t.visitApplicationNodes fuel pid depth best = some r := by
  obtain ⟨r, hr⟩ := Option.isSome_iff_exists.mp
    (h.visit_isSome bound pid depth best fun _ => Nat.sub_le _ _)
  exact ⟨r, fun fuel hFuel => visit_mono hFuel hr⟩

theorem Ranked.primary_ends (h : Ranked t rank bound) (foregroundPgid : Option Nat) :
    ∃ r, ∀ fuel ≥ bound + 1, t.primaryProcess fuel foregroundPgid = some r := by
  unfold primaryProcess bestDescendant
  cases t.foregroundApplication foregroundPgid with
  | some leader => exact ⟨some leader, fun _ _ => rfl⟩
  | none =>
    cases t.processes.lookup t.shellPid with
    | none => exact ⟨none, fun _ _ => rfl⟩
    | some shell =>
      -- One fuel is enough for every child; more does not change what a child returns.
      have hSome := foldlM_isSome (l := shell.children) (b := none)
        (f := fun best direct => t.visitApplicationNodes (bound + 1) direct 1 best)
        fun direct _ best => h.visit_isSome bound direct 1 best fun _ => Nat.sub_le _ _
      obtain ⟨r, hr⟩ := Option.isSome_iff_exists.mp hSome
      refine ⟨r.map Prod.snd, fun fuel hFuel => ?_⟩
      have hFuelled := foldlM_eq_some_of_imp
        (g := fun best direct => t.visitApplicationNodes fuel direct 1 best)
        (fun _ _ _ => visit_mono hFuel) hr
      simp only [hFuelled, Option.map_some]

/-- After any calls on a fresh tree no process is its own descendant, and the walks return
with fuel for one nested call more than there are nodes that the calls can have made. -/
theorem acyclic_and_walks_end (shellPid : Nat) (argv0 : String) (argv : List String)
    (calls : List TreeCall) :
    (∀ pid, ¬Relation.TransGen (run call (new shellPid argv0 argv) calls).Child pid pid)
      ∧ (∀ pid depth best, ∃ r, ∀ fuel ≥ calls.length + 2,
        (run call (new shellPid argv0 argv) calls).visitApplicationNodes fuel pid depth best
          = some r)
      ∧ ∀ foregroundPgid, ∃ r, ∀ fuel ≥ calls.length + 2,
        (run call (new shellPid argv0 argv) calls).primaryProcess fuel foregroundPgid
          = some r := by
  obtain ⟨rank, hRanked⟩ := ranked_run calls (ranked_new shellPid argv0 argv)
  rw [Nat.add_comm 1] at hRanked
  refine ⟨fun pid hCycle => ?_, hRanked.visit_ends, hRanked.primary_ends⟩
  exact Nat.lt_irrefl _ (hRanked.transGen hCycle)

end SessionProcessTree

end WaitAgent.Process
