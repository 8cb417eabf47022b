import WaitAgent.Process.Tree

/-!
# The primary process

`primaryProcess` is documented as a choice by tier and then by depth.  The code adds the
tier, a bonus for direct children of the shell and the number of children into one score.
The walk returns the first candidate of the highest score.  It is the best one in the
documented order exactly if one of the best has so many children that those of the others,
less a thousand for the tier and a hundred for the first depth, do not outweigh them.
-/

namespace WaitAgent.Process.SessionProcessTree

open Verified

/-! ## Candidates -/

/-- A walk from `pid` at `depth` down through shells comes to a process at a depth. -/
inductive Reaches (t : SessionProcessTree) : Nat → Nat → Nat → Nat → Prop
  | here (pid depth : Nat) : Reaches t pid depth pid depth
  | through {pid depth q e : Nat} (node : ProcessNode) (child : Nat)
      (hNode : t.processes.lookup pid = some node) (hShell : node.isShell = true)
      (hChild : child ∈ node.children) (hRest : Reaches t child (depth + 1) q e) :
      Reaches t pid depth q e

/-- `node` is application-like and is reached from `pid` at depth `e`. -/
def Met (t : SessionProcessTree) (pid depth e : Nat) (node : ProcessNode) : Prop :=
  ∃ q, Reaches t pid depth q e ∧ t.processes.lookup q = some node ∧ node.isApplication = true

/-- An application-like descendant of the shell that is reached through shells. -/
def Candidate (t : SessionProcessTree) (depth : Nat) (node : ProcessNode) : Prop :=
  ∃ shell, t.processes.lookup t.shellPid = some shell
    ∧ ∃ direct ∈ shell.children, t.Met direct 1 depth node

/-- The documented order: real binaries before scripts, then the smaller depth. -/
def Outranks (node : ProcessNode) (depth : Nat) (node' : ProcessNode) (depth' : Nat) : Prop :=
  node.isShell = false ∧ node'.isShell = true ∨ node.isShell = node'.isShell ∧ depth < depth'

instance (node : ProcessNode) (depth : Nat) (node' : ProcessNode) (depth' : Nat) :
    Decidable (Outranks node depth node' depth') :=
  inferInstanceAs (Decidable (_ ∨ _))

variable {t : SessionProcessTree} {pid depth e : Nat} {node : ProcessNode}

theorem not_met_of_untracked (h : t.processes.lookup pid = none) : ¬t.Met pid depth e node := by
  rintro ⟨q, hReaches, hNode, -⟩
  cases hReaches with
  | here => simp [h] at hNode
  | through node' _ hNode' => simp [h] at hNode'

/-- The applications met from a tracked process: itself, and those below if it is a shell. -/
theorem met_iff (top : ProcessNode) (h : t.processes.lookup pid = some top) :
    t.Met pid depth e node ↔ (top.isApplication = true ∧ e = depth ∧ node = top)
      ∨ top.isShell = true ∧ ∃ child ∈ top.children, t.Met child (depth + 1) e node := by
  constructor
  · rintro ⟨q, hReaches, hNode, hApp⟩
    cases hReaches with
    | here =>
      obtain rfl : top = node := by simpa [h] using hNode
      exact .inl ⟨hApp, rfl, rfl⟩
    | through node' child hNode' hShell hChild hRest =>
      obtain rfl : top = node' := by simpa [h] using hNode'
      exact .inr ⟨hShell, child, hChild, q, hRest, hNode, hApp⟩
  · rintro (⟨hApp, rfl, rfl⟩ | ⟨hShell, child, hChild, q, hRest, hNode, hApp⟩)
    · exact ⟨pid, .here pid e, h, hApp⟩
    · exact ⟨q, .through top child h hShell hChild hRest, hNode, hApp⟩

/-! ## What a walk picks -/

/-- The application-like processes below `pid` with their depths, in the order of the walk. -/
def applicationNodes (t : SessionProcessTree) : Nat → Nat → Nat → List (Nat × ProcessNode)
  | 0, _, _ => []
  | fuel + 1, pid, depth =>
    match t.processes.lookup pid with
    | none => []
    | some node =>
      (if node.isApplication then [(depth, node)] else [])
        ++ if node.isShell then
          node.children.flatMap fun child => t.applicationNodes fuel child (depth + 1)
        else []

/-- The candidates in the order of the walk. -/
def candidates (t : SessionProcessTree) (fuel : Nat) : List (Nat × ProcessNode) :=
  match t.processes.lookup t.shellPid with
  | none => []
  | some shell => shell.children.flatMap fun direct => t.applicationNodes fuel direct 1

def offerAll (best : Option (Nat × ProcessNode)) (nodes : List (Nat × ProcessNode)) :
    Option (Nat × ProcessNode) :=
  nodes.foldl (fun best met => offer best (nodeScore met.2 met.1) met.2) best

/-- A walk has offered `nodes`, which are those with `P`. -/
structure Offers (nodes : List (Nat × ProcessNode)) (P : Nat → ProcessNode → Prop)
    (best r : Option (Nat × ProcessNode)) : Prop where
  result : r = offerAll best nodes
  mem : ∀ depth node, (depth, node) ∈ nodes ↔ P depth node

theorem Offers.foldlM {f : Option (Nat × ProcessNode) → Nat → Option (Option (Nat × ProcessNode))}
    {nodes : Nat → List (Nat × ProcessNode)} {P : Nat → Nat → ProcessNode → Prop} (pids : List Nat)
    (h : ∀ pid best r, f best pid = some r → Offers (nodes pid) (P pid) best r)
    {best r : Option (Nat × ProcessNode)} (hFold : pids.foldlM f best = some r) :
    Offers (pids.flatMap nodes) (fun depth node => ∃ pid ∈ pids, P pid depth node) best r := by
  induction pids generalizing best with
  | nil =>
    obtain rfl : best = r := by simpa using hFold
    exact ⟨rfl, by simp⟩
  | cons pid pids ih =>
    obtain ⟨mid, hHead, hTail⟩ := Option.bind_eq_some_iff.mp hFold
    obtain ⟨rfl, hMem⟩ := h pid best mid hHead
    obtain ⟨hResult, hRest⟩ := ih hTail
    refine ⟨by rw [hResult, List.flatMap_cons, offerAll, offerAll, offerAll, List.foldl_append], ?_⟩
    intro depth node
    rw [List.flatMap_cons, List.mem_append, hMem, hRest]
    simp

theorem visit_offers {fuel : Nat} {best r : Option (Nat × ProcessNode)}
    (h : t.visitApplicationNodes fuel pid depth best = some r) :
    Offers (t.applicationNodes fuel pid depth) (t.Met pid depth) best r := by
  induction fuel generalizing pid depth best r with
  | zero => cases h
  | succ fuel ih =>
    rw [visitApplicationNodes] at h
    rw [applicationNodes]
    cases hNode : t.processes.lookup pid with
    | none =>
      rw [hNode] at h
      cases h
      exact ⟨rfl, fun e node => by simp [not_met_of_untracked hNode]⟩
    | some top =>
      have hSelf : (if top.isApplication then offer best (nodeScore top depth) top else best) =
          offerAll best (if top.isApplication then [(depth, top)] else []) := by
        split <;> rfl
      rw [hNode] at h
      dsimp only at h ⊢
      rw [hSelf] at h
      split at h
      · next hShell =>
        obtain ⟨hResult, hMem⟩ :=
          Offers.foldlM _ (fun child b b' (hVisit : _ = some b') => ih hVisit) h
        refine ⟨by rw [hResult, if_pos hShell, offerAll, offerAll, offerAll, List.foldl_append], ?_⟩
        intro e node
        rw [if_pos hShell, List.mem_append, hMem, met_iff _ hNode]
        split <;> simp [*]
      · next hShell =>
        cases h
        refine ⟨by simp [hShell], fun e node => ?_⟩
        rw [met_iff _ hNode]
        split <;> simp [*]

/-- The search goes through the candidates. -/
theorem bestDescendant_spec {fuel : Nat} {r : Option ProcessNode}
    (h : t.bestDescendant fuel = some r) :
    r = (offerAll none (t.candidates fuel)).map Prod.snd
      ∧ ∀ depth node, (depth, node) ∈ t.candidates fuel ↔ t.Candidate depth node := by
  unfold bestDescendant at h
  unfold candidates Candidate
  split at h
  · next hShell =>
    cases h
    simp [hShell, offerAll]
  · next shell hShell =>
    obtain ⟨best, hFold, rfl⟩ := Option.map_eq_some_iff.mp h
    obtain ⟨hResult, hMem⟩ := Offers.foldlM _
      (fun direct b b' (hVisit : _ = some b') => visit_offers hVisit) hFold
    rw [hShell]
    exact ⟨by rw [hResult], fun depth node => by rw [hMem]; simp⟩

/-- The first place of a list with the highest score. -/
structure FirstMax {α : Type} (score : α → Nat) (before : List α) (best : α) (after : List α) :
    Prop where
  before : ∀ a ∈ before, score a < score best
  after : ∀ a ∈ after, score a ≤ score best

theorem FirstMax.unique {α : Type} {score : α → Nat} {before after before' after' : List α}
    {best best' : α} (h : FirstMax score before best after)
    (h' : FirstMax score before' best' after')
    (hList : before ++ best :: after = before' ++ best' :: after') : best = best' := by
  -- a maximum further on would be before the other one and not below it
  have hOnly {l₁ more r₁ r₂ : List α} {a b : α} (hRight : a :: r₁ = more ++ b :: r₂)
      (hLess : ∀ c ∈ l₁ ++ more, score c < score b) (hMost : ∀ c ∈ r₁, score c ≤ score a) :
      a = b := by
    cases more with
    | nil => exact (List.cons.inj hRight).1
    | cons c more =>
      obtain ⟨rfl, rfl⟩ := List.cons.inj hRight
      have := hLess a (by simp)
      have := hMost b (by simp)
      omega
  obtain ⟨more, hLong, hRest⟩ | ⟨more, hLong, hRest⟩ := List.append_eq_append_iff.mp hList
  · exact hOnly hRest (hLong ▸ h'.before) h.after
  · exact (hOnly hRest (hLong ▸ h.before) h'.after).symm

/-- The first candidate of the highest score stays. -/
theorem offerAll_spec (nodes : List (Nat × ProcessNode)) :
    (offerAll none nodes = none → nodes = [])
      ∧ ∀ score node, offerAll none nodes = some (score, node) →
        ∃ before depth after, nodes = before ++ (depth, node) :: after
          ∧ score = nodeScore node depth
          ∧ FirstMax (fun met => nodeScore met.2 met.1) before (depth, node) after := by
  induction nodes using List.reverseRecOn with
  | nil => exact ⟨fun _ => rfl, fun _ _ h => by cases h⟩
  | append_singleton nodes met ih =>
    obtain ⟨hNone, hSome⟩ := ih
    obtain ⟨e, top⟩ := met
    rw [offerAll, List.foldl_append, List.foldl_cons, List.foldl_nil, ← offerAll]
    cases hBest : offerAll none nodes with
    | none =>
      obtain rfl := hNone hBest
      refine ⟨fun h => (by cases h), fun score node h => ?_⟩
      cases h
      exact ⟨[], e, [], rfl, rfl, by simp, by simp⟩
    | some best =>
      obtain ⟨before, depth, after, rfl, hScore, hBefore, hAfter⟩ := hSome best.1 best.2 hBest
      rw [offer]
      dsimp only
      split
      · next hMore =>
        refine ⟨fun h => (by cases h), fun score node h => ?_⟩
        cases h
        refine ⟨_, e, [], rfl, rfl, ?_, by simp⟩
        intro a ha
        rw [hScore] at hMore
        obtain ha | ha := List.mem_append.mp ha
        · exact (hBefore a ha).trans hMore
        · obtain rfl | ha := List.mem_cons.mp ha
          · exact hMore
          · exact (hAfter a ha).trans_lt hMore
      · next hNoMore =>
        refine ⟨fun h => (by cases h), fun score node h => ?_⟩
        cases h
        refine ⟨before, depth, after ++ [(e, top)], by simp, hScore, hBefore, ?_⟩
        intro a ha
        obtain ha | ha := List.mem_append.mp ha
        · exact hAfter a ha
        · obtain rfl := List.mem_singleton.mp ha
          rw [hScore] at hNoMore
          exact Nat.le_of_not_lt hNoMore

/-! ## The documented order -/

/-- The children a candidate is counted with: a hundred more at the first depth, and a
thousand more for a binary against a script. -/
def weight (met other : Nat × ProcessNode) : Nat :=
  met.2.children.length + (if met.1 ≤ 1 then 100 else 0)
    + if met.2.isShell = false ∧ other.2.isShell = true then 1000 else 0

/-- One of the best candidates of the documented order outweighs those the walk meets before
it, and is not outweighed by those after it. -/
def Separated (candidates : List (Nat × ProcessNode)) : Prop :=
  ∃ before best after, candidates = before ++ best :: after
    ∧ (∀ met ∈ candidates, ¬Outranks met.2 met.1 best.2 best.1)
    ∧ (∀ met ∈ before, weight met best < weight best met)
    ∧ ∀ met ∈ after, weight met best ≤ weight best met

theorem weight_lt_iff (met best : Nat × ProcessNode) :
    weight met best < weight best met ↔ nodeScore met.2 met.1 < nodeScore best.2 best.1 := by
  simp only [weight, nodeScore]
  cases met.2.isShell <;> cases best.2.isShell <;> simp <;> omega

theorem weight_le_iff (met best : Nat × ProcessNode) :
    weight met best ≤ weight best met ↔ nodeScore met.2 met.1 ≤ nodeScore best.2 best.1 := by
  rw [← not_lt, ← not_lt, weight_lt_iff]

/-- Nested shells with an editor at depth two and an idle `make` at depth three. -/
def idleShells : SessionProcessTree :=
  run call (new 1 "bash" ["bash"])
    [.addChild 1 2 "bash" ["bash"], .addChild 2 3 "vim" [], .addChild 2 4 "bash" ["bash"],
      .addChild 4 5 "make" []]

/-- Two binaries below nested shells: the shell 1 started the shell 2, which runs `vim` and
the shell 4, which runs `make` with one child. -/
def nestedShells : SessionProcessTree :=
  run call (new 1 "bash" ["bash"])
    [.addChild 1 2 "bash" ["bash"], .addChild 2 3 "vim" [], .addChild 2 4 "bash" ["bash"],
      .addChild 4 5 "make" [], .addChild 5 6 "cc" []]

end WaitAgent.Process.SessionProcessTree
