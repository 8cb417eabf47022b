import Mathlib.Data.List.Infix
import WaitAgent.Relay.PinFile
import WaitAgent.Verified.FileTree

/-!
# The whitelist of a relay

Each authorized node has a file in one directory, named by its fingerprint.  A
fingerprint that an operator sends is joined to the directory as it is, in lower case,
so that it can lead to any file; the fingerprint of a certificate cannot.
-/

namespace WaitAgent.Relay.Whitelist

open Verified

section

variable (toLowercase : String → String)

def authorizedNodePath (dir fingerprint : String) : String :=
  joinPath dir (toLowercase fingerprint)

def addAuthorizedNode (t : FileTree) (dir fingerprint certPem : String) :
    Except FileError FileTree :=
  t.createDirAll dir >>= fun t =>
    t.writeFile (authorizedNodePath toLowercase dir fingerprint) certPem

/-- Whether a file was removed, and the files afterwards. -/
def removeAuthorizedNode (t : FileTree) (dir fingerprint : String) :
    Except FileError Bool × FileTree :=
  match t.removeFile (authorizedNodePath toLowercase dir fingerprint) with
  | .ok t => (.ok true, t)
  | .error .notFound => (.ok false, t)
  | .error error => (.error error, t)

structure RelayAdminResponse where
  ok : Bool
  message : Option String := none
  error : Option String := none

def removalDetail : (removedFromWhitelist retired : Bool) → String
  | true, true => "whitelist entry removed; live link dropped"
  | true, false => "whitelist entry removed; no live link"
  | false, true => "no whitelist entry; live link dropped"
  | false, false => "no whitelist entry; no live link"

variable (ioText : FileError → String)

/-- `retire` says whether there was a live link to drop. -/
def handleRemove (t : FileTree) (retire : String → Bool) (whitelistDir fingerprint : String) :
    RelayAdminResponse × FileTree :=
  match removeAuthorizedNode toLowercase t whitelistDir fingerprint with
  | (.ok removed, t) =>
      let detail := removalDetail removed (retire (toLowercase fingerprint))
      ({ ok := true, message := some ("removed: " ++ fingerprint ++ " (" ++ detail ++ ")") }, t)
  | (.error error, t) =>
      ({ ok := false, error := some ("remove " ++ fingerprint ++ ": " ++ ioText error) }, t)

structure RemoteAdminResponse where
  ok : Bool
  message : Option String := none
  error : Option String := none

def messageEnvelope (response : RelayAdminResponse) : RemoteAdminResponse :=
  { ok := response.ok, message := response.message, error := response.error }

/-- The command as it comes in over a node's link. -/
def remoteRemove (t : FileTree) (retire : String → Bool) (whitelistDir fingerprint : String) :
    RemoteAdminResponse × FileTree :=
  let result := handleRemove toLowercase ioText t retire whitelistDir fingerprint
  (messageEnvelope result.1, result.2)

end

section

variable {toLowercase : String → String} {ioText : FileError → String} {t : FileTree}
  {retire : String → Bool} {dir fingerprint : String}

theorem handleRemove_snd :
    (handleRemove toLowercase ioText t retire dir fingerprint).2
      = (removeAuthorizedNode toLowercase t dir fingerprint).2 := by
  unfold handleRemove
  split <;> simp_all

theorem removeAuthorizedNode_ok {t' : FileTree}
    (h : t.removeFile (authorizedNodePath toLowercase dir fingerprint) = .ok t') :
    (removeAuthorizedNode toLowercase t dir fingerprint).2 = t' := by
  rw [removeAuthorizedNode, h]

theorem removeAuthorizedNode_error {error : FileError}
    (h : t.removeFile (authorizedNodePath toLowercase dir fingerprint) = .error error) :
    (removeAuthorizedNode toLowercase t dir fingerprint).2 = t := by
  rw [removeAuthorizedNode, h]
  cases error <;> rfl

/-- In no tree does a removal touch a file outside a place exactly if the path of the
fingerprint stays inside it. -/
theorem sameOutside_removeAuthorizedNode (cwd place : Place) :
    (∀ t : FileTree, t.cwd = cwd → t.WellFormed →
      FileTree.SameOutside place t (removeAuthorizedNode toLowercase t dir fingerprint).2) ↔
      FileTree.StaysInside cwd place (authorizedNodePath toLowercase dir fingerprint) := by
  rw [← FileTree.staysInside_iff]
  refine forall_congr' fun t => imp_congr_right fun _ => imp_congr_right fun _ => ?_
  cases hRemove : t.removeFile (authorizedNodePath toLowercase dir fingerprint) with
  | ok t' => simp [removeAuthorizedNode_ok hRemove]
  | error error =>
    rw [removeAuthorizedNode_error hRemove]
    exact iff_of_true (fun _ _ => rfl) fun _ h => by cases h

/-- The fingerprint of a certificate is such a name. -/
theorem sameOutside_addAuthorizedNode {certPem : String} {t' : FileTree}
    (hSlash : '/' ∉ (toLowercase fingerprint).toList) (hName : toLowercase fingerprint ≠ "..")
    (h : addAuthorizedNode toLowercase t dir fingerprint certPem = .ok t') :
    FileTree.SameOutside (FileTree.lexical t.cwd dir) t t' := by
  obtain ⟨made, hMade, hWrite⟩ := bind_eq_ok.mp h
  obtain ⟨hDir, hFiles⟩ := FileTree.of_createDirAll hMade
  have hSame : FileTree.SameOutside (FileTree.lexical t.cwd dir) made t' :=
    FileTree.sameOutside_writeFile hWrite fun _ hPlace =>
      FileTree.resolve_join_plain hDir hSlash hName hPlace
  intro place hOutside
  rw [hSame place hOutside, hFiles]

end

/-- Over either channel, a removal touches no file outside the whitelist, whatever the
files are, exactly if the text of the path that the fingerprint makes stays inside it; and
the file of a new node is always written inside it. -/
theorem removal_inside_whitelist_iff (toLowercase : String → String)
    (hSlash : ∀ s, '/' ∈ (toLowercase s).toList → '/' ∈ s.toList)
    (hDot : ∀ s, '.' ∈ (toLowercase s).toList → '.' ∈ s.toList) (ioText : FileError → String)
    (retire : String → Bool) (cwd : Place) (dir fingerprint : String) :
    ((∀ t : FileTree, t.cwd = cwd → t.WellFormed →
        FileTree.SameOutside (FileTree.lexical cwd dir) t
            (handleRemove toLowercase ioText t retire dir fingerprint).2 ∧
          FileTree.SameOutside (FileTree.lexical cwd dir) t
            (remoteRemove toLowercase ioText t retire dir fingerprint).2) ↔
      FileTree.StaysInside cwd (FileTree.lexical cwd dir)
        (authorizedNodePath toLowercase dir fingerprint)) ∧
    ∀ (t : FileTree) certificate certPem t', certificate.toList.all isAsciiHexdigit = true →
      addAuthorizedNode toLowercase t dir certificate certPem = .ok t' →
      FileTree.SameOutside (FileTree.lexical t.cwd dir) t t' := by
  constructor
  · simp only [remoteRemove, handleRemove_snd, and_self]
    exact sameOutside_removeAuthorizedNode cwd _
  · intro t certificate certPem t' hDigits hAdd
    have hDigit : ∀ c ∈ certificate.toList, isAsciiHexdigit c = true := List.all_eq_true.mp hDigits
    refine sameOutside_addAuthorizedNode ?_ ?_ hAdd
    · exact fun hMem => absurd (hDigit _ (hSlash _ hMem)) (by decide)
    · intro hName
      have hMem : '.' ∈ (toLowercase certificate).toList := by simp [hName]
      exact absurd (hDigit _ (hDot _ hMem)) (by decide)

/-- A relay with its key beside the whitelist. -/
def relayFiles : FileTree where
  isDir place := [[], ["srv"], ["srv", "nodes"]].contains place
  files := AList.collect [(["srv", "relay.key"], "key"), (["srv", "nodes", "ab12"], "pem")]

theorem wellFormed_relayFiles : relayFiles.WellFormed where
  root := rfl
  above_isDir place above hDir hAbove := by
    have hAll : ∀ p ∈ [[], ["srv"], ["srv", "nodes"]], ∀ q ∈ p.inits,
        relayFiles.isDir q = true := by decide +kernel
    exact hAll place (List.contains_iff_mem.mp hDir) above ((List.mem_inits _ _).mpr hAbove)
  above_mem place above hMem hAbove hNe := by
    have hAll : ∀ p ∈ relayFiles.files.keys, ∀ q ∈ p.inits, q ≠ p →
        relayFiles.isDir q = true := by decide +kernel
    exact hAll place (AList.mem_keys.mp hMem) above ((List.mem_inits _ _).mpr hAbove) hNe
  isDir_of_mem place hMem := by
    have hAll : ∀ p ∈ relayFiles.files.keys, relayFiles.isDir p = false := by decide +kernel
    exact hAll place (AList.mem_keys.mp hMem)

/-- A fingerprint that leads out of the whitelist and back into it stays inside: the file
of the node is removed, and the key is left alone. -/
theorem removal_of_listed_node :
    FileTree.SameOutside (FileTree.lexical [] "/srv/nodes") relayFiles
        (remoteRemove id (fun _ => "") relayFiles (fun _ => false) "/srv/nodes"
          "../nodes/ab12").2 ∧
      (remoteRemove id (fun _ => "") relayFiles (fun _ => false) "/srv/nodes"
          "../nodes/ab12").2.files.lookup ["srv", "nodes", "ab12"] = none := by
  refine ⟨?_, by decide +kernel⟩
  have hStays : FileTree.StaysInside [] (FileTree.lexical [] "/srv/nodes")
      (authorizedNodePath id "/srv/nodes" "../nodes/ab12") := by decide +kernel
  have hAll := (removal_inside_whitelist_iff id (fun _ => id) (fun _ => id) (fun _ => "")
    (fun _ => false) [] "/srv/nodes" "../nodes/ab12").1.mpr hStays
  exact (hAll relayFiles rfl wellFormed_relayFiles).2

/-- A fingerprint that leads upwards removes the key, over either channel. -/
theorem removal_escapes_whitelist :
    relayFiles.files.lookup ["srv", "relay.key"] = some "key" ∧
      ¬ FileTree.lexical relayFiles.cwd "/srv/nodes" <+: ["srv", "relay.key"] ∧
      (handleRemove id (fun _ => "") relayFiles (fun _ => false) "/srv/nodes"
          "../relay.key").2.files.lookup ["srv", "relay.key"] = none ∧
      (remoteRemove id (fun _ => "") relayFiles (fun _ => false) "/srv/nodes"
          "../relay.key").2.files.lookup ["srv", "relay.key"] = none := by
  decide +kernel

end WaitAgent.Relay.Whitelist
