import WaitAgent.Relay.PinFile

/-!
# One file for the pin and for `relay serve`

`relay serve` keeps its own keys in the `relay.toml` that also holds the pin.  Each
reader passes over the keys of the other, but saving a pin writes the pin alone, and
removing it removes the file.
-/

namespace WaitAgent.Relay

open Verified

/-! ## The configuration of `relay serve` -/

structure RelayServeTomlConfig (SocketAddr : Type) where
  listen : Option SocketAddr := none
  adminSocket : Option String := none
  whitelistDir : Option String := none
  tokenInviteTtlSecs : Option Nat := none
  tokenDeployTtlSecs : Option Nat := none
  heartbeatOfflineAfterSecs : Option Nat := none
  registerTimeoutSecs : Option Nat := none
  capacityMaxNodes : Option Nat := none
  capacityMaxStreams : Option Nat := none
  capacityMaxThroughputBytesPerSec : Option Nat := none
  legacyEnrollListener : Option Bool := none
  deriving DecidableEq

/-- The keys of the pin, which share the file. -/
def pinKeys : List String :=
  ["address", "relay_fingerprint", "heartbeat_interval_secs", "use_proxy"]

section

variable {SocketAddr : Type} (printable : Char → Bool) (parseAddr : String → Option SocketAddr)

def parsePositive (expected key value : String) : Except String Nat :=
  match parseU64 value with
  | none =>
      .error ("relay.toml `" ++ key ++ "` must be " ++ expected ++ ", got " ++
        debugString printable value)
  | some 0 => .error ("relay.toml `" ++ key ++ "` must be greater than 0")
  | some (n + 1) => .ok (n + 1)

def parsePositiveSecs (key value : String) : Except String Nat :=
  parsePositive printable "a whole number of seconds" key value

def parsePositiveUsize (key value : String) : Except String Nat :=
  parsePositive printable "a positive whole number" key value

def parseBool (key value : String) : Except String Bool :=
  if trim value = "true" then .ok true
  else if trim value = "false" then .ok false
  else
    .error ("relay.toml `" ++ key ++ "` must be true or false, got " ++ debugString printable value)

def parseListen (value : String) : Except String SocketAddr :=
  match parseAddr value with
  | some listen => .ok listen
  | none =>
      .error ("relay.toml `listen` must be a socket address like \"0.0.0.0:7475\", got " ++
        debugString printable value)

def parseAdminSocket (value : String) : Except String String :=
  if value.toList.head? = some '/' then .ok value
  else
    .error ("relay.toml `admin_socket` must be an absolute path, got " ++
      debugString printable value)

def serveField (config : RelayServeTomlConfig SocketAddr) (key value : String) :
    Except String (RelayServeTomlConfig SocketAddr) :=
  match key with
  | "listen" =>
      (parseListen printable parseAddr value).map fun listen =>
        { config with listen := some listen }
  | "admin_socket" =>
      (parseAdminSocket printable value).map fun path => { config with adminSocket := some path }
  | "whitelist_dir" => .ok { config with whitelistDir := some value }
  | "token_invite_ttl_secs" =>
      (parsePositiveSecs printable key value).map fun secs =>
        { config with tokenInviteTtlSecs := some secs }
  | "token_deploy_ttl_secs" =>
      (parsePositiveSecs printable key value).map fun secs =>
        { config with tokenDeployTtlSecs := some secs }
  | "heartbeat_offline_after_secs" =>
      (parsePositiveSecs printable key value).map fun secs =>
        { config with heartbeatOfflineAfterSecs := some secs }
  | "register_timeout_secs" =>
      (parsePositiveSecs printable key value).map fun secs =>
        { config with registerTimeoutSecs := some secs }
  | "capacity_max_nodes" =>
      (parsePositiveUsize printable key value).map fun n =>
        { config with capacityMaxNodes := some n }
  | "capacity_max_streams" =>
      (parsePositiveUsize printable key value).map fun n =>
        { config with capacityMaxStreams := some n }
  | "capacity_max_throughput_bytes_per_sec" =>
      (parsePositiveSecs printable key value).map fun n =>
        { config with capacityMaxThroughputBytesPerSec := some n }
  | "legacy_enroll_listener" =>
      (parseBool printable key value).map fun b => { config with legacyEnrollListener := some b }
  | other =>
      if other ∈ pinKeys then .ok config
      else .error ("unknown relay.toml field `" ++ other ++ "`")

def parseServeToml (text : String) : Except String (RelayServeTomlConfig SocketAddr) :=
  readKeyValues lineErrorText (serveField printable parseAddr) {} text

/-- `RelayServeTomlConfig::load`. -/
def loadServe (file : Option String) :
    Except String (Option (RelayServeTomlConfig SocketAddr)) :=
  match file with
  | none => .ok none
  | some text => (parseServeToml printable parseAddr text).map some

/-- What `relay serve` takes from the file: without a file, nothing is set. -/
def servedConfig (file : Option String) : Except String (RelayServeTomlConfig SocketAddr) :=
  (loadServe printable parseAddr file).map fun config => config.getD {}

end

/-! ## Operations of the node -/

inductive PinOp where
  /-- `RelayTomlConfig::save`, by a join or to restore a pin. -/
  | save (config : RelayTomlConfig)
  /-- `perform_relay_remove`. -/
  | remove

def PinOp.apply (_ : Option String) : PinOp → Option String
  | .save config => some (serializeRelayToml config)
  | .remove => none

/-- Each line of the file is skipped or sets a key of `relay serve`. -/
def HoldsOnlyServeKeys (text : String) : Prop :=
  ∀ raw ∈ lines text, Skipped (trim raw) ∨
    ∃ key ∈ serveKeys, ∃ value, parseKeyValue (trim raw) = .ok (key, value)

section

variable {SocketAddr : Type} {printable : Char → Bool} {parseAddr : String → Option SocketAddr}

theorem serveField_of_pinKey {key : String} (h : key ∈ pinKeys)
    (config : RelayServeTomlConfig SocketAddr) (value : String) :
    serveField printable parseAddr config key value = .ok config := by
  simp only [pinKeys, List.mem_cons, List.not_mem_nil, or_false] at h
  obtain rfl | rfl | rfl | rfl := h <;> rfl

theorem pinField_of_serveKey {key : String} (h : key ∈ serveKeys) (fields : PinFields)
    (value : String) : pinField fields key value = .ok fields := by
  have hNe : ∀ key ∈ serveKeys, key ≠ "address" ∧ key ≠ "relay_fingerprint" ∧
      key ≠ "heartbeat_interval_secs" ∧ key ≠ "use_proxy" := by decide
  obtain ⟨h₁, h₂, h₃, h₄⟩ := hNe key h
  rw [pinField, if_neg h₁, if_neg h₂, if_neg h₃, if_neg h₄, if_pos h]

theorem key_mem_pinKeys (config : RelayTomlConfig) :
    ∀ entry ∈ pinEntries config, entry.key ∈ pinKeys := by
  intro entry hMem
  simp only [pinEntries, List.mem_cons, List.mem_append, List.not_mem_nil, or_false,
    Option.mem_toList, Option.map_eq_some_iff] at hMem
  obtain ((rfl | rfl) | ⟨secs, -, rfl⟩) | rfl := hMem <;> simp [pinKeys]

/-- A saved pin says nothing to `relay serve`. -/
theorem parseServeToml_serialize (pin : RelayTomlConfig) :
    parseServeToml printable parseAddr (serializeRelayToml pin) = .ok {} := by
  rw [parseServeToml, readKeyValues_serialize]
  have hKeys := key_mem_pinKeys pin
  generalize pinEntries pin = entries at hKeys
  induction entries with
  | nil => rfl
  | cons entry entries ih =>
    rw [List.forall_mem_cons] at hKeys
    rw [List.foldlM_cons, serveField_of_pinKey hKeys.1]
    exact ih hKeys.2

theorem servedConfig_apply (op : PinOp) (file : Option String) :
    servedConfig printable parseAddr (op.apply file) = .ok {} := by
  cases op with
  | save pin => simp [PinOp.apply, servedConfig, loadServe, parseServeToml_serialize, Except.map]
  | remove => rfl

/-- Whatever was set is lost with any operation of the node. -/
theorem servedConfig_ops {ops : List PinOp} (h : ops ≠ []) (file : Option String) :
    servedConfig printable parseAddr (ops.foldl PinOp.apply file) = .ok {} := by
  obtain ⟨before, last, rfl⟩ := (List.eq_nil_or_concat ops).resolve_left h
  rw [List.concat_eq_append, List.foldl_concat]
  exact servedConfig_apply last _

/-- The keys of `relay serve` are passed over, and then an address is missing. -/
theorem loadPin_of_holdsOnlyServeKeys {text : String} (h : HoldsOnlyServeKeys text) :
    loadPin printable (some text) = .error "relay.toml lacks `address`" := by
  have hFields : readPinFields text = .ok {} := by
    rw [readPinFields, readKeyValues]
    unfold HoldsOnlyServeKeys at h
    generalize lines text = raws at h
    induction raws with
    | nil => rfl
    | cons raw raws ih =>
      rw [List.forall_mem_cons] at h
      have hLine : readLine lineErrorText pinField {} raw = .ok {} := by
        rw [readLine]
        obtain hSkipped | ⟨key, hKey, value, hParse⟩ := h.1
        · exact if_pos hSkipped
        · split
          · rfl
          · rw [hParse]
            exact pinField_of_serveKey hKey _ _
      rw [List.foldlM_cons, hLine]
      exact ih h.2
  rw [loadPin, parseRelayToml, hFields]
  rfl

end

/-- The configuration of `relay serve` survives the operations of the node exactly if
there are none or nothing was set; and a file without a key of the pin is never taken
for a file without a pin. -/
theorem serve_config_kept_iff {SocketAddr : Type} (printable : Char → Bool)
    (parseAddr : String → Option SocketAddr) (text : String)
    (config : RelayServeTomlConfig SocketAddr) (ops : List PinOp)
    (h : parseServeToml printable parseAddr text = .ok config) :
    (servedConfig printable parseAddr (ops.foldl PinOp.apply (some text)) = .ok config ∧
        (HoldsOnlyServeKeys text → loadPin printable (some text) = .ok none)) ↔
      (ops = [] ∨ config = {}) ∧ ¬ HoldsOnlyServeKeys text := by
  refine and_congr ?_ ?_
  · by_cases hOps : ops = []
    · have hServed : servedConfig printable parseAddr (some text) = .ok config := by
        simp [servedConfig, loadServe, h, Except.map]
      simp [hOps, hServed]
    · rw [servedConfig_ops hOps]
      simp [hOps, eq_comm]
  · refine imp_congr_right fun hOnly => ?_
    rw [loadPin_of_holdsOnlyServeKeys hOnly]
    simp

/-- A file with a pin alone, which is saved again for another relay. -/
theorem serve_config_kept_alone :
    servedConfig (fun _ => true) (some : String → Option String)
        ([.save { address := "relay:7476", relayFingerprint := "bb" }].foldl PinOp.apply
          (some "address = \"relay:7475\"\nrelay_fingerprint = \"aa\"\n"))
      = .ok {} :=
  ((serve_config_kept_iff (fun _ => true) some
      "address = \"relay:7475\"\nrelay_fingerprint = \"aa\"\n" {}
      [.save { address := "relay:7476", relayFingerprint := "bb" }]
      (by decide +kernel)).mpr ⟨.inr rfl, fun hOnly => by
        have hPin : loadPin (fun _ => true) _ = _ := loadPin_of_holdsOnlyServeKeys hOnly
        exact absurd hPin (by decide +kernel)⟩).1

/-- A join takes the directory of the whitelist out of the file; and before it, the
node could not read the file at all. -/
theorem join_drops_whitelist_dir :
    parseServeToml (fun _ => true) some "whitelist_dir = \"/srv/nodes\"\n"
        = .ok { whitelistDir := some "/srv/nodes" } ∧
      servedConfig (fun _ => true) some
          ([PinOp.save { address := "relay:7475", relayFingerprint := "ab" }].foldl PinOp.apply
            (some "whitelist_dir = \"/srv/nodes\"\n"))
        = .ok {} ∧
      loadPin (fun _ => true) (some "whitelist_dir = \"/srv/nodes\"\n")
        = .error "relay.toml lacks `address`" := by
  decide +kernel

end WaitAgent.Relay
