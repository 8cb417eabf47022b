import WaitAgent.Verified.KeyValues

/-!
# The pinned relay

`relay.toml` names the relay that a node dials and the certificate it has to present.
What is written is read again, and what is read would be written to the same effect.
The file is its text, or `none` when there is no file.
-/

namespace WaitAgent.Relay

open Verified

/-! ## Addresses -/

def defaultRelayListenPort : Nat := 7475

structure AddressError where
  address : String
  reason : String
  deriving DecidableEq

def AddressError.display (printable : Char → Bool) (error : AddressError) : String :=
  "invalid relay address " ++ debugString printable error.address ++ ": " ++ error.reason

/-- `host[:port]`, with the default port if none is given. -/
def parseRelayAddress (address : String) : Except AddressError (String × Nat) :=
  let address := trim address
  if address = "" then .error { address, reason := "empty address" }
  else
    match rsplitOnce ':' address with
    | some (host, port) =>
        let host := trim host
        if host = "" then .error { address, reason := "missing host" }
        else
          match parseU16 (trim port) with
          | some port => .ok (host, port)
          | none => .error { address, reason := "port is not a number" }
    | none => .ok (address, defaultRelayListenPort)

theorem lt_of_parseRelayAddress {address host : String} {port : Nat}
    (h : parseRelayAddress address = .ok (host, port)) : port < 2 ^ 16 := by
  unfold parseRelayAddress at h
  extract_lets trimmed at h
  split at h
  · cases h
  · split at h
    · extract_lets part at h
      split at h
      · cases h
      · split at h
        · next value hValue =>
          obtain rfl := (Prod.mk.inj (Except.ok.inj h)).2
          simpa using (Option.filter_eq_some_iff.mp hValue).2
        · cases h
    · obtain rfl := (Prod.mk.inj (Except.ok.inj h)).2
      decide

/-- A host that was read is read again with any port. -/
theorem parseRelayAddress_host {address host : String} {port : Nat}
    (h : parseRelayAddress address = .ok (host, port)) {other : Nat} (hLt : other < 2 ^ 16) :
    parseRelayAddress (host ++ ":" ++ toString other) = .ok (host, other) := by
  have hHost : host ≠ "" ∧ trim host = host := by
    unfold parseRelayAddress at h
    extract_lets trimmed at h
    split at h
    · cases h
    · next hNe =>
      split at h
      · extract_lets part at h
        split at h
        · cases h
        · next hPart =>
          split at h
          · obtain rfl := (Prod.mk.inj (Except.ok.inj h)).1
            exact ⟨hPart, trim_trim _⟩
          · cases h
      · obtain rfl := (Prod.mk.inj (Except.ok.inj h)).1
        exact ⟨hNe, trim_trim _⟩
  obtain ⟨hNe, hTrim⟩ := hHost
  have hPort : trim (toString other) = toString other := by
    obtain ⟨c, rest, hCons, hc⟩ := (isVisible_toString other).exists_cons
    have hEnds := (isVisible_toString other).endsVisible
    rw [hCons] at hEnds
    have hEq := trim_eq_self hc hEnds
    rwa [← hCons, String.ofList_toList] at hEq
  have hAll : trim (host ++ ":" ++ toString other) = host ++ ":" ++ toString other := by
    rw [← hTrim] at hNe
    obtain ⟨c, rest, hCons, hc, -⟩ := exists_cons_trim hNe
    have hText : host ++ ":" ++ toString other
        = String.ofList (c :: (rest ++ ':' :: (toString other).toList)) := by
      rw [← String.toList_inj, String.toList_append, String.toList_append, ← hTrim, hCons]
      simp
    rw [hText]
    refine trim_eq_self hc ?_
    rw [← List.singleton_append (x := ':'), ← List.append_assoc, ← List.cons_append]
    exact (isVisible_toString other).endsVisible.append _
  have hSplit : rsplitOnce ':' (host ++ ":" ++ toString other) = some (host, toString other) :=
    rsplitOnce_append (notMem_toString (by decide))
  have hValue : parseU16 (toString other) = some other := by
    rw [parseU16, parseU64_toString (by omega), Option.filter_some, if_pos (by simpa using hLt)]
  rw [parseRelayAddress]
  simp only [hAll, hSplit, hTrim, hPort, hValue, if_neg hNe]
  rw [if_neg]
  intro hEmpty
  rw [← String.toList_inj] at hEmpty
  simp at hEmpty

/-! ## The store -/

structure RelayTomlConfig where
  address : String := ""
  relayFingerprint : String := ""
  heartbeatIntervalSecs : Option Nat := none
  useProxy : Bool := false
  deriving DecidableEq

def relayTomlLines (config : RelayTomlConfig) : List (List Char) :=
  [keyValueLine "address".toList (quote config.address.toList),
    keyValueLine "relay_fingerprint".toList (quote config.relayFingerprint.toList)]
  ++ (config.heartbeatIntervalSecs.map fun secs =>
    keyValueLine "heartbeat_interval_secs".toList (toString secs).toList).toList
  ++ [keyValueLine "use_proxy".toList (boolText config.useProxy)]

def relayTomlHeader : List Char :=
  "# WaitAgent pinned relay (written by `relay join`)".toList

def serializeRelayToml (config : RelayTomlConfig) : String :=
  unlines (relayTomlHeader :: relayTomlLines config)

def lineErrorText : LineError → String
  | .invalid line => "invalid relay.toml line `" ++ line ++ "`"
  | .unterminated => "unterminated relay.toml string"

/-- The keys of `relay serve`, which share the file. -/
def serveKeys : List String :=
  ["listen", "admin_socket", "whitelist_dir", "token_invite_ttl_secs", "token_deploy_ttl_secs",
    "heartbeat_offline_after_secs", "register_timeout_secs", "capacity_max_nodes",
    "capacity_max_streams", "capacity_max_throughput_bytes_per_sec", "legacy_enroll_listener"]

def parseHeartbeat (value : String) : Except String Nat :=
  match parseU64 value with
  | none => .error "relay.toml `heartbeat_interval_secs` must be a whole number of seconds"
  | some secs =>
      if secs = 0 ∨ 300 < secs then
        .error "relay.toml `heartbeat_interval_secs` must be within 1..=300"
      else .ok secs

def parseUseProxy (value : String) : Except String Bool :=
  if trim value = "true" then .ok true
  else if trim value = "false" then .ok false
  else .error "relay.toml `use_proxy` must be true or false"

/-- What the lines of the file say, before it is checked. -/
structure PinFields where
  address : Option String := none
  relayFingerprint : Option String := none
  heartbeatIntervalSecs : Option Nat := none
  useProxy : Bool := false
  deriving DecidableEq

def pinField (fields : PinFields) (key value : String) : Except String PinFields :=
  if key = "address" then .ok { fields with address := some value }
  else if key = "relay_fingerprint" then .ok { fields with relayFingerprint := some value }
  else if key = "heartbeat_interval_secs" then
    (parseHeartbeat value).map fun secs => { fields with heartbeatIntervalSecs := some secs }
  else if key = "use_proxy" then
    (parseUseProxy value).map fun useProxy => { fields with useProxy }
  else if key ∈ serveKeys then .ok fields
  else .error ("unknown relay.toml field `" ++ key ++ "`")

def readPinFields (text : String) : Except String PinFields :=
  readKeyValues lineErrorText pinField {} text

def isAsciiHexdigit (c : Char) : Bool :=
  "0123456789abcdefABCDEF".toList.contains c

/-- Lower case of a text in ASCII. -/
def asciiLowercase (s : String) : String :=
  String.ofList (s.toList.map Char.toLower)

/-- Sixty-four hexadecimal digits, in lower case. -/
def normalizeFingerprint (fingerprint : String) : Except String String :=
  if fingerprint.toList.length ≠ 64 ∨ fingerprint.toList.all isAsciiHexdigit = false then
    .error ("relay.toml `relay_fingerprint` must be 64 hex characters " ++
      "(the relay certificate fingerprint); fix or re-run `relay join`")
  else .ok (asciiLowercase fingerprint)

section

variable (printable : Char → Bool)

def validateAddress (address : String) : Except String Unit :=
  match parseRelayAddress address with
  | .ok _ => .ok ()
  | .error error =>
      .error ("relay.toml `address` is not a valid host[:port] (" ++ error.display printable ++
        "); fix or re-run `relay join`")

def checkPin (fields : PinFields) : Except String RelayTomlConfig :=
  match fields.address with
  | none => .error "relay.toml lacks `address`"
  | some address =>
      validateAddress printable address >>= fun _ =>
        match fields.relayFingerprint with
        | none => .error "relay.toml lacks `relay_fingerprint`"
        | some fingerprint =>
            (normalizeFingerprint fingerprint).map fun relayFingerprint =>
              { address
                relayFingerprint
                heartbeatIntervalSecs := fields.heartbeatIntervalSecs
                useProxy := fields.useProxy }

def parseRelayToml (text : String) : Except String RelayTomlConfig :=
  readPinFields text >>= checkPin printable

/-- `RelayTomlConfig::load`: no file, no pin. -/
def loadPin (file : Option String) : Except String (Option RelayTomlConfig) :=
  match file with
  | none => .ok none
  | some text => (parseRelayToml printable text).map some

/-- `current_relay_pin`: a file that cannot be read counts as none. -/
def currentRelayPin (file : Option String) : Option RelayTomlConfig :=
  match loadPin printable file with
  | .ok pin => pin
  | .error _ => none

end

/-! ## What is written is read again -/

/-- A cadence that the file may hold. -/
def ValidHeartbeat (heartbeatIntervalSecs : Option Nat) : Prop :=
  ∀ secs ∈ heartbeatIntervalSecs, secs ≠ 0 ∧ secs ≤ 300

/-- A pin as it is read from a file. -/
structure ValidPin (config : RelayTomlConfig) : Prop where
  address : (parseRelayAddress config.address).isOk
  length : config.relayFingerprint.toList.length = 64
  digits : config.relayFingerprint.toList.all isAsciiHexdigit = true
  lower : asciiLowercase config.relayFingerprint = config.relayFingerprint
  heartbeat : ValidHeartbeat config.heartbeatIntervalSecs

theorem parseHeartbeat_toString {secs : Nat} (h : secs ≠ 0 ∧ secs ≤ 300) :
    parseHeartbeat (toString secs) = .ok secs := by
  rw [parseHeartbeat, parseU64_toString (by omega)]
  exact if_neg (by omega)

theorem parseUseProxy_boolText (b : Bool) :
    parseUseProxy (String.ofList (boolText b)) = .ok b := by
  cases b <;> decide

/-- The entries of a written pin. -/
def pinEntries (config : RelayTomlConfig) : List Entry :=
  [⟨"address", quote config.address.toList, config.address⟩,
    ⟨"relay_fingerprint", quote config.relayFingerprint.toList, config.relayFingerprint⟩]
  ++ (config.heartbeatIntervalSecs.map fun secs =>
    (⟨"heartbeat_interval_secs", (toString secs).toList, toString secs⟩ : Entry)).toList
  ++ [⟨"use_proxy", boolText config.useProxy, String.ofList (boolText config.useProxy)⟩]

theorem relayTomlLines_eq (config : RelayTomlConfig) :
    relayTomlLines config = (pinEntries config).map Entry.line := by
  cases hSecs : config.heartbeatIntervalSecs <;>
    simp [relayTomlLines, pinEntries, Entry.line, hSecs]

theorem pinEntries_ok (config : RelayTomlConfig) : ∀ entry ∈ pinEntries config, entry.Ok := by
  have hKey : ∀ key ∈ ["address", "relay_fingerprint", "heartbeat_interval_secs", "use_proxy"],
      IsKey key.toList := by
    simp only [List.forall_mem_cons, List.not_mem_nil, false_imp_iff, implies_true, and_true]
    exact ⟨by decide, by decide, by decide, by decide⟩
  intro entry hMem
  simp only [pinEntries, List.mem_cons, List.mem_append, List.not_mem_nil, or_false,
    Option.mem_toList, Option.map_eq_some_iff] at hMem
  obtain ((rfl | rfl) | ⟨secs, -, rfl⟩) | rfl := hMem
  · exact ⟨hKey _ (by simp), reads_quote _⟩
  · exact ⟨hKey _ (by simp), reads_quote _⟩
  · exact ⟨hKey _ (by simp), reads_number _⟩
  · exact ⟨hKey _ (by simp), reads_bool _⟩

/-- A written pin is read line by line, by whoever reads the file. -/
theorem readKeyValues_serialize {σ : Type} (field : σ → String → String → Except String σ) (s : σ)
    (config : RelayTomlConfig) :
    readKeyValues lineErrorText field s (serializeRelayToml config)
      = (pinEntries config).foldlM (fun s entry => field s entry.key entry.value) s := by
  have hLine : '\n' ∉ relayTomlHeader := by decide
  have hEnds : EndsVisible relayTomlHeader := ⟨')', by decide, by decide⟩
  have hSkipped : Skipped (trim (String.ofList relayTomlHeader)) := by decide
  rw [serializeRelayToml, relayTomlLines_eq]
  exact readKeyValues_unlines lineErrorText field s hLine hEnds hSkipped (pinEntries_ok config)

def RelayTomlConfig.fields (config : RelayTomlConfig) : PinFields where
  address := some config.address
  relayFingerprint := some config.relayFingerprint
  heartbeatIntervalSecs := config.heartbeatIntervalSecs
  useProxy := config.useProxy

theorem readPinFields_serialize {config : RelayTomlConfig}
    (h : ValidHeartbeat config.heartbeatIntervalSecs) :
    readPinFields (serializeRelayToml config) = .ok config.fields := by
  rw [readPinFields, readKeyValues_serialize, pinEntries]
  cases hSecs : config.heartbeatIntervalSecs with
  | none =>
    simp [pinField, parseUseProxy_boolText, RelayTomlConfig.fields, hSecs, Except.map, bind,
      Except.bind, pure, Except.pure]
  | some secs =>
    have hBeat := parseHeartbeat_toString (h secs hSecs)
    rw [Nat.toString_eq_repr] at hBeat
    simp [pinField, parseUseProxy_boolText, RelayTomlConfig.fields, hSecs, Except.map, bind,
      Except.bind, pure, Except.pure, hBeat]

section

variable (printable : Char → Bool)

theorem checkPin_fields {config : RelayTomlConfig} (h : ValidPin config) :
    checkPin printable config.fields = .ok config := by
  have hAddress : validateAddress printable config.address = .ok () := by
    have hOk := h.address
    rw [validateAddress]
    cases hParse : parseRelayAddress config.address with
    | ok parts => rfl
    | error error => simp [hParse, Except.isOk, Except.toBool] at hOk
  have hFingerprint : normalizeFingerprint config.relayFingerprint
      = .ok config.relayFingerprint := by
    rw [normalizeFingerprint, if_neg (by simp [h.length, h.digits]), h.lower]
  simp [checkPin, RelayTomlConfig.fields, hAddress, hFingerprint, Except.map, bind, Except.bind]

theorem parseRelayToml_serialize {config : RelayTomlConfig} (h : ValidPin config) :
    parseRelayToml printable (serializeRelayToml config) = .ok config := by
  rw [parseRelayToml, readPinFields_serialize h.heartbeat]
  simp only [bind, Except.bind]
  exact checkPin_fields printable h

end

/-! ## What is read is valid -/

theorem heartbeat_of_parse {value : String} {secs : Nat} (h : parseHeartbeat value = .ok secs) :
    secs ≠ 0 ∧ secs ≤ 300 := by
  unfold parseHeartbeat at h
  split at h
  · cases h
  · split at h
    · cases h
    · cases h
      omega

theorem heartbeat_pinField {fields fields' : PinFields} {key value : String}
    (hs : ValidHeartbeat fields.heartbeatIntervalSecs)
    (h : pinField fields key value = .ok fields') :
    ValidHeartbeat fields'.heartbeatIntervalSecs := by
  unfold pinField at h
  split at h
  · cases h
    exact hs
  split at h
  · cases h
    exact hs
  split at h
  · obtain ⟨secs, hSecs, rfl⟩ := map_eq_ok.mp h
    rintro _ ⟨⟩
    exact heartbeat_of_parse hSecs
  split at h
  · obtain ⟨useProxy, -, rfl⟩ := map_eq_ok.mp h
    exact hs
  split at h
  · cases h
    exact hs
  · cases h

/-- Lower case hexadecimal digits are such digits and stay as they are. -/
theorem toLower_of_isAsciiHexdigit {c : Char} (h : isAsciiHexdigit c = true) :
    isAsciiHexdigit c.toLower = true ∧ c.toLower.toLower = c.toLower := by
  have hAll : "0123456789abcdefABCDEF".toList.all (fun c =>
      isAsciiHexdigit c.toLower && c.toLower.toLower == c.toLower) = true := by decide
  have hDigit : c ∈ "0123456789abcdefABCDEF".toList := by simpa [isAsciiHexdigit] using h
  simpa using List.all_eq_true.mp hAll c hDigit

theorem of_normalizeFingerprint {fingerprint normal : String}
    (h : normalizeFingerprint fingerprint = .ok normal) :
    normal.toList.length = 64 ∧ normal.toList.all isAsciiHexdigit = true ∧
      asciiLowercase normal = normal := by
  unfold normalizeFingerprint at h
  split at h
  · cases h
  · next hOk =>
    cases h
    rw [not_or, not_not, Bool.not_eq_false, List.all_eq_true] at hOk
    obtain ⟨hLength, hDigits⟩ := hOk
    have hLower : ∀ c ∈ fingerprint.toList, isAsciiHexdigit c.toLower = true ∧
        c.toLower.toLower = c.toLower := fun c hc => toLower_of_isAsciiHexdigit (hDigits c hc)
    refine ⟨?_, ?_, ?_⟩
    · simp [asciiLowercase, hLength]
    · rw [asciiLowercase, String.toList_ofList, List.all_map, List.all_eq_true]
      exact fun c hc => (hLower c hc).1
    · rw [asciiLowercase, asciiLowercase, String.toList_ofList, List.map_map]
      congr 1
      exact List.map_congr_left fun c hc => (hLower c hc).2

section

variable {printable : Char → Bool} {config : RelayTomlConfig}

theorem validPin_of_parse {text : String} (h : parseRelayToml printable text = .ok config) :
    ValidPin config := by
  obtain ⟨fields, hFields, hCheck⟩ := bind_eq_ok.mp h
  have hBeat : ValidHeartbeat fields.heartbeatIntervalSecs := by
    refine readKeyValues_invariant (I := fun fields => ValidHeartbeat fields.heartbeatIntervalSecs)
      (fun s key value s' => heartbeat_pinField) ?_ hFields
    rintro _ ⟨⟩
  unfold checkPin at hCheck
  split at hCheck
  · cases hCheck
  · next address hAddress =>
    obtain ⟨_, hValid, hRest⟩ := bind_eq_ok.mp hCheck
    split at hRest
    · cases hRest
    · obtain ⟨normal, hNormal, rfl⟩ := map_eq_ok.mp hRest
      obtain ⟨hLength, hDigits, hLower⟩ := of_normalizeFingerprint hNormal
      refine ⟨?_, hLength, hDigits, hLower, hBeat⟩
      unfold validateAddress at hValid
      split at hValid
      · next hParse => simp [hParse, Except.isOk, Except.toBool]
      · cases hValid

theorem validPin_of_current {file : Option String}
    (h : currentRelayPin printable file = some config) : ValidPin config := by
  unfold currentRelayPin loadPin at h
  cases file with
  | none => cases h
  | some text =>
    cases hParse : parseRelayToml printable text with
    | error error => simp [hParse, Except.map] at h
    | ok pin =>
      simp only [hParse, Except.map, Option.some.injEq] at h
      exact validPin_of_parse (h ▸ hParse)

theorem currentRelayPin_serialize (h : ValidPin config) :
    currentRelayPin printable (some (serializeRelayToml config)) = some config := by
  simp [currentRelayPin, loadPin, parseRelayToml_serialize printable h, Except.map]

end

end WaitAgent.Relay
