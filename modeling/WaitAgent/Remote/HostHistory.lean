import WaitAgent.Domain.SessionCatalog
import WaitAgent.Verified.HashMap
import WaitAgent.Verified.KeyValues

/-!
# The history of remote hosts

The profiles of remote hosts are kept in a file of sections, one line for each field that
is set.  A history that is written is read back as it was, so a change of one profile,
which reads the file and writes it again, leaves the others alone.
-/

namespace WaitAgent.Remote

open Verified Domain

/-! ## Profiles -/

inductive RemoteHostKind where
  | cloud
  | lan
deriving DecidableEq

inductive InstallSource where
  | remoteDownload
  | localUpload
deriving DecidableEq

inductive RemoteShellKind where
  | posix
  | windows
deriving DecidableEq

def RemoteHostKind.asStr : RemoteHostKind → String
  | cloud => "cloud"
  | lan => "lan"

def InstallSource.asStr : InstallSource → String
  | remoteDownload => "remote"
  | localUpload => "upload"

def RemoteShellKind.asStr : RemoteShellKind → String
  | posix => "posix"
  | windows => "windows"

/-- The value of the given name. -/
def parseName {α : Type} (asStr : α → String) (values : List α) (unknown : String → String)
    (value : String) : Except String α :=
  match values.find? fun a => asStr a = value with
  | some a => .ok a
  | none => .error (unknown value)

def RemoteHostKind.fromStr : String → Except String RemoteHostKind :=
  parseName asStr [cloud, lan] fun other => "unknown remote host kind `" ++ other ++ "`"

def InstallSource.fromStr : String → Except String InstallSource :=
  parseName asStr [remoteDownload, localUpload] fun other =>
    "unknown install source `" ++ other ++ "` (expected \"remote\" or \"upload\")"

def RemoteShellKind.fromStr : String → Except String RemoteShellKind :=
  parseName asStr [posix, windows] fun other => "unknown remote shell kind `" ++ other ++ "`"

/-- `RemoteHostSecretId`, a name without white space. -/
structure RemoteHostSecretId where
  value : String
  ne_blank : trim value ≠ ""
  visible : value.toList.any isWhitespace = false

def RemoteHostSecretId.new (value : String) : Except String RemoteHostSecretId :=
  if hBlank : trim value = "" then .error "remote host secret id is required"
  else if hSpace : value.toList.any isWhitespace = true then
    .error "remote host secret id must not contain whitespace"
  else .ok ⟨value, hBlank, by simpa using hSpace⟩

inductive RemoteHostAuthProfile where
  | password (passwordSecretId : Option RemoteHostSecretId)
  | key (keyPath : String)

inductive RemotePortPreference where
  | auto
  | port (port : Nat)

structure RemoteHostProfile where
  name : String
  host : String
  sshUser : String
  auth : RemoteHostAuthProfile
  sudoPasswordSecretId : Option RemoteHostSecretId
  preferredRemotePort : RemotePortPreference
  sshPort : Option Nat
  lastRemotePort : Option Nat
  lastEndpoint : Option String
  lastConnectedAt : Option String
  useInstallProxy : Bool
  tlsPinSha256 : Option String
  hostKind : RemoteHostKind
  remoteShell : Option RemoteShellKind
  via : Option String
  lastViaUsed : Option String
  installSource : InstallSource
  relayRole : Bool
  useSshProxy : Bool

/-! ## Writing -/

/-- A value as it is written and as it is read. -/
abbrev Written := List Char × String

def quoted (value : String) : Written := (quote value.toList, value)

def number (n : Nat) : Written := ((toString n).toList, toString n)

def flag (b : Bool) : Written := (boolText b, String.ofList (boolText b))

def portWritten : RemotePortPreference → Written
  | .auto => quoted "auto"
  | .port port => number port

/-- The fields of a profile in the order of the file; one that is not set has no line. -/
def profileFields (p : RemoteHostProfile) : List (String × Option Written) :=
  [("name", some (quoted p.name)), ("host", some (quoted p.host)),
    ("ssh_user", some (quoted p.sshUser)),
    ("auth_kind", some (quoted (match p.auth with | .password _ => "password" | .key _ => "key"))),
    ("ssh_password_secret_id", match p.auth with
      | .password secretId => secretId.map fun id => quoted id.value
      | .key _ => none),
    ("key_path", some (quoted (match p.auth with | .password _ => "" | .key keyPath => keyPath))),
    ("sudo_password_secret_id", p.sudoPasswordSecretId.map fun id => quoted id.value),
    ("preferred_remote_port", some (portWritten p.preferredRemotePort)),
    ("ssh_port", p.sshPort.map number), ("last_remote_port", p.lastRemotePort.map number),
    ("last_endpoint", p.lastEndpoint.map quoted),
    ("last_connected_at", p.lastConnectedAt.map quoted),
    ("tls_pin_sha256", p.tlsPinSha256.map quoted),
    ("use_install_proxy", some (flag p.useInstallProxy)),
    ("use_ssh_proxy", some (flag p.useSshProxy)), ("host_kind", some (quoted p.hostKind.asStr)),
    ("remote_shell", p.remoteShell.map fun shell => quoted shell.asStr),
    ("via", p.via.map quoted), ("last_via_used", p.lastViaUsed.map quoted),
    ("install_source", some (quoted p.installSource.asStr)),
    ("relay_role", some (flag p.relayRole))]

def entriesOf (fields : List (String × Option Written)) : List Entry :=
  fields.filterMap fun field => field.2.map fun written => ⟨field.1, written.1, written.2⟩

def hostsHeader : List Char := "[[hosts]]".toList

def profileLines (p : RemoteHostProfile) : List (List Char) :=
  hostsHeader :: (entriesOf (profileFields p)).map Entry.line ++ [[]]

/-- `serialize_history`. -/
def serializeHistory (hosts : List RemoteHostProfile) : String :=
  unlines (hosts.flatMap profileLines)

/-! ## Reading -/

/-- `RawProfile`: the values by the names of their fields. -/
abbrev RawProfile := HashMap String String

def profileKeys : List String :=
  ["name", "host", "ssh_user", "auth_kind", "ssh_password_secret_id", "sudo_password_secret_id",
    "key_path", "preferred_remote_port", "ssh_port", "last_remote_port", "last_endpoint",
    "last_connected_at", "tls_pin_sha256", "use_install_proxy", "host_kind", "remote_shell", "via",
    "last_via_used", "install_source", "relay_role", "use_ssh_proxy"]

def RawProfile.set (raw : RawProfile) (key value : String) : Except String RawProfile :=
  if key ∈ profileKeys then .ok (raw.insert key value)
  else .error ("unknown remote host history field `" ++ key ++ "`")

/-- A value that is there and not blank. -/
def nonBlank (value : Option String) : Option String :=
  value.filter fun text => trim text ≠ ""

def required (value : Option String) (field : String) : Except String String :=
  match nonBlank value with
  | some text => .ok text
  | none => .error ("remote host profile `" ++ field ++ "` is required")

/-- A value that may be left out or blank. -/
def optionalWith {α : Type} (parse : String → Except String α) (value : Option String) :
    Except String (Option α) :=
  match nonBlank value with
  | none => .ok none
  | some text => (parse text).map some

def parseBool (field value : String) : Except String Bool :=
  if value = "true" then .ok true
  else if value = "false" then .ok false
  else .error ("remote host profile `" ++ field ++ "` must be true or false")

def parsePort (field value : String) : Except String Nat :=
  match parseU16 value with
  | some port => .ok port
  | none => .error ("remote host profile `" ++ field ++ "` must be a port")

def parsePortPreference : Option String → Except String RemotePortPreference
  | none => .ok .auto
  | some value =>
    if value = "auto" then .ok .auto
    else (parsePort "preferred_remote_port" value).map .port

section

variable (printable : Char → Bool)

def RemoteNodeVia.parse : String → Except String RemoteNodeVia :=
  parseName RemoteNodeVia.asStr [.auto, .direct, .relay] fun other =>
    "unknown via value " ++ debugString printable other
      ++ "; expected \"auto\", \"relay\" or \"direct\""

def parseVia (value : String) : Except String String :=
  (RemoteNodeVia.parse printable value).map RemoteNodeVia.asStr

def parseLastViaUsed (value : String) : Except String String :=
  RemoteNodeVia.parse printable value >>= fun
    | .auto => .error "remote host profile `last_via_used` must be \"direct\" or \"relay\""
    | concrete => .ok concrete.asStr

def RawProfile.auth (raw : RawProfile) : Except String RemoteHostAuthProfile :=
  match raw.lookup "auth_kind" with
  | none => .error "remote host auth_kind is required"
  | some kind =>
    if kind = "password" then
      (optionalWith RemoteHostSecretId.new (raw.lookup "ssh_password_secret_id")).map .password
    else if kind = "key" then .ok (.key ((raw.lookup "key_path").getD ""))
    else .error ("unknown remote host auth kind `" ++ kind ++ "`")

/-- `RawProfile::into_profile`. -/
def RawProfile.intoProfile (raw : RawProfile) : Except String RemoteHostProfile := do
  let auth ← raw.auth
  let name ← required (raw.lookup "name") "name"
  let host ← required (raw.lookup "host") "host"
  let sshUser ← required (raw.lookup "ssh_user") "ssh_user"
  let sudoPasswordSecretId ←
    optionalWith RemoteHostSecretId.new (raw.lookup "sudo_password_secret_id")
  let preferredRemotePort ← parsePortPreference (raw.lookup "preferred_remote_port")
  let sshPort ← optionalWith (parsePort "ssh_port") (raw.lookup "ssh_port")
  let lastRemotePort ←
    optionalWith (parsePort "last_remote_port") (raw.lookup "last_remote_port")
  let useInstallProxy ←
    optionalWith (parseBool "use_install_proxy") (raw.lookup "use_install_proxy")
  let hostKind ← optionalWith RemoteHostKind.fromStr (raw.lookup "host_kind")
  let remoteShell ← optionalWith RemoteShellKind.fromStr (raw.lookup "remote_shell")
  let via ← optionalWith (parseVia printable) (raw.lookup "via")
  let lastViaUsed ← optionalWith (parseLastViaUsed printable) (raw.lookup "last_via_used")
  let installSource ← optionalWith InstallSource.fromStr (raw.lookup "install_source")
  let relayRole ← optionalWith (parseBool "relay_role") (raw.lookup "relay_role")
  let useSshProxy ← optionalWith (parseBool "use_ssh_proxy") (raw.lookup "use_ssh_proxy")
  .ok
    { name, host, sshUser, auth, sudoPasswordSecretId, preferredRemotePort, sshPort
      lastRemotePort
      lastEndpoint := (raw.lookup "last_endpoint").filter (· ≠ "")
      lastConnectedAt := (raw.lookup "last_connected_at").filter (· ≠ "")
      useInstallProxy := useInstallProxy.getD true
      tlsPinSha256 := (raw.lookup "tls_pin_sha256").filter (· ≠ "")
      hostKind := hostKind.getD .lan
      remoteShell, via, lastViaUsed
      installSource := installSource.getD .remoteDownload
      relayRole := relayRole.getD false
      useSshProxy := useSshProxy.getD false }

/-- The profiles read so far, and the one under way. -/
structure HistoryReader where
  hosts : List RemoteHostProfile := []
  current : Option RawProfile := none

/-- The profiles with the one under way. -/
def HistoryReader.close (s : HistoryReader) : Except String (List RemoteHostProfile) :=
  match s.current with
  | none => .ok s.hosts
  | some raw => (raw.intoProfile printable).map fun p => s.hosts ++ [p]

def historyLineError : LineError → String
  | .invalid line => "invalid remote host history line `" ++ line ++ "`"
  | .unterminated => "unterminated remote host history string"

def HistoryReader.line (s : HistoryReader) (raw : String) : Except String HistoryReader :=
  let line := trim raw
  if Skipped line then .ok s
  else if line = String.ofList hostsHeader then
    (s.close printable).map fun hosts => { hosts, current := some ∅ }
  else
    match s.current with
    | none => .error "remote host history field appears before [[hosts]]"
    | some current =>
      (readLine historyLineError RawProfile.set current raw).map fun current =>
        { s with current := some current }

/-- `parse_history`. -/
def parseHistory (text : String) : Except String (List RemoteHostProfile) :=
  (lines text).foldlM (HistoryReader.line printable) {} >>= HistoryReader.close printable

end

/-! ## The store -/

section

variable (printable : Char → Bool)

/-- `load`: a file that does not exist is an empty history. -/
def loadHistory : Option String → Except String (List RemoteHostProfile)
  | none => .ok []
  | some text => parseHistory printable text

/-- The profile in the place of the first of its name, or at the end. -/
def upsertHost (profile : RemoteHostProfile) : List RemoteHostProfile → List RemoteHostProfile
  | [] => [profile]
  | host :: hosts =>
    if host.name = profile.name then profile :: hosts else host :: upsertHost profile hosts

/-- `upsert_profile`: the file afterwards. -/
def upsertProfile (file : Option String) (profile : RemoteHostProfile) :
    Except String (Option String) :=
  (loadHistory printable file).map fun hosts => some (serializeHistory (upsertHost profile hosts))

/-- `remove_profile`: the profile that was removed, and the file afterwards. -/
def removeProfile (file : Option String) (name : String) :
    Except String (Option RemoteHostProfile × Option String) :=
  (loadHistory printable file).map fun hosts =>
    match hosts.find? fun host => host.name = name with
    | none => (none, file)
    | some removed =>
      (some removed, some (serializeHistory (hosts.eraseP fun host => host.name = name)))

end

/-! ## The fields of one profile -/

/-- What the file can hold: texts that are required are not blank, optional ones not empty,
ports have sixteen bits, and paths are named as they are written. -/
structure RemoteHostProfile.Valid (p : RemoteHostProfile) : Prop where
  name : trim p.name ≠ ""
  host : trim p.host ≠ ""
  sshUser : trim p.sshUser ≠ ""
  preferredRemotePort : ∀ port, p.preferredRemotePort = .port port → port < 2 ^ 16
  sshPort : ∀ port ∈ p.sshPort, port < 2 ^ 16
  lastRemotePort : ∀ port ∈ p.lastRemotePort, port < 2 ^ 16
  lastEndpoint : p.lastEndpoint ≠ some ""
  lastConnectedAt : p.lastConnectedAt ≠ some ""
  tlsPinSha256 : p.tlsPinSha256 ≠ some ""
  via : ∀ text ∈ p.via, ∃ via : RemoteNodeVia, text = via.asStr
  lastViaUsed : ∀ text ∈ p.lastViaUsed, ∃ via : RemoteNodeVia, via ≠ .auto ∧ text = via.asStr

section

variable {printable : Char → Bool} {p : RemoteHostProfile}

/-- Fields of different names are set to the values that are read. -/
theorem foldlM_set (fields : List (String × Option Written))
    (hKnown : ∀ field ∈ fields, field.1 ∈ profileKeys) (hNodup : (fields.map Prod.fst).Nodup) :
    ∀ raw : RawProfile, ∃ raw', (entriesOf fields).foldlM (fun raw entry =>
        raw.set entry.key entry.value) raw = .ok raw' ∧
      ∀ key, raw'.lookup key = ((fields.lookup key).join.map Prod.snd).or (raw.lookup key) := by
  induction fields with
  | nil => exact fun raw => ⟨raw, rfl, fun _ => rfl⟩
  | cons field fields ih =>
    intro raw
    obtain ⟨name, value⟩ := field
    rw [List.forall_mem_cons] at hKnown
    rw [List.map_cons, List.nodup_cons] at hNodup
    have hOther : fields.lookup name = none := by
      rw [List.lookup_eq_none_iff]
      intro field hField
      simpa using fun hEq : name = field.1 => hNodup.1 (List.mem_map.mpr ⟨field, hField, hEq.symm⟩)
    cases value with
    | none =>
      -- the field has no line, and no later one has its name
      obtain ⟨raw', hFold, hLookup⟩ := ih hKnown.2 hNodup.2 raw
      refine ⟨raw', hFold, fun key => ?_⟩
      rw [hLookup, List.lookup_cons]
      by_cases hKey : key = name
      · simp [hKey, hOther]
      · simp [beq_false_of_ne hKey]
    | some written =>
      obtain ⟨raw', hFold, hLookup⟩ := ih hKnown.2 hNodup.2 (raw.insert name written.2)
      refine ⟨raw', ?_, fun key => ?_⟩
      · have hSet : raw.set name written.2 = .ok (raw.insert name written.2) := if_pos hKnown.1
        have hEntries : entriesOf ((name, some written) :: fields) =
            ⟨name, written.1, written.2⟩ :: entriesOf fields := rfl
        rw [hEntries, List.foldlM_cons, hSet]
        exact hFold
      · rw [hLookup, List.lookup_cons, AList.lookup_insert_eq_ite]
        by_cases hKey : key = name
        · simp [hKey, hOther]
        · simp [hKey, beq_false_of_ne hKey]

/-- A value that is read back from its text is read back from the field. -/
theorem optionalWith_map {α : Type} {parse : String → Except String α} {text : α → String}
    {o : Option α} (h : ∀ a ∈ o, trim (text a) ≠ "" ∧ parse (text a) = .ok a) :
    optionalWith parse (o.map text) = .ok o := by
  cases o with
  | none => rfl
  | some a =>
    obtain ⟨hText, hParse⟩ := h a rfl
    simp [optionalWith, nonBlank, Option.filter, hText, hParse, Except.map]

theorem required_of_ne {text : String} (h : trim text ≠ "") (field : String) :
    required (some text) field = .ok text := by
  simp [required, nonBlank, Option.filter, h]

theorem optionalWith_flag (field : String) (b : Bool) :
    optionalWith (parseBool field) (some (String.ofList (boolText b))) = .ok (some b) := by
  cases b <;> rfl

theorem optionalWith_secretId (o : Option RemoteHostSecretId) :
    optionalWith RemoteHostSecretId.new (o.map RemoteHostSecretId.value) = .ok o := by
  refine optionalWith_map fun secretId _ => ⟨secretId.ne_blank, ?_⟩
  simp [RemoteHostSecretId.new, secretId.ne_blank, secretId.visible]

variable {hosts : List RemoteHostProfile} {s : HistoryReader} {value : Option String}
  {o : Option String} {raw : RawProfile} {port : Nat}

theorem parsePort_toString (field : String) (h : port < 2 ^ 16) :
    parsePort field (toString port) = .ok port := by
  rw [parsePort, parseU16_toString h]

theorem optionalWith_port (field : String) {o : Option Nat} (h : ∀ port ∈ o, port < 2 ^ 16) :
    optionalWith (parsePort field) (o.map toString) = .ok o := by
  refine optionalWith_map fun port hPort => ⟨?_, parsePort_toString field (h port hPort)⟩
  obtain ⟨c, rest, hCons, hc⟩ := (isVisible_toString port).exists_cons
  have hTrim := trim_eq_self hc (hCons ▸ (isVisible_toString port).endsVisible)
  rw [← hCons, String.ofList_toList] at hTrim
  rw [hTrim, ← String.toList_inj.ne, hCons]
  exact List.cons_ne_nil _ _

theorem parsePortPreference_written {preference : RemotePortPreference}
    (h : ∀ port, preference = .port port → port < 2 ^ 16) :
    parsePortPreference (some (portWritten preference).2) = .ok preference := by
  cases preference with
  | auto => rfl
  | port port =>
    have hAuto : toString port ≠ "auto" := by
      intro hEq
      have hDigit := isDigit_of_mem_toString (n := port) (c := 'a') (by rw [hEq]; decide)
      exact absurd hDigit (by decide)
    rw [parsePortPreference, portWritten, number, if_neg hAuto, parsePort_toString _ (h port rfl)]
    rfl

theorem optionalWith_via (h : ∀ text ∈ o, ∃ via : RemoteNodeVia, text = via.asStr) :
    optionalWith (parseVia printable) o = .ok o := by
  cases o with
  | none => rfl
  | some text =>
    obtain ⟨via, rfl⟩ := h text rfl
    cases via <;> rfl

theorem optionalWith_lastViaUsed
    (h : ∀ text ∈ o, ∃ via : RemoteNodeVia, via ≠ .auto ∧ text = via.asStr) :
    optionalWith (parseLastViaUsed printable) o = .ok o := by
  cases o with
  | none => rfl
  | some text =>
    obtain ⟨via, hVia, rfl⟩ := h text rfl
    cases via with
    | auto => exact absurd rfl hVia
    | direct => rfl
    | relay => rfl

theorem optionalWith_remoteShell (o : Option RemoteShellKind) :
    optionalWith RemoteShellKind.fromStr (o.map RemoteShellKind.asStr) = .ok o := by
  refine optionalWith_map fun shell _ => ?_
  cases shell <;> exact ⟨by decide, rfl⟩

theorem optionalWith_hostKind (kind : RemoteHostKind) :
    optionalWith RemoteHostKind.fromStr (some kind.asStr) = .ok (some kind) := by
  cases kind <;> rfl

theorem optionalWith_installSource (source : InstallSource) :
    optionalWith InstallSource.fromStr (some source.asStr) = .ok (some source) := by
  cases source <;> rfl

theorem filter_ne_empty (h : o ≠ some "") : o.filter (· ≠ "") = o := by
  cases o with
  | none => rfl
  | some text =>
    have hText : text ≠ "" := fun hEq => h (congrArg some hEq)
    simp [Option.filter, hText]

/-- The profile whose fields were read. -/
theorem intoProfile_of_lookup (hp : p.Valid)
    (hRaw : ∀ key, raw.lookup key = ((profileFields p).lookup key).join.map Prod.snd) :
    raw.intoProfile printable = .ok p := by
  have hQuoted {α : Type} (f : α → String) : (Prod.snd ∘ fun a => quoted (f a)) = f := rfl
  have hAuth : raw.auth = .ok p.auth := by
    rw [RawProfile.auth]
    simp only [hRaw, profileFields, List.lookup_cons, String.reduceBEq, Option.join_some]
    cases p.auth with
    | password secretId =>
      rw [Option.map_map, hQuoted, optionalWith_secretId]
      rfl
    | key keyPath => rfl
  have hValue (text : String) : (quoted text).2 = text := rfl
  have hNumber : Prod.snd ∘ number = toString := rfl
  have hFlag (b : Bool) : (flag b).2 = String.ofList (boolText b) := rfl
  simp only [RawProfile.intoProfile, hAuth, hRaw, profileFields, List.lookup_cons,
    String.reduceBEq, Option.join_some, Option.map_map, Option.map_some, hQuoted, hValue,
    Option.map_id_fun', id_eq, hNumber, hFlag, required_of_ne hp.name, required_of_ne hp.host,
    required_of_ne hp.sshUser,
    optionalWith_secretId, parsePortPreference_written hp.preferredRemotePort,
    optionalWith_port _ hp.sshPort, optionalWith_port _ hp.lastRemotePort, optionalWith_flag,
    optionalWith_hostKind, optionalWith_remoteShell, optionalWith_via hp.via,
    optionalWith_lastViaUsed hp.lastViaUsed, optionalWith_installSource,
    filter_ne_empty hp.lastEndpoint, filter_ne_empty hp.lastConnectedAt,
    filter_ne_empty hp.tlsPinSha256]
  rfl

/-! ## The lines of the file -/

theorem nodup_profileFields (p : RemoteHostProfile) : ((profileFields p).map Prod.fst).Nodup := by
  simp [profileFields]

theorem isKey_of_mem_profileKeys : ∀ key ∈ profileKeys, IsKey key.toList := by
  decide +kernel

theorem mem_profileKeys {field : String × Option Written} (h : field ∈ profileFields p) :
    field.1 ∈ profileKeys := by
  have hAll : ((profileFields p).map Prod.fst).all (· ∈ profileKeys) = true := by rfl
  simpa using List.all_eq_true.mp hAll field.1 (List.mem_map_of_mem h)

theorem ok_entriesOf {entry : Entry} (h : entry ∈ entriesOf (profileFields p)) : entry.Ok := by
  have hQuoted (text : String) : Reads (quoted text).1 (quoted text).2 := reads_quote text
  have hNumber (n : Nat) : Reads (number n).1 (number n).2 := reads_number n
  have hFlag (b : Bool) : Reads (flag b).1 (flag b).2 := reads_bool b
  have hPort (preference : RemotePortPreference) :
      Reads (portWritten preference).1 (portWritten preference).2 := by
    cases preference with
    | auto => exact hQuoted _
    | port port => exact hNumber port
  have hReads : ∀ field ∈ profileFields p, ∀ written ∈ field.2, Reads written.1 written.2 := by
    cases hAuth : p.auth <;>
      simp [-Prod.forall, profileFields, hAuth, hQuoted, hNumber, hFlag, hPort]
  obtain ⟨field, hField, hEntry⟩ := List.mem_filterMap.mp h
  obtain ⟨written, hWritten, rfl⟩ := Option.map_eq_some_iff.mp hEntry
  exact ⟨isKey_of_mem_profileKeys _ (mem_profileKeys hField), hReads field hField written hWritten⟩

theorem line_entry {current : RawProfile} (hCurrent : s.current = some current) {entry : Entry}
    (h : entry.Ok) :
    s.line printable (String.ofList entry.line) =
      (current.set entry.key entry.value).map fun next => { s with current := some next } := by
  obtain ⟨hTrim, hNot⟩ := trim_keyValueLine h.key h.reads
  have hRead := readLine_line historyLineError RawProfile.set current h.key h.reads
  rw [← Entry.line] at hTrim hNot hRead
  -- the header has no equals sign, whatever the value of the entry looks like
  have hHeader : String.ofList entry.line ≠ String.ofList hostsHeader := by
    intro hEq
    have hMem : '=' ∈ hostsHeader := by
      rw [← String.ofList_injective hEq]
      simp [Entry.line, keyValueLine]
    exact absurd hMem (by decide)
  unfold HistoryReader.line
  simp only [hTrim, hNot, hHeader, ↓reduceIte, hCurrent, hRead, String.ofList_toList]

/-- The lines of a profile set its fields one by one. -/
theorem foldlM_entries (hosts : List RemoteHostProfile) {entries : List Entry}
    (h : ∀ entry ∈ entries, entry.Ok) (current : RawProfile) :
    ((entries.map Entry.line).map String.ofList).foldlM (HistoryReader.line printable)
        ⟨hosts, some current⟩ =
      (entries.foldlM (fun raw entry => RawProfile.set raw entry.key entry.value) current).map
        fun current => ⟨hosts, some current⟩ := by
  induction entries generalizing current with
  | nil => rfl
  | cons entry entries ih =>
    rw [List.forall_mem_cons] at h
    rw [List.map_cons, List.map_cons, List.foldlM_cons, List.foldlM_cons, line_entry rfl h.1]
    cases current.set entry.key entry.value with
    | error message => rfl
    | ok next => exact ih h.2 next

/-- The lines of a profile end the one before and leave its own fields. -/
theorem foldlM_section {entries : List Entry} (h : ∀ entry ∈ entries, entry.Ok)
    (hFold : entries.foldlM (fun raw entry => RawProfile.set raw entry.key entry.value) ∅ = .ok raw)
    {done : List RemoteHostProfile} (hClose : s.close printable = .ok done) :
    ((hostsHeader :: entries.map Entry.line ++ [[]]).map String.ofList).foldlM
      (HistoryReader.line printable) s = .ok ⟨done, some raw⟩ := by
  have hHeader : s.line printable (String.ofList hostsHeader) = .ok ⟨done, some ∅⟩ := by
    rw [HistoryReader.line, if_neg (by decide), if_pos (by decide), hClose]
    rfl
  have hBlank (s : HistoryReader) : s.line printable (String.ofList []) = .ok s := by
    rw [HistoryReader.line, if_pos (by decide)]
  rw [List.cons_append, List.map_cons, List.foldlM_cons, hHeader, List.map_append]
  refine bind_eq_ok.mpr ⟨_, rfl, ?_⟩
  rw [List.foldlM_append, foldlM_entries done h, hFold]
  exact bind_eq_ok.mpr ⟨_, rfl, bind_eq_ok.mpr ⟨_, hBlank _, rfl⟩⟩

/-- The lines of a profile add it to those before. -/
theorem foldlM_profileLines (hp : p.Valid) {done : List RemoteHostProfile}
    (hClose : s.close printable = .ok done) :
    ∃ s', ((profileLines p).map String.ofList).foldlM (HistoryReader.line printable) s = .ok s' ∧
      s'.close printable = .ok (done ++ [p]) := by
  obtain ⟨raw, hFold, hLookup⟩ := foldlM_set _ (fun _ => mem_profileKeys) (nodup_profileFields p) ∅
  have hRaw : raw.intoProfile printable = .ok p :=
    intoProfile_of_lookup hp fun key => (hLookup key).trans (Option.or_none ..)
  refine ⟨_, foldlM_section (fun _ => ok_entriesOf) hFold hClose, ?_⟩
  rw [HistoryReader.close]
  simp only [hRaw]
  rfl

theorem foldlM_history (h : ∀ p ∈ hosts, p.Valid) :
    ∀ {s : HistoryReader} {done : List RemoteHostProfile}, s.close printable = .ok done →
      ∃ s', ((hosts.flatMap profileLines).map String.ofList).foldlM
          (HistoryReader.line printable) s = .ok s' ∧
        s'.close printable = .ok (done ++ hosts) := by
  induction hosts with
  | nil => exact fun {s done} hClose => ⟨s, rfl, by rw [hClose, List.append_nil]⟩
  | cons p hosts ih =>
    intro s done hClose
    rw [List.forall_mem_cons] at h
    obtain ⟨mid, hMid, hMidClose⟩ := foldlM_profileLines h.1 hClose
    obtain ⟨s', hRest, hRestClose⟩ := ih h.2 hMidClose
    refine ⟨s', ?_, by rw [hRestClose, List.append_assoc, List.singleton_append]⟩
    rw [List.flatMap_cons, List.map_append, List.foldlM_append, hMid]
    exact hRest

/-- A history that is written is read back. -/
theorem parseHistory_serializeHistory (h : ∀ p ∈ hosts, p.Valid) :
    parseHistory printable (serializeHistory hosts) = .ok hosts := by
  have hLines : ∀ l ∈ hosts.flatMap profileLines, '\n' ∉ l ∧ stripCr l = l := by
    intro l hMem
    obtain ⟨p, -, hLine⟩ := List.mem_flatMap.mp hMem
    rw [profileLines, List.cons_append, List.mem_cons, List.mem_append, List.mem_map,
      List.mem_singleton] at hLine
    obtain rfl | ⟨entry, hEntry, rfl⟩ | rfl := hLine
    · decide
    · exact (ok_entriesOf hEntry).line
    · decide
  have hStart : ({} : HistoryReader).close printable = .ok [] := rfl
  obtain ⟨s', hFold, hClose⟩ := foldlM_history h hStart
  rw [parseHistory, serializeHistory, lines_unlines hLines, hFold]
  exact hClose

/-! ## Profiles that are read -/

theorem ne_blank_of_required {field text : String} (h : required value field = .ok text) :
    trim text ≠ "" := by
  unfold required nonBlank at h
  split at h
  · next hFilter =>
    cases h
    simpa using (Option.filter_eq_some_iff.mp hFilter).2
  · cases h

theorem exists_of_optionalWith {α : Type} {parse : String → Except String α} {o : Option α}
    (h : optionalWith parse value = .ok o) {a : α} (ha : a ∈ o) : ∃ text, parse text = .ok a := by
  unfold optionalWith at h
  split at h
  · cases h
    cases ha
  · obtain ⟨b, hParse, rfl⟩ := map_eq_ok.mp h
    cases ha
    exact ⟨_, hParse⟩

theorem lt_of_parsePort {field text : String} (h : parsePort field text = .ok port) :
    port < 2 ^ 16 := by
  unfold parsePort parseU16 at h
  split at h
  · next hFilter =>
    cases h
    simpa using (Option.filter_eq_some_iff.mp hFilter).2
  · cases h

theorem lt_of_parsePortPreference {preference : RemotePortPreference}
    (h : parsePortPreference value = .ok preference) (hPort : preference = .port port) :
    port < 2 ^ 16 := by
  subst hPort
  unfold parsePortPreference at h
  split at h
  · cases h
  · split at h
    · cases h
    · obtain ⟨_, hParse, hEq⟩ := map_eq_ok.mp h
      cases hEq
      exact lt_of_parsePort hParse

theorem exists_of_parseLastViaUsed {text used : String}
    (h : parseLastViaUsed printable text = .ok used) :
    ∃ via : RemoteNodeVia, via ≠ .auto ∧ used = via.asStr := by
  obtain ⟨via, -, hVia⟩ := bind_eq_ok.mp h
  cases via with
  | auto => cases hVia
  | direct =>
    cases hVia
    exact ⟨.direct, by decide, rfl⟩
  | relay =>
    cases hVia
    exact ⟨.relay, by decide, rfl⟩

/-- Only profiles that can be written are read. -/
theorem valid_of_intoProfile (h : raw.intoProfile printable = .ok p) :
    p.Valid := by
  have hFilter (o : Option String) : o.filter (· ≠ "") ≠ some "" := by
    intro hEq
    simpa using (Option.filter_eq_some_iff.mp hEq).2
  simp only [RawProfile.intoProfile, bind_eq_ok] at h
  obtain ⟨auth, -, name, hName, host, hHost, sshUser, hUser, secretId, -, preference, hPreference,
    sshPort, hSshPort, lastPort, hLastPort, proxy, -, kind, -, shell, -, via, hVia, used, hUsed,
    source, -, role, -, sshProxy, -, h⟩ := h
  cases h
  exact {
    name := ne_blank_of_required hName
    host := ne_blank_of_required hHost
    sshUser := ne_blank_of_required hUser
    preferredRemotePort := fun _ => lt_of_parsePortPreference hPreference
    sshPort := fun _ hPort => lt_of_parsePort (exists_of_optionalWith hSshPort hPort).choose_spec
    lastRemotePort := fun _ hPort =>
      lt_of_parsePort (exists_of_optionalWith hLastPort hPort).choose_spec
    lastEndpoint := hFilter _
    lastConnectedAt := hFilter _
    tlsPinSha256 := hFilter _
    via := by
      intro text hText
      obtain ⟨_, hParse⟩ := exists_of_optionalWith hVia hText
      obtain ⟨via, -, hEq⟩ := map_eq_ok.mp hParse
      exact ⟨via, hEq.symm⟩
    lastViaUsed := fun _ hText =>
      exists_of_parseLastViaUsed (exists_of_optionalWith hUsed hText).choose_spec }

theorem valid_of_close (hs : ∀ p ∈ s.hosts, p.Valid) (h : s.close printable = .ok hosts) :
    ∀ p ∈ hosts, p.Valid := by
  unfold HistoryReader.close at h
  split at h
  · cases h
    exact hs
  · obtain ⟨p, hp, rfl⟩ := map_eq_ok.mp h
    simpa [or_imp, forall_and] using ⟨hs, valid_of_intoProfile hp⟩

theorem valid_of_line {s s' : HistoryReader} (hs : ∀ p ∈ s.hosts, p.Valid) {raw : String}
    (h : s.line printable raw = .ok s') : ∀ p ∈ s'.hosts, p.Valid := by
  unfold HistoryReader.line at h
  extract_lets line at h
  split at h
  · cases h
    exact hs
  · split at h
    · obtain ⟨hosts, hClose, rfl⟩ := map_eq_ok.mp h
      exact valid_of_close hs hClose
    · split at h
      · cases h
      · obtain ⟨_, -, rfl⟩ := map_eq_ok.mp h
        exact hs

theorem valid_of_parseHistory {text : String} (h : parseHistory printable text = .ok hosts) :
    ∀ p ∈ hosts, p.Valid := by
  obtain ⟨s, hFold, hClose⟩ := bind_eq_ok.mp h
  have hEmpty : ∀ p ∈ ({} : HistoryReader).hosts, p.Valid := by simp
  have hRead := foldlM_invariant (I := fun s : HistoryReader => ∀ p ∈ s.hosts, p.Valid)
    (fun _ _ _ hs hLine => valid_of_line hs hLine) hEmpty hFold
  exact valid_of_close hRead hClose

/-! ## Changes of one profile -/

/-- One history has `added` where the other has `gone`, and they agree elsewhere. -/
def Replaced (gone added : Option RemoteHostProfile) (before after : List RemoteHostProfile) :
    Prop :=
  ∃ front back, before = front ++ gone.toList ++ back ∧ after = front ++ added.toList ++ back

section

variable {gone added : Option RemoteHostProfile} {before after : List RemoteHostProfile}

theorem Replaced.cons (h : Replaced gone added before after) (host : RemoteHostProfile) :
    Replaced gone added (host :: before) (host :: after) := by
  obtain ⟨front, back, rfl, rfl⟩ := h
  exact ⟨host :: front, back, rfl, rfl⟩

theorem Replaced.valid (h : Replaced gone added before after) (hBefore : ∀ p ∈ before, p.Valid)
    (hAdded : ∀ p ∈ added, p.Valid) : ∀ p ∈ after, p.Valid := by
  obtain ⟨front, back, rfl, rfl⟩ := h
  intro p hMem
  rw [List.mem_append, List.mem_append, Option.mem_toList] at hMem
  obtain (hFront | hNew) | hBack := hMem
  · exact hBefore p (by simp [hFront])
  · exact hAdded p hNew
  · exact hBefore p (by simp [hBack])

end

theorem replaced_upsertHost (profile : RemoteHostProfile) (hosts : List RemoteHostProfile) :
    ∃ old, (∀ p ∈ old, p.name = profile.name) ∧
      Replaced old (some profile) hosts (upsertHost profile hosts) := by
  induction hosts with
  | nil => exact ⟨none, by simp, [], [], rfl, rfl⟩
  | cons host hosts ih =>
    rw [upsertHost]
    split
    · next hName => exact ⟨some host, by simpa using hName, [], hosts, rfl, rfl⟩
    · obtain ⟨old, hName, hReplaced⟩ := ih
      exact ⟨old, hName, hReplaced.cons host⟩

theorem valid_of_loadHistory {file : Option String} (h : loadHistory printable file = .ok hosts) :
    ∀ p ∈ hosts, p.Valid := by
  cases file with
  | none =>
    cases h
    simp
  | some text => exact valid_of_parseHistory h

section

variable {file : Option String} {hosts : List RemoteHostProfile}

theorem loadHistory_serializeHistory (h : ∀ p ∈ hosts, p.Valid) :
    loadHistory printable (some (serializeHistory hosts)) = .ok hosts :=
  parseHistory_serializeHistory h

theorem upsertProfile_replaces (hLoad : loadHistory printable file = .ok hosts) (hp : p.Valid) :
    ∃ file' old after, upsertProfile printable file p = .ok file' ∧ (∀ q ∈ old, q.name = p.name) ∧
      Replaced old (some p) hosts after ∧ loadHistory printable file' = .ok after := by
  obtain ⟨old, hName, hReplaced⟩ := replaced_upsertHost p hosts
  have hValid := hReplaced.valid (valid_of_loadHistory hLoad) (by simpa using hp)
  refine ⟨_, old, _, ?_, hName, hReplaced, loadHistory_serializeHistory hValid⟩
  rw [upsertProfile, hLoad]
  rfl

theorem removeProfile_replaces (hLoad : loadHistory printable file = .ok hosts) (name : String) :
    ∃ removed file' after, removeProfile printable file name = .ok (removed, file') ∧
      (∀ q ∈ removed, q.name = name) ∧ Replaced removed none hosts after ∧
      loadHistory printable file' = .ok after := by
  rw [removeProfile, hLoad]
  cases hFind : hosts.find? fun host => host.name = name with
  | none =>
    refine ⟨none, file, hosts, ?_, by simp, ⟨hosts, [], by simp, by simp⟩, hLoad⟩
    simp [Except.map, hFind]
  | some removed =>
    obtain ⟨hName, front, back, rfl, hFront⟩ := List.find?_eq_some_iff_append.mp hFind
    have hErase : (front ++ removed :: back).eraseP (fun host => host.name = name) =
        front ++ back := by
      rw [List.eraseP_append_right _ fun q hq => by simpa using hFront q hq]
      simp [of_decide_eq_true hName]
    have hReplaced : Replaced (some removed) none (front ++ removed :: back) (front ++ back) :=
      ⟨front, back, by simp, by simp⟩
    have hValid := hReplaced.valid (valid_of_loadHistory hLoad) (by simp)
    refine ⟨some removed, _, _, ?_, by simpa using hName, hReplaced,
      loadHistory_serializeHistory hValid⟩
    simp only [Except.map, hFind, hErase]

/-- A history is read back as it was written, and a change of one profile leaves the others
as they were. -/
theorem history_round_trips {written : List RemoteHostProfile} (hWritten : ∀ p ∈ written, p.Valid)
    (hLoad : loadHistory printable file = .ok hosts) (hp : p.Valid) (name : String) :
    parseHistory printable (serializeHistory written) = .ok written ∧
      (∃ file' old after, upsertProfile printable file p = .ok file' ∧
        (∀ q ∈ old, q.name = p.name) ∧ Replaced old (some p) hosts after ∧
        loadHistory printable file' = .ok after) ∧
      ∃ removed file' after, removeProfile printable file name = .ok (removed, file') ∧
        (∀ q ∈ removed, q.name = name) ∧ Replaced removed none hosts after ∧
        loadHistory printable file' = .ok after :=
  ⟨parseHistory_serializeHistory hWritten, upsertProfile_replaces hLoad hp,
    removeProfile_replaces hLoad name⟩

end

/-- A host whose texts look like lines of the file. -/
def oddHost : RemoteHostProfile where
  name := "a \"b\" = \\ #\n[[hosts]]"
  host := "[::1]"
  sshUser := " root"
  auth := .key "/root/.ssh/id = \"x\"\r"
  sudoPasswordSecretId := some ⟨"ssh-1", by decide, by decide⟩
  preferredRemotePort := .port 7474
  sshPort := some 22
  lastRemotePort := none
  lastEndpoint := some " "
  lastConnectedAt := none
  useInstallProxy := false
  tlsPinSha256 := none
  hostKind := .cloud
  remoteShell := some .windows
  via := some "auto"
  lastViaUsed := some "relay"
  installSource := .localUpload
  relayRole := true
  useSshProxy := true

theorem oddHost_valid : oddHost.Valid where
  name := by decide
  host := by decide
  sshUser := by decide
  preferredRemotePort := fun port h => by
    cases h
    decide
  sshPort := by simp [oddHost]
  lastRemotePort := by simp [oddHost]
  lastEndpoint := by decide
  lastConnectedAt := by decide
  tlsPinSha256 := by decide
  via := fun text h => by
    cases h
    exact ⟨.auto, rfl⟩
  lastViaUsed := fun text h => by
    cases h
    exact ⟨.relay, by decide, rfl⟩

theorem history_round_trips_odd :
    parseHistory (fun _ => true) (serializeHistory [oddHost, oddHost]) = .ok [oddHost, oddHost] ∧
      ∃ file' old after, upsertProfile (fun _ => true) none oddHost = .ok file' ∧
        (∀ q ∈ old, q.name = oddHost.name) ∧ Replaced old (some oddHost) [] after ∧
        loadHistory (fun _ => true) file' = .ok after := by
  have hValid : ∀ p ∈ [oddHost, oddHost], p.Valid := by simpa using oddHost_valid
  have hLoad : loadHistory (fun _ => true) none = .ok [] := rfl
  obtain ⟨hParse, hUpsert, -⟩ := history_round_trips hValid hLoad oddHost_valid "b"
  exact ⟨hParse, hUpsert⟩

/-! ## Runs -/

/-- Saves a profile or removes one by name. -/
def changeProfile (printable : Char → Bool) (file : Option String) :
    RemoteHostProfile ⊕ String → Except String (Option String)
  | .inl p => upsertProfile printable file p
  | .inr name => (removeProfile printable file name).map Prod.snd

def nameOf : RemoteHostProfile ⊕ String → String
  | .inl p => p.name
  | .inr name => name

section

variable (h : (hosts.map (·.name)).Nodup)
include h

theorem mem_upsertHost {q} : q ∈ upsertHost p hosts ↔ p = q ∨ q ∈ hosts ∧ p.name ≠ q.name := by
  induction hosts with
  | nil => simp [upsertHost, eq_comm]
  | cons host hosts ih =>
    obtain ⟨hFirst, hRest⟩ := List.nodup_cons.mp h
    rw [upsertHost, List.mem_cons]
    split_ifs with hName
    · -- the host that is replaced is the only one of its name
      have hOthers : q ∈ hosts → p.name ≠ q.name := fun hMem hSame =>
        hFirst (List.mem_map.mpr ⟨q, hMem, (hName.trans hSame).symm⟩)
      rw [List.mem_cons, eq_comm]
      constructor
      · exact Or.imp_right fun hMem => ⟨Or.inr hMem, hOthers hMem⟩
      · rintro (hNew | ⟨rfl | hMem, hNe⟩)
        · exact Or.inl hNew
        · exact absurd hName.symm hNe
        · exact Or.inr hMem
    · rw [List.mem_cons, ih hRest]
      constructor
      · rintro (rfl | hNew | ⟨hMem, hNe⟩)
        · exact Or.inr ⟨Or.inl rfl, Ne.symm hName⟩
        · exact Or.inl hNew
        · exact Or.inr ⟨Or.inr hMem, hNe⟩
      · rintro (hNew | ⟨hFound | hMem, hNe⟩)
        · exact Or.inr (Or.inl hNew)
        · exact Or.inl hFound
        · exact Or.inr (Or.inr ⟨hMem, hNe⟩)

theorem nodup_upsertHost : ((upsertHost p hosts).map (·.name)).Nodup := by
  induction hosts with
  | nil => simp [upsertHost]
  | cons host hosts ih =>
    obtain ⟨hFirst, hRest⟩ := List.nodup_cons.mp h
    rw [upsertHost]
    split_ifs with hName
    · rw [List.map_cons, ← hName]
      exact h
    · refine List.nodup_cons.mpr ⟨fun hMem => ?_, ih hRest⟩
      obtain ⟨q, hq, hSame⟩ := List.mem_map.mp hMem
      rcases (mem_upsertHost hRest).mp hq with rfl | ⟨hOld, -⟩
      · exact hName hSame.symm
      · exact hFirst (List.mem_map.mpr ⟨q, hOld, hSame⟩)

theorem mem_eraseHost (name q) : q ∈ hosts.eraseP (·.name = name) ↔ q ∈ hosts ∧ name ≠ q.name := by
  induction hosts with
  | nil => simp
  | cons host hosts ih =>
    obtain ⟨hFirst, hRest⟩ := List.nodup_cons.mp h
    by_cases hName : host.name = name
    · rw [List.eraseP_cons_of_pos (by simpa using hName), List.mem_cons]
      constructor
      · intro hMem
        refine ⟨Or.inr hMem, fun hSame => hFirst (List.mem_map.mpr ⟨q, hMem, ?_⟩)⟩
        exact (hName.trans hSame).symm
      · rintro ⟨rfl | hMem, hNe⟩
        · exact absurd hName.symm hNe
        · exact hMem
    · rw [List.eraseP_cons_of_neg (by simpa using hName), List.mem_cons, List.mem_cons, ih hRest]
      constructor
      · rintro (rfl | ⟨hMem, hNe⟩)
        · exact ⟨Or.inl rfl, Ne.symm hName⟩
        · exact ⟨Or.inr hMem, hNe⟩
      · rintro ⟨hFound | hMem, hNe⟩
        · exact Or.inl hFound
        · exact Or.inr ⟨hMem, hNe⟩

/-- One save or removal. -/
theorem changeProfile_spec {file} (hLoad : loadHistory printable file = .ok hosts) (c)
    (hValid : ∀ p, c = .inl p → p.Valid) :
    ∃ file' after, changeProfile printable file c = .ok file' ∧
      loadHistory printable file' = .ok after ∧ (after.map (·.name)).Nodup ∧
      ∀ q, q ∈ after ↔ c = .inl q ∨ q ∈ hosts ∧ nameOf c ≠ q.name := by
  have hOld := valid_of_loadHistory hLoad
  cases c with
  | inl p =>
    have hNew : ∀ q ∈ upsertHost p hosts, q.Valid := fun q hq => by
      rcases (mem_upsertHost h).mp hq with rfl | ⟨hMem, -⟩
      · exact hValid p rfl
      · exact hOld q hMem
    rw [changeProfile, upsertProfile, hLoad]
    exact ⟨_, _, rfl, loadHistory_serializeHistory hNew, nodup_upsertHost h,
      by simp [mem_upsertHost h, nameOf]⟩
  | inr name =>
    rw [changeProfile, removeProfile, hLoad]
    cases hFind : hosts.find? (·.name = name) with
    | none =>
      have hNone : ∀ q ∈ hosts, name ≠ q.name := fun q hq hSame => by
        simpa [hSame] using List.find?_eq_none.mp hFind q hq
      refine ⟨file, hosts, by simp [hFind, Except.map], hLoad, h, fun q => ?_⟩
      simpa [nameOf] using hNone q
    | some =>
      refine ⟨_, _, ?_, loadHistory_serializeHistory fun q hq => hOld q (List.mem_of_mem_eraseP hq),
        h.sublist (List.eraseP_sublist.map _), by simpa [nameOf] using mem_eraseHost h name⟩
      simp only [Except.map, hFind]

end

/-- After any saves and removals the file has what was last saved under each name. -/
theorem history_keeps_last_saves (changes : List (RemoteHostProfile ⊕ String))
    (hValid : ∀ p, .inl p ∈ changes → p.Valid) :
    ∃ file hosts, changes.foldlM (changeProfile printable) none = .ok file ∧
      loadHistory printable file = .ok hosts ∧ (hosts.map (·.name)).Nodup ∧
      ∀ q, q ∈ hosts ↔ changes.reverse.find? (nameOf · = q.name) = some (.inl q) := by
  induction changes using List.reverseRecOn with
  | nil => exact ⟨none, [], rfl, rfl, by simp, by simp⟩
  | append_singleton changes c ih =>
    obtain ⟨_, _, hRun, hLoad, hNodup, hMem⟩ := ih (by grind)
    obtain ⟨_, _, hStep, hLoad', hNodup', hMem'⟩ := changeProfile_spec hNodup hLoad c (by grind)
    refine ⟨_, _, ?_, hLoad', hNodup', fun q => ?_⟩
    · rw [List.foldlM_append, hRun]
      exact (bind_pure _).trans hStep
    · rw [hMem', hMem, List.reverse_concat, List.find?_cons]
      split <;> grind [nameOf]

/-- A host is saved, another beside it, the first again without its role, and the second is
removed. -/
def oddChanges : List (RemoteHostProfile ⊕ String) :=
  [.inl oddHost, .inl { oddHost with name := "b" }, .inl { oddHost with relayRole := false },
    .inr "b"]

theorem history_keeps_last_saves_odd :
    ∃ file hosts, oddChanges.foldlM (changeProfile fun _ => true) none = .ok file ∧
      loadHistory (fun _ => true) file = .ok hosts ∧
      { oddHost with relayRole := false } ∈ hosts ∧ oddHost ∉ hosts ∧
      ∀ q ∈ hosts, q.name ≠ "b" := by
  have hValid : ∀ p, .inl p ∈ oddChanges → p.Valid := by
    intro p hp
    simp only [oddChanges, List.mem_cons, Sum.inl.injEq, reduceCtorEq, List.not_mem_nil,
      or_false] at hp
    rcases hp with rfl | rfl | rfl
    · exact oddHost_valid
    · exact { oddHost_valid with name := by decide }
    · exact { oddHost_valid with }
  obtain ⟨_, hosts, hRun, hLoad, -, hMem⟩ := history_keeps_last_saves oddChanges hValid
  refine ⟨_, hosts, hRun, hLoad, (hMem _).mpr ?_, fun h => ?_, fun q hq hName => ?_⟩
  · simp [oddChanges, nameOf, oddHost]
  · exact absurd ((hMem _).mp h) (by simp [oddChanges, nameOf, oddHost])
  · have hLast := (hMem q).mp hq
    rw [hName] at hLast
    exact absurd hLast (by simp [oddChanges, nameOf])

end

end WaitAgent.Remote
