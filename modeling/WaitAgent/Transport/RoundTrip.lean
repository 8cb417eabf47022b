import WaitAgent.Transport.Codec

/-!
# What is written is read back

One lemma for each kind of field, then the payloads and the envelope from them.
The fields with a table behind them are read back only where the table has them,
and the readers return nothing else: a payload can be read back exactly if all its
static texts are known.
-/

namespace WaitAgent.Transport

open Verified Domain

/-! ## Fields -/

theorem encodes_number {α : Type} (f : Nat → α) (width n : Nat) (h : n < 256 ^ width) :
    Encodes (do return f (leValue (← readExactly width)) : Reader α) (leBytes width n) (f n) := by
  have hRead : Encodes (readExactly width) (leBytes width n) (leBytes width n) := by
    have := encodes_readExact RemoteTransportCodecError.endOfStream (leBytes width n)
    rwa [length_leBytes] at this
  apply hRead.last
  rw [leValue_leBytes width n h]

theorem decodes_u8 (value : UInt8) : Decodes (writeU8 value) readU8 value := by
  intro bytes hBytes
  cases hBytes
  have hRead := encodes_number UInt8.ofNat 1 value.toNat value.toNat_lt
  rw [leBytes, leBytes, UInt8.ofNat_toNat] at hRead
  exact hRead

theorem decodes_u32 (value : UInt32) : Decodes (writeU32 value) readU32 value := by
  intro bytes hBytes
  cases hBytes
  have hRead := encodes_number UInt32.ofNat 4 value.toNat value.toNat_lt
  rw [UInt32.ofNat_toNat] at hRead
  exact hRead

theorem decodes_u64 (value : UInt64) : Decodes (writeU64 value) readU64 value := by
  intro bytes hBytes
  cases hBytes
  have hRead := encodes_number UInt64.ofNat 8 value.toNat value.toNat_lt
  rw [UInt64.ofNat_toNat] at hRead
  exact hRead

theorem decodes_usize (value : UInt64) : Decodes (writeUsize value) readUsize value :=
  decodes_u64 value

theorem decodes_bool (value : Bool) : Decodes (writeBool value) readBool value := by
  apply (decodes_u8 _).last
  cases value <;> rfl

theorem decodes_bytes (value : List UInt8) : Decodes (writeBytes value) readBytes value := by
  unfold writeBytes
  split
  case isTrue hShort =>
    apply (decodes_u32 _).cons
    have hLength : (UInt32.ofNat value.length).toNat = value.length :=
      UInt32.toNat_ofNat_of_lt' hShort
    rw [hLength]
    intro bytes hBytes
    cases hBytes
    rw [List.append_nil]
    exact encodes_readExact _ value
  case isFalse =>
    intro bytes hBytes
    cases hBytes

theorem decodes_string (value : String) : Decodes (writeString value) readString value := by
  apply (decodes_bytes _).last
  rw [checkUtf8, fromUtf8_utf8Bytes]
  exact congrArg pure (String.ofList_toList)

theorem decodes_staticString {value : String} (h : value ∈ knownStaticStrings) :
    Decodes (writeStaticString value) readKnownStaticString value := by
  apply (decodes_string value).last
  rw [if_pos h]

theorem decodes_taskState {value : String} (h : (ManagedSessionTaskState.parse value).isSome) :
    Decodes (writeString value) readTaskState value := by
  apply (decodes_string value).last
  cases hState : ManagedSessionTaskState.parse value with
  | none =>
    rw [hState] at h
    cases h
  | some state => exact congrArg pure (ManagedSessionTaskState.asStr_of_parse hState)

theorem decodes_ackStatus (status : TargetPublicationAckStatus) :
    Decodes (writeTargetPublicationAckStatus status) readTargetPublicationAckStatus status := by
  apply (decodes_u8 _).last
  cases status <;> rfl

theorem decodes_optional {α : Type} {write : α → Written} {read : Reader α} (kind : String)
    {value : Option α} (h : ∀ v ∈ value, Decodes (write v) read v) :
    Decodes (writeOptional write value) (readOptional kind read) value := by
  cases value with
  | none => exact (decodes_u8 0).last rfl
  | some v =>
    apply (decodes_u8 1).cons
    apply Decodes.single
    exact (h v rfl).last rfl

theorem decodes_optionalString (value : Option String) :
    Decodes (writeOptionalString value) readOptionalString value :=
  decodes_optional _ fun v _ => decodes_string v

theorem decodes_optionalStaticString {value : Option String}
    (h : ∀ v ∈ value, v ∈ knownStaticStrings) :
    Decodes (writeOptionalStaticString value) readOptionalStaticString value :=
  decodes_optional _ fun v hv => decodes_staticString (h v hv)

theorem decodes_optionalUsize (value : Option UInt64) :
    Decodes (writeOptionalUsize value) readOptionalUsize value :=
  decodes_optional _ fun v _ => decodes_usize v

/-- Most payloads have the texts of a session and of a target next to each other. -/
theorem decodes_texts {β : Type} {rest : List Written} {f : String → String → Reader β}
    {first second : String} {value : β} (h : Decodes (writeAll rest) (f first second) value) :
    Decodes (writeAll (writeString first :: writeString second :: rest))
      (do f (← readString) (← readString)) value :=
  (decodes_string first).cons <| (decodes_string second).cons h

/-! ## Payloads -/

theorem decodes_rawPtyInputPayload (p : RawPtyInputPayload) :
    Decodes (writeRawPtyInputPayload p) readRawPtyInputPayload p :=
  decodes_texts <| decodes_texts <| (decodes_string _).cons <| (decodes_u64 _).cons <|
    (decodes_bytes _).cons <| decodes_nil _

theorem decodes_rawPtyOutputPayload (p : RawPtyOutputPayload) :
    Decodes (writeRawPtyOutputPayload p) readRawPtyOutputPayload p :=
  decodes_texts <| (decodes_u64 _).cons <| (decodes_bytes _).cons <| decodes_nil _

/-- The static texts of a payload, which are read through the table. -/
def ControlPlanePayload.staticStrings : ControlPlanePayload → List String
  | .serverHello p => [p.sessionRecoveryPolicy]
  | .openMirrorAccepted p => [p.availability]
  | .openMirrorRejected p => [p.code]
  | .mirrorBootstrapChunk p => [p.stream]
  | .openTargetOk p => [p.availability]
  | .openTargetRejected p => [p.code]
  | .targetOutput p => [p.stream]
  | .createSessionRejected p => [p.code]
  | .targetPublished p => p.availability :: p.sessionRole.toList
  | .error p => [p.code]
  | _ => []

/-- The task state of a payload, which is read through its parser. -/
def ControlPlanePayload.taskStates : ControlPlanePayload → List String
  | .targetPublished p => [p.taskState]
  | _ => []

/-- All that the reader checks against a table is in it. -/
def ControlPlanePayload.Known (payload : ControlPlanePayload) : Prop :=
  (∀ value ∈ payload.staticStrings, value ∈ knownStaticStrings) ∧
    ∀ value ∈ payload.taskStates, (ManagedSessionTaskState.parse value).isSome

instance (payload : ControlPlanePayload) : Decidable payload.Known :=
  inferInstanceAs (Decidable (_ ∧ _))

theorem decodes_payload {payload : ControlPlanePayload} (h : payload.Known) :
    Decodes (writePayload payload) readPayload payload := by
  obtain ⟨hStatic, hTask⟩ := h
  cases payload with
  | clientHello p =>
    exact (decodes_u8 1).cons <| decodes_texts <| decodes_nil _
  | serverHello p =>
    exact (decodes_u8 2).cons <| decodes_texts <| (decodes_string _).cons <|
      (decodes_u64 _).cons <| (decodes_staticString (hStatic _ (.head _))).cons <| decodes_nil _
  | openMirrorRequest p =>
    cases p with
    | mk session target console cols rows raw mode =>
      cases mode <;>
      exact (decodes_u8 12).cons <| decodes_texts <| (decodes_string _).cons <|
        (decodes_usize _).cons <| (decodes_usize _).cons <| (decodes_bool _).cons <|
        (decodes_bool _).cons <| decodes_nil _
  | openMirrorAccepted p =>
    exact (decodes_u8 13).cons <| decodes_texts <|
      (decodes_staticString (hStatic _ (.head _))).cons <| decodes_nil _
  | openMirrorRejected p =>
    exact (decodes_u8 14).cons <| decodes_texts <|
      (decodes_staticString (hStatic _ (.head _))).cons <| (decodes_string _).cons <|
      decodes_nil _
  | closeMirrorRequest p =>
    exact (decodes_u8 15).cons <| decodes_texts <| decodes_nil _
  | mirrorBootstrapChunk p =>
    exact (decodes_u8 16).cons <| decodes_texts <| (decodes_u64 _).cons <|
      (decodes_staticString (hStatic _ (.head _))).cons <| (decodes_bytes _).cons <|
      decodes_nil _
  | mirrorBootstrapComplete p =>
    exact (decodes_u8 17).cons <| decodes_texts <| (decodes_u64 _).cons <|
      (decodes_bool _).cons <| (decodes_bool _).cons <| (decodes_bool _).cons <| decodes_nil _
  | openTargetOk p =>
    exact (decodes_u8 3).cons <| decodes_texts <| decodes_texts <| (decodes_u64 _).cons <|
      decodes_texts <| (decodes_staticString (hStatic _ (.head _))).cons <|
      (decodes_optionalString _).cons <| decodes_nil _
  | openTargetRejected p =>
    exact (decodes_u8 4).cons <| decodes_texts <| (decodes_string _).cons <|
      (decodes_staticString (hStatic _ (.head _))).cons <| (decodes_string _).cons <|
      decodes_nil _
  | resizeAuthorityChanged p =>
    exact (decodes_u8 5).cons <| decodes_texts <| (decodes_u64 _).cons <| decodes_texts <|
      (decodes_optionalUsize _).cons <| (decodes_optionalUsize _).cons <| decodes_nil _
  | rawPtyInput p =>
    exact (decodes_u8 18).cons <| (decodes_rawPtyInputPayload _).cons <| decodes_nil _
  | pasteFileRequest p =>
    exact (decodes_u8 80).cons <| decodes_texts <| decodes_texts <| (decodes_u32 _).cons <|
      (decodes_u32 _).cons <| (decodes_bytes _).cons <| decodes_nil _
  | targetOutput p =>
    exact (decodes_u8 7).cons <| decodes_texts <| (decodes_u64 _).cons <|
      (decodes_staticString (hStatic _ (.head _))).cons <| (decodes_bytes _).cons <|
      decodes_nil _
  | rawPtyOutput p =>
    exact (decodes_u8 19).cons <| (decodes_rawPtyOutputPayload _).cons <| decodes_nil _
  | applyResize p =>
    exact (decodes_u8 8).cons <| decodes_texts <| (decodes_u64 _).cons <|
      (decodes_string _).cons <| (decodes_usize _).cons <| (decodes_usize _).cons <|
      decodes_nil _
  | resizeApplied p =>
    exact (decodes_u8 20).cons <| decodes_texts <| (decodes_u64 _).cons <|
      (decodes_string _).cons <| (decodes_usize _).cons <| (decodes_usize _).cons <|
      decodes_nil _
  | targetGeometryChanged p =>
    exact (decodes_u8 21).cons <| decodes_texts <| (decodes_usize _).cons <|
      (decodes_usize _).cons <| decodes_nil _
  | createSessionRequest p =>
    exact (decodes_u8 70).cons <| decodes_texts <| (decodes_optionalString _).cons <|
      (decodes_usize _).cons <| (decodes_usize _).cons <| decodes_nil _
  | createSessionAccepted p =>
    exact (decodes_u8 71).cons <| decodes_texts <| (decodes_string _).cons <| decodes_nil _
  | createSessionRejected p =>
    exact (decodes_u8 72).cons <| (decodes_string _).cons <|
      (decodes_staticString (hStatic _ (.head _))).cons <| (decodes_string _).cons <|
      decodes_nil _
  | targetPublished p =>
    have hRole : ∀ role ∈ p.sessionRole, role ∈ knownStaticStrings :=
      fun role hRole => hStatic role (.tail _ (Option.mem_toList.mpr hRole))
    exact (decodes_u8 9).cons <| decodes_texts <| (decodes_u64 _).cons <|
      (decodes_optionalString _).cons <| (decodes_optionalString _).cons <|
      (decodes_staticString (hStatic _ (.head _))).cons <|
      (decodes_optionalStaticString hRole).cons <| (decodes_optionalString _).cons <|
      (decodes_optionalString _).cons <| (decodes_optionalString _).cons <|
      (decodes_optionalString _).cons <| (decodes_usize _).cons <| (decodes_usize _).cons <|
      (decodes_taskState (hTask _ (.head _))).cons <| decodes_nil _
  | targetExited p =>
    exact (decodes_u8 10).cons <| decodes_texts <| (decodes_u64 _).cons <|
      (decodes_optionalString _).cons <| decodes_nil _
  | targetPublicationAck p =>
    exact (decodes_u8 73).cons <| decodes_texts <| (decodes_string _).cons <|
      (decodes_u64 _).cons <| (decodes_ackStatus _).cons <| (decodes_optionalString _).cons <|
      decodes_nil _
  | error p =>
    exact (decodes_u8 11).cons <| (decodes_staticString (hStatic _ (.head _))).cons <|
      (decodes_string _).cons <| (decodes_optionalString _).cons <| decodes_nil _

/-! ## What the readers accept -/

theorem returns_known : Returns readKnownStaticString (· ∈ knownStaticStrings) := by
  apply returns_skip
  intro value
  split
  case isTrue hKnown => exact returns_pure hKnown
  case isFalse => exact returns_throw _

theorem returns_optionalKnown :
    Returns readOptionalStaticString fun role => ∀ v ∈ role, v ∈ knownStaticStrings := by
  apply returns_skip
  intro tag
  split
  · exact returns_pure fun v hv => by cases hv
  · refine returns_known.bind fun value hValue => returns_pure fun v hv => ?_
    cases hv
    exact hValue
  · exact returns_throw _

theorem returns_taskState :
    Returns readTaskState fun value => (ManagedSessionTaskState.parse value).isSome := by
  apply returns_skip
  intro value
  split
  · apply returns_pure
    rw [ManagedSessionTaskState.parse_asStr]
    rfl
  · exact returns_throw _

theorem known_of_none {payload : ControlPlanePayload} (hStatic : payload.staticStrings = [])
    (hTask : payload.taskStates = []) : payload.Known := by
  rw [ControlPlanePayload.Known, hStatic, hTask]
  exact ⟨fun _ h => (by cases h), fun _ h => (by cases h)⟩

theorem known_of_one {payload : ControlPlanePayload} {value : String}
    (h : value ∈ knownStaticStrings) (hStatic : payload.staticStrings = [value])
    (hTask : payload.taskStates = []) : payload.Known := by
  rw [ControlPlanePayload.Known, hStatic, hTask]
  exact ⟨fun _ hValue => (List.mem_singleton.mp hValue) ▸ h, fun _ h => (by cases h)⟩

/-- Nothing unknown is read: a text that was taken from the table is known, and
the other kinds have none. -/
theorem returns_payload : Returns readPayload ControlPlanePayload.Known := by
  apply returns_skip
  intro tag
  unfold readPayloadBody
  split
  case h_2 => -- server_hello
    exact returns_skip fun _ => returns_skip fun _ => returns_skip fun _ => returns_skip fun _ =>
      returns_known.bind fun _ h => returns_pure (known_of_one h rfl rfl)
  case h_4 => -- open_mirror_accepted
    exact returns_skip fun _ => returns_skip fun _ => returns_known.bind fun _ h =>
      returns_pure (known_of_one h rfl rfl)
  case h_5 => -- open_mirror_rejected
    exact returns_skip fun _ => returns_skip fun _ => returns_known.bind fun _ h =>
      returns_skip fun _ => returns_pure (known_of_one h rfl rfl)
  case h_7 => -- mirror_bootstrap_chunk
    exact returns_skip fun _ => returns_skip fun _ => returns_skip fun _ =>
      returns_known.bind fun _ h => returns_skip fun _ => returns_pure (known_of_one h rfl rfl)
  case h_9 => -- open_target_ok
    exact returns_skip fun _ => returns_skip fun _ => returns_skip fun _ => returns_skip fun _ =>
      returns_skip fun _ => returns_skip fun _ => returns_skip fun _ =>
      returns_known.bind fun _ h => returns_skip fun _ => returns_pure (known_of_one h rfl rfl)
  case h_10 => -- open_target_rejected
    exact returns_skip fun _ => returns_skip fun _ => returns_skip fun _ =>
      returns_known.bind fun _ h => returns_skip fun _ => returns_pure (known_of_one h rfl rfl)
  case h_14 => -- target_output
    exact returns_skip fun _ => returns_skip fun _ => returns_skip fun _ =>
      returns_known.bind fun _ h => returns_skip fun _ => returns_pure (known_of_one h rfl rfl)
  case h_21 => -- create_session_rejected
    exact returns_skip fun _ => returns_known.bind fun _ h => returns_skip fun _ =>
      returns_pure (known_of_one h rfl rfl)
  case h_22 => -- target_published
    refine returns_skip fun _ => returns_skip fun _ => returns_skip fun _ => returns_skip fun _ =>
      returns_skip fun _ => returns_known.bind fun availability hAvailability =>
      returns_optionalKnown.bind fun role hRole => returns_skip fun _ => returns_skip fun _ =>
      returns_skip fun _ => returns_skip fun _ => returns_skip fun _ => returns_skip fun _ =>
      returns_taskState.bind fun state hState => returns_pure ⟨?_, ?_⟩
    · intro value hValue
      cases hValue with
      | head => exact hAvailability
      | tail _ hTail => exact hRole value (Option.mem_toList.mp hTail)
    · intro value hValue
      rw [List.mem_singleton.mp hValue]
      exact hState
  case h_25 => -- error
    exact returns_known.bind fun _ h => returns_skip fun _ => returns_skip fun _ =>
      returns_pure (known_of_one h rfl rfl)
  case h_26 => exact returns_throw _
  all_goals
    repeat refine returns_skip fun _ => ?_
    exact returns_pure (known_of_none rfl rfl)

/-! ## Envelopes -/

/-- The envelopes the reader can return: the type is that of the payload, and the
payload is known. -/
def ProtocolEnvelope.Readable (envelope : ProtocolEnvelope ControlPlanePayload) : Prop :=
  envelope.messageType = envelope.payload.messageType ∧ envelope.payload.Known

instance (envelope : ProtocolEnvelope ControlPlanePayload) : Decidable envelope.Readable :=
  inferInstanceAs (Decidable (_ ∧ _))

theorem decodes_envelope {envelope : ProtocolEnvelope ControlPlanePayload}
    (h : envelope.Readable) :
    Decodes (writeControlPlaneEnvelope envelope) readControlPlaneEnvelope envelope := by
  obtain ⟨hType, hKnown⟩ := h
  cases envelope with
  | mk version id type timestamp sender correlation session target attachment console payload =>
    dsimp only at hType hKnown
    -- the type is made from the payload
    subst hType
    exact decodes_texts <| decodes_texts <| (decodes_optionalString _).cons <|
      (decodes_optionalString _).cons <| (decodes_optionalString _).cons <|
      (decodes_optionalString _).cons <| (decodes_optionalString _).cons <|
      (decodes_payload hKnown).cons <| decodes_nil _

theorem returns_envelope : Returns readControlPlaneEnvelope ProtocolEnvelope.Readable :=
  returns_skip fun _ => returns_skip fun _ => returns_skip fun _ => returns_skip fun _ =>
    returns_skip fun _ => returns_skip fun _ => returns_skip fun _ => returns_skip fun _ =>
    returns_skip fun _ => returns_payload.bind fun _ hKnown => returns_pure ⟨rfl, hKnown⟩

/-! ## The envelopes the program builds -/

/-- What was written of an envelope is read back as the same envelope, and no more
of the stream with it, exactly if the envelope is one that can be read. -/
theorem control_plane_read_back_iff (envelope : ProtocolEnvelope ControlPlanePayload)
    (bytes : List UInt8) (hWritten : writeControlPlaneEnvelope envelope = .ok bytes) :
    Encodes readControlPlaneEnvelope bytes envelope ↔
      envelope.messageType = envelope.payload.messageType ∧ envelope.payload.Known := by
  constructor
  · intro hEncodes
    exact hEncodes.returns returns_envelope
  · intro hReadable
    exact decodes_envelope hReadable bytes hWritten

/-- The bytes of a writer that is not refused, for the evaluations below. -/
theorem exists_written {w : Written} {P : List UInt8 → Prop}
    (h : w = .ok (w.toOption.getD []) ∧ P (w.toOption.getD [])) :
    ∃ bytes, w = .ok bytes ∧ P bytes :=
  ⟨_, h⟩

/-- The publication of a target that is online, with its role and its task state. -/
def onlinePublication : ProtocolEnvelope ControlPlanePayload :=
  sessionEnvelope "node" "publication-msg" "0Z" 1 none (some "s") (some "t")
    (.targetPublished (targetPublishedPayload
      { address := ⟨.remotePeer, "node", "s"⟩, availability := .online,
        sessionRole := some .targetHost, taskState := .confirm } none))

theorem control_plane_read_back_online :
    ∃ bytes, writeControlPlaneEnvelope onlinePublication = .ok bytes ∧
      Encodes readControlPlaneEnvelope bytes onlinePublication := by
  have hWritten : ∃ bytes, writeControlPlaneEnvelope onlinePublication = .ok bytes ∧ bytes ≠ [] :=
    exists_written (by decide +kernel)
  obtain ⟨bytes, hBytes, -⟩ := hWritten
  exact ⟨bytes, hBytes, (control_plane_read_back_iff _ bytes hBytes).mpr (by decide +kernel)⟩

/-- Two envelopes the program builds are written and cannot be read: the
publication of a target whose availability is unknown, and the answer to a
command that is not routed. -/
theorem unknown_static_text_unreadable :
    (∃ bytes, writeControlPlaneEnvelope (sessionEnvelope "node" "publication-msg" "0Z" 1 none
          (some "s") (some "t") (.targetPublished (targetPublishedPayload
            { address := ⟨.remotePeer, "node", "s"⟩, availability := .unknown } none))) =
        .ok bytes ∧
      readControlPlaneEnvelope.run [bytes] =
        .error (.new "unknown static transport string `unknown`")) ∧
    ∃ bytes, writeControlPlaneEnvelope (authorityCommandEnvelope 5 5 .heartbeatPing) =
        .ok bytes ∧
      readControlPlaneEnvelope.run [bytes] =
        .error (.new "unknown static transport string `local_sync_request_not_routable`") :=
  ⟨exists_written (by decide +kernel), exists_written (by decide +kernel)⟩

end WaitAgent.Transport
