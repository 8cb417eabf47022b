import WaitAgent.Transport.RoundTrip

/-!
# Frames on one stream

A frame begins with four magic bytes; an envelope of before there were frames
begins with the length of its protocol version.  The reader tells them apart by
these four bytes alone, so an envelope is taken for a frame exactly if its version
is as long as the magic bytes say when they are read as a length.  Everything else
follows from the round trips: frames, or envelopes, come one after another as they
were written, in whatever pieces the stream delivers them.
-/

namespace WaitAgent.Transport

open Verified Domain

/-! ## One frame -/

/-- The frames the reader can return. -/
def AuthorityTransportFrame.Readable : AuthorityTransportFrame → Prop
  | .controlPlane envelope => envelope.Readable
  | _ => True

theorem decodes_magic : Decodes (.ok authorityFrameMagic) (readExactly 4) authorityFrameMagic := by
  intro bytes hBytes
  cases hBytes
  exact encodes_readExact RemoteTransportCodecError.endOfStream authorityFrameMagic

theorem decodes_frame {frame : AuthorityTransportFrame} (h : frame.Readable) :
    Decodes (writeAuthorityTransportFrame frame) readAuthorityTransportFrame frame := by
  apply decodes_magic.cons
  rw [if_neg (fun hNe => hNe rfl)]
  apply Decodes.single
  cases frame with
  | controlPlane envelope =>
    exact (decodes_u8 1).cons <| (decodes_envelope h).cons <| decodes_nil _
  | rawPtyInput payload =>
    exact (decodes_u8 2).cons <| (decodes_rawPtyInputPayload payload).cons <| decodes_nil _
  | rawPtyOutput payload =>
    exact (decodes_u8 3).cons <| (decodes_rawPtyOutputPayload payload).cons <| decodes_nil _
  | ping => exact (decodes_u8 4).cons <| decodes_nil _
  | pong => exact (decodes_u8 5).cons <| decodes_nil _
  | syncRequest expectedSeq receivedSeq =>
    exact (decodes_u8 6).cons <| (decodes_u64 _).cons <| (decodes_u64 _).cons <| decodes_nil _
  | syncResponse sessionId targetId seq bytes =>
    exact (decodes_u8 7).cons <| (decodes_string _).cons <| (decodes_string _).cons <|
      (decodes_u64 _).cons <| (decodes_bytes _).cons <| decodes_nil _
  | inputCongestion congested =>
    cases congested <;>
    exact (decodes_u8 8).cons <| (decodes_u8 _).cons <| decodes_nil _

theorem returns_frame : Returns readAuthorityTransportFrame AuthorityTransportFrame.Readable := by
  apply returns_skip
  intro start
  split
  · -- an old envelope, with the four bytes chained in front
    refine returns_skip fun _ => returns_envelope.bind fun envelope hEnvelope => ?_
    exact returns_pure hEnvelope
  · refine returns_skip fun tag => ?_
    unfold readFrameBody
    split
    case h_1 => exact returns_envelope.bind fun envelope hEnvelope => returns_pure hEnvelope
    case h_9 => exact returns_throw _
    all_goals
      repeat refine returns_skip fun _ => ?_
      exact returns_pure trivial

/-! ## An envelope without a frame -/

variable {envelope : ProtocolEnvelope ControlPlanePayload} {frames : List AuthorityTransportFrame}
  {bytes : List UInt8}

/-- An envelope that does not begin with the magic bytes is read as one. -/
theorem encodes_legacy (h : Encodes readControlPlaneEnvelope bytes envelope)
    (hLength : 4 ≤ bytes.length) (hMagic : ¬authorityFrameMagic <+: bytes) :
    Encodes readAuthorityTransportFrame bytes (.controlPlane envelope) := by
  intro pieces rest hFlatten
  have hStart : (bytes.take 4).length = 4 := List.length_take_of_le hLength
  have hNe : bytes.take 4 ≠ authorityFrameMagic := by
    intro hTake
    exact hMagic (hTake ▸ List.take_prefix 4 bytes)
  rw [← List.take_append_drop 4 bytes, List.append_assoc] at hFlatten
  have hRead := encodes_readExact RemoteTransportCodecError.endOfStream (bytes.take 4)
  rw [hStart] at hRead
  obtain ⟨others, hRun, hOthers⟩ := hRead pieces _ hFlatten
  -- the chain of the four bytes and the rest is the stream again
  have hChain : (bytes.take 4 :: others).flatten = bytes ++ rest := by
    rw [List.flatten_cons, hOthers, ← List.append_assoc, List.take_append_drop]
  obtain ⟨pieces', hEnvelope, hRest⟩ := h _ rest hChain
  refine ⟨pieces', ?_, hRest⟩
  have hModify : StateT.run (modify (bytes.take 4 :: ·) : Reader Unit) others =
      .ok ((), bytes.take 4 :: others) := rfl
  unfold readAuthorityTransportFrame readExactly
  rw [run_bind_of_ok hRun, if_pos hNe, run_bind_of_ok hModify, run_bind_of_ok hEnvelope]
  rfl

/-- The length that reads like the magic bytes. -/
def magicLength : Nat := 1347576183

theorem magic_eq : authorityFrameMagic = leBytes 4 magicLength := by
  decide

/-- What is written of an envelope begins with the length of its version. -/
theorem legacy_start (h : writeControlPlaneEnvelope envelope = .ok bytes) :
    (utf8Bytes envelope.protocolVersion.toList).length < 4294967296 ∧
      leBytes 4 (utf8Bytes envelope.protocolVersion.toList).length <+: bytes := by
  obtain ⟨first, rest, hFirst, -, rfl⟩ := writeAll_cons h
  unfold writeString writeBytes at hFirst
  split at hFirst
  case isFalse => cases hFirst
  case isTrue hShort =>
    obtain ⟨length, text, hLength, -, rfl⟩ := writeAll_cons hFirst
    cases hLength
    rw [UInt32.toNat_ofNat_of_lt' hShort, List.append_assoc]
    exact ⟨hShort, List.prefix_append _ _⟩

theorem magic_prefix_iff (h : writeControlPlaneEnvelope envelope = .ok bytes) :
    authorityFrameMagic <+: bytes ↔
      (utf8Bytes envelope.protocolVersion.toList).length = magicLength := by
  obtain ⟨hShort, hStart⟩ := legacy_start h
  rw [magic_eq]
  constructor
  · intro hMagic
    have hSame : leBytes 4 magicLength =
        leBytes 4 (utf8Bytes envelope.protocolVersion.toList).length :=
      (List.prefix_of_prefix_length_le hMagic hStart (by simp)).eq_of_length (by simp)
    have hValue := congrArg leValue hSame
    rw [leValue_leBytes 4 _ (by decide), leValue_leBytes 4 _ hShort] at hValue
    exact hValue.symm
  · intro hLength
    rw [← hLength]
    exact hStart

/-! ## Streams -/

/-- However the bytes are delivered, the frames are read one after another, and then
the end of the stream is reported. -/
def ReadsBack (bytes : List UInt8) (frames : List AuthorityTransportFrame) : Prop :=
  ∀ pieces : Pieces, pieces.flatten = bytes →
    ∃ pieces', (readMany readAuthorityTransportFrame frames.length).run pieces =
        .ok (frames, pieces') ∧
      readAuthorityTransportFrame.run pieces' = .error .endOfStream

theorem readAuthorityTransportFrame_end {pieces : Pieces} (h : pieces.flatten = []) :
    readAuthorityTransportFrame.run pieces = .error .endOfStream := by
  have hTake : takeExact 4 pieces = none := takeExact_eq_none (by rw [h]; decide)
  have hRun : (readExact RemoteTransportCodecError.endOfStream 4).run pieces =
      .error .endOfStream := by
    change readExact RemoteTransportCodecError.endOfStream 4 pieces = _
    rw [readExact, hTake]
  unfold readAuthorityTransportFrame readExactly
  rw [StateT.run_bind, hRun]
  rfl

theorem readsBack_of_encodes {encodings : List (List UInt8)}
    (h : List.Forall₂ (Encodes readAuthorityTransportFrame) encodings frames) :
    ReadsBack encodings.flatten frames := by
  intro pieces hFlatten
  rw [← List.append_nil encodings.flatten] at hFlatten
  obtain ⟨pieces', hRun, hRest⟩ := encodes_readMany h pieces [] hFlatten
  exact ⟨pieces', hRun, readAuthorityTransportFrame_end hRest⟩

theorem ReadsBack.readable (h : ReadsBack bytes frames) : ∀ frame ∈ frames, frame.Readable := by
  obtain ⟨pieces', hRun, -⟩ := h [bytes] (by simp)
  exact returns_readMany returns_frame _ _ _ hRun

theorem encodes_frames {encodings : List (List UInt8)}
    (h : List.Forall₂ (fun bytes frame => writeAuthorityTransportFrame frame = .ok bytes)
      encodings frames) (hReadable : ∀ frame ∈ frames, frame.Readable) :
    List.Forall₂ (Encodes readAuthorityTransportFrame) encodings frames := by
  induction h with
  | nil => exact .nil
  | cons hFirst _ ih =>
    rw [List.forall_mem_cons] at hReadable
    exact .cons (decodes_frame hReadable.1 _ hFirst) (ih hReadable.2)

theorem legacy_magic_iff {legacy : List (List UInt8)}
    {envelopes : List (ProtocolEnvelope ControlPlanePayload)}
    (h : List.Forall₂ (fun bytes envelope => writeControlPlaneEnvelope envelope = .ok bytes)
      legacy envelopes) :
    (∀ bytes ∈ legacy, ¬authorityFrameMagic <+: bytes) ↔
      ∀ envelope ∈ envelopes,
        (utf8Bytes envelope.protocolVersion.toList).length ≠ magicLength := by
  induction h with
  | nil => simp
  | cons hFirst _ ih =>
    rw [List.forall_mem_cons, List.forall_mem_cons, ih, not_congr (magic_prefix_iff hFirst)]

theorem encodes_legacies {legacy : List (List UInt8)}
    {envelopes : List (ProtocolEnvelope ControlPlanePayload)}
    (h : List.Forall₂ (fun bytes envelope => writeControlPlaneEnvelope envelope = .ok bytes)
      legacy envelopes)
    (hAll : ∀ envelope ∈ envelopes, envelope.Readable ∧
      (utf8Bytes envelope.protocolVersion.toList).length ≠ magicLength) :
    List.Forall₂ (Encodes readAuthorityTransportFrame) legacy (envelopes.map .controlPlane) := by
  induction h with
  | nil => exact .nil
  | cons hFirst _ ih =>
    rw [List.forall_mem_cons] at hAll
    refine .cons ?_ (ih hAll.2)
    have hLength := (legacy_start hFirst).2.length_le
    rw [length_leBytes] at hLength
    exact encodes_legacy (decodes_envelope hAll.1.1 _ hFirst) hLength
      (mt (magic_prefix_iff hFirst).mp hAll.1.2)

/-- Frames that were written one after another are read back exactly if each of them
can be read; envelopes written without a frame are read back, and none of them is
taken for a frame, exactly if each can be read and no version has the length that
reads like the magic bytes. -/
theorem frames_read_back_iff (frames : List AuthorityTransportFrame)
    (encodings : List (List UInt8))
    (hFrames : List.Forall₂ (fun bytes frame => writeAuthorityTransportFrame frame = .ok bytes)
      encodings frames)
    (envelopes : List (ProtocolEnvelope ControlPlanePayload)) (legacy : List (List UInt8))
    (hLegacy : List.Forall₂ (fun bytes envelope => writeControlPlaneEnvelope envelope = .ok bytes)
      legacy envelopes) :
    (ReadsBack encodings.flatten frames ↔ ∀ frame ∈ frames, frame.Readable) ∧
    ((ReadsBack legacy.flatten (envelopes.map .controlPlane) ∧
        ∀ bytes ∈ legacy, ¬authorityFrameMagic <+: bytes) ↔
      ∀ envelope ∈ envelopes, envelope.Readable ∧
        (utf8Bytes envelope.protocolVersion.toList).length ≠ magicLength) := by
  constructor
  · constructor
    · intro hBack
      exact hBack.readable
    · intro hReadable
      exact readsBack_of_encodes (encodes_frames hFrames hReadable)
  · rw [legacy_magic_iff hLegacy]
    constructor
    · rintro ⟨hBack, hLength⟩ envelope hEnvelope
      have hReadable := hBack.readable (.controlPlane envelope) (List.mem_map_of_mem hEnvelope)
      exact ⟨hReadable, hLength envelope hEnvelope⟩
    · intro hAll
      exact ⟨readsBack_of_encodes (encodes_legacies hLegacy hAll), fun e he => (hAll e he).2⟩

theorem frames_read_back_mixed :
    ∃ encodings legacy, ReadsBack (List.flatten encodings)
        [.ping, .controlPlane (authorityCommandEnvelope 5 5 (.closeMirror ⟨"s", "t"⟩))] ∧
      ReadsBack (List.flatten legacy)
        [.controlPlane (authorityCommandEnvelope 5 5 (.closeMirror ⟨"s", "t"⟩))] := by
  have hFrame : ∃ bytes, writeAuthorityTransportFrame
      (.controlPlane (authorityCommandEnvelope 5 5 (.closeMirror ⟨"s", "t"⟩))) = .ok bytes ∧
        bytes ≠ [] := exists_written (by decide +kernel)
  have hEnvelope : ∃ bytes, writeControlPlaneEnvelope
      (authorityCommandEnvelope 5 5 (.closeMirror ⟨"s", "t"⟩)) = .ok bytes ∧ bytes ≠ [] :=
    exists_written (by decide +kernel)
  obtain ⟨bytes, hBytes, -⟩ := hFrame
  obtain ⟨old, hOld, -⟩ := hEnvelope
  have hRead : (authorityCommandEnvelope 5 5 (.closeMirror ⟨"s", "t"⟩)).Readable := by
    decide +kernel
  have hLength : (utf8Bytes (authorityCommandEnvelope 5 5
      (.closeMirror ⟨"s", "t"⟩)).protocolVersion.toList).length ≠ magicLength := by
    decide +kernel
  have hPing : writeAuthorityTransportFrame .ping = .ok [0x77, 0x61, 0x52, 0x50, 4] := rfl
  have hBack := frames_read_back_iff _ _ (.cons hPing (.cons hBytes .nil)) _ _ (.cons hOld .nil)
  refine ⟨_, _, hBack.1.mpr ?_, (hBack.2.mpr ?_).1⟩
  · intro frame hFrame
    rw [List.mem_pair] at hFrame
    obtain rfl | rfl := hFrame
    · trivial
    · exact hRead
  · intro envelope hMem
    rw [List.mem_singleton.mp hMem]
    exact ⟨hRead, hLength⟩

/-! ## Where it fails -/

/-- An envelope with a version of `n` letters. -/
def longVersionEnvelope (n : Nat) : ProtocolEnvelope ControlPlanePayload :=
  { authorityCommandEnvelope 5 5 (.closeMirror ⟨"s", "t"⟩) with
    protocolVersion := String.ofList (List.replicate n 'a') }

theorem utf8Bytes_replicate (n : Nat) : utf8Bytes (List.replicate n 'a') = List.replicate n 97 := by
  induction n with
  | zero => rfl
  | succ n ih =>
    rw [List.replicate_succ, utf8Bytes, List.flatMap_cons, ← utf8Bytes, ih, List.replicate_succ]
    rfl

theorem writeAll_ok_cons {first rest : List UInt8} {parts : List Written}
    (h : writeAll parts = .ok rest) : writeAll (.ok first :: parts) = .ok (first ++ rest) := by
  rw [writeAll, h]
  rfl

theorem longVersionEnvelope_written {n : Nat} (h : n < 4294967296) :
    ∃ rest, writeControlPlaneEnvelope (longVersionEnvelope n) =
      .ok (leBytes 4 n ++ List.replicate n 97 ++ rest) := by
  have hVersion : writeString (longVersionEnvelope n).protocolVersion =
      .ok (leBytes 4 n ++ List.replicate n 97) := by
    unfold longVersionEnvelope writeString writeBytes
    rw [String.toList_ofList, utf8Bytes_replicate, List.length_replicate, if_pos h, writeU32,
      UInt32.toNat_ofNat_of_lt' h, writeAll_ok_cons (writeAll_ok_cons rfl), List.append_nil]
  -- the other fields are those of the short envelope
  have hShort : ∃ bytes, writeControlPlaneEnvelope
      (authorityCommandEnvelope 5 5 (.closeMirror ⟨"s", "t"⟩)) = .ok bytes ∧ bytes ≠ [] :=
    exists_written (by decide +kernel)
  obtain ⟨bytes, hBytes, -⟩ := hShort
  obtain ⟨-, rest, -, hRest, -⟩ := writeAll_cons hBytes
  refine ⟨rest, ?_⟩
  unfold writeControlPlaneEnvelope
  rw [hVersion]
  exact writeAll_ok_cons hRest

theorem readAuthorityTransportFrame_letter (rest : List UInt8) :
    readAuthorityTransportFrame.run [authorityFrameMagic ++ 97 :: rest] =
      .error (.new "unknown authority transport frame tag `97`") := by
  obtain ⟨afterMagic, hMagic, hTag⟩ := decodes_magic _ rfl [authorityFrameMagic ++ 97 :: rest]
    (97 :: rest) (by simp)
  obtain ⟨afterTag, hRun, -⟩ := decodes_u8 97 _ rfl afterMagic rest hTag
  unfold readAuthorityTransportFrame
  rw [run_bind_of_ok hMagic, if_neg (fun hNe => hNe rfl), run_bind_of_ok hRun]
  rfl

/-- A frame around an envelope with an unknown text is written and not read; and an
envelope without a frame whose version has as many letters as the magic bytes say
is taken for a frame, of a kind there is not. -/
theorem frames_misread :
    (∃ bytes, writeAuthorityTransportFrame
          (.controlPlane (authorityCommandEnvelope 5 5 .heartbeatPing)) = .ok bytes ∧
      readAuthorityTransportFrame.run [bytes] =
        .error (.new "unknown static transport string `local_sync_request_not_routable`")) ∧
    ∃ bytes, writeControlPlaneEnvelope (longVersionEnvelope magicLength) = .ok bytes ∧
      authorityFrameMagic <+: bytes ∧
      readAuthorityTransportFrame.run [bytes] =
        .error (.new "unknown authority transport frame tag `97`") := by
  refine ⟨exists_written (by decide +kernel), ?_⟩
  obtain ⟨rest, hWritten⟩ := longVersionEnvelope_written (show magicLength < 4294967296 by decide)
  have hLetters : List.replicate magicLength (97 : UInt8) =
      97 :: List.replicate (magicLength - 1) 97 := List.replicate_succ
  rw [← magic_eq, hLetters, List.append_assoc] at hWritten
  exact ⟨_, hWritten, List.prefix_append _ _, readAuthorityTransportFrame_letter _⟩

end WaitAgent.Transport
