import CardFirmware.Proofs.Control.Messages
import CardFirmware.Proofs.Service.Answers
import CardFirmware.Tool.Session

/-! The client's end of a call: the message that a section is sent in, and how an answer is read.
Of all that has arrived the frames of one answer are taken and nothing else, and what the call
returns is the result of the answer (`await_frames`). -/

namespace CardFirmware

namespace FirmwareSection

def payload (s : FirmwareSection) : FirmwarePayload :=
  ⟨s.vid, s.pid, s.sha256, s.md5OrZero, s.data⟩

def upload (s : FirmwareSection) : ClientMessage :=
  .update (if s.kind = .esp then .espUpdate else .appUpdate) s.payload

variable {s : FirmwareSection}

theorem uploadMessage_eq (h : s.kind ≠ .container) : s.uploadMessage = .ok s.upload.encode := by
  unfold uploadMessage upload
  cases hkind : s.kind with
  | container => exact absurd hkind h
  | app | esp | leapfrog => rfl

theorem fits_upload (h : s.data.length ≤ 16 * 1024 * 1024) : s.upload.Fits := h

end FirmwareSection

def Answer.outcome (a : Answer) : Except SessionError Unit :=
  match a.result with
  | .ok _ => .ok ()
  | .error e => .error (.server e.code)

namespace Response

def frame (type : UInt8) (payload : Bytes) : Bytes :=
  Header.encode ⟨responseMagic, type, UInt32.ofNat payload.length⟩ ++ payload

example : frame progressType [42] = [0x73, 0x82, 1, 0, 0, 0, 42] := rfl

def progressFrames (percents : List UInt8) : Bytes :=
  percents.flatMap fun percent => frame progressType [percent]

theorem progressFrames_cons (percent : UInt8) (percents : List UInt8) :
    progressFrames (percent :: percents) =
      frame progressType [percent] ++ progressFrames percents :=
  List.flatMap_cons

theorem flatMap_encodeProgress (reports : List Nat) :
    reports.flatMap encodeProgress =
      progressFrames (reports.map fun percent => UInt8.ofNat (min percent 100)) := by
  rw [progressFrames, List.flatMap_map]
  rfl

theorem length_frame (type : UInt8) (payload : Bytes) :
    (frame type payload).length = headerLength + payload.length := by
  rw [frame, List.length_append, Header.length_encode]

theorem length_progressFrames (percents : List UInt8) :
    (progressFrames percents).length = 7 * percents.length := by
  induction percents with
  | nil => rfl
  | cons percent percents ih =>
    rw [progressFrames_cons, List.length_append, length_frame, ih, List.length_singleton,
      List.length_cons, headerLength]
    omega

theorem decode_error (code : ErrorCode) :
    decode ⟨responseMagic, errorType, UInt32.ofNat 2⟩ (Bytes.le16 (UInt16.ofNat code.number)) =
      .ok (.error code) := by
  cases code <;> rfl

end Response

open Response (frame progressFrames)

theorem Answer.flatten_frames (a : Answer) :
    a.frames.flatten =
      progressFrames (a.reports.map fun percent => UInt8.ofNat (min percent 100)) ++
        a.lastFrame := by
  rw [frames, List.flatten_append, List.flatten_singleton, ← Response.flatMap_encodeProgress]
  rfl

namespace ReplyStream

variable {s s' : ReplyStream} {rest last payload : Bytes} {h : Header} {type : UInt8}

theorem takeExactly_append {b : Bytes} (hs : s.incoming = b ++ rest) :
    s.takeExactly b.length = (.ok b, { s with incoming := rest }) := by
  have henough : (b ++ rest).hasAtLeast b.length = true := by
    rw [Bytes.hasAtLeast_iff, List.length_append]
    exact Nat.le_add_right _ _
  unfold takeExactly
  rw [hs, if_pos henough, List.take_left, List.drop_left]

theorem checkHeader_encode (h : Header) :
    checkHeader h.encode =
      if h.magic ≠ responseMagic then .error (.wire (.magic h.magic))
      else if h.payloadLength > maxResponseLength then
        .error (.wire (.payloadTooLarge h.payloadLength maxResponseLength))
      else .ok h := by
  have hread := Header.read_encode h []
  rw [List.append_nil] at hread
  simp only [checkHeader, Header.decode, hread]

theorem readResponse_refused {e : SessionError} (he : checkHeader h.encode = .error e)
    (hs : s.incoming = h.encode ++ rest) :
    s.readResponse = (.error e, { s with incoming := rest }) := by
  have hheader := takeExactly_append hs
  rw [Header.length_encode] at hheader
  simp only [readResponse, hheader, he]

theorem readResponse_accepted {taken : Except SessionError Bytes}
    (hh : checkHeader h.encode = .ok h) (hs : s.incoming = h.encode ++ rest)
    (htaken : ({ s with incoming := rest } : ReplyStream).takeExactly h.payloadLength.toNat =
      (taken, s')) :
    s.readResponse =
      (taken.bind fun payload => (Response.decode h payload).mapError .wire, s') := by
  have hheader := takeExactly_append hs
  rw [Header.length_encode] at hheader
  cases taken with
  | error e => simp only [readResponse, hheader, hh, htaken, Except.bind]
  | ok payload => simp only [readResponse, hheader, hh, htaken, Except.bind]

theorem readResponse_frame {decoded : Except WireError Response} (hlength : payload.length ≤ 2)
    (hs : s.incoming = frame type payload ++ rest)
    (hdecode : Response.decode ⟨responseMagic, type, UInt32.ofNat payload.length⟩ payload =
      decoded) :
    s.readResponse = (decoded.mapError .wire, { s with incoming := rest }) := by
  have hsize : (UInt32.ofNat payload.length).toNat = payload.length :=
    UInt32.toNat_ofNat_of_lt' (Nat.lt_of_le_of_lt hlength (by decide))
  have hsmall : ¬UInt32.ofNat payload.length > maxResponseLength := by
    rw [gt_iff_lt, UInt32.lt_iff_toNat_lt, hsize]
    exact Nat.not_lt.mpr hlength
  have hheader := checkHeader_encode ⟨responseMagic, type, UInt32.ofNat payload.length⟩
  simp only [ne_eq, not_true_eq_false, if_false, if_neg hsmall] at hheader
  have hbody : ({ s with incoming := payload ++ rest } : ReplyStream).takeExactly
      (UInt32.ofNat payload.length).toNat = (.ok payload, { s with incoming := rest }) := by
    rw [hsize]
    exact takeExactly_append rfl
  rw [frame, List.append_assoc] at hs
  rw [← hdecode]
  exact readResponse_accepted hheader hs hbody

def concluded : Except SessionError Response → Option (Except SessionError Unit)
  | .error e => some (.error e)
  | .ok .success => some (.ok ())
  | .ok (.error code) => some (.error (.server code))
  | .ok (.unknownError number) => some (.error (.unknownErrorCode number))
  | .ok (.progress _) => none

theorem go_concluded (quiet : Bool) (fuel : Nat) {response : Except SessionError Response}
    {outcome : Except SessionError Unit} (hs : s.readResponse = (response, s'))
    (houtcome : concluded response = some outcome) :
    (await.go quiet (fuel + 1) s).1 = outcome ∧
      (await.go quiet (fuel + 1) s).2.2.incoming = s'.incoming := by
  rw [await.go, hs]
  cases response with
  | error e =>
    obtain rfl := Option.some.inj houtcome
    exact ⟨rfl, rfl⟩
  | ok r =>
    cases r with
    | progress percent => cases houtcome
    | error code =>
      obtain rfl := Option.some.inj houtcome
      exact ⟨rfl, rfl⟩
    | unknownError number =>
      obtain rfl := Option.some.inj houtcome
      exact ⟨rfl, rfl⟩
    | success =>
      obtain rfl := Option.some.inj houtcome
      cases hshowing : s'.showing with
      | true => simp [hshowing, endLine]
      | false => simp [hshowing]

theorem go_progressFrames (quiet : Bool) (fuel : Nat) (percents : List UInt8)
    (hs : s.incoming = progressFrames percents ++ last) :
    ∃ s' : ReplyStream, s'.incoming = last ∧ s'.ended = s.ended ∧
      (await.go quiet (percents.length + fuel) s).1 = (await.go quiet fuel s').1 ∧
      (await.go quiet (percents.length + fuel) s).2.2 = (await.go quiet fuel s').2.2 := by
  induction percents generalizing s with
  | nil =>
    rw [List.length_nil, Nat.zero_add]
    exact ⟨s, hs, rfl, rfl, rfl⟩
  | cons percent percents ih =>
    rw [Response.progressFrames_cons, List.append_assoc] at hs
    have hlength : [percent].length ≤ 2 := Nat.le_succ 1
    have hread : s.readResponse = (.ok (.progress percent),
        { s with incoming := progressFrames percents ++ last }) :=
      readResponse_frame hlength hs rfl
    obtain ⟨s', hlast, hended, hresult, hleft⟩ :=
      ih (s := { s with incoming := progressFrames percents ++ last, showing := true }) rfl
    refine ⟨s', hlast, hended, ?_, ?_⟩
    · rw [List.length_cons, Nat.add_right_comm, await.go, hread]
      exact hresult
    · rw [List.length_cons, Nat.add_right_comm, await.go, hread]
      exact hleft

/-- Every report has a byte at least, so that no stream has more of them than can be read. -/
theorem await_progressFrames (quiet : Bool) (percents : List UInt8)
    (hs : s.incoming = progressFrames percents ++ last) :
    ∃ (s' : ReplyStream) (fuel : Nat), s'.incoming = last ∧ s'.ended = s.ended ∧
      (s.await quiet).1 = (await.go quiet (fuel + 1) s').1 ∧
      (s.await quiet).2.2 = (await.go quiet (fuel + 1) s').2.2 := by
  have hlength := congrArg List.length hs
  rw [List.length_append, Response.length_progressFrames] at hlength
  obtain ⟨fuel, hfuel⟩ : ∃ fuel, s.incoming.length + 1 = percents.length + (fuel + 1) :=
    ⟨s.incoming.length - percents.length, by omega⟩
  obtain ⟨s', hlast, hended, hresult, hleft⟩ := go_progressFrames quiet (fuel + 1) percents hs
  rw [← hfuel] at hresult hleft
  exact ⟨s', fuel, hlast, hended, hresult, hleft⟩

theorem readResponse_lastFrame (a : Answer) (hs : s.incoming = a.lastFrame ++ rest) :
    ∃ response, s.readResponse = (response, { s with incoming := rest }) ∧
      concluded response = some a.outcome := by
  unfold Answer.lastFrame at hs
  unfold Answer.outcome
  cases hresult : a.result with
  | error e =>
    rw [hresult] at hs
    have hlength : (Bytes.le16 (UInt16.ofNat e.code.number)).length ≤ 2 := Nat.le_refl 2
    exact ⟨_, readResponse_frame hlength hs (Response.decode_error e.code), rfl⟩
  | ok type =>
    rw [hresult] at hs
    have hlength : ([] : Bytes).length ≤ 2 := Nat.zero_le 2
    exact ⟨_, readResponse_frame hlength hs rfl, rfl⟩

theorem await_frames (quiet : Bool) (a : Answer) (hs : s.incoming = a.frames.flatten ++ rest) :
    (s.await quiet).1 = a.outcome ∧ (s.await quiet).2.2.incoming = rest := by
  rw [a.flatten_frames, List.append_assoc] at hs
  obtain ⟨s', fuel, hlast, -, hresult, hleft⟩ := await_progressFrames quiet _ hs
  obtain ⟨response, hread, houtcome⟩ := readResponse_lastFrame a hlast
  rw [hresult, hleft]
  exact go_concluded quiet fuel hread houtcome

end ReplyStream

end CardFirmware
