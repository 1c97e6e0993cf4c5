import CardFirmware.Proofs.Control.Reading
import CardFirmware.Proofs.Tool.Session

/-! Whatever a service sends before it closes the connection, the client reads reports of progress
and then one thing that ends the reading. What can end it is written down (`Ends`), every stream
has exactly one such reading, and it is the one of the client. -/

namespace CardFirmware

namespace Response

def errorFrame (n : Int16) : Bytes := frame errorType (Bytes.le16 n.toUInt16)

theorem decode_errorFrame (n : Int16) :
    decode ⟨responseMagic, errorType, UInt32.ofNat 2⟩ (Bytes.le16 n.toUInt16) =
      .ok (ofNumber n.toInt) := by
  have hread := Bytes.readLe16_le16 n.toUInt16 []
  simp only [Bytes.le16, List.cons_append, List.nil_append, Bytes.readLe16, Option.some.injEq,
    Prod.mk.injEq, and_true] at hread
  have hdecode : decode ⟨responseMagic, errorType, UInt32.ofNat 2⟩ (Bytes.le16 n.toUInt16) =
      .ok (ofNumber (UInt16.ofNat ((UInt8.ofNat n.toUInt16.toNat).toNat +
        256 * (UInt8.ofNat (n.toUInt16.toNat / 256)).toNat)).toInt16.toInt) := rfl
  rw [hdecode, hread, Int16.toInt16_toUInt16]

variable {type : UInt8} {length : UInt32} {payload : Bytes}

theorem decode_type (htype : type ∉ [successType, errorType, progressType]) :
    decode ⟨responseMagic, type, length⟩ payload = .error (.messageType type) := by
  simp only [List.mem_cons, List.not_mem_nil, or_false, not_or] at htype
  obtain ⟨hsuccess, herror, hprogress⟩ := htype
  unfold decode
  rw [if_neg (not_not_intro rfl), if_neg hsuccess, if_neg herror, if_neg hprogress]

theorem decode_errorLength (hlength : payload.length ≠ 2) :
    decode ⟨responseMagic, errorType, length⟩ payload = .error (.length 2 payload.length) := by
  match payload with
  | [] | [_] | _ :: _ :: _ :: _ => rfl
  | [_, _] => exact absurd rfl hlength

theorem decode_progressLength (hlength : payload.length ≠ 1) :
    decode ⟨responseMagic, progressType, length⟩ payload = .error (.length 1 payload.length) := by
  match payload with
  | [] | _ :: _ :: _ => rfl
  | [_] => exact absurd rfl hlength

theorem frame_eq_errorFrame (hlength : payload.length = 2) :
    ∃ n, frame errorType payload = errorFrame n := by
  match payload with
  | [a, b] =>
    have hbytes : [a, b] = Bytes.le16 (UInt16.ofNat (a.toNat + 256 * b.toNat)) ++ [] :=
      Bytes.eq_of_readLe16 rfl
    refine ⟨(UInt16.ofNat (a.toNat + 256 * b.toNat)).toInt16, ?_⟩
    rw [errorFrame, UInt16.toUInt16_toInt16, hbytes, List.append_nil]

end Response

open Response (frame progressFrames errorFrame successType errorType progressType)

namespace ReplyStream

/-- What ends a reading, with its outcome and what is left unread: a frame or, if it is refused
for it, only its header. A stream that is over too early is used up. -/
inductive Ends : Bytes → Except SessionError Unit → Bytes → Prop where
  | success {payload rest : Bytes} (hlength : payload.length ≤ 2) :
    Ends (frame successType payload ++ rest) (.ok ()) rest
  | error {n : Int16} {code : ErrorCode} {rest : Bytes}
    (hcode : ErrorCode.ofNumber? n.toInt = some code) :
    Ends (errorFrame n ++ rest) (.error (.server code)) rest
  | unknownError {n : Int16} {rest : Bytes} (hcode : ErrorCode.ofNumber? n.toInt = none) :
    Ends (errorFrame n ++ rest) (.error (.unknownErrorCode n.toInt)) rest
  | magic {h : Header} {rest : Bytes} (hmagic : h.magic ≠ responseMagic) :
    Ends (h.encode ++ rest) (.error (.wire (.magic h.magic))) rest
  | tooLarge {h : Header} {rest : Bytes} (hmagic : h.magic = responseMagic)
    (hlarge : maxResponseLength < h.payloadLength) :
    Ends (h.encode ++ rest)
      (.error (.wire (.payloadTooLarge h.payloadLength maxResponseLength))) rest
  | type {type : UInt8} {payload rest : Bytes} (hlength : payload.length ≤ 2)
    (htype : type ∉ [successType, errorType, progressType]) :
    Ends (frame type payload ++ rest) (.error (.wire (.messageType type))) rest
  | errorLength {payload rest : Bytes} (hlength : payload.length < 2) :
    Ends (frame errorType payload ++ rest) (.error (.wire (.length 2 payload.length))) rest
  | progressLength {payload rest : Bytes} (hlength : payload.length ≤ 2)
    (hother : payload.length ≠ 1) :
    Ends (frame progressType payload ++ rest) (.error (.wire (.length 1 payload.length))) rest
  | cutHeader {part : Bytes} (hpart : part.length < headerLength) :
    Ends part (.error .disconnected) []
  | cutPayload {h : Header} {part : Bytes} (hmagic : h.magic = responseMagic)
    (hsmall : h.payloadLength ≤ maxResponseLength)
    (hpart : part.length < h.payloadLength.toNat) :
    Ends (h.encode ++ part) (.error .disconnected) []

def Answers (stream : Bytes) (outcome : Except SessionError Unit) (rest : Bytes) : Prop :=
  ∃ percents last, stream = progressFrames percents ++ last ∧ Ends last outcome rest

variable {s : ReplyStream} {stream last rest payload : Bytes} {h : Header} {type : UInt8}
  {outcome : Except SessionError Unit}

theorem takeExactly_ended {n : Nat} (hended : s.ended = true) (hs : s.incoming.length < n) :
    s.takeExactly n = (.error .disconnected, { s with incoming := [] }) := by
  have hshort : ¬s.incoming.hasAtLeast n = true := by
    rw [Bytes.hasAtLeast_iff]
    exact Nat.not_le.mpr hs
  rw [takeExactly, if_neg hshort, if_pos hended]

theorem checkHeader_accepted (hmagic : h.magic = responseMagic)
    (hsmall : h.payloadLength ≤ maxResponseLength) : checkHeader h.encode = .ok h := by
  rw [checkHeader_encode, if_neg (not_not_intro hmagic), if_neg (UInt32.not_lt.mpr hsmall)]

theorem readResponse_errorFrame {n : Int16} (hs : s.incoming = errorFrame n ++ rest) :
    s.readResponse = (.ok (Response.ofNumber n.toInt), { s with incoming := rest }) := by
  have hlength : (Bytes.le16 n.toUInt16).length ≤ 2 := Nat.le_refl 2
  exact readResponse_frame hlength hs (Response.decode_errorFrame n)

theorem Ends.read (hend : Ends last outcome rest) (hs : s.incoming = last)
    (hended : s.ended = true) :
    ∃ response, s.readResponse = (response, { s with incoming := rest }) ∧
      concluded response = some outcome := by
  cases hend with
  | success hlength => exact ⟨_, readResponse_frame hlength hs rfl, rfl⟩
  | error hcode =>
    have hread := readResponse_errorFrame hs
    rw [Response.ofNumber, hcode] at hread
    exact ⟨_, hread, rfl⟩
  | unknownError hcode =>
    have hread := readResponse_errorFrame hs
    rw [Response.ofNumber, hcode] at hread
    exact ⟨_, hread, rfl⟩
  | @magic h _ hmagic =>
    have hrefused := checkHeader_encode h
    rw [if_pos hmagic] at hrefused
    exact ⟨_, readResponse_refused hrefused hs, rfl⟩
  | @tooLarge h _ hmagic hlarge =>
    have hrefused := checkHeader_encode h
    rw [if_neg (not_not_intro hmagic), if_pos hlarge] at hrefused
    exact ⟨_, readResponse_refused hrefused hs, rfl⟩
  | type hlength htype =>
    exact ⟨_, readResponse_frame hlength hs (Response.decode_type htype), rfl⟩
  | @errorLength payload _ hlength =>
    have hother : payload.length ≠ 2 := Nat.ne_of_lt hlength
    have hread :=
      readResponse_frame (Nat.le_of_lt hlength) hs (Response.decode_errorLength hother)
    exact ⟨_, hread, rfl⟩
  | progressLength hlength hother =>
    exact ⟨_, readResponse_frame hlength hs (Response.decode_progressLength hother), rfl⟩
  | cutHeader hpart =>
    rw [← hs] at hpart
    refine ⟨.error .disconnected, ?_, rfl⟩
    rw [readResponse, takeExactly_ended hended hpart]
  | @cutPayload h part hmagic hsmall hpart =>
    have hcut : ({ s with incoming := part } : ReplyStream).takeExactly h.payloadLength.toNat =
        (.error .disconnected, { s with incoming := [] }) := takeExactly_ended hended hpart
    exact ⟨_, readResponse_accepted (checkHeader_accepted hmagic hsmall) hs hcut, rfl⟩

theorem await_answers (quiet : Bool) (hended : s.ended = true)
    (hanswers : Answers s.incoming outcome rest) :
    (s.await quiet).1 = outcome ∧ (s.await quiet).2.2.incoming = rest := by
  obtain ⟨percents, last, hs, hend⟩ := hanswers
  obtain ⟨s', fuel, hlast, hended', hresult, hleft⟩ := await_progressFrames quiet percents hs
  obtain ⟨response, hread, houtcome⟩ := hend.read hlast (hended'.trans hended)
  rw [hresult, hleft]
  exact go_concluded quiet fuel hread houtcome

theorem frame_ends (type : UInt8) (rest : Bytes) (hlength : payload.length ≤ 2) :
    (∃ percent, frame type payload = frame progressType [percent]) ∨
      ∃ outcome, Ends (frame type payload ++ rest) outcome rest := by
  by_cases htype : type ∈ [successType, errorType, progressType]
  · simp only [List.mem_cons, List.not_mem_nil, or_false] at htype
    rcases htype with rfl | rfl | rfl
    · exact .inr ⟨_, .success hlength⟩
    · rcases Nat.lt_or_eq_of_le hlength with hless | htwo
      · exact .inr ⟨_, .errorLength hless⟩
      · obtain ⟨n, hn⟩ := Response.frame_eq_errorFrame htwo
        rw [hn]
        cases hcode : ErrorCode.ofNumber? n.toInt with
        | some code => exact .inr ⟨_, .error hcode⟩
        | none => exact .inr ⟨_, .unknownError hcode⟩
    · by_cases hone : payload.length = 1
      · obtain ⟨percent, rfl⟩ := List.length_eq_one_iff.mp hone
        exact .inl ⟨percent, rfl⟩
      · exact .inr ⟨_, .progressLength hlength hone⟩
  · exact .inr ⟨_, .type hlength htype⟩

theorem encode_append_eq_frame (hmagic : h.magic = responseMagic)
    (hrest : h.payloadLength.toNat ≤ rest.length) :
    h.encode ++ rest =
      frame h.type (rest.take h.payloadLength.toNat) ++ rest.drop h.payloadLength.toNat := by
  rw [frame, List.length_take, Nat.min_eq_left hrest, UInt32.ofNat_toNat, ← hmagic,
    List.append_assoc, List.take_append_drop]

/-- The checks are made in this order: a mark before a length, and a length before what it is
the length of. -/
theorem progress_or_ends (stream : Bytes) :
    (∃ percent rest, stream = frame progressType [percent] ++ rest) ∨
      ∃ outcome rest, Ends stream outcome rest := by
  by_cases hheader : stream.length < headerLength
  · exact .inr ⟨_, _, .cutHeader hheader⟩
  obtain ⟨h, rest, rfl⟩ := Header.exists_eq_encode (Nat.not_lt.mp hheader)
  by_cases hmagic : h.magic = responseMagic
  · by_cases hlarge : maxResponseLength < h.payloadLength
    · exact .inr ⟨_, _, .tooLarge hmagic hlarge⟩
    have hsmall : h.payloadLength ≤ maxResponseLength := UInt32.not_lt.mp hlarge
    by_cases hcut : rest.length < h.payloadLength.toNat
    · exact .inr ⟨_, _, .cutPayload hmagic hsmall hcut⟩
    have hlength : (rest.take h.payloadLength.toNat).length ≤ 2 :=
      Nat.le_trans (List.length_take_le _ _) (UInt32.le_iff_toNat_le.mp hsmall)
    rw [encode_append_eq_frame hmagic (Nat.not_lt.mp hcut)]
    rcases frame_ends h.type (rest.drop h.payloadLength.toNat) hlength with
      ⟨percent, hpercent⟩ | ⟨outcome, hend⟩
    · exact .inl ⟨percent, _, congrArg (· ++ _) hpercent⟩
    · exact .inr ⟨outcome, _, hend⟩
  · exact .inr ⟨_, _, .magic hmagic⟩

theorem exists_answers (stream : Bytes) : ∃ outcome rest, Answers stream outcome rest := by
  rcases progress_or_ends stream with ⟨percent, more, hstream⟩ | ⟨outcome, rest, hend⟩
  · have hless : more.length < stream.length := by
      rw [hstream, List.length_append, Response.length_frame]
      exact Nat.lt_add_of_pos_left (Nat.succ_pos _)
    obtain ⟨outcome, rest, percents, last, hmore, hend⟩ := exists_answers more
    refine ⟨outcome, rest, percent :: percents, last, ?_, hend⟩
    rw [hstream, hmore, Response.progressFrames_cons, List.append_assoc]
  · exact ⟨outcome, rest, [], stream, rfl, hend⟩
termination_by stream.length

theorem await_eq_iff (quiet : Bool) (hended : s.ended = true) :
    (s.await quiet).1 = outcome ∧ (s.await quiet).2.2.incoming = rest ↔
      Answers s.incoming outcome rest := by
  constructor
  · rintro ⟨rfl, rfl⟩
    obtain ⟨outcome, rest, hanswers⟩ := exists_answers s.incoming
    obtain ⟨houtcome, hrest⟩ := await_answers quiet hended hanswers
    rw [houtcome, hrest]
    exact hanswers
  · exact await_answers quiet hended

theorem await_outcome_iff (quiet : Bool) (hended : s.ended = true) :
    (s.await quiet).1 = outcome ↔ ∃ rest, Answers s.incoming outcome rest := by
  constructor
  · intro houtcome
    exact ⟨_, (await_eq_iff quiet hended).mp ⟨houtcome, rfl⟩⟩
  · rintro ⟨rest, hanswers⟩
    exact (await_answers quiet hended hanswers).1

/-- A request has succeeded exactly if a success stands behind the reports of progress, and has
failed with an error of the service exactly if an error does. On every stream the outcome, and what
is left unread, are those of the one thing that ends the reading. -/
theorem await_reads_replies (quiet showing : Bool) (stream : Bytes) :
    let reading := await quiet ⟨stream, true, showing⟩
    (reading.1 = .ok () ↔ ∃ percents payload rest, payload.length ≤ 2 ∧
        stream = progressFrames percents ++ (frame successType payload ++ rest)) ∧
      (∀ code, reading.1 = .error (.server code) ↔ ∃ percents n rest,
        ErrorCode.ofNumber? n.toInt = some code ∧
          stream = progressFrames percents ++ (errorFrame n ++ rest)) ∧
      (∀ number, reading.1 = .error (.unknownErrorCode number) ↔ ∃ percents n rest,
        n.toInt = number ∧ ErrorCode.ofNumber? number = none ∧
          stream = progressFrames percents ++ (errorFrame n ++ rest)) ∧
      ∀ outcome rest, reading.1 = outcome ∧ reading.2.2.incoming = rest ↔
        Answers stream outcome rest := by
  intro reading
  refine ⟨?_, ?_, ?_, fun outcome rest => await_eq_iff quiet rfl⟩
  · rw [await_outcome_iff quiet rfl]
    constructor
    · rintro ⟨rest, percents, last, hstream, hend⟩
      cases hend with
      | @success payload _ hlength => exact ⟨percents, payload, rest, hlength, hstream⟩
    · rintro ⟨percents, payload, rest, hlength, hstream⟩
      exact ⟨rest, percents, _, hstream, .success hlength⟩
  · intro code
    rw [await_outcome_iff quiet rfl]
    constructor
    · rintro ⟨rest, percents, last, hstream, hend⟩
      cases hend with
      | @error n _ _ hcode => exact ⟨percents, n, rest, hcode, hstream⟩
    · rintro ⟨percents, n, rest, hcode, hstream⟩
      exact ⟨rest, percents, _, hstream, .error hcode⟩
  · intro number
    rw [await_outcome_iff quiet rfl]
    constructor
    · rintro ⟨rest, percents, last, hstream, hend⟩
      cases hend with
      | @unknownError n _ hcode => exact ⟨percents, n, rest, rfl, hcode, hstream⟩
    · rintro ⟨percents, n, rest, rfl, hcode, hstream⟩
      exact ⟨rest, percents, _, hstream, .unknownError hcode⟩

end ReplyStream

end CardFirmware
