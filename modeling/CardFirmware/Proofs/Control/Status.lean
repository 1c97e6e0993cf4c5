import CardFirmware.Control.Status
import CardFirmware.Proofs.Json.Printing

/-! A printed status record is read as the record that it was, whatever texts are in it and
whichever versions are known (`ofBytes?_toPretty`). -/

namespace CardFirmware.ServiceStatus

open Json (Syntax Piece Reads ReadsMember)

section Fields

def textSyntax (s : String) : Syntax := .string (s.toList.flatMap Json.written)

def numberSyntax (n : Nat) : Syntax := .number ⟨false, Json.digits n, [], none⟩

def versionSyntax (v : Version) : Syntax := .array (v.toList.map fun n => numberSyntax n.toNat)

def memberSyntax (key : String) (x : Syntax) : List Piece × Syntax :=
  (key.toList.flatMap Json.written, x)

@[simp] theorem textOf_textSyntax (s : String) : textOf (textSyntax s) = some s :=
  Json.textOfPieces_written s

theorem unsignedOf_numberSyntax {n bound : Nat} (hn : n < bound) (hbound : bound ≤ UInt64.size) :
    unsignedOf bound (numberSyntax n) = some n := by
  have hint := Json.int?_digits (Nat.lt_of_lt_of_le hn hbound)
  simp [unsignedOf, numberSyntax, hint, hn]

@[simp] theorem word16Of_numberSyntax (n : UInt16) : word16Of (numberSyntax n.toNat) = some n := by
  rw [word16Of, unsignedOf_numberSyntax n.toNat_lt (by decide), Option.map_some,
    UInt16.ofNat_toNat]

@[simp] theorem word32Of_numberSyntax (n : UInt32) : word32Of (numberSyntax n.toNat) = some n := by
  rw [word32Of, unsignedOf_numberSyntax n.toNat_lt (by decide), Option.map_some,
    UInt32.ofNat_toNat]

@[simp] theorem versionOf_versionSyntax (v : Version) :
    versionOf (versionSyntax v) = some (some v) := by
  simp [versionOf, versionSyntax, Version.toList, Version.ofList?]

theorem readsMember_text (key s : String) :
    ReadsMember (key, .string s) (memberSyntax key (textSyntax s)) :=
  ⟨rfl, Json.reads_string s⟩

theorem readsMember_number (key : String) (n : Nat) :
    ReadsMember (key, .int n) (memberSyntax key (numberSyntax n)) :=
  ⟨rfl, Json.reads_int n⟩

theorem reads_version (v : Version) :
    Reads (.array (v.toList.map fun n => .int n.toNat)) (versionSyntax v) :=
  Json.reads_array (Json.reads_int _) <|
    .cons (Json.reads_int _) <| .cons (Json.reads_int _) <| .cons (Json.reads_int _) .nil

end Fields

section Members

def versionMembers (key : String) (v : Option Version) : List (List Piece × Syntax) :=
  (v.map fun v => memberSyntax key (versionSyntax v)).toList

theorem readsMember_version (key : String) (v : Option Version) :
    List.Forall₂ ReadsMember (versionMember key v) (versionMembers key v) := by
  cases v with
  | none => exact .nil
  | some v => exact .cons ⟨rfl, reads_version v⟩ .nil

theorem members_append (d : Draft) (as bs : List (List Piece × Syntax)) :
    d.members (as ++ bs) = (d.members as).bind (·.members bs) := by
  induction as generalizing d with
  | nil => rfl
  | cons a as ih =>
    obtain ⟨key, x⟩ := a
    simp [Draft.members, ih, Option.bind_assoc]

theorem members_cons (d : Draft) (key : String) (x : Syntax)
    (rest : List (List Piece × Syntax)) :
    d.members (memberSyntax key x :: rest) = (d.member key x).bind (·.members rest) := by
  simp [memberSyntax, Draft.members, Json.textOfPieces_written]

theorem members_versionMembers {d d' : Draft} {key : String} {v : Option Version}
    (hnone : v = none → d' = d)
    (hsome : ∀ w, v = some w → d.member key (versionSyntax w) = some d') :
    d.members (versionMembers key v) = some d' := by
  cases v with
  | none =>
    rw [hnone rfl]
    rfl
  | some w =>
    rw [versionMembers, Option.map_some, Option.toList_some, members_cons, hsome w rfl]
    rfl

theorem members_appVersion {d : Draft} (h : d.appVersion = none) (v : Option Version) :
    d.members (versionMembers "firmware_version" v) = some { d with appVersion := v.map some } := by
  refine members_versionMembers (fun hv => by rw [hv, Option.map_none, ← h]) fun w hw => ?_
  rw [Draft.member, versionOf_versionSyntax, h, hw]
  rfl

theorem members_espVersion {d : Draft} (h : d.espVersion = none) (v : Option Version) :
    d.members (versionMembers "esp_firmware_version" v) =
      some { d with espVersion := v.map some } := by
  refine members_versionMembers (fun hv => by rw [hv, Option.map_none, ← h]) fun w hw => ?_
  rw [Draft.member, versionOf_versionSyntax, h, hw]
  rfl

end Members

variable (s : ServiceStatus)

def numberMembers : List (List Piece × Syntax) := [
  memberSyntax "card" (numberSyntax s.card.toNat),
  memberSyntax "usb_vid" (numberSyntax s.vid.toNat),
  memberSyntax "usb_pid" (numberSyntax s.pid.toNat),
  memberSyntax "firmware_build" (numberSyntax s.firmwareBuild.toNat)]

def toSyntax : Syntax :=
  .object (memberSyntax "socket_path" (textSyntax s.socketPath) :: s.numberMembers ++
    versionMembers "firmware_version" s.appVersion ++
    versionMembers "esp_firmware_version" s.espVersion)

theorem reads_toJson : Reads s.toJson s.toSyntax :=
  Json.reads_object (readsMember_text _ _) <|
    List.rel_append
      (List.rel_append
        (.cons (readsMember_number _ _) <| .cons (readsMember_number _ _) <|
          .cons (readsMember_number _ _) <| .cons (readsMember_number _ _) .nil)
        (readsMember_version _ _))
      (readsMember_version _ _)

theorem ofSyntax_toSyntax : ofSyntax s.toSyntax = some s := by
  have hfields : Draft.members {} (memberSyntax "socket_path" (textSyntax s.socketPath) ::
      s.numberMembers) = some {
        socketPath := some s.socketPath, card := some s.card, vid := some s.vid,
        pid := some s.pid, firmwareBuild := some s.firmwareBuild } := by
    simp only [numberMembers, members_cons]
    simp [Draft.member, once, Draft.members]
  rw [toSyntax, ofSyntax, members_append, members_append, hfields, Option.bind_some,
    members_appVersion rfl, Option.bind_some, members_espVersion rfl]
  obtain ⟨socketPath, card, vid, pid, build, appVersion, espVersion⟩ := s
  cases appVersion <;> cases espVersion <;> rfl

theorem ofBytes?_toPretty : ofBytes? (Text.Utf8.encode s.toJson.toPretty) = some s := by
  rw [ofBytes?, Json.document_toPretty s.reads_toJson, Option.bind_some, ofSyntax_toSyntax]

end CardFirmware.ServiceStatus
