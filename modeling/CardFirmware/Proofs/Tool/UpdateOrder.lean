import CardFirmware.Proofs.Service.Installation
import CardFirmware.Tool.Commands

/-! The order in which an update installs the sections of a file. The plan keeps the order of the
file, so a file whose sections stand in the order in which a device needs them is installed in it:
the loader before the coprocessor, and the application last (`update_keeps_file_order`). -/

namespace CardFirmware

def InstallStep.message : InstallStep → ClientMessage
  | erase => .plain .appErase
  | upload s => s.upload
  | reboot => .plain .reboot

def FirmwareSection.updateMessages (s : FirmwareSection) : List ClientMessage :=
  if s.kind = .esp then [s.upload] else [.plain .appErase, s.upload, .plain .reboot]

namespace FirmwareFile

def updateMessages (f : FirmwareFile) (app esp : Option Version) : List ClientMessage :=
  (updateSteps f app esp).map InstallStep.message

def kinds (f : FirmwareFile) : List FirmwareKind := f.sections.map (·.kind)

/-- The file has a section of the kind, of another version than is known to be there. -/
def Replaces (f : FirmwareFile) (kind : FirmwareKind) (there : Option Version) : Prop :=
  ∃ s, f.section? kind = some s ∧ there ≠ some s.version

def Needs (f : FirmwareFile) (app esp : Option Version) : FirmwareKind → Prop
  | .esp => f.Replaces .esp esp
  | .leapfrog => f.Replaces .esp esp ∧ f.Replaces .leapfrog app
  | .app | .container => True

/-- No `b` stands before an `a`. -/
def Leads (a b : FirmwareKind) (kinds : List FirmwareKind) : Prop :=
  kinds.Pairwise fun x y => x = b → y ≠ a

instance (a b : FirmwareKind) (kinds : List FirmwareKind) : Decidable (Leads a b kinds) :=
  inferInstanceAs (Decidable (kinds.Pairwise _))

variable {f : FirmwareFile} {app esp : Option Version} {kind : FirmwareKind}
  {image : FirmwareSection}

theorem kind_of_section? {s : FirmwareSection} (h : f.section? kind = some s) :
    s.kind = kind := by
  have hfound := List.find?_some h
  exact of_decide_eq_true hfound

theorem mem_kinds_of_section? {s : FirmwareSection} (h : f.section? kind = some s) :
    kind ∈ f.kinds :=
  List.mem_map.mpr ⟨s, List.mem_of_find?_eq_some h, kind_of_section? h⟩

theorem WellFormed.ne_container (hf : f.WellFormed) (h : kind ∈ f.kinds) : kind ≠ .container := by
  obtain ⟨s, hs, rfl⟩ := List.mem_map.mp h
  exact (hf.sections s hs).kind_ne

section Plan

theorem updatePlan_sublist : (updatePlan f app esp).Sublist f.kinds := List.filter_sublist

theorem mem_updatePlan : kind ∈ updatePlan f app esp ↔ kind ∈ f.kinds ∧ f.Needs app esp kind := by
  refine List.mem_filter.trans (and_congr_right fun _ => ?_)
  cases kind with
  | esp => simp [Needs, Replaces, Option.any_eq_true]
  | leapfrog => simp [Needs, Replaces, Option.any_eq_true]
  | app | container => simp [Needs]

theorem app_mem_updatePlan (himage : f.section? .app = some image) :
    .app ∈ updatePlan f app esp :=
  mem_updatePlan.mpr ⟨mem_kinds_of_section? himage, trivial⟩

theorem updatePlan_eq_filter (f : FirmwareFile) (app esp : Option Version) :
    ∃ needs : FirmwareKind → Bool,
      updatePlan f app esp = f.kinds.filter needs ∧ needs .app = true := ⟨_, rfl, rfl⟩

theorem getLast?_updatePlan {keep : FirmwareKind → Bool}
    (h : (f.kinds.filter keep).getLast? = some .app) :
    ((updatePlan f app esp).filter keep).getLast? = some .app := by
  obtain ⟨needs, hplan, hneeds⟩ := f.updatePlan_eq_filter app esp
  obtain ⟨before, hbefore⟩ := List.getLast?_eq_some_iff.mp h
  have hcomm : (f.kinds.filter needs).filter keep = (f.kinds.filter keep).filter needs := by
    simp only [List.filter_filter, Bool.and_comm]
  rw [hplan, hcomm, hbefore, List.filter_append, List.filter_cons_of_pos hneeds]
  exact List.getLast?_concat

theorem getLast?_updatePlan_of_not_mem (hf : f.WellFormed) (himage : f.section? .app = some image)
    (h : .leapfrog ∉ updatePlan f app esp) :
    ((updatePlan f app esp).filter (· ≠ .esp)).getLast? = some .app := by
  have hall : ∀ kind ∈ (updatePlan f app esp).filter (· ≠ .esp), kind = .app := by
    intro kind hkind
    obtain ⟨hmem, hesp⟩ := List.mem_filter.mp hkind
    have hcontainer := hf.ne_container (updatePlan_sublist.mem hmem)
    cases kind with
    | app => rfl
    | container => exact absurd rfl hcontainer
    | esp => cases hesp
    | leapfrog => exact absurd hmem h
  have hmem : .app ∈ (updatePlan f app esp).filter (· ≠ .esp) :=
    List.mem_filter.mpr ⟨app_mem_updatePlan himage, rfl⟩
  rw [List.getLast?_eq_some_getLast (List.ne_nil_of_mem hmem)]
  exact congrArg some (hall _ (List.getLast_mem _))

end Plan

section Messages

theorem updateMessages_eq (f : FirmwareFile) (app esp : Option Version) :
    f.updateMessages app esp =
      ((updatePlan f app esp).filterMap f.section?).flatMap FirmwareSection.updateMessages := by
  unfold updateMessages updateSteps
  rw [List.map_flatMap]
  refine congrArg (List.flatMap · _) (funext fun s => ?_)
  unfold FirmwareSection.installSteps FirmwareSection.updateMessages
  split <;> rfl

theorem filter_updateMessages (s : FirmwareSection) :
    s.updateMessages.filter (·.type = .appUpdate) = if s.kind = .esp then [] else [s.upload] := by
  unfold FirmwareSection.updateMessages FirmwareSection.upload
  split <;> rfl

theorem appUploads_eq (f : FirmwareFile) (app esp : Option Version) :
    (f.updateMessages app esp).filter (·.type = .appUpdate) =
      (((updatePlan f app esp).filter (· ≠ .esp)).filterMap f.section?).map (·.upload) := by
  rw [updateMessages_eq]
  induction updatePlan f app esp with
  | nil => rfl
  | cons kind plan ih =>
    cases hs : f.section? kind with
    | none =>
      rw [List.filterMap_cons_none hs, ih, List.filter_cons]
      split
      · rw [List.filterMap_cons_none hs]
      · rfl
    | some s =>
      obtain rfl := kind_of_section? hs
      rw [List.filterMap_cons_some hs, List.flatMap_cons, List.filter_append, ih,
        filter_updateMessages, List.filter_cons]
      split
      · next hesp => simp [hesp]
      · next hesp => simp [hesp, List.filterMap_cons_some hs]

theorem getLast?_appUploads {s : FirmwareSection} (hs : f.section? kind = some s)
    (h : ((updatePlan f app esp).filter (· ≠ .esp)).getLast? = some kind) :
    ((f.updateMessages app esp).filter (·.type = .appUpdate)).getLast? = some s.upload := by
  obtain ⟨before, hbefore⟩ := List.getLast?_eq_some_iff.mp h
  rw [appUploads_eq, hbefore, List.filterMap_append, List.filterMap_cons_some hs,
    List.filterMap_nil, List.map_append]
  exact List.getLast?_concat

end Messages

/-- An update installs what is needed of a file in the order of the file. Where no coprocessor
section stands before a loader the plan has the loader first, and where the application comes last
in the file it comes last in the plan. The last image that goes to the upgrade segment is then that
of the application; it is enough that no loader is planned, or none comes after the last
application. -/
theorem update_keeps_file_order {b : Bytes} {f : FirmwareFile} (hfile : decode b = .ok f)
    {image : FirmwareSection} (himage : f.section? .app = some image) (app esp : Option Version) :
    (updatePlan f app esp).Sublist f.kinds ∧
      (∀ kind, kind ∈ updatePlan f app esp ↔ kind ∈ f.kinds ∧ f.Needs app esp kind) ∧
      (Leads .leapfrog .esp f.kinds → Leads .leapfrog .esp (updatePlan f app esp)) ∧
      (f.kinds.getLast? = some .app → (updatePlan f app esp).getLast? = some .app) ∧
      f.updateMessages app esp =
        ((updatePlan f app esp).filterMap f.section?).flatMap (fun s =>
          if s.kind = .esp then [s.upload] else [.plain .appErase, s.upload, .plain .reboot]) ∧
      ((.leapfrog ∈ updatePlan f app esp →
          (f.kinds.filter (· ≠ .esp)).getLast? = some .app) →
        ((f.updateMessages app esp).filter (·.type = .appUpdate)).getLast? =
          some (.update .appUpdate image.payload)) := by
  have hupload : image.upload = .update .appUpdate image.payload := by
    rw [FirmwareSection.upload, kind_of_section? himage]
    rfl
  refine ⟨updatePlan_sublist, fun kind => mem_updatePlan, fun h => h.sublist updatePlan_sublist,
    fun h => ?_, updateMessages_eq f app esp, fun h => ?_⟩
  · have hall (l : List FirmwareKind) : l.filter (fun _ => true) = l :=
      List.filter_eq_self.mpr fun _ _ => rfl
    rw [← hall (updatePlan f app esp)]
    apply getLast?_updatePlan
    rw [hall]
    exact h
  · rw [← hupload]
    apply getLast?_appUploads himage
    by_cases hloader : .leapfrog ∈ updatePlan f app esp
    · exact getLast?_updatePlan (h hloader)
    · exact getLast?_updatePlan_of_not_mem (wellFormed_of_decode hfile) himage hloader

theorem decode_encode_three {s₁ s₂ s₃ : FirmwareSection} (h₁ : s₁.WellFormed)
    (h₂ : s₂.WellFormed) (h₃ : s₃.WellFormed) (vid pid : UInt16) (version : Version) :
    decode (ofSections vid pid version [s₁, s₂, s₃]).encode =
      .ok (ofSections vid pid version [s₁, s₂, s₃]) := by
  have hall : ∀ s ∈ [s₁, s₂, s₃], s.WellFormed := by
    simp only [List.forall_mem_cons]
    exact ⟨h₁, h₂, h₃, fun _ h => absurd h List.not_mem_nil⟩
  have h := decode_encode_append (f := ofSections vid pid version [s₁, s₂, s₃])
    ⟨by simp [ofSections], by simp [ofSections], rfl, hall⟩ []
  rwa [List.append_nil] at h

/-- With the loader first and the application last, all three sections are installed in order. -/
theorem loader_first_file_in_order :
    let leapfrog := FirmwareSection.ofData .leapfrog 0x1235 0x821d ⟨1, 0, 100, 0⟩ [1]
    let esp := FirmwareSection.ofData .esp 0x1235 0x821d ⟨1, 0, 200, 0⟩ [2]
    let app := FirmwareSection.ofData .app 0x1235 0x821d ⟨2, 0, 2417, 0⟩ [3]
    let f := ofSections 0x1235 0x821d ⟨2, 0, 2417, 0⟩ [leapfrog, esp, app]
    decode f.encode = .ok f ∧ f.section? .app = some app ∧
      updatePlan f none none = [.leapfrog, .esp, .app] ∧
      Leads .leapfrog .esp (updatePlan f none none) ∧
      (updatePlan f none none).getLast? = some .app ∧
      ((f.updateMessages none none).filter (·.type = .appUpdate)).getLast? =
        some (.update .appUpdate app.payload) := by
  intro leapfrog esp app f
  have hleapfrog : leapfrog.WellFormed :=
    FirmwareSection.wellFormed_ofData (.inr (.inr rfl)) _ _ _ (by decide)
  have hesp : esp.WellFormed :=
    FirmwareSection.wellFormed_ofData (.inr (.inl rfl)) _ _ _ (by decide)
  have happ : app.WellFormed := FirmwareSection.wellFormed_ofData (.inl rfl) _ _ _ (by decide)
  have hfile : decode f.encode = .ok f := decode_encode_three hleapfrog hesp happ _ _ _
  have himage : f.section? .app = some app := rfl
  obtain ⟨-, -, hleads, hends, -, hlast⟩ := update_keeps_file_order hfile himage none none
  have hkinds : f.kinds = [.leapfrog, .esp, .app] := rfl
  rw [hkinds] at hleads hends hlast
  exact ⟨hfile, himage, rfl, hleads (by decide), hends rfl, hlast fun _ => rfl⟩

/-- With the application first and the loader last, the plan is in that order as well, and the
loader is what is left in the upgrade segment. -/
theorem app_first_file_ends_with_loader :
    let app := FirmwareSection.ofData .app 0x1235 0x821d ⟨2, 0, 2417, 0⟩ [3]
    let esp := FirmwareSection.ofData .esp 0x1235 0x821d ⟨1, 0, 200, 0⟩ [2]
    let leapfrog := FirmwareSection.ofData .leapfrog 0x1235 0x821d ⟨1, 0, 100, 0⟩ [1]
    let f := ofSections 0x1235 0x821d ⟨2, 0, 2417, 0⟩ [app, esp, leapfrog]
    decode f.encode = .ok f ∧ f.section? .app = some app ∧
      ¬Leads .leapfrog .esp (updatePlan f none none) ∧
      (updatePlan f none none).getLast? ≠ some .app ∧
      ∃ p, ((f.updateMessages none none).filter (·.type = .appUpdate)).getLast? =
        some (.update .appUpdate p) ∧ p.data = leapfrog.data ∧ p.data ≠ app.data := by
  intro app esp leapfrog f
  have happ : app.WellFormed := FirmwareSection.wellFormed_ofData (.inl rfl) _ _ _ (by decide)
  have hesp : esp.WellFormed :=
    FirmwareSection.wellFormed_ofData (.inr (.inl rfl)) _ _ _ (by decide)
  have hleapfrog : leapfrog.WellFormed :=
    FirmwareSection.wellFormed_ofData (.inr (.inr rfl)) _ _ _ (by decide)
  have hplan : updatePlan f none none = [.app, .esp, .leapfrog] := rfl
  refine ⟨decode_encode_three happ hesp hleapfrog _ _ _, rfl, ?_, ?_, leapfrog.payload, rfl, rfl,
    by decide⟩
  · rw [hplan]
    decide
  · rw [hplan]
    decide

end FirmwareFile

end CardFirmware
