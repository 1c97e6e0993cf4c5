import CardFirmware.Service.Network

/-! One connection of a network, followed through what happens to it and to the others. It carries
what its client has written and nobody read, and what was sent to its client. -/

namespace CardFirmware

namespace Activity

def Keeps (id : ConnectionId) (a : Activity) : Prop := a ≠ .connect id ∧ a ≠ .close id

def written (id : ConnectionId) : Activity → Bytes
  | .write i data => if i = id then data else []
  | .connect _ | .close _ => []

end Activity

def written (id : ConnectionId) (activities : List Activity) : Bytes :=
  activities.flatMap (Activity.written id)

theorem written_append (id : ConnectionId) (earlier later : List Activity) :
    written id (earlier ++ later) = written id earlier ++ written id later :=
  List.flatMap_append

namespace Network

variable {n : Network} {id other : ConnectionId} {c : Connection} {unread sent : Bytes}
  {a : Activity}

section Lookup

theorem connections_modify (f : Connection → Connection) :
    (n.modify other f).connections =
      n.connections.map fun entry =>
        (entry.1, if entry.1 = other then f entry.2 else entry.2) := by
  refine List.map_congr_left fun entry _ => ?_
  exact (apply_ite (Prod.mk entry.1) _ _ _).symm

theorem lookup_modify (f : Connection → Connection) :
    (n.modify other f).connections.lookup id =
      (n.connections.lookup id).map fun c => if id = other then f c else c := by
  rw [connections_modify]
  induction n.connections with
  | nil => rfl
  | cons entry entries ih =>
    rw [List.map_cons, List.lookup_cons, List.lookup_cons, ih]
    split
    · next hid =>
      rw [eq_of_beq hid]
      rfl
    · rfl

theorem lookup_act (ha : a.Keeps id) (h : n.connections.lookup id = some c) :
    (n.act a).connections.lookup id =
      some (if c.closedByService then c
        else { c with toService := c.toService ++ a.written id }) := by
  cases a with
  | connect i =>
    rw [act, List.lookup_append, h, Option.some_or, Activity.written, List.append_nil, ite_self]
  | write i data =>
    rw [act, lookup_modify, h, Option.map_some, Activity.written]
    by_cases hi : id = i
    · rw [if_pos hi, if_pos hi.symm]
    · rw [if_neg hi, if_neg (Ne.symm hi), List.append_nil, ite_self]
  | close i =>
    have hi : id ≠ i := fun hi => ha.2 (by rw [hi])
    rw [act, lookup_modify, h, Option.map_some, if_neg hi, Activity.written, List.append_nil,
      ite_self]

theorem not_waiting_act (ha : a ≠ .connect id) (h : id ∉ n.waiting) :
    id ∉ (n.act a).waiting := by
  cases a with
  | connect i =>
    have hi : id ≠ i := fun hi => ha (by rw [hi])
    exact fun hmem => (List.mem_append.mp hmem).elim h fun hmem => hi (List.mem_singleton.mp hmem)
  | write i data => exact h
  | close i => exact h

theorem lookup_foldl_hangUp {ids : List ConnectionId} (h : id ∉ ids) :
    (ids.foldl hangUp n).connections.lookup id = n.connections.lookup id := by
  induction ids generalizing n with
  | nil => rfl
  | cons i ids ih =>
    obtain ⟨hi, hids⟩ := not_or.mp (fun hmem => h (List.mem_cons.mpr hmem))
    rw [List.foldl_cons, ih hids, hangUp, lookup_modify]
    simp only [if_neg hi, Option.map_id_fun', id_eq]

end Lookup

structure Carries (id : ConnectionId) (unread sent : Bytes) (n : Network) : Prop where
  lookup_eq : n.connections.lookup id = some { toService := unread, toClient := sent }
  not_waiting : id ∉ n.waiting

structure LetGo (id : ConnectionId) (sent : Bytes) (n : Network) : Prop where
  lookup_eq : ∃ c, n.connections.lookup id = some c ∧ c.toClient = sent ∧ c.closedByService = true
  not_waiting : id ∉ n.waiting

namespace Carries

variable (h : n.Carries id unread sent)
include h

theorem find_eq : n.find id = { toService := unread, toClient := sent } := by
  rw [find, h.lookup_eq]
  rfl

theorem modify (f : Connection → Connection) {unread' sent' : Bytes}
    (hf : f { toService := unread, toClient := sent } =
      { toService := unread', toClient := sent' }) :
    (n.modify id f).Carries id unread' sent' := by
  refine ⟨?_, h.not_waiting⟩
  rw [lookup_modify, h.lookup_eq, Option.map_some, if_pos rfl, hf]

theorem act (ha : a.Keeps id) : (n.act a).Carries id (unread ++ a.written id) sent :=
  ⟨lookup_act ha h.lookup_eq, not_waiting_act ha.1 h.not_waiting⟩

theorem send (data : Bytes) : (n.send id data).Carries id unread (sent ++ data) :=
  h.modify _ rfl

theorem rejectWaiting : n.rejectWaiting.Carries id unread sent :=
  ⟨(lookup_foldl_hangUp h.not_waiting).trans h.lookup_eq, List.not_mem_nil⟩

theorem hangUp : (n.hangUp id).LetGo id sent := by
  refine ⟨⟨{ toService := unread, toClient := sent, closedByService := true }, ?_, rfl, rfl⟩,
    h.not_waiting⟩
  rw [Network.hangUp, lookup_modify, h.lookup_eq, Option.map_some, if_pos rfl]

theorem receive :
    (n.receive id).1 = sent ∧ (n.receive id).2.Carries id unread [] := by
  refine ⟨?_, h.modify (fun c => { c with toClient := [] }) rfl⟩
  rw [Network.receive, h.find_eq]

end Carries

namespace LetGo

variable (h : n.LetGo id sent)
include h

theorem find_eq : (n.find id).toClient = sent ∧ (n.find id).closedByService = true := by
  obtain ⟨c, hc, hsent⟩ := h.lookup_eq
  rw [find, hc]
  exact hsent

theorem act (ha : a.Keeps id) : (n.act a).LetGo id sent := by
  obtain ⟨c, hc, hsent, hclosed⟩ := h.lookup_eq
  refine ⟨⟨c, ?_, hsent, hclosed⟩, not_waiting_act ha.1 h.not_waiting⟩
  rw [lookup_act ha hc, if_pos hclosed]

theorem rejectWaiting : n.rejectWaiting.LetGo id sent := by
  obtain ⟨c, hc, hsent⟩ := h.lookup_eq
  exact ⟨⟨c, (lookup_foldl_hangUp h.not_waiting).trans hc, hsent⟩, List.not_mem_nil⟩

theorem receive : (n.receive id).1 = sent ∧ (n.receive id).2.LetGo id [] := by
  obtain ⟨c, hc, -, hclosed⟩ := h.lookup_eq
  refine ⟨h.find_eq.1, ⟨{ c with toClient := [] }, ?_, rfl, hclosed⟩, h.not_waiting⟩
  rw [Network.receive, lookup_modify, hc, Option.map_some, if_pos rfl]

end LetGo

theorem Carries.acts {activities : List Activity} (h : n.Carries id unread sent)
    (hkeeps : ∀ a ∈ activities, a.Keeps id) :
    (activities.foldl Network.act n).Carries id (unread ++ written id activities) sent := by
  induction activities generalizing n unread with
  | nil =>
    rw [written, List.flatMap_nil, List.append_nil]
    exact h
  | cons a activities ih =>
    obtain ⟨ha, hrest⟩ := List.forall_mem_cons.mp hkeeps
    rw [written, List.flatMap_cons, ← List.append_assoc]
    exact ih (h.act ha) hrest

theorem LetGo.acts {activities : List Activity} (h : n.LetGo id sent)
    (hkeeps : ∀ a ∈ activities, a.Keeps id) : (activities.foldl Network.act n).LetGo id sent := by
  induction activities generalizing n with
  | nil => exact h
  | cons a activities ih =>
    obtain ⟨ha, hrest⟩ := List.forall_mem_cons.mp hkeeps
    exact ih (h.act ha) hrest

end Network

end CardFirmware
