import CardFirmware.Service.Server

/-! A round of a service cut into its parts: a notification is heard, the client has its turn, and
the connections that wait are seen to (`poll_of_heard`). -/

namespace CardFirmware.Server

variable {σ : Type} {t : Transport σ} {id : ConnectionId} {received : Reassembly} {s s' : Server σ}
  {w : Surroundings}

/-- What is announced can be read, so that no round fails. -/
def Hears (t : Transport σ) (device : σ) : Prop :=
  t.announces device = true → ∃ bits, (t.readNotification device).1 = .ok bits

def heard (t : Transport σ) (s : Server σ) : Except ServerError Unit × Server σ :=
  if t.announces s.device then s.hear t else (.ok (), s)

def turn (t : Transport σ) (s : Server σ) (w : Surroundings) : Server σ × Surroundings :=
  match s.client with
  | some client => if w.network.readable client.id then s.serve t client w else (s, w)
  | none => (s, w)

def acceptWaiting (s : Server σ) (w : Surroundings) : Server σ × Surroundings :=
  ((s.accept w.network).1, { w with network := (s.accept w.network).2 })

theorem hear_eq {bits : Option UInt32} (h : (t.readNotification s.device).1 = .ok bits) :
    s.hear t = (.ok (), { s with
      device := (t.readNotification s.device).2
      notified := s.notified + bits.isSome.toNat }) := by
  unfold hear
  generalize t.readNotification s.device = read at h ⊢
  obtain ⟨reply, device⟩ := read
  obtain rfl : reply = .ok bits := h
  cases bits <;> rfl

theorem heard_eq (t : Transport σ) (s : Server σ) :
    ∃ r notified, (Hears t s.device → r = .ok ()) ∧ s.heard t = (r, { s with
      device := if t.announces s.device then (t.readNotification s.device).2 else s.device
      notified }) := by
  unfold heard
  by_cases hannounced : t.announces s.device = true
  · rw [if_pos hannounced, if_pos hannounced]
    cases hread : (t.readNotification s.device).1 with
    | ok bits => exact ⟨_, _, fun _ => rfl, hear_eq hread⟩
    | error e =>
      refine ⟨.error (.device e), s.notified, fun hhears => ?_, ?_⟩
      · obtain ⟨bits, hbits⟩ := hhears hannounced
        rw [hread] at hbits
        cases hbits
      · simp only [hear, hread]
  · rw [if_neg hannounced, if_neg hannounced]
    exact ⟨_, s.notified, fun _ => rfl, rfl⟩

theorem heard_client (t : Transport σ) (s : Server σ) : (s.heard t).2.client = s.client := by
  obtain ⟨r, notified, -, hheard⟩ := heard_eq t s
  rw [hheard]

theorem poll_of_error {e : ServerError} (h : s.heard t = (.error e, s')) :
    s.poll t w = (.error e, s', w) := by
  unfold heard at h
  simp only [poll, h]

theorem poll_of_heard (h : s.heard t = (.ok (), s')) :
    s.poll t w =
      (.ok (), if w.network.waiting.isEmpty then s'.turn t w
        else (s'.turn t w).1.acceptWaiting (s'.turn t w).2) := by
  have hclient : s'.client = s.client := by
    rw [← heard_client t s, h]
  unfold heard at h
  cases hc : s.client with
  | none =>
    rw [hc] at hclient
    simp only [poll, h, turn, hc, hclient]
    cases w.network.waiting.isEmpty <;> rfl
  | some client =>
    rw [hc] at hclient
    simp only [poll, h, turn, hc, hclient, Option.any_some]
    cases w.network.readable client.id <;> cases w.network.waiting.isEmpty <;> rfl

theorem acceptWaiting_of_some {c : Client} (h : s.client = some c) :
    s.acceptWaiting w = (s, ⟨w.network.rejectWaiting, w.meanwhile⟩) := by
  simp only [acceptWaiting, accept, h]

theorem acceptWaiting_of_nil (h : w.network.waiting = []) : s.acceptWaiting w = (s, w) := by
  obtain ⟨⟨connections, waiting⟩, meanwhile⟩ := w
  obtain rfl : waiting = [] := h
  cases hclient : s.client with
  | none =>
    simp only [acceptWaiting, accept, hclient]
    rfl
  | some c =>
    simp only [acceptWaiting, accept, hclient]
    rfl

theorem acceptWaiting_of_cons {first : ConnectionId} {rest : List ConnectionId}
    (h : s.client = none) (hwaiting : w.network.waiting = first :: rest) :
    s.acceptWaiting w = ({ s with client := some ⟨first, .standard⟩ },
      ⟨Network.rejectWaiting ⟨w.network.connections, rest⟩, w.meanwhile⟩) := by
  simp only [acceptWaiting, accept, h, hwaiting]

theorem acceptWaiting_eq (s : Server σ) (w : Surroundings) :
    (s.acceptWaiting w).2.network.waiting = [] ∧ (s.acceptWaiting w).2.meanwhile = w.meanwhile ∧
      (s.acceptWaiting w).1.client =
        s.client.or (w.network.waiting.head?.map fun id => ⟨id, .standard⟩) := by
  cases hclient : s.client with
  | some c =>
    rw [acceptWaiting_of_some hclient]
    exact ⟨rfl, rfl, hclient⟩
  | none =>
    cases hwaiting : w.network.waiting with
    | nil =>
      rw [acceptWaiting_of_nil hwaiting]
      exact ⟨hwaiting, rfl, hclient⟩
    | cons first rest =>
      rw [acceptWaiting_of_cons hclient hwaiting]
      exact ⟨rfl, rfl, rfl⟩

theorem serve_of_nil (h : (w.network.find id).toService = []) :
    s.serve t ⟨id, received⟩ w =
      ({ s with client := none }, { w with network := w.network.hangUp id }) := by
  simp only [serve, h, List.isEmpty_nil, if_true]

theorem serve_of_ne_nil (h : (w.network.find id).toService ≠ []) :
    s.serve t ⟨id, received⟩ w =
      handleAll t id
        (received.extend ((w.network.find id).toService.take readChunk)).drain.1
        { s with
          client := some
            ⟨id, (received.extend ((w.network.find id).toService.take readChunk)).drain.2⟩ }
        { w with network := w.network.modify id fun c =>
            { c with toService := c.toService.drop readChunk } } := by
  simp only [serve, List.isEmpty_iff, if_neg h]

end CardFirmware.Server
