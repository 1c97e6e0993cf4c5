import CardFirmware.Proofs.Service.Rounds

/-! What the turn of a client does to the surroundings of a service. It reads, sends, ticks and may
hang up, and does nothing else: a relation that survives each of the four survives the turn
(`Preserved.turn`), and so does a property (`turn_keeps`). -/

namespace CardFirmware.Server

namespace Surroundings

def send (id : ConnectionId) (data : Bytes) (w : Surroundings) : Surroundings :=
  { w with network := w.network.send id data }

def read (id : ConnectionId) (w : Surroundings) : Surroundings :=
  { w with network := w.network.modify id fun c =>
      { c with toService := c.toService.drop readChunk } }

def hangUp (id : ConnectionId) (w : Surroundings) : Surroundings :=
  { w with network := w.network.hangUp id }

def tick (w : Surroundings) : Surroundings :=
  ⟨((w.meanwhile.headD []).foldl Network.act w.network).rejectWaiting, w.meanwhile.tail⟩

theorem flatten_meanwhile (w : Surroundings) :
    w.meanwhile.flatten = w.meanwhile.headD [] ++ w.tick.meanwhile.flatten := by
  unfold tick
  cases w.meanwhile <;> rfl

end Surroundings

variable {σ : Type} {t : Transport σ} {id : ConnectionId} {received : Reassembly} {s : Server σ}
  {w w' : Surroundings}

/-- Two services do the same in surroundings that are related. They stay so. -/
structure Preserved (id : ConnectionId) (R : Surroundings → Surroundings → Prop) : Prop where
  send : ∀ {w w'} (data : Bytes), R w w' → R (w.send id data) (w'.send id data)
  read : ∀ {w w'}, R w w' → R (w.read id) (w'.read id)
  hangUp : ∀ {w w'}, R w w' → R (w.hangUp id) (w'.hangUp id)
  tick : ∀ {w w'}, R w w' → R w.tick w'.tick

namespace Preserved

variable {R : Surroundings → Surroundings → Prop} (hR : Preserved id R)
include hR

theorem play (events : List Event) (h : R w w') :
    let (meanwhile, network) := Server.play id events w.meanwhile w.network
    let (meanwhile', network') := Server.play id events w'.meanwhile w'.network
    R ⟨network, meanwhile⟩ ⟨network', meanwhile'⟩ := by
  induction events generalizing w w' with
  | nil => exact h
  | cons e events ih =>
    cases e with
    | sent c reply => exact ih h
    | heard reply => exact ih h
    | reported p => exact ih (hR.send (Response.encodeProgress p) h)
    | ticked => exact ih (hR.tick h)

theorem handle (request : Request) (h : R w w') :
    (s.handle t id request w').1 = (s.handle t id request w).1 ∧
      R (s.handle t id request w).2 (s.handle t id request w').2 := by
  simp only [Server.handle]
  generalize (s.context.dispatch request).run t ⟨s.device, []⟩ = run
  obtain ⟨⟨result, context⟩, link⟩ := run
  have hplayed := hR.play link.events.reverse h
  cases result with
  | error e => exact ⟨rfl, hR.send (Response.encodeError e.code) hplayed⟩
  | ok type =>
    cases type with
    | reboot => exact ⟨rfl, hR.hangUp (hR.send Response.encodeSuccess hplayed)⟩
    | configErase | appErase | appUpdate | espUpdate =>
      exact ⟨rfl, hR.send Response.encodeSuccess hplayed⟩

theorem handleAll (messages : List (Except WireError Request)) (h : R w w') :
    (Server.handleAll t id messages s w').1 = (Server.handleAll t id messages s w).1 ∧
      R (Server.handleAll t id messages s w).2 (Server.handleAll t id messages s w').2 := by
  induction messages generalizing s w w' with
  | nil => exact ⟨rfl, h⟩
  | cons message messages ih =>
    cases message with
    | error e => exact ih (hR.send (Response.encodeError e.code) h)
    | ok request =>
      have hhandled := hR.handle (t := t) (s := s) request h
      simp only [Server.handleAll]
      generalize s.handle t id request w = handled at hhandled
      generalize s.handle t id request w' = handled' at hhandled
      obtain ⟨s₁, w₁⟩ := handled
      obtain ⟨s₂, w₂⟩ := handled'
      obtain ⟨hserver, hrelated⟩ := hhandled
      obtain rfl : s₂ = s₁ := hserver
      cases hclient : s₂.client with
      | none =>
        simp only
        exact ⟨trivial, hrelated⟩
      | some c =>
        simp only
        exact ih hrelated

theorem serve (hsent : (w'.network.find id).toService = (w.network.find id).toService)
    (h : R w w') :
    (s.serve t ⟨id, received⟩ w').1 = (s.serve t ⟨id, received⟩ w).1 ∧
      R (s.serve t ⟨id, received⟩ w).2 (s.serve t ⟨id, received⟩ w').2 := by
  by_cases hnil : (w.network.find id).toService = []
  · rw [serve_of_nil hnil, serve_of_nil (hsent.trans hnil)]
    exact ⟨rfl, hR.hangUp h⟩
  · rw [serve_of_ne_nil hnil, serve_of_ne_nil (hsent ▸ hnil), hsent]
    exact hR.handleAll _ (hR.read h)

theorem turn (hclient : s.client = some ⟨id, received⟩)
    (hready : w'.network.readable id = w.network.readable id)
    (hsent : (w'.network.find id).toService = (w.network.find id).toService) (h : R w w') :
    (s.turn t w').1 = (s.turn t w).1 ∧ R (s.turn t w).2 (s.turn t w').2 := by
  simp only [Server.turn, hclient, hready]
  split
  · exact hR.serve hsent h
  · exact ⟨rfl, h⟩

end Preserved

def Kept (id : ConnectionId) (P : Surroundings → Prop) : Prop :=
  Preserved id fun w w' => w' = w ∧ P w

theorem kept_of {P : Surroundings → Prop} (hsend : ∀ w data, P w → P (w.send id data))
    (hread : ∀ w, P w → P (w.read id)) (hhangUp : ∀ w, P w → P (w.hangUp id))
    (htick : ∀ w, P w → P w.tick) : Kept id P where
  send := by
    rintro w _ data ⟨rfl, h⟩
    exact ⟨rfl, hsend _ data h⟩
  read := by
    rintro w _ ⟨rfl, h⟩
    exact ⟨rfl, hread _ h⟩
  hangUp := by
    rintro w _ ⟨rfl, h⟩
    exact ⟨rfl, hhangUp _ h⟩
  tick := by
    rintro w _ ⟨rfl, h⟩
    exact ⟨rfl, htick _ h⟩

theorem handle_client (request : Request) :
    (s.handle t id request w).1.client = s.client ∨
      (s.handle t id request w).1.client = none := by
  unfold handle
  generalize (s.context.dispatch request).run t ⟨s.device, []⟩ = run
  obtain ⟨⟨result, context⟩, link⟩ := run
  cases result with
  | error e => exact .inl rfl
  | ok type =>
    cases type with
    | reboot => exact .inr rfl
    | configErase | appErase | appUpdate | espUpdate => exact .inl rfl

theorem handleAll_client (messages : List (Except WireError Request)) :
    (handleAll t id messages s w).1.client = s.client ∨
      (handleAll t id messages s w).1.client = none := by
  induction messages generalizing s w with
  | nil => exact .inl rfl
  | cons message messages ih =>
    cases message with
    | error e => exact ih
    | ok request =>
      have hhandled : (s.handle t id request w).1.client = s.client ∨
          (s.handle t id request w).1.client = none := handle_client request
      rw [handleAll]
      generalize s.handle t id request w = handled at hhandled
      obtain ⟨s', w'⟩ := handled
      cases hclient : s'.client with
      | none =>
        simp only [hclient]
        exact .inr trivial
      | some c =>
        have hkept : some c = s.client := by
          rcases hhandled with hsame | hnone
          · exact hclient.symm.trans hsame
          · rw [hclient] at hnone
            cases hnone
        simp only [hclient, ← hkept]
        have hrest := ih (s := s') (w := w')
        rwa [hclient] at hrest

theorem turn_client (hclient : s.client = some ⟨id, received⟩) :
    (∃ received', (s.turn t w).1.client = some ⟨id, received'⟩) ∨ (s.turn t w).1.client = none := by
  simp only [turn, hclient]
  split
  · by_cases hnil : (w.network.find id).toService = []
    · rw [serve_of_nil hnil]
      exact .inr rfl
    · rw [serve_of_ne_nil hnil]
      rcases handleAll_client _ with hkept | hnone
      · exact .inl ⟨_, hkept⟩
      · exact .inr hnone
  · exact .inl ⟨received, hclient⟩

theorem turn_of_none (hnone : s.client = none) : s.turn t w = (s, w) := by
  rw [turn, hnone]

theorem turn_of_left (hclient : s.client = some ⟨id, received⟩)
    (hleft : (w.network.find id).closedByClient = true)
    (hunread : (w.network.find id).toService = []) :
    s.turn t w = ({ s with client := none }, w.hangUp id) := by
  have hready : w.network.readable id = true := by
    rw [Network.readable, hleft]
    exact Bool.or_true _
  simp only [turn, hclient, hready, if_true]
  exact serve_of_nil hunread

theorem turn_keeps {P : Surroundings → Prop} (hP : ∀ c, s.client = some c → Kept c.id P)
    (h : P w) : P (s.turn t w).2 := by
  cases hclient : s.client with
  | none =>
    rw [turn_of_none hclient]
    exact h
  | some c => exact (Preserved.turn (hP c hclient) hclient rfl rfl ⟨rfl, h⟩).2.2

theorem turn_waiting (t : Transport σ) (s : Server σ) (w : Surroundings) :
    (s.turn t w).2.network.waiting = w.network.waiting ∨ (s.turn t w).2.network.waiting = [] := by
  refine turn_keeps (P := fun w' => w'.network.waiting = w.network.waiting ∨
    w'.network.waiting = []) (fun c _ => ?_) (.inl rfl)
  exact kept_of (fun _ _ h => h) (fun _ h => h) (fun _ h => h) (fun _ _ => .inr rfl)

theorem poll_eq {s' : Server σ} (h : s.heard t = (.ok (), s')) :
    s.poll t w = (.ok (), (s'.turn t w).1.acceptWaiting (s'.turn t w).2) := by
  rw [poll_of_heard h]
  cases hwaiting : w.network.waiting with
  | cons first rest => rfl
  | nil =>
    have hnone : (s'.turn t w).2.network.waiting = [] := by
      rcases turn_waiting t s' w with hsame | hnone
      · exact hsame.trans hwaiting
      · exact hnone
    rw [acceptWaiting_of_nil hnone]
    rfl

theorem poll_cases (t : Transport σ) (s : Server σ) :
    (∃ e, ∀ w, s.poll t w = (.error e, (s.heard t).2, w)) ∨
      ∀ w, s.poll t w = (.ok (), ((s.heard t).2.turn t w).1.acceptWaiting
        ((s.heard t).2.turn t w).2) := by
  generalize hheard : s.heard t = heard
  obtain ⟨r, s'⟩ := heard
  cases r with
  | error e => exact .inl ⟨e, fun w => poll_of_error hheard⟩
  | ok u => exact .inr fun w => poll_eq hheard

theorem turn_meanwhile (t : Transport σ) (s : Server σ) (w : Surroundings) :
    ∃ early, early ++ (s.turn t w).2.meanwhile.flatten = w.meanwhile.flatten := by
  refine turn_keeps (P := fun w' => ∃ early, early ++ w'.meanwhile.flatten = w.meanwhile.flatten)
    (fun c _ => ?_) ⟨[], rfl⟩
  refine kept_of (fun _ _ h => h) (fun _ h => h) (fun _ h => h) ?_
  rintro w' ⟨early, hearly⟩
  refine ⟨early ++ w'.meanwhile.headD [], ?_⟩
  rw [List.append_assoc, ← w'.flatten_meanwhile, hearly]

end CardFirmware.Server
