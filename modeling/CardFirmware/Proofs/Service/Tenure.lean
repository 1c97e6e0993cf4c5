import CardFirmware.Proofs.Service.Bystanders

/-! The connection of a client, which may leave at any time. Until all that it wrote is read the
service does for it what it would do for one that stays; what is sent to it after it has left is
lost (`Shadows`). So its tenure is an exchange like any other (`Tenure.turn`). -/

namespace CardFirmware

variable {σ : Type} {id : ConnectionId}

/-- Connections that differ only in what was lost because the client of the first one has left. -/
structure Connection.Loses (c c' : Connection) : Prop where
  toService_eq : c'.toService = c.toService
  closedByService_eq : c'.closedByService = c.closedByService
  stays : c'.closedByClient = false
  sent_le : c.toClient <+: c'.toClient
  sent_eq : c.closedByClient = false → c.toClient = c'.toClient

theorem Connection.Loses.send {c c' : Connection} (h : c.Loses c') (data : Bytes) :
    (if c.closedByClient then c else { c with toClient := c.toClient ++ data }).Loses
      (if c'.closedByClient then c' else { c' with toClient := c'.toClient ++ data }) := by
  have hstays : ¬c'.closedByClient = true := by
    rw [h.stays]
    exact Bool.false_ne_true
  rw [if_neg hstays]
  by_cases hleft : c.closedByClient = true
  · rw [if_pos hleft]
    refine ⟨h.toService_eq, h.closedByService_eq, h.stays, ?_, fun hnot => ?_⟩
    · exact h.sent_le.trans (List.prefix_append _ _)
    · exact absurd (hleft.symm.trans hnot) (by decide)
  · rw [if_neg hleft]
    have hsame : c.toClient = c'.toClient := h.sent_eq (eq_false_of_ne_true hleft)
    rw [hsame]
    exact ⟨h.toService_eq, h.closedByService_eq, h.stays, List.prefix_rfl, fun _ => rfl⟩

namespace Network

variable {n n' : Network} {a : Activity}

/-- The second network is the first one if the client had not left. -/
structure Shadows (id : ConnectionId) (n n' : Network) : Prop where
  waiting_eq : n'.waiting = n.waiting
  lookup_eq : ∃ c c', n.connections.lookup id = some c ∧ n'.connections.lookup id = some c' ∧
    c.Loses c'

namespace Shadows

variable (h : Shadows id n n')
include h

theorem modify {f : Connection → Connection} (hf : ∀ c c', c.Loses c' → (f c).Loses (f c')) :
    Shadows id (n.modify id f) (n'.modify id f) := by
  obtain ⟨c, c', hc, hc', hloses⟩ := h.lookup_eq
  refine ⟨h.waiting_eq, f c, f c', ?_, ?_, hf c c' hloses⟩
  · rw [lookup_modify, hc, Option.map_some, if_pos rfl]
  · rw [lookup_modify, hc', Option.map_some, if_pos rfl]

theorem leave : Shadows id (n.act (.close id)) n' := by
  obtain ⟨c, c', hc, hc', hloses⟩ := h.lookup_eq
  refine ⟨h.waiting_eq, { c with closedByClient := true }, c', ?_, hc', ?_⟩
  · rw [act, lookup_modify, hc, Option.map_some, if_pos rfl]
  · exact { hloses with sent_eq := fun h => absurd h Bool.false_ne_true.symm }

theorem act (ha : a ≠ .close id) : Shadows id (n.act a) (n'.act a) := by
  obtain ⟨c, c', hc, hc', hloses⟩ := h.lookup_eq
  obtain ⟨d, hd, htoClient, hclosed, htoService, hstays⟩ := lookup_act_some (a := a) hc
  obtain ⟨d', hd', htoClient', hclosed', htoService', hstays'⟩ := lookup_act_some (a := a) hc'
  refine ⟨?_, d, d', hd, hd', ?_, ?_, hstays'.mpr ⟨hloses.stays, ha⟩, ?_, fun h => ?_⟩
  · cases a with
    | connect i => exact congrArg (· ++ [i]) h.waiting_eq
    | write i data => exact h.waiting_eq
    | close i => exact h.waiting_eq
  · rw [htoService', htoService, hloses.toService_eq, hloses.closedByService_eq]
  · rw [hclosed', hclosed, hloses.closedByService_eq]
  · rw [htoClient, htoClient']
    exact hloses.sent_le
  · rw [htoClient, htoClient']
    exact hloses.sent_eq (hstays.mp h).1

theorem rejectWaiting : Shadows id n.rejectWaiting n'.rejectWaiting := by
  obtain ⟨c, c', hc, hc', hloses⟩ := h.lookup_eq
  refine ⟨rfl, ?_⟩
  show ∃ d d', (n.waiting.foldl Network.hangUp n).connections.lookup id = some d ∧
    (n'.waiting.foldl Network.hangUp n').connections.lookup id = some d' ∧ d.Loses d'
  rw [h.waiting_eq]
  by_cases hmem : id ∈ n.waiting
  · refine ⟨_, _, lookup_foldl_hangUp_of_mem hmem hc, lookup_foldl_hangUp_of_mem hmem hc', ?_⟩
    exact { hloses with closedByService_eq := rfl }
  · exact ⟨c, c', (lookup_foldl_hangUp hmem).trans hc, (lookup_foldl_hangUp hmem).trans hc',
      hloses⟩

end Shadows

theorem Shadows.acts (activities : List Activity) (h : Shadows id n n') :
    Shadows id (activities.foldl Network.act n)
      ((activities.filter (· ≠ .close id)).foldl Network.act n') := by
  induction activities generalizing n n' with
  | nil => exact h
  | cons a activities ih =>
    by_cases ha : a = .close id
    · subst ha
      rw [List.filter_cons_of_neg (by simp)]
      exact ih h.leave
    · rw [List.filter_cons_of_pos (by simp [ha])]
      exact ih (h.act ha)

end Network

namespace Server

variable {t : Transport σ} {s : Server σ} {w w' : Surroundings} {all : List Activity}

structure Shadows (id : ConnectionId) (w w' : Surroundings) : Prop where
  network : w.network.Shadows id w'.network
  meanwhile_eq : w'.meanwhile = w.meanwhile.map (·.filter (· ≠ .close id))

theorem preserved_shadows (id : ConnectionId) : Preserved id (Shadows id) where
  send := by
    intro w w' data h
    have hsend : (w.network.send id data).Shadows id (w'.network.send id data) :=
      h.network.modify fun c c' hloses => hloses.send data
    exact ⟨hsend, h.meanwhile_eq⟩
  read := by
    intro w w' h
    refine ⟨h.network.modify
      (f := fun c => { c with toService := c.toService.drop readChunk }) ?_, h.meanwhile_eq⟩
    intro c c' hloses
    exact { hloses with toService_eq := congrArg (List.drop readChunk) hloses.toService_eq }
  hangUp := by
    intro w w' h
    refine ⟨h.network.modify (f := fun c => { c with closedByService := true }) ?_,
      h.meanwhile_eq⟩
    intro c c' hloses
    exact { hloses with closedByService_eq := rfl }
  tick := by
    intro w w' h
    have hfirst : w'.meanwhile.headD [] = (w.meanwhile.headD []).filter (· ≠ .close id) := by
      rw [h.meanwhile_eq]
      cases w.meanwhile <;> rfl
    have hlater : w'.meanwhile.tail = w.meanwhile.tail.map (·.filter (· ≠ .close id)) := by
      rw [h.meanwhile_eq, List.map_tail]
    have hacts := (h.network.acts (w.meanwhile.headD [])).rejectWaiting
    rw [← hfirst] at hacts
    exact ⟨hacts, hlater⟩

/-- The time that a client has had so far, as an exchange with one that does not leave. -/
structure Tenure (t : Transport σ) (id : ConnectionId) (all : List Activity) (s : Server σ)
    (w : Surroundings) where
  done : List Activity
  received : Reassembly
  read : Bytes
  pending : Bytes
  messages : List (Except WireError Request)
  context : ServiceContext
  device : σ
  now : Exchange σ
  resyncs : Nat
  shadow : Surroundings
  all_eq : done ++ w.meanwhile.flatten = all
  connected : .connect id ∈ done
  read_eq : read ++ pending = wrote id all
  absorbs : Reassembly.standard.Absorbs read messages received
  proceeds : Exchange.Proceeds t messages ⟨context, device, []⟩ now
  shadows : Shadows id w shadow
  serves : Serves id received pending [] resyncs now s shadow

theorem account_of_loses {stream read : Bytes} {messages : List (Except WireError Request)}
    {received : Reassembly} {context : ServiceContext} {device : σ} {x : Exchange σ}
    {c c' : Connection} (hread : read <+: stream)
    (habsorbs : Reassembly.standard.Absorbs read messages received)
    (hproceeds : Exchange.Proceeds t messages ⟨context, device, []⟩ x) (hloses : c.Loses c')
    (hsent : c'.toClient = x.bytes) : Account t stream c read x := by
  rw [← habsorbs.drain_eq] at hproceeds
  refine ⟨hread, ⟨context, device, hproceeds⟩, ?_, fun hstays => ?_⟩
  · rw [← hsent]
    exact hloses.sent_le
  · rw [← hsent]
    exact hloses.sent_eq hstays

theorem Shadows.flatten_eq (h : Shadows id w w') :
    w'.meanwhile.flatten = w.meanwhile.flatten.filter (· ≠ .close id) := by
  rw [h.meanwhile_eq, List.filter_flatten]

theorem Shadows.keeps (h : Shadows id w w') (hconnect : .connect id ∉ w.meanwhile.flatten) :
    ∀ a ∈ w'.meanwhile.flatten, a.Keeps id := by
  intro a ha
  rw [h.flatten_eq] at ha
  obtain ⟨hmem, hclose⟩ := List.mem_filter.mp ha
  refine ⟨fun hsame => hconnect ?_, of_decide_eq_true hclose⟩
  rwa [hsame] at hmem

theorem Admitted.tenure (t : Transport σ) (honce : ConnectsOnce id all)
    (h : Admitted id all s w) : Nonempty (Tenure t id all s w) := by
  obtain ⟨done, rfl, huntouched⟩ := h.untouched
  obtain ⟨c, hc, hunread, hunsent, hopen⟩ := huntouched.lookup_eq
  obtain ⟨shadow, hnetwork, hmeanwhile⟩ : ∃ shadow : Surroundings,
      shadow.network = ⟨[(id, { toService := wrote id done })], w.network.waiting⟩ ∧
        shadow.meanwhile = w.meanwhile.map (·.filter (· ≠ .close id)) :=
    ⟨⟨_, _⟩, rfl, rfl⟩
  have hlookup : shadow.network.connections.lookup id =
      some { toService := wrote id done } := by
    rw [hnetwork, List.lookup_cons_self]
  have hshadows : Shadows id w shadow := by
    refine ⟨⟨by rw [hnetwork], c, _, hc, hlookup, hunread.symm, hopen.symm, rfl, ?_, ?_⟩,
      hmeanwhile⟩
    · exact hunsent ▸ List.prefix_rfl
    · exact fun _ => hunsent
  have hcarries : shadow.network.Carries id (wrote id done) [] := by
    refine ⟨hlookup, ?_⟩
    rw [hnetwork]
    exact h.not_waiting
  have hkeeps := hshadows.keeps (honce.not_mem huntouched.connected)
  exact ⟨{
    done
    received := .standard
    read := []
    pending := wrote id done ++ written id shadow.meanwhile.flatten
    messages := []
    context := s.context
    device := s.device
    now := ⟨s.context, s.device, []⟩
    resyncs := s.resyncs
    shadow
    all_eq := rfl
    connected := huntouched.connected
    read_eq := by
      rw [List.nil_append, hshadows.flatten_eq, written_filter, wrote_append huntouched.connected]
    absorbs := Reassembly.absorbs_nil Reassembly.idle_standard
    proceeds := .done _
    shadows := hshadows
    serves := ⟨⟨rfl, rfl, rfl, hkeeps⟩, rfl, h.client_eq, wrote id done, hcarries, rfl⟩ }⟩

namespace Tenure

theorem heard (h : Tenure t id all s w) : Nonempty (Tenure t id all (s.heard t).2 w) := by
  obtain ⟨r, s', -, hheard, hserves⟩ := hear_serves t h.serves
  rw [hheard]
  exact ⟨{ h with
    now := h.now.hear t
    proceeds := h.proceeds.hear
    serves := hserves }⟩

theorem read_le (h : Tenure t id all s w) : h.read <+: wrote id all := ⟨h.pending, h.read_eq⟩

theorem connection (h : Tenure t id all s w) :
    ∃ c unread, w.network.connections.lookup id = some c ∧ id ∉ w.network.waiting ∧
      h.shadow.network.Carries id unread h.now.bytes ∧
      c.Loses { toService := unread, toClient := h.now.bytes } ∧
      unread ++ written id h.shadow.meanwhile.flatten = h.pending := by
  obtain ⟨unread, hcarries, hpending⟩ := h.serves.carries
  obtain ⟨c, c', hc, hc', hloses⟩ := h.shadows.network.lookup_eq
  obtain rfl : { toService := unread, toClient := h.now.bytes } = c' :=
    Option.some.inj (hcarries.lookup_eq.symm.trans hc')
  have hwaiting := hcarries.not_waiting
  rw [h.shadows.network.waiting_eq] at hwaiting
  exact ⟨c, unread, hc, hwaiting, hcarries, hloses, hpending⟩

variable {held : Prop}

theorem turn_of_left (hheld : held) (h : Tenure t id all s w) {c : Connection}
    (hc : w.network.connections.lookup id = some c) (hunread : c.toService = [])
    (hleft : c.closedByClient = true) :
    Apart t held id all (s.turn t w).2 ∧ ¬(s.turn t w).1.Holds id := by
  obtain ⟨c₁, unread, hc₁, hwaiting, -, hloses, -⟩ := h.connection
  obtain rfl : c = c₁ := Option.some.inj (hc.symm.trans hc₁)
  have hfind : w.network.find id = c := by
    rw [Network.find, hc]
    rfl
  have hturn : s.turn t w = ({ s with client := none }, w.hangUp id) :=
    Server.turn_of_left h.serves.client_eq (hfind ▸ hleft) (hfind ▸ hunread)
  have hlookup : (w.hangUp id).network.connections.lookup id =
      some { c with closedByService := true } := by
    rw [Surroundings.hangUp, Network.hangUp, Network.lookup_modify, hc, Option.map_some, if_pos rfl]
  have hclosed : ({ c with closedByService := true } : Connection).Loses
      ⟨unread, h.now.bytes, false, true⟩ := { hloses with closedByService_eq := rfl }
  rw [hturn]
  refine ⟨⟨h.done, h.all_eq, .gone h.connected hlookup rfl hwaiting ?_⟩, ?_⟩
  · exact .inr ⟨hheld, h.read, h.now,
      account_of_loses h.read_le h.absorbs h.proceeds hclosed rfl⟩
  · rintro ⟨received, hheld⟩
    cases hheld

theorem turn_of_stays (hheld : held) (h : Tenure t id all s w)
    (hready : h.shadow.network.readable id = w.network.readable id) :
    Nonempty (Tenure t id all (s.turn t w).1 (s.turn t w).2) ∨
      Apart t held id all (s.turn t w).2 ∧ ¬(s.turn t w).1.Holds id := by
  obtain ⟨c, unread, hc, -, hcarries, hloses, hpending⟩ := h.connection
  have hsent : (h.shadow.network.find id).toService = (w.network.find id).toService := by
    rw [hcarries.find_eq, Network.find, hc]
    exact hloses.toService_eq
  obtain ⟨hserver, hshadows⟩ :=
    (preserved_shadows id).turn (t := t) h.serves.client_eq hready hsent h.shadows
  obtain ⟨messages, received, habsorbs, hserved⟩ :=
    turn_converse (t := t) h.absorbs.idle h.serves hcarries
  have habsorbs' := h.absorbs.append habsorbs
  have hproceeds := h.proceeds.append (Exchange.proceeds_converse t h.now messages)
  obtain ⟨early, hearly⟩ := turn_meanwhile t s w
  have hall : h.done ++ early ++ (s.turn t w).2.meanwhile.flatten = all := by
    rw [List.append_assoc, hearly, h.all_eq]
  have hconnected := List.mem_append_left early h.connected
  have hread : h.read ++ unread.take readChunk ++
      (unread.drop readChunk ++ written id h.shadow.meanwhile.flatten) = wrote id all := by
    rw [List.append_assoc, ← List.append_assoc (unread.take readChunk), List.take_append_drop,
      hpending, h.read_eq]
  rw [hserver] at hserved
  rcases hserved with hserves | hleft
  · exact .inl ⟨⟨h.done ++ early, received, _, _, _, h.context, h.device, _, h.resyncs, _, hall,
      hconnected, hread, habsorbs', hproceeds, hshadows, hserves⟩⟩
  · refine .inr ⟨⟨h.done ++ early, hall, ?_⟩, ?_⟩
    · obtain ⟨d, d', hd, hd', hdloses⟩ := hshadows.network.lookup_eq
      obtain ⟨d₁, hd₁, hdsent, hclosed⟩ := hleft.letGo.lookup_eq
      obtain rfl : d₁ = d' := Option.some.inj (hd₁.symm.trans hd')
      have hwaiting := hleft.letGo.not_waiting
      rw [hshadows.network.waiting_eq] at hwaiting
      refine .gone hconnected hd (hdloses.closedByService_eq.symm.trans hclosed) hwaiting
        (.inr ⟨hheld, _, _, account_of_loses ⟨_, hread⟩ habsorbs' hproceeds hdloses hdsent⟩)
    · rintro ⟨received', hheld⟩
      have hne := hleft.client_ne
      rw [hheld] at hne
      exact absurd hne (by simp)

theorem turn (hheld : held) (h : Tenure t id all s w) :
    Nonempty (Tenure t id all (s.turn t w).1 (s.turn t w).2) ∨
      Apart t held id all (s.turn t w).2 ∧ ¬(s.turn t w).1.Holds id := by
  obtain ⟨c, unread, hc, -, hcarries, hloses, -⟩ := h.connection
  have hsame : unread = c.toService := hloses.toService_eq
  subst hsame
  by_cases hgone : c.toService = [] ∧ c.closedByClient = true
  · exact .inr (h.turn_of_left hheld hc hgone.1 hgone.2)
  · refine h.turn_of_stays hheld ?_
    rw [Network.readable, hcarries.find_eq, Network.readable, Network.find, hc, Option.getD_some]
    cases hunread : c.toService with
    | nil =>
      have hstays : c.closedByClient = false := eq_false_of_ne_true fun h => hgone ⟨hunread, h⟩
      rw [hstays]
    | cons b rest => rfl

theorem rejectWaiting (h : Tenure t id all s w) :
    Nonempty (Tenure t id all s ⟨w.network.rejectWaiting, w.meanwhile⟩) := by
  obtain ⟨unread, hcarries, hpending⟩ := h.serves.carries
  exact ⟨{ h with
    shadow := ⟨h.shadow.network.rejectWaiting, h.shadow.meanwhile⟩
    shadows := ⟨h.shadows.network.rejectWaiting, h.shadows.meanwhile_eq⟩
    serves := { h.serves with carries := ⟨unread, hcarries.rejectWaiting, hpending⟩ } }⟩

theorem before {n : Network} {round : Round} (h : Tenure t id all s ⟨n, []⟩)
    (honce : ConnectsOnce id (all ++ round.activities)) :
    Nonempty (Tenure t id (all ++ round.activities) s
      ⟨round.before.foldl Network.act n, round.meanwhile⟩) := by
  obtain ⟨c, unread, -, -, hcarries, -, hpending⟩ := h.connection
  have hdone : h.done = all := by
    have hall := h.all_eq
    rwa [List.flatten_nil, List.append_nil] at hall
  have hconnected : .connect id ∈ all := hdone ▸ h.connected
  have hlater := honce.not_mem hconnected
  rw [h.shadows.flatten_eq, written_filter, List.flatten_nil, written, List.flatMap_nil,
    List.append_nil] at hpending
  obtain ⟨shadow, hnetwork, hmeanwhile⟩ : ∃ shadow : Surroundings,
      shadow.network = (round.before.filter (· ≠ .close id)).foldl Network.act h.shadow.network ∧
        shadow.meanwhile = round.meanwhile.map (·.filter (· ≠ .close id)) := ⟨⟨_, _⟩, rfl, rfl⟩
  have hshadows : Shadows id ⟨round.before.foldl Network.act n, round.meanwhile⟩ shadow :=
    ⟨hnetwork ▸ h.shadows.network.acts round.before, hmeanwhile⟩
  have hbefore : ∀ a ∈ round.before.filter (· ≠ .close id), a.Keeps id := by
    intro a ha
    obtain ⟨hmem, hclose⟩ := List.mem_filter.mp ha
    refine ⟨fun hsame => hlater ?_, of_decide_eq_true hclose⟩
    rw [← hsame]
    exact List.mem_append_left _ hmem
  have hacted := hcarries.acts hbefore
  rw [← hnetwork, written_filter] at hacted
  have hkeeps := hshadows.keeps fun hmem => hlater (List.mem_append_right _ hmem)
  exact ⟨{ h with
    done := all ++ round.before
    pending := unread ++ written id round.before ++ written id shadow.meanwhile.flatten
    shadow
    all_eq := List.append_assoc all _ _
    connected := List.mem_append_left _ hconnected
    read_eq := by
      rw [wrote_append hconnected, ← h.read_eq, ← hpending, hshadows.flatten_eq, written_filter,
        Round.activities, written_append]
      simp only [List.append_assoc]
    shadows := hshadows
    serves := { h.serves with keeps := hkeeps, carries := ⟨_, hacted, rfl⟩ } }⟩

theorem after (h : Tenure t id all s w) :
    Nonempty (Tenure t id all s ⟨w.meanwhile.flatten.foldl Network.act w.network, []⟩) := by
  have hshadows := h.shadows.network.acts w.meanwhile.flatten
  rw [← h.shadows.flatten_eq] at hshadows
  have hall : .connect id ∈ all := by
    rw [← h.all_eq]
    exact List.mem_append_left _ h.connected
  exact ⟨{ h with
    done := all
    shadow := ⟨h.shadow.meanwhile.flatten.foldl Network.act h.shadow.network, []⟩
    all_eq := List.append_nil all
    connected := hall
    shadows := ⟨hshadows, rfl⟩
    serves := settle_serves h.serves }⟩

end Tenure

end Server

end CardFirmware
