import CardFirmware.Device.Simulator
import CardFirmware.Proofs.Service.Tenure

/-! One client at a time. How any connection stands with a service is kept by every round
(`workRound_standing`), so that whatever clients do, the answers go to the one who asked and the
others have no part in it (`one_client_at_a_time`). -/

namespace CardFirmware.Server

variable {σ : Type} {t : Transport σ} {held : Prop} {id : ConnectionId}
  {done all : List Activity} {s : Server σ} {w : Surroundings} {n : Network}

def Standing (t : Transport σ) (held : Prop) (id : ConnectionId) (all : List Activity)
    (s : Server σ) (w : Surroundings) : Prop :=
  Apart t held id all w ∧ ¬s.Holds id ∨ Nonempty (Tenure t id all s w)

theorem Tenure.holds (h : Tenure t id all s w) : s.Holds id := ⟨h.received, h.serves.client_eq⟩

section Round

variable (honce : ConnectsOnce id all)
include honce

theorem turn_standing (hheld : s.Holds id → held) (h : Standing t held id all s w) :
    Standing t held id all (s.turn t w).1 (s.turn t w).2 := by
  rcases h with ⟨hapart, hnot⟩ | ⟨⟨htenure⟩⟩
  · exact .inl ⟨turn_apart honce hnot hapart, turn_not_holds hnot⟩
  · exact (htenure.turn (hheld htenure.holds)).symm

theorem acceptWaiting_standing (h : Standing t held id all s w) :
    Standing t held id all (s.acceptWaiting w).1 (s.acceptWaiting w).2 := by
  rcases h with ⟨hapart, hnot⟩ | ⟨⟨htenure⟩⟩
  · rcases acceptWaiting_apart hnot hapart with hstill | hadmitted
    · exact .inl hstill
    · exact .inr (hadmitted.tenure t honce)
  · rw [acceptWaiting_of_some htenure.serves.client_eq]
    exact .inr htenure.rejectWaiting

theorem poll_standing (hheld : s.Holds id → held) (h : Standing t held id all s w) :
    Standing t held id all (s.poll t w).2.1 (s.poll t w).2.2 := by
  have hheard : Standing t held id all (s.heard t).2 w := by
    rcases h with ⟨hapart, hnot⟩ | ⟨⟨htenure⟩⟩
    · exact .inl ⟨hapart, fun hholds => hnot (heard_holds.mp hholds)⟩
    · exact .inr htenure.heard
  have hheld' : (s.heard t).2.Holds id → held := fun hholds => hheld (heard_holds.mp hholds)
  rcases poll_cases t s with ⟨e, hpoll⟩ | hpoll
  · rw [hpoll]
    exact hheard
  · rw [hpoll]
    exact acceptWaiting_standing honce (turn_standing honce hheld' hheard)

end Round

theorem Standing.before {round : Round} (honce : ConnectsOnce id (all ++ round.activities))
    (h : Standing t held id all s ⟨n, []⟩) :
    Standing t held id (all ++ round.activities) s
      ⟨round.before.foldl Network.act n, round.meanwhile⟩ := by
  rcases h with ⟨hapart, hnot⟩ | ⟨⟨htenure⟩⟩
  · exact .inl ⟨hapart.before honce, hnot⟩
  · exact .inr (htenure.before honce)

theorem workRound_standing {round : Round} (honce : ConnectsOnce id (all ++ round.activities))
    (hheld : s.Holds id → held) (h : Standing t held id all s ⟨n, []⟩) :
    Standing t held id (all ++ round.activities) (s.workRound t round n).1
      ⟨(s.workRound t round n).2, []⟩ := by
  rcases poll_standing honce hheld (h.before honce) with ⟨hapart, hnot⟩ | ⟨⟨htenure⟩⟩
  · exact .inl ⟨hapart.after honce, hnot⟩
  · exact .inr htenure.after

theorem work_standing {rounds : List Round}
    (honce : ConnectsOnce id (all ++ rounds.flatMap Round.activities))
    (hheld : ∀ k, (s.work t (rounds.take k) n).1.Holds id → held)
    (h : Standing t held id all s ⟨n, []⟩) :
    Standing t held id (all ++ rounds.flatMap Round.activities) (s.work t rounds n).1
      ⟨(s.work t rounds n).2, []⟩ := by
  induction rounds generalizing all s n with
  | nil =>
    rw [List.flatMap_nil, List.append_nil]
    exact h
  | cons round rounds ih =>
    rw [List.flatMap_cons, ← List.append_assoc] at honce ⊢
    rw [work_cons]
    exact ih honce (fun k => hheld (k + 1)) (workRound_standing honce.left (hheld 0) h)

theorem standing_start (hnone : s.client = none) : Standing t held id [] s { network := {} } := by
  refine .inl ⟨⟨[], rfl, .absent List.not_mem_nil rfl List.not_mem_nil⟩, ?_⟩
  rintro ⟨received, hholds⟩
  rw [hnone] at hholds
  cases hholds

theorem poll_holds (h : (s.poll t w).2.1.Holds id) :
    s.Holds id ∨ ((s.heard t).2.turn t w).1.client = none ∧
      ((s.heard t).2.turn t w).2.network.waiting.head? = some id ∧
      (s.poll t w).2.1.client = some ⟨id, .standard⟩ := by
  by_cases hbefore : s.Holds id
  · exact .inl hbefore
  refine .inr ?_
  rw [← heard_holds (t := t)] at hbefore
  rcases poll_cases t s with ⟨e, hpoll⟩ | hpoll
  · rw [hpoll] at h
    exact absurd h hbefore
  · rw [hpoll] at h ⊢
    generalize (s.heard t).2 = s' at hbefore h ⊢
    have hclient := (acceptWaiting_eq (s'.turn t w).1 (s'.turn t w).2).2.2
    obtain ⟨received, hholds⟩ := h
    have hchoice := hholds
    rw [hclient, Option.or_eq_some_iff] at hchoice
    rcases hchoice with hkept | ⟨hnone, hfirst⟩
    · exact absurd ⟨received, hkept⟩ (turn_not_holds hbefore)
    · obtain ⟨first, hhead, heq⟩ := Option.map_eq_some_iff.mp hfirst
      obtain rfl : first = id := congrArg Client.id heq
      rw [← heq] at hholds
      exact ⟨hnone, hhead, hholds⟩

section Passed

theorem poll_passed (hwaiting : id ∉ w.network.waiting) :
    id ∉ (s.poll t w).2.2.network.waiting ∧ (¬s.Holds id → ¬(s.poll t w).2.1.Holds id) ∧
      ∃ early, early ++ (s.poll t w).2.2.meanwhile.flatten = w.meanwhile.flatten := by
  have hturned (s' : Server σ) : id ∉ (s'.turn t w).2.network.waiting := by
    rcases turn_waiting t s' w with hsame | hnone
    · rw [hsame]
      exact hwaiting
    · rw [hnone]
      exact List.not_mem_nil
  have hnot : ¬s.Holds id → ¬(s.poll t w).2.1.Holds id := by
    intro hbefore hholds
    rcases poll_holds hholds with hheld | ⟨-, hfirst, -⟩
    · exact hbefore hheld
    · exact hturned _ (List.mem_of_head? hfirst)
  rcases poll_cases t s with ⟨e, hpoll⟩ | hpoll
  · rw [hpoll] at hnot ⊢
    exact ⟨hwaiting, hnot, [], rfl⟩
  · rw [hpoll] at hnot ⊢
    generalize (s.heard t).2 = s' at hnot ⊢
    obtain ⟨hnobody, hmeanwhile, -⟩ := acceptWaiting_eq (s'.turn t w).1 (s'.turn t w).2
    refine ⟨?_, hnot, ?_⟩
    · rw [hnobody]
      exact List.not_mem_nil
    · rw [hmeanwhile]
      exact turn_meanwhile t s' w

theorem not_waiting_acts {activities : List Activity} (hwaiting : id ∉ n.waiting)
    (hconnect : .connect id ∉ activities) : id ∉ (activities.foldl Network.act n).waiting := by
  induction activities generalizing n with
  | nil => exact hwaiting
  | cons a activities ih =>
    obtain ⟨ha, hlater⟩ := not_or.mp (fun hmem => hconnect (List.mem_cons.mpr hmem))
    exact ih (Network.not_waiting_act (Ne.symm ha) hwaiting) hlater

theorem workRound_passed {round : Round} (hwaiting : id ∉ n.waiting)
    (hconnect : .connect id ∉ round.activities) :
    id ∉ (s.workRound t round n).2.waiting ∧
      (¬s.Holds id → ¬(s.workRound t round n).1.Holds id) := by
  obtain ⟨hbefore, hmeanwhile⟩ := not_or.mp (fun hmem => hconnect (List.mem_append.mpr hmem))
  obtain ⟨hafter, hnot, early, hearly⟩ := poll_passed (t := t) (s := s)
    (w := ⟨round.before.foldl Network.act n, round.meanwhile⟩) (not_waiting_acts hwaiting hbefore)
  refine ⟨not_waiting_acts hafter fun hmem => hmeanwhile ?_, hnot⟩
  rw [← hearly]
  exact List.mem_append_right _ hmem

theorem work_passed {rounds : List Round} (hwaiting : id ∉ n.waiting)
    (hconnect : .connect id ∉ rounds.flatMap Round.activities) :
    id ∉ (s.work t rounds n).2.waiting ∧ (¬s.Holds id → ¬(s.work t rounds n).1.Holds id) := by
  induction rounds generalizing s n with
  | nil => exact ⟨hwaiting, fun hnot => hnot⟩
  | cons round rounds ih =>
    rw [List.flatMap_cons, List.mem_append, not_or] at hconnect
    obtain ⟨hafter, hnot⟩ := workRound_passed (t := t) (s := s) hwaiting hconnect.1
    obtain ⟨hlater, hnot'⟩ := ih hafter hconnect.2
    exact ⟨hlater, fun h => hnot' (hnot h)⟩

theorem never_of_passed {rounds : List Round} (hnot : ¬s.Holds id) (hwaiting : id ∉ n.waiting)
    (hconnect : .connect id ∉ rounds.flatMap Round.activities) :
    NeverHolds t id rounds s n := by
  induction rounds generalizing s n with
  | nil =>
    intro k
    rw [List.take_nil]
    exact hnot
  | cons round rounds ih =>
    rw [List.flatMap_cons, List.mem_append, not_or] at hconnect
    obtain ⟨hafter, hnot'⟩ := workRound_passed (t := t) (s := s) hwaiting hconnect.1
    exact .cons hnot (ih (hnot' hnot) hafter hconnect.2)

end Passed

namespace Standing

variable {c : Connection}

theorem holds_iff (h : Standing t held id all s w)
    (hc : w.network.connections.lookup id = some c) :
    s.Holds id ↔ id ∉ w.network.waiting ∧ c.closedByService = false := by
  rcases h with ⟨⟨done, -, haside⟩, hnot⟩ | ⟨⟨htenure⟩⟩
  · refine iff_of_false hnot ?_
    rintro ⟨hwaiting, hopen⟩
    cases haside with
    | absent _ hnone _ =>
      rw [hc] at hnone
      cases hnone
    | waits _ hcount =>
      rw [List.count_eq_zero.mpr hwaiting] at hcount
      cases hcount
    | gone _ hlookup hclosed _ _ =>
      obtain rfl := Option.some.inj (hc.symm.trans hlookup)
      rw [hclosed] at hopen
      cases hopen
  · obtain ⟨c', unread, hc', hwaiting, -, hloses, -⟩ := htenure.connection
    obtain rfl := Option.some.inj (hc.symm.trans hc')
    exact iff_of_true htenure.holds ⟨hwaiting, hloses.closedByService_eq.symm⟩

theorem settled (h : Standing t held id all s w) (hheld : s.Holds id → held)
    (hc : w.network.connections.lookup id = some c) : Settled t held (wrote id all) c := by
  rcases h with ⟨⟨done, hall, haside⟩, hnot⟩ | ⟨⟨htenure⟩⟩
  · cases haside with
    | absent _ hnone _ =>
      rw [hc] at hnone
      cases hnone
    | waits huntouched _ =>
      obtain ⟨c', hc', hunread, hunsent, -⟩ := huntouched.lookup_eq
      obtain rfl := Option.some.inj (hc.symm.trans hc')
      refine .inl ⟨?_, hunsent⟩
      rw [hunread, ← hall]
      exact wrote_le id _ _
    | gone _ hlookup _ _ hsettled =>
      obtain rfl := Option.some.inj (hc.symm.trans hlookup)
      exact hsettled
  · obtain ⟨c', unread, hc', -, -, hloses, -⟩ := htenure.connection
    obtain rfl := Option.some.inj (hc.symm.trans hc')
    exact .inr ⟨hheld htenure.holds, htenure.read, htenure.now,
      account_of_loses htenure.read_le htenure.absorbs htenure.proceeds hloses rfl⟩

theorem connected (h : Standing t held id all s w)
    (hc : w.network.connections.lookup id = some c) :
    ∃ done, done ++ w.meanwhile.flatten = all ∧ .connect id ∈ done := by
  rcases h with ⟨⟨done, hall, haside⟩, -⟩ | ⟨⟨htenure⟩⟩
  · refine ⟨done, hall, ?_⟩
    cases haside with
    | absent _ hnone _ =>
      rw [hc] at hnone
      cases hnone
    | waits huntouched _ => exact huntouched.connected
    | gone hdone _ _ _ _ => exact hdone
  · exact ⟨htenure.done, htenure.all_eq, htenure.connected⟩

theorem client (h : Standing t held id all s ⟨n, []⟩) (hholds : s.Holds id) :
    ∃ c read x, n.connections.lookup id = some c ∧ read ++ c.toService = wrote id all ∧
      Account t (wrote id all) c read x ∧ x.isOver = false ∧ s.context = x.context ∧
      s.device = x.device := by
  rcases h with ⟨-, hnot⟩ | ⟨⟨htenure⟩⟩
  · exact absurd hholds hnot
  · obtain ⟨c, unread, hc, -, -, hloses, hpending⟩ := htenure.connection
    have hserves := htenure.serves
    have hread := htenure.read_eq
    rw [htenure.shadows.flatten_eq, written_filter, List.flatten_nil, written, List.flatMap_nil,
      List.append_nil] at hpending
    rw [← hpending] at hread
    obtain rfl : unread = c.toService := hloses.toService_eq
    exact ⟨c, htenure.read, htenure.now, hc, hread,
      account_of_loses htenure.read_le htenure.absorbs htenure.proceeds hloses rfl,
      hserves.isOver_eq, hserves.context_eq, hserves.device_eq⟩

end Standing

theorem poll_client (t : Transport σ) (s : Server σ) (w : Surroundings)
    (hok : (s.poll t w).1 = .ok ()) :
    let (s', w') := (s.heard t).2.turn t w
    (s.poll t w).2.2.network.waiting = [] ∧ (s.client = none → s'.client = none ∧ w' = w) ∧
      (∀ c, s.client = some c → (s'.Holds c.id ∨ s'.client = none) ∧
        ((w.network.find c.id).closedByClient = true → (w.network.find c.id).toService = [] →
          s'.client = none)) ∧
      (s.poll t w).2.1.client =
        s'.client.or (w'.network.waiting.head?.map fun id => ⟨id, .standard⟩) := by
  rw [← heard_client t s]
  rcases poll_cases t s with ⟨e, hpoll⟩ | hpoll
  · rw [hpoll] at hok
    cases hok
  · rw [hpoll]
    generalize (s.heard t).2 = s'
    obtain ⟨hnobody, -, hclient⟩ := acceptWaiting_eq (s'.turn t w).1 (s'.turn t w).2
    refine ⟨hnobody, fun hnone => ?_, fun c hc => ⟨?_, fun hleft hunread => ?_⟩, hclient⟩
    · show (s'.turn t w).1.client = none ∧ (s'.turn t w).2 = w
      rw [turn_of_none hnone]
      exact ⟨hnone, rfl⟩
    · exact turn_client hc
    · show (s'.turn t w).1.client = none
      rw [turn_of_left hc hleft hunread]

section Start

variable {rounds : List Round} (hnone : s.client = none)
include hnone

theorem standing_of_start (honce : ConnectsOnce id (rounds.flatMap Round.activities))
    (hheld : ∀ k, (s.work t (rounds.take k) {}).1.Holds id → held) :
    Standing t held id (rounds.flatMap Round.activities) (s.work t rounds {}).1
      ⟨(s.work t rounds {}).2, []⟩ := by
  have hstart : Standing t held id [] s { network := {} } := standing_start hnone
  exact work_standing honce hheld hstart

theorem never_before {round : Round}
    (honce : ConnectsOnce id ((rounds ++ [round]).flatMap Round.activities))
    (hnew : id ∈ (round.before.foldl Network.act (s.work t rounds {}).2).waiting ∨
      .connect id ∈ round.meanwhile.flatten) : NeverHolds t id rounds s {} := by
  intro k hholds
  have hsplit : (rounds ++ [round]).flatMap Round.activities =
      (rounds.take k).flatMap Round.activities ++
        ((rounds.drop k).flatMap Round.activities ++ round.activities) := by
    rw [List.flatMap_append, List.flatMap_singleton, ← List.append_assoc, ← List.flatMap_append,
      List.take_append_drop]
  rw [hsplit] at honce
  have hstanding : Standing t True id ((rounds.take k).flatMap Round.activities) _ ⟨_, []⟩ :=
    standing_of_start hnone honce.left fun _ _ => trivial
  rcases hstanding with ⟨-, hnot⟩ | ⟨⟨htenure⟩⟩
  · exact hnot hholds
  · obtain ⟨c, unread, hc, hwaiting, -⟩ := htenure.connection
    have hconnected : .connect id ∈ (rounds.take k).flatMap Round.activities := by
      rw [← htenure.all_eq]
      exact List.mem_append_left _ htenure.connected
    have hlater := honce.not_mem hconnected
    rw [List.mem_append, not_or] at hlater
    have hpassed := (work_passed (t := t) (s := (s.work t (rounds.take k) {}).1) hwaiting
      hlater.1).1
    rw [← work_append, List.take_append_drop] at hpassed
    rw [Round.activities, List.mem_append, not_or] at hlater
    rcases hnew with hwaits | hconnects
    · exact not_waiting_acts hpassed hlater.2.1 hwaits
    · exact hlater.2.2 hconnects

theorem accepted_or_turned_away {later : List Round} {round : Round} {c : Connection}
    (honce : ConnectsOnce id ((rounds ++ round :: later).flatMap Round.activities))
    (hw : w = ⟨round.before.foldl Network.act (s.work t rounds {}).2, round.meanwhile⟩)
    (hnew : id ∈ w.network.waiting ∨ .connect id ∈ w.meanwhile.flatten)
    (hc : ((s.work t rounds {}).1.poll t w).2.2.network.connections.lookup id = some c)
    (hwaiting : id ∉ ((s.work t rounds {}).1.poll t w).2.2.network.waiting) :
    ((((s.work t rounds {}).1.heard t).2.turn t w).1.client = none ∧
        (((s.work t rounds {}).1.heard t).2.turn t w).2.network.waiting.head? = some id ∧
        ((s.work t rounds {}).1.poll t w).2.1.client = some ⟨id, .standard⟩) ∨
      c.closedByService = true ∧ NeverHolds t id (rounds ++ round :: later) s {} := by
  subst hw
  have hsplit : (rounds ++ round :: later).flatMap Round.activities =
      (rounds.flatMap Round.activities ++ round.activities) ++ later.flatMap Round.activities := by
    rw [List.flatMap_append, List.flatMap_cons, List.append_assoc]
  rw [hsplit] at honce
  have hbefore : NeverHolds t id rounds s {} := by
    refine never_before hnone ?_ hnew
    rw [List.flatMap_append, List.flatMap_singleton]
    exact honce.left
  by_cases hholds : ((s.work t rounds {}).1.poll t
      ⟨round.before.foldl Network.act (s.work t rounds {}).2, round.meanwhile⟩).2.1.Holds id
  · exact .inl ((poll_holds hholds).resolve_left hbefore.last)
  · have hstart : Standing t True id (rounds.flatMap Round.activities) _ ⟨_, []⟩ :=
      standing_of_start hnone honce.left.left fun _ _ => trivial
    have hend := poll_standing honce.left (fun _ => trivial) (hstart.before honce.left)
    have hclosed : c.closedByService = true := by
      refine eq_true_of_ne_false fun hopen => hholds ?_
      exact (hend.holds_iff hc).mpr ⟨hwaiting, hopen⟩
    -- whoever has a connection by now has connected, and does not connect again
    obtain ⟨done, hdone, hconnected⟩ := hend.connected hc
    rw [← hdone, List.append_assoc] at honce
    obtain ⟨hleft, hlater⟩ := not_or.mp fun hmem =>
      honce.not_mem hconnected (List.mem_append.mpr hmem)
    refine .inr ⟨hclosed, hbefore.append (.cons hbefore.last (never_of_passed hholds ?_ hlater))⟩
    exact not_waiting_acts hwaiting hleft

end Start

/-- A service without a client works on while clients connect, write and leave as they like, each
with a number of its own. At any time the connection of the client is the only open one of those
that were accepted, what was sent on a connection answers what it wrote, and the service is where
the exchange with its client has come to. In a round everybody who waits is accepted: the first one
is the client if there is none after the turn of the last client, who is let go if it has left, and
is then new to the service. Whoever is turned away never is the client. Who never was the client was
not read, was sent nothing, and made no difference to the service or to anybody else. -/
theorem one_client_at_a_time (t : Transport σ) (s : Server σ) (rounds later : List Round)
    (round : Round) (hnone : s.client = none)
    (honce : ∀ id, ConnectsOnce id ((rounds ++ round :: later).flatMap Round.activities)) :
    let s₁ := (s.work t rounds {}).1
    let n₁ := (s.work t rounds {}).2
    let w : Surroundings := ⟨round.before.foldl Network.act n₁, round.meanwhile⟩
    let turned := (s₁.heard t).2.turn t w
    let polled := s₁.poll t w
    let worked := s.work t (rounds ++ round :: later) {}
    (∀ id c, n₁.connections.lookup id = some c →
        (s₁.Holds id ↔ id ∉ n₁.waiting ∧ c.closedByService = false) ∧
        (c.toClient = [] ∨
          ∃ read x, Account t (wrote id (rounds.flatMap Round.activities)) c read x)) ∧
      (∀ id, s₁.Holds id → ∃ c read x, n₁.connections.lookup id = some c ∧
        read ++ c.toService = wrote id (rounds.flatMap Round.activities) ∧
        Account t (wrote id (rounds.flatMap Round.activities)) c read x ∧
        x.isOver = false ∧ s₁.context = x.context ∧ s₁.device = x.device) ∧
      (polled.1 = .ok () → polled.2.2.network.waiting = [] ∧
        (s₁.client = none → turned.1.client = none ∧ turned.2 = w) ∧
        (∀ c, s₁.client = some c → (turned.1.Holds c.id ∨ turned.1.client = none) ∧
          ((w.network.find c.id).closedByClient = true → (w.network.find c.id).toService = [] →
            turned.1.client = none)) ∧
        polled.2.1.client =
          turned.1.client.or (turned.2.network.waiting.head?.map fun id => ⟨id, .standard⟩)) ∧
      (∀ id c, id ∈ w.network.waiting ∨ .connect id ∈ w.meanwhile.flatten →
        polled.2.2.network.connections.lookup id = some c →
          id ∉ polled.2.2.network.waiting →
            (turned.1.client = none ∧ turned.2.network.waiting.head? = some id ∧
                polled.2.1.client = some ⟨id, .standard⟩) ∨
              c.closedByService = true ∧ NeverHolds t id (rounds ++ round :: later) s {}) ∧
      ∀ id, NeverHolds t id (rounds ++ round :: later) s {} →
        s.work t ((rounds ++ round :: later).map (·.without id)) {} =
            (worked.1, worked.2.without id) ∧
          ∀ c, worked.2.connections.lookup id = some c → c.toClient = [] ∧
            c.toService <+: wrote id ((rounds ++ round :: later).flatMap Round.activities) := by
  have hprior (id : ConnectionId) : ConnectsOnce id (rounds.flatMap Round.activities) := by
    have hall := honce id
    rw [List.flatMap_append] at hall
    exact hall.left
  have hnow (id : ConnectionId) : Standing t True id (rounds.flatMap Round.activities)
      (s.work t rounds {}).1 ⟨(s.work t rounds {}).2, []⟩ :=
    standing_of_start hnone (hprior id) fun _ _ => trivial
  refine ⟨fun id c hc => ⟨(hnow id).holds_iff hc, ?_⟩, fun id hholds => (hnow id).client hholds,
    poll_client t _ _, fun id c hnew hc hwaiting => ?_, fun id hnever => ⟨?_, fun c hc => ?_⟩⟩
  · rcases (hnow id).settled (fun _ => trivial) hc with ⟨-, hunsent⟩ | ⟨-, hanswered⟩
    · exact .inl hunsent
    · exact .inr hanswered
  · exact accepted_or_turned_away hnone (honce id) rfl hnew hc hwaiting
  · exact work_without hnever
  · have hend : Standing t False id _ _ ⟨_, []⟩ :=
      standing_of_start hnone (honce id) hnever
    rcases hend.settled hnever.last hc with ⟨hunread, hunsent⟩ | ⟨hwas, -⟩
    · exact ⟨hunsent, hunread⟩
    · exact hwas.elim

/-- While the config is erased for one client a second one waits and a third one connects at a tick.
The first one leaves before the erasing ends. -/
theorem others_turned_away_while_erasing :
    let t := Simulator.transport
    let s : Server Simulator :=
      { device := { Simulator.fourRoles with eraseScript := [10] }
        context := { usbId := ⟨1, 2⟩, firmwareBuild := 3 }
        config := { card := 0, socketDirectory := "run" } }
    let erase : Round := ⟨[.write 1 RequestType.configErase.message, .connect 2],
      [[.connect 3, .write 3 RequestType.reboot.message], [.close 1], [.connect 4]]⟩
    let rounds : List Round := [⟨[.connect 1], []⟩] ++ erase :: [⟨[], []⟩]
    s.client = none ∧ (∀ id, ConnectsOnce id (rounds.flatMap Round.activities)) ∧
      ∀ id ∈ [2, 3], NeverHolds t id rounds s {} ∧
        s.work t (rounds.map (·.without id)) {} =
          ((s.work t rounds {}).1, (s.work t rounds {}).2.without id) ∧
        ∀ c, (s.work t rounds {}).2.connections.lookup id = some c →
          c.toClient = [] ∧ c.toService <+: wrote id (rounds.flatMap Round.activities) := by
  intro t s erase rounds
  have hnone : s.client = none := rfl
  have honce : ∀ id, ConnectsOnce id (rounds.flatMap Round.activities) := by
    have hnodup : (rounds.flatMap Round.activities).Nodup := by decide +kernel
    exact fun id => List.nodup_iff_count.mp hnodup (.connect id)
  have hround :
      let done := s.work t [⟨[.connect 1], []⟩] {}
      let w : Surroundings := ⟨erase.before.foldl Network.act done.2, erase.meanwhile⟩
      ((done.1.heard t).2.turn t w).1.client ≠ none ∧
        ∀ id ∈ [2, 3], (id ∈ w.network.waiting ∨ .connect id ∈ w.meanwhile.flatten) ∧
          ((done.1.poll t w).2.2.network.connections.lookup id).isSome = true ∧
          id ∉ (done.1.poll t w).2.2.network.waiting := by
    decide +kernel
  have hall := one_client_at_a_time t s [⟨[.connect 1], []⟩] [⟨[], []⟩] erase hnone honce
  refine ⟨hnone, honce, fun id hid => ?_⟩
  generalize s.work t rounds {} = worked at hall ⊢
  obtain ⟨hkept, hothers⟩ := hround
  obtain ⟨-, -, -, haccepted, hwithout⟩ := hall
  obtain ⟨hnew, hlookup, hwaiting⟩ := hothers id hid
  obtain ⟨c, hc⟩ := Option.isSome_iff_exists.mp hlookup
  rcases haccepted id c hnew hc hwaiting with ⟨hfree, -⟩ | ⟨-, hnever⟩
  · exact absurd hfree hkept
  · exact ⟨hnever, hwithout id hnever⟩

end CardFirmware.Server
