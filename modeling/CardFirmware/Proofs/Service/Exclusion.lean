import CardFirmware.Proofs.Service.Conversation
import CardFirmware.Proofs.Service.Turns

/-! A service that works on while clients come and go. A connection that never is the client has no
part in it: without the connection the service would have done the same (`work_without`). -/

namespace CardFirmware

def Activity.id : Activity → ConnectionId
  | connect id | write id _ | close id => id

namespace Network

def without (id : ConnectionId) (n : Network) : Network :=
  { connections := n.connections.filter (·.1 ≠ id), waiting := n.waiting.filter (· ≠ id) }

variable {n : Network} {id other : ConnectionId}

theorem without_modify (f : Connection → Connection) :
    (n.modify other f).without id = (n.without id).modify other f := by
  have hconnections : ((n.modify other f).without id).connections =
      ((n.without id).modify other f).connections := by
    rw [connections_modify, without, connections_modify, List.filter_map]
    rfl
  exact congrArg (Network.mk · (n.waiting.filter (· ≠ id))) hconnections

theorem modify_without (f : Connection → Connection) :
    (n.without id).modify id f = n.without id := by
  have hconnections : ((n.without id).modify id f).connections = (n.without id).connections := by
    rw [connections_modify]
    refine (List.map_congr_left fun entry hentry => ?_).trans (List.map_id' _)
    have hne : entry.1 ≠ id := of_decide_eq_true (List.mem_filter.mp hentry).2
    rw [if_neg hne]
  exact congrArg (Network.mk · (n.without id).waiting) hconnections

theorem without_act {a : Activity} (h : a.id ≠ id) :
    (n.act a).without id = (n.without id).act a := by
  cases a with
  | connect i =>
    have hi : i ≠ id := h
    simp [act, without, List.filter_append, hi]
  | write i data => exact without_modify _
  | close i => exact without_modify _

theorem without_act_self {a : Activity} (h : a.id = id) : (n.act a).without id = n.without id := by
  cases a with
  | connect i =>
    have hi : i = id := h
    simp [act, without, List.filter_append, hi]
  | write i data =>
    obtain rfl : i = id := h
    exact (without_modify _).trans (modify_without _)
  | close i =>
    obtain rfl : i = id := h
    exact (without_modify _).trans (modify_without _)

theorem without_acts (activities : List Activity) :
    (activities.foldl act n).without id =
      (activities.filter (·.id ≠ id)).foldl act (n.without id) := by
  induction activities generalizing n with
  | nil => rfl
  | cons a activities ih =>
    rw [List.foldl_cons, ih]
    by_cases ha : a.id = id
    · rw [without_act_self ha, List.filter_cons_of_neg (by simp [ha])]
    · rw [without_act ha, List.filter_cons_of_pos (by simp [ha]), List.foldl_cons]

theorem without_rejectWaiting : n.rejectWaiting.without id = (n.without id).rejectWaiting := by
  have hall (ids : List ConnectionId) (n : Network) : (ids.foldl hangUp n).without id =
      (ids.filter (· ≠ id)).foldl hangUp (n.without id) := by
    induction ids generalizing n with
    | nil => rfl
    | cons i ids ih =>
      rw [List.foldl_cons, ih, hangUp, without_modify]
      by_cases hi : i = id
      · rw [hi, modify_without, List.filter_cons_of_neg (by simp)]
      · rw [List.filter_cons_of_pos (by simp [hi]), List.foldl_cons, hangUp]
  exact congrArg (fun m => Network.mk m.connections []) (hall n.waiting n)

theorem find_without (h : other ≠ id) : (n.without id).find other = n.find other := by
  have hlookup : (n.without id).connections.lookup other = n.connections.lookup other := by
    rw [without]
    induction n.connections with
    | nil => rfl
    | cons entry entries ih =>
      by_cases hentry : entry.1 = id
      · have hne : (other == entry.1) = false := beq_false_of_ne (hentry ▸ h)
        rw [List.filter_cons_of_neg (by simp [hentry]), ih, List.lookup_cons, hne]
      · rw [List.filter_cons_of_pos (by simp [hentry]), List.lookup_cons, List.lookup_cons, ih]
  rw [find, find, hlookup]

end Network

namespace Server

variable {σ : Type} {t : Transport σ} {id : ConnectionId} {s : Server σ} {w : Surroundings}

def Surroundings.without (id : ConnectionId) (w : Surroundings) : Surroundings :=
  ⟨w.network.without id, w.meanwhile.map (·.filter (·.id ≠ id))⟩

def Holds (id : ConnectionId) (s : Server σ) : Prop := ∃ received, s.client = some ⟨id, received⟩

theorem heard_holds : (s.heard t).2.Holds id ↔ s.Holds id := by
  rw [Holds, heard_client, Holds]

theorem turn_not_holds (h : ¬s.Holds id) : ¬(s.turn t w).1.Holds id := by
  rintro ⟨received, hholds⟩
  cases hclient : s.client with
  | none =>
    rw [turn_of_none hclient] at hholds
    exact h ⟨received, hholds⟩
  | some c =>
    rcases turn_client (t := t) (w := w) hclient with ⟨received', hkept⟩ | hnone
    · obtain rfl : c.id = id := congrArg Client.id (Option.some.inj (hkept.symm.trans hholds))
      exact h ⟨c.received, hclient⟩
    · rw [hnone] at hholds
      cases hholds

theorem preserved_without (id other : ConnectionId) :
    Preserved other fun w w' => w' = w.without id where
  send := by
    rintro w _ data rfl
    exact congrArg (Surroundings.mk · _) (Network.without_modify _).symm
  read := by
    rintro w _ rfl
    exact congrArg (Surroundings.mk · _) (Network.without_modify _).symm
  hangUp := by
    rintro w _ rfl
    exact congrArg (Surroundings.mk · _) (Network.without_modify _).symm
  tick := by
    rintro w _ rfl
    have hfirst : (w.without id).meanwhile.headD [] =
        (w.meanwhile.headD []).filter (·.id ≠ id) := by
      unfold Surroundings.without
      cases w.meanwhile <;> rfl
    have hlater : (w.without id).meanwhile.tail = w.tick.meanwhile.map (·.filter (·.id ≠ id)) :=
      List.map_tail.symm
    rw [Surroundings.tick, hfirst, hlater]
    refine congrArg (Surroundings.mk · _) ?_
    show _ = Network.without id _
    rw [Surroundings.tick, Network.without_rejectWaiting, Network.without_acts]
    rfl

theorem turn_without (h : ¬s.Holds id) :
    s.turn t (w.without id) = ((s.turn t w).1, (s.turn t w).2.without id) := by
  cases hclient : s.client with
  | none => rw [turn_of_none hclient, turn_of_none hclient]
  | some c =>
    obtain ⟨other, received⟩ := c
    have hother : other ≠ id := by
      rintro rfl
      exact h ⟨received, hclient⟩
    have hfind : (w.without id).network.find other = w.network.find other :=
      Network.find_without hother
    have hready : (w.without id).network.readable other = w.network.readable other := by
      rw [Network.readable, hfind, Network.readable]
    obtain ⟨hserver, hsurroundings⟩ :=
      (preserved_without id other).turn (t := t) hclient hready (by rw [hfind]) rfl
    exact Prod.ext hserver hsurroundings

theorem acceptWaiting_without (h : ¬(s.acceptWaiting w).1.Holds id) :
    s.acceptWaiting (w.without id) =
      ((s.acceptWaiting w).1, (s.acceptWaiting w).2.without id) := by
  cases hclient : s.client with
  | some c =>
    rw [acceptWaiting_of_some hclient, acceptWaiting_of_some hclient]
    exact congrArg (fun n => (s, Surroundings.mk n _)) Network.without_rejectWaiting.symm
  | none =>
    cases hwaiting : w.network.waiting with
    | nil =>
      have hnone : (w.without id).network.waiting = [] := congrArg (List.filter _) hwaiting
      rw [acceptWaiting_of_nil hwaiting, acceptWaiting_of_nil hnone]
    | cons first rest =>
      have hfirst : first ≠ id := by
        rintro rfl
        rw [acceptWaiting_of_cons hclient hwaiting] at h
        exact h ⟨_, rfl⟩
      have hleft : (w.without id).network.waiting = first :: rest.filter (· ≠ id) := by
        rw [Surroundings.without, Network.without, hwaiting]
        exact List.filter_cons_of_pos (p := (· ≠ id)) (decide_eq_true hfirst)
      rw [acceptWaiting_of_cons hclient hwaiting, acceptWaiting_of_cons hclient hleft]
      have hrest : Network.rejectWaiting
          ⟨(w.without id).network.connections, rest.filter (· ≠ id)⟩ =
            (Network.rejectWaiting ⟨w.network.connections, rest⟩).without id :=
        (Network.without_rejectWaiting (n := ⟨w.network.connections, rest⟩)).symm
      rw [hrest]
      rfl

theorem poll_without (h : ¬s.Holds id) (h' : ¬(s.poll t w).2.1.Holds id) :
    s.poll t (w.without id) =
      ((s.poll t w).1, (s.poll t w).2.1, (s.poll t w).2.2.without id) := by
  rw [← heard_holds (t := t)] at h
  rcases poll_cases t s with ⟨e, hpoll⟩ | hpoll
  · rw [hpoll, hpoll]
  · rw [hpoll] at h' ⊢
    rw [hpoll, turn_without h, acceptWaiting_without h']

def workRound (t : Transport σ) (round : Round) (s : Server σ) (n : Network) :
    Server σ × Network :=
  let (_, s, w) := s.poll t ⟨round.before.foldl Network.act n, round.meanwhile⟩
  (s, w.meanwhile.flatten.foldl Network.act w.network)

def work (t : Transport σ) (rounds : List Round) (s : Server σ) (n : Network) :
    Server σ × Network :=
  rounds.foldl (fun (s, n) round => s.workRound t round n) (s, n)

theorem work_cons (round : Round) (rounds : List Round) (n : Network) :
    s.work t (round :: rounds) n =
      (s.workRound t round n).1.work t rounds (s.workRound t round n).2 :=
  rfl

theorem work_append (rounds later : List Round) (n : Network) :
    s.work t (rounds ++ later) n =
      (s.work t rounds n).1.work t later (s.work t rounds n).2 := by
  rw [work, List.foldl_append]
  rfl

def NeverHolds (t : Transport σ) (id : ConnectionId) (rounds : List Round) (s : Server σ)
    (n : Network) : Prop :=
  ∀ k, ¬(s.work t (rounds.take k) n).1.Holds id

end Server

def Round.without (id : ConnectionId) (r : Round) : Round :=
  ⟨r.before.filter (·.id ≠ id), r.meanwhile.map (·.filter (·.id ≠ id))⟩

namespace Server

variable {σ : Type} {t : Transport σ} {id : ConnectionId} {s : Server σ} {n : Network}

theorem NeverHolds.cons {round : Round} {rounds : List Round} (h : ¬s.Holds id)
    (hlater : NeverHolds t id rounds (s.workRound t round n).1 (s.workRound t round n).2) :
    NeverHolds t id (round :: rounds) s n := by
  intro k
  cases k with
  | zero => exact h
  | succ k => exact hlater k

theorem NeverHolds.append {rounds later : List Round} (h : NeverHolds t id rounds s n)
    (hlater : NeverHolds t id later (s.work t rounds n).1 (s.work t rounds n).2) :
    NeverHolds t id (rounds ++ later) s n := by
  induction rounds generalizing s n with
  | nil => exact hlater
  | cons round rounds ih => exact .cons (h 0) (ih (fun k => h (k + 1)) hlater)

theorem NeverHolds.last {rounds : List Round} (h : NeverHolds t id rounds s n) :
    ¬(s.work t rounds n).1.Holds id := by
  have hlast := h rounds.length
  rwa [List.take_length] at hlast

theorem workRound_without {round : Round} (h : ¬s.Holds id)
    (h' : ¬(s.workRound t round n).1.Holds id) :
    s.workRound t (round.without id) (n.without id) =
      ((s.workRound t round n).1, (s.workRound t round n).2.without id) := by
  have hbefore : (⟨(round.without id).before.foldl Network.act (n.without id),
      (round.without id).meanwhile⟩ : Surroundings) =
        Surroundings.without id ⟨round.before.foldl Network.act n, round.meanwhile⟩ :=
    congrArg (Surroundings.mk · _) (Network.without_acts round.before).symm
  have hpoll := poll_without (t := t)
    (w := ⟨round.before.foldl Network.act n, round.meanwhile⟩) h h'
  simp only [workRound, hbefore, hpoll, Network.without_acts]
  rw [List.filter_flatten]
  rfl

theorem work_without {rounds : List Round} (h : NeverHolds t id rounds s n) :
    s.work t (rounds.map (·.without id)) (n.without id) =
      ((s.work t rounds n).1, (s.work t rounds n).2.without id) := by
  induction rounds generalizing s n with
  | nil => rfl
  | cons round rounds ih =>
    have hbefore : ¬s.Holds id := h 0
    have hafter : ¬(s.workRound t round n).1.Holds id := h 1
    have hlater : NeverHolds t id rounds (s.workRound t round n).1 (s.workRound t round n).2 :=
      fun k => h (k + 1)
    rw [List.map_cons, work_cons, work_cons, workRound_without hbefore hafter]
    exact ih hlater

end Server

end CardFirmware
