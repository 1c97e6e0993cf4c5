import CardFirmware.Proofs.Service.Exclusion

/-! Connections that are not the client's. Whatever happens in a round, such a connection waits or
has been closed, and nothing is read of it or sent on it, unless it is the first to be accepted when
there is no client (`acceptWaiting_apart`). -/

namespace CardFirmware

variable {σ : Type} {id other : ConnectionId} {done more : List Activity}

def wrote (id : ConnectionId) : List Activity → Bytes
  | [] => []
  | a :: rest => if a = .connect id then written id rest else wrote id rest

theorem wrote_append (h : .connect id ∈ done) (more : List Activity) :
    wrote id (done ++ more) = wrote id done ++ written id more := by
  induction done with
  | nil => cases h
  | cons a done ih =>
    rw [List.cons_append, wrote, wrote]
    split
    · exact written_append id done more
    · next ha =>
      rcases List.mem_cons.mp h with hfirst | hlater
      · exact absurd hfirst.symm ha
      · exact ih hlater

theorem wrote_of_not_mem (h : .connect id ∉ done) (more : List Activity) :
    wrote id (done ++ more) = wrote id more := by
  induction done with
  | nil => rfl
  | cons a done ih =>
    obtain ⟨ha, hdone⟩ := not_or.mp (fun hmem => h (List.mem_cons.mpr hmem))
    rw [List.cons_append, wrote, if_neg (Ne.symm ha), ih hdone]

theorem wrote_le (id : ConnectionId) (done more : List Activity) :
    wrote id done <+: wrote id (done ++ more) := by
  by_cases h : .connect id ∈ done
  · rw [wrote_append h]
    exact List.prefix_append _ _
  · have hnone := wrote_of_not_mem h []
    rw [List.append_nil] at hnone
    rw [hnone]
    exact List.nil_prefix

theorem written_filter (id : ConnectionId) (activities : List Activity) :
    written id (activities.filter (· ≠ .close id)) = written id activities := by
  induction activities with
  | nil => rfl
  | cons a activities ih =>
    by_cases ha : a = .close id
    · rw [List.filter_cons_of_neg (by simp [ha]), ih, ha]
      rfl
    · rw [List.filter_cons_of_pos (by simp [ha])]
      exact congrArg (a.written id ++ ·) ih

def ConnectsOnce (id : ConnectionId) (all : List Activity) : Prop := all.count (.connect id) ≤ 1

theorem ConnectsOnce.left (h : ConnectsOnce id (done ++ more)) : ConnectsOnce id done := by
  rw [ConnectsOnce, List.count_append] at h
  exact Nat.le_trans (Nat.le_add_right _ _) h

theorem ConnectsOnce.not_mem (h : ConnectsOnce id (done ++ more)) (hdone : .connect id ∈ done) :
    .connect id ∉ more := by
  intro hmore
  have hbefore := List.count_pos_iff.mpr hdone
  have hafter := List.count_pos_iff.mpr hmore
  rw [ConnectsOnce, List.count_append] at h
  omega

/-- What was read of a connection up to a time, and what was sent on it: the frames of an exchange.
Those that come after the client has left are lost. -/
structure Account (t : Transport σ) (stream : Bytes) (c : Connection) (read : Bytes)
    (x : Exchange σ) : Prop where
  read_le : read <+: stream
  proceeds : ∃ context device, Exchange.Proceeds t (Reassembly.standard.extend read).drain.1
    ⟨context, device, []⟩ x
  sent_le : c.toClient <+: x.bytes
  sent_eq : c.closedByClient = false → c.toClient = x.bytes

/-- The connection was turned away with nothing read and nothing sent, or it was that of the client
for some time. -/
def Settled (t : Transport σ) (held : Prop) (stream : Bytes) (c : Connection) : Prop :=
  c.toService <+: stream ∧ c.toClient = [] ∨ held ∧ ∃ read x, Account t stream c read x

variable {t : Transport σ} {held : Prop} {stream stream' : Bytes} {c c' : Connection}

theorem Settled.mono (h : Settled t held stream c) (hstream : stream <+: stream') :
    Settled t held stream' c := by
  rcases h with ⟨hunread, hunsent⟩ | ⟨hwas, read, x, haccount⟩
  · exact .inl ⟨hunread.trans hstream, hunsent⟩
  · exact .inr ⟨hwas, read, x,
      { haccount with read_le := haccount.read_le.trans hstream }⟩

theorem Settled.left (h : Settled t held stream c) (htoService : c'.toService = c.toService)
    (htoClient : c'.toClient = c.toClient)
    (hclosed : c'.closedByClient = false → c.closedByClient = false) :
    Settled t held stream c' := by
  rcases h with ⟨hunread, hunsent⟩ | ⟨hwas, read, x, haccount⟩
  · rw [← htoService] at hunread
    rw [← htoClient] at hunsent
    exact .inl ⟨hunread, hunsent⟩
  · refine .inr ⟨hwas, read, x, haccount.read_le, haccount.proceeds, ?_, ?_⟩
    · rw [htoClient]
      exact haccount.sent_le
    · intro hstays
      rw [htoClient]
      exact haccount.sent_eq (hclosed hstays)

namespace Network

variable {n : Network} {a : Activity}

theorem lookup_act_some (h : n.connections.lookup id = some c) :
    ∃ c', (n.act a).connections.lookup id = some c' ∧ c'.toClient = c.toClient ∧
      c'.closedByService = c.closedByService ∧
      c'.toService = (if c.closedByService then c.toService else c.toService ++ a.written id) ∧
      (c'.closedByClient = false ↔ c.closedByClient = false ∧ a ≠ .close id) := by
  cases a with
  | connect i =>
    have hclose : Activity.connect i ≠ .close id := by rintro ⟨⟩
    refine ⟨c, ?_, rfl, rfl, ?_, (and_iff_left hclose).symm⟩
    · rw [act, List.lookup_append, h, Option.some_or]
    · rw [Activity.written, List.append_nil, ite_self]
  | write i data =>
    have hclose : Activity.write i data ≠ .close id := by rintro ⟨⟩
    rw [act, lookup_modify, h, Option.map_some, Activity.written]
    by_cases hi : id = i
    · rw [if_pos hi, if_pos hi.symm]
      by_cases hclosed : c.closedByService = true
      · rw [if_pos hclosed, if_pos hclosed]
        exact ⟨c, rfl, rfl, rfl, rfl, (and_iff_left hclose).symm⟩
      · rw [if_neg hclosed, if_neg hclosed]
        exact ⟨_, rfl, rfl, rfl, rfl, (and_iff_left hclose).symm⟩
    · rw [if_neg hi, if_neg (Ne.symm hi), List.append_nil, ite_self]
      exact ⟨c, rfl, rfl, rfl, rfl, (and_iff_left hclose).symm⟩
  | close i =>
    rw [act, lookup_modify, h, Option.map_some, Activity.written, List.append_nil, ite_self]
    by_cases hi : id = i
    · rw [if_pos hi]
      refine ⟨_, rfl, rfl, rfl, rfl, iff_of_false Bool.false_ne_true.symm fun hstays => ?_⟩
      exact hstays.2 (by rw [hi])
    · rw [if_neg hi]
      have hclose : Activity.close i ≠ .close id := by
        rintro ⟨⟩
        exact hi rfl
      exact ⟨c, rfl, rfl, rfl, rfl, (and_iff_left hclose).symm⟩

theorem lookup_act_none (ha : a ≠ .connect id) (h : n.connections.lookup id = none) :
    (n.act a).connections.lookup id = none := by
  cases a with
  | connect i =>
    have hi : id ≠ i := fun hi => ha (by rw [hi])
    rw [act, List.lookup_append, h, List.lookup_cons, beq_false_of_ne hi]
    rfl
  | write i data => rw [act, lookup_modify, h, Option.map_none]
  | close i => rw [act, lookup_modify, h, Option.map_none]

theorem lookup_modify_other (h : other ≠ id) (f : Connection → Connection) :
    (n.modify other f).connections.lookup id = n.connections.lookup id := by
  rw [lookup_modify]
  simp only [if_neg (Ne.symm h), Option.map_id_fun', id_eq]

theorem lookup_foldl_hangUp_of_mem {ids : List ConnectionId} (hmem : id ∈ ids)
    (h : n.connections.lookup id = some c) :
    (ids.foldl hangUp n).connections.lookup id = some { c with closedByService := true } := by
  induction ids generalizing n c with
  | nil => cases hmem
  | cons i ids ih =>
    have hfirst : (n.hangUp i).connections.lookup id =
        some (if id = i then { c with closedByService := true } else c) := by
      rw [hangUp, lookup_modify, h, Option.map_some]
    rw [List.foldl_cons]
    by_cases hlater : id ∈ ids
    · rw [ih hlater hfirst]
      split <;> rfl
    · have hi : id = i := (List.mem_cons.mp hmem).resolve_right hlater
      rw [lookup_foldl_hangUp hlater, hfirst, if_pos hi]

structure Untouched (id : ConnectionId) (done : List Activity) (n : Network) : Prop where
  connected : .connect id ∈ done
  lookup_eq : ∃ c, n.connections.lookup id = some c ∧ c.toService = wrote id done ∧
    c.toClient = [] ∧ c.closedByService = false

theorem Untouched.act (h : n.Untouched id done) (a : Activity) :
    (n.act a).Untouched id (done ++ [a]) := by
  obtain ⟨c, hc, hunread, hunsent, hopen⟩ := h.lookup_eq
  obtain ⟨c', hc', htoClient, hclosed, htoService, -⟩ := lookup_act_some (a := a) hc
  refine ⟨List.mem_append_left _ h.connected, c', hc', ?_, htoClient.trans hunsent,
    hclosed.trans hopen⟩
  rw [htoService, hopen, wrote_append h.connected, hunread, written, List.flatMap_singleton]
  rfl

/-- The connection is not that of the client. It waits to be accepted or has been closed, or there
is none yet. -/
inductive Aside (t : Transport σ) (held : Prop) (stream : Bytes) (id : ConnectionId)
    (done : List Activity) (n : Network) : Prop
  | absent (hdone : .connect id ∉ done) (hlookup : n.connections.lookup id = none)
      (hwaiting : id ∉ n.waiting)
  | waits (huntouched : n.Untouched id done) (hwaiting : n.waiting.count id = 1)
  | gone {c : Connection} (hdone : .connect id ∈ done) (hlookup : n.connections.lookup id = some c)
      (hclosed : c.closedByService = true) (hwaiting : id ∉ n.waiting)
      (hsettled : Settled t held stream c)

namespace Aside

variable (h : n.Aside t held stream id done)
include h

theorem mono (hstream : stream <+: stream') : n.Aside t held stream' id done := by
  cases h with
  | absent hdone hlookup hwaiting => exact .absent hdone hlookup hwaiting
  | waits huntouched hwaiting => exact .waits huntouched hwaiting
  | gone hdone hlookup hclosed hwaiting hsettled =>
    exact .gone hdone hlookup hclosed hwaiting (hsettled.mono hstream)

theorem modify (hother : other ≠ id) (f : Connection → Connection) :
    (n.modify other f).Aside t held stream id done := by
  have hlookup := lookup_modify_other (n := n) hother f
  cases h with
  | absent hdone hnone hwaiting => exact .absent hdone (hlookup.trans hnone) hwaiting
  | waits huntouched hwaiting =>
    obtain ⟨c, hc, huntouched'⟩ := huntouched.lookup_eq
    exact .waits ⟨huntouched.connected, c, hlookup.trans hc, huntouched'⟩ hwaiting
  | gone hdone hc hclosed hwaiting hsettled =>
    exact .gone hdone (hlookup.trans hc) hclosed hwaiting hsettled

theorem act (hconnect : a = .connect id → .connect id ∉ done) :
    (n.act a).Aside t held stream id (done ++ [a]) := by
  cases h with
  | absent hdone hnone hwaiting =>
    by_cases ha : a = .connect id
    · subst ha
      refine .waits ⟨List.mem_append_right _ List.mem_cons_self, {}, ?_, ?_, rfl, rfl⟩ ?_
      · rw [Network.act, List.lookup_append, hnone, List.lookup_cons_self, Option.none_or]
      · rw [wrote_of_not_mem hdone, wrote, if_pos rfl]
        rfl
      · rw [Network.act, List.count_append, List.count_eq_zero.mpr hwaiting,
          List.count_singleton_self]
    · refine .absent ?_ (lookup_act_none ha hnone) (not_waiting_act ha hwaiting)
      rw [List.mem_append, List.mem_singleton]
      exact not_or.mpr ⟨hdone, Ne.symm ha⟩
  | waits huntouched hwaiting =>
    refine .waits (huntouched.act a) ?_
    cases a with
    | connect i =>
      have hi : i ≠ id := fun hi => hconnect (by rw [hi]) huntouched.connected
      rw [Network.act, List.count_append, hwaiting, List.count_singleton, beq_false_of_ne hi]
      rfl
    | write i data => exact hwaiting
    | close i => exact hwaiting
  | gone hdone hc hclosed hwaiting hsettled =>
    obtain ⟨c', hc', htoClient, hclosed', htoService, hstays⟩ := lookup_act_some (a := a) hc
    rw [if_pos hclosed] at htoService
    have ha : a ≠ .connect id := fun ha => hconnect ha hdone
    exact .gone (List.mem_append_left _ hdone) hc' (hclosed'.trans hclosed)
      (not_waiting_act ha hwaiting) (hsettled.left htoService htoClient fun h => (hstays.mp h).1)

theorem rejectWaiting (hstream : wrote id done <+: stream) :
    n.rejectWaiting.Aside t held stream id done := by
  cases h with
  | absent hdone hnone hwaiting =>
    exact .absent hdone ((lookup_foldl_hangUp hwaiting).trans hnone) List.not_mem_nil
  | waits huntouched hwaiting =>
    obtain ⟨c, hc, hunread, hunsent, -⟩ := huntouched.lookup_eq
    have hmem : id ∈ n.waiting := List.count_pos_iff.mp (by rw [hwaiting]; exact Nat.one_pos)
    refine .gone huntouched.connected (lookup_foldl_hangUp_of_mem hmem hc) rfl List.not_mem_nil
      (.inl ⟨?_, hunsent⟩)
    rw [← hunread] at hstream
    exact hstream
  | gone hdone hc hclosed hwaiting hsettled =>
    exact .gone hdone ((lookup_foldl_hangUp hwaiting).trans hc) hclosed List.not_mem_nil hsettled

theorem next {connections : List (ConnectionId × Connection)} {first : ConnectionId}
    {rest : List ConnectionId} (hn : n = ⟨connections, first :: rest⟩) (hfirst : first ≠ id) :
    (⟨connections, rest⟩ : Network).Aside t held stream id done := by
  subst hn
  cases h with
  | absent hdone hnone hwaiting =>
    exact .absent hdone hnone fun hmem => hwaiting (List.mem_cons_of_mem _ hmem)
  | waits huntouched hwaiting =>
    refine .waits ⟨huntouched.connected, huntouched.lookup_eq⟩ ?_
    rw [← hwaiting]
    exact (List.count_cons_of_ne hfirst).symm
  | gone hdone hc hclosed hwaiting hsettled =>
    exact .gone hdone hc hclosed (fun hmem => hwaiting (List.mem_cons_of_mem _ hmem)) hsettled

end Aside

theorem Aside.acts {activities : List Activity} (h : n.Aside t held stream id done)
    (honce : ConnectsOnce id (done ++ activities)) :
    (activities.foldl Network.act n).Aside t held stream id (done ++ activities) := by
  induction activities generalizing n done with
  | nil =>
    rw [List.append_nil]
    exact h
  | cons a activities ih =>
    have hconnect : a = .connect id → .connect id ∉ done := by
      rintro rfl hmem
      exact honce.not_mem hmem List.mem_cons_self
    have hsplit : done ++ a :: activities = done ++ [a] ++ activities := by simp
    rw [hsplit] at honce ⊢
    exact ih (h.act hconnect) honce

end Network

namespace Server

variable {s : Server σ} {w : Surroundings} {all : List Activity}

def Apart (t : Transport σ) (held : Prop) (id : ConnectionId) (all : List Activity)
    (w : Surroundings) : Prop :=
  ∃ done, done ++ w.meanwhile.flatten = all ∧ w.network.Aside t held (wrote id all) id done

theorem Apart.before {n : Network} {round : Round} (h : Apart t held id all ⟨n, []⟩)
    (honce : ConnectsOnce id (all ++ round.activities)) :
    Apart t held id (all ++ round.activities)
      ⟨round.before.foldl Network.act n, round.meanwhile⟩ := by
  obtain ⟨done, hall, haside⟩ := h
  obtain rfl : done = all := by rwa [List.flatten_nil, List.append_nil] at hall
  rw [Round.activities, ← List.append_assoc] at honce
  refine ⟨done ++ round.before, List.append_assoc done _ _, ?_⟩
  exact (haside.acts honce.left).mono (wrote_le id _ _)

theorem Apart.after (h : Apart t held id all w) (honce : ConnectsOnce id all) :
    Apart t held id all ⟨w.meanwhile.flatten.foldl Network.act w.network, []⟩ := by
  obtain ⟨done, rfl, haside⟩ := h
  exact ⟨done ++ w.meanwhile.flatten, List.append_nil _, haside.acts honce⟩

theorem kept_apart (hother : other ≠ id) (honce : ConnectsOnce id all) :
    Kept other (Apart t held id all) := by
  refine kept_of ?_ ?_ ?_ ?_
  · rintro w data ⟨done, hall, haside⟩
    exact ⟨done, hall, haside.modify hother fun c =>
      if c.closedByClient then c else { c with toClient := c.toClient ++ data }⟩
  · rintro w ⟨done, hall, haside⟩
    exact ⟨done, hall, haside.modify hother fun c =>
      { c with toService := c.toService.drop readChunk }⟩
  · rintro w ⟨done, hall, haside⟩
    exact ⟨done, hall, haside.modify hother fun c => { c with closedByService := true }⟩
  · rintro w ⟨done, hall, haside⟩
    rw [w.flatten_meanwhile, ← List.append_assoc] at hall
    rw [← hall] at honce
    refine ⟨done ++ w.meanwhile.headD [], hall, (haside.acts honce.left).rejectWaiting ?_⟩
    rw [← hall]
    exact wrote_le id _ _

theorem turn_apart (honce : ConnectsOnce id all) (hnot : ¬s.Holds id)
    (h : Apart t held id all w) : Apart t held id all (s.turn t w).2 := by
  refine turn_keeps (fun c hclient => kept_apart ?_ honce) h
  rintro rfl
  exact hnot ⟨c.received, hclient⟩

structure Admitted (id : ConnectionId) (all : List Activity) (s : Server σ) (w : Surroundings) :
    Prop where
  client_eq : s.client = some ⟨id, .standard⟩
  untouched : ∃ done, done ++ w.meanwhile.flatten = all ∧ w.network.Untouched id done
  not_waiting : id ∉ w.network.waiting

theorem acceptWaiting_apart (hnot : ¬s.Holds id) (h : Apart t held id all w) :
    let (s', w') := s.acceptWaiting w
    Apart t held id all w' ∧ ¬s'.Holds id ∨ Admitted id all s' w' := by
  obtain ⟨done, hall, haside⟩ := h
  have hstream : wrote id done <+: wrote id all := by
    rw [← hall]
    exact wrote_le id _ _
  cases hclient : s.client with
  | some c =>
    rw [acceptWaiting_of_some hclient]
    exact .inl ⟨⟨done, hall, haside.rejectWaiting hstream⟩, hnot⟩
  | none =>
    cases hwaiting : w.network.waiting with
    | nil =>
      rw [acceptWaiting_of_nil hwaiting]
      exact .inl ⟨⟨done, hall, haside⟩, hnot⟩
    | cons first rest =>
      rw [acceptWaiting_of_cons hclient hwaiting]
      by_cases hfirst : first = id
      · subst hfirst
        cases haside with
        | absent _ _ hnotWaiting => exact absurd (hwaiting ▸ List.mem_cons_self) hnotWaiting
        | gone _ _ _ hnotWaiting => exact absurd (hwaiting ▸ List.mem_cons_self) hnotWaiting
        | waits huntouched hcount =>
          have hrest : first ∉ rest := by
            rw [hwaiting, List.count_cons_self] at hcount
            exact List.count_eq_zero.mp (Nat.succ.inj hcount)
          refine .inr ⟨rfl, ⟨done, hall, huntouched.connected, ?_⟩, List.not_mem_nil⟩
          obtain ⟨c, hc, huntouched'⟩ := huntouched.lookup_eq
          exact ⟨c, (Network.lookup_foldl_hangUp hrest).trans hc, huntouched'⟩
      · have hnetwork : w.network = ⟨w.network.connections, first :: rest⟩ := by
          rw [← hwaiting]
        refine .inl ⟨⟨done, hall, (haside.next hnetwork hfirst).rejectWaiting hstream⟩, ?_⟩
        rintro ⟨received, hheld⟩
        cases hheld
        exact hfirst rfl

end Server

end CardFirmware
