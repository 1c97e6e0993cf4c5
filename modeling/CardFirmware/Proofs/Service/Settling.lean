import CardFirmware.Proofs.Control.Messages
import CardFirmware.Proofs.Service.Conversation
import CardFirmware.Proofs.Service.Turns
import CardFirmware.Tool.Host

/-! A service that is left alone with one client. Whatever it is sent it has read and answered by
the time that it has nothing left to do, so that it is ready for the next message
(`act_write`). -/

namespace CardFirmware

namespace Reassembly

variable {r w : Reassembly} {items : List (Except WireError Request)}

structure Clear (r : Reassembly) : Prop extends r.Idle where
  owed_eq : ∀ more, (r.owed more).1 = (readRequests maxPayloadLength 0 more).1

theorem clear_standard : Clear standard := ⟨idle_standard, fun _ => rfl⟩

theorem Clear.absorbs_nil (hr : r.Clear) (h : r.Absorbs [] items w) : items = [] ∧ w.Clear := by
  have howed : ∀ more, items ++ (w.owed more).1 = (readRequests maxPayloadLength 0 more).1 := by
    intro more
    rw [← h.owed_eq more, hr.owed_eq, List.nil_append]
  have hitems := howed []
  rw [h.idle.owed_nil, List.append_nil, readRequests_of_read_none rfl] at hitems
  refine ⟨hitems, h.idle, fun more => ?_⟩
  have hmore := howed more
  rw [hitems] at hmore
  exact hmore

theorem Clear.absorbs_message (hr : r.Clear) {m : ClientMessage} (hm : m.Fits)
    (h : r.Absorbs m.encode items w) : items = [.ok m.request] ∧ w.Clear := by
  have howed : ∀ more, items ++ (w.owed more).1 =
      .ok m.request :: (readRequests maxPayloadLength 0 more).1 := by
    intro more
    rw [← h.owed_eq more, hr.owed_eq, ClientMessage.readRequests_encode hm]
  have hitems := howed []
  rw [h.idle.owed_nil, List.append_nil, readRequests_of_read_none rfl] at hitems
  refine ⟨hitems, h.idle, fun more => ?_⟩
  have hmore := howed more
  rw [hitems] at hmore
  exact List.tail_eq_of_cons_eq hmore

end Reassembly

namespace Server

variable {σ : Type} {t : Transport σ} {id : ConnectionId} {received : Reassembly}
  {pending sent : Bytes} {resyncs : Nat} {x : Exchange σ} {s s' : Server σ} {w w' : Surroundings}

/-- Nobody but the client has to do with the service: no connection waits, and nothing is to happen
while it is busy. -/
structure Alone (id : ConnectionId) (s : Server σ) (w : Surroundings) : Prop where
  meanwhile_eq : w.meanwhile = []
  waiting_eq : w.network.waiting = []
  client_id : ∀ c, s.client = some c → c.id = id

theorem kept_alone (id : ConnectionId) :
    Kept id fun w => w.meanwhile = [] ∧ w.network.waiting = [] := by
  refine kept_of (fun _ _ h => h) (fun _ h => h) (fun _ h => h) ?_
  rintro w ⟨hmeanwhile, -⟩
  exact ⟨congrArg List.tail hmeanwhile, rfl⟩

theorem turn_alone (h : Alone id s w) : Alone id (s.turn t w).1 (s.turn t w).2 := by
  obtain ⟨hmeanwhile, hwaiting⟩ :=
    turn_keeps (t := t) (fun c _ => kept_alone c.id) ⟨h.meanwhile_eq, h.waiting_eq⟩
  refine ⟨hmeanwhile, hwaiting, fun c hc => ?_⟩
  cases hclient : s.client with
  | none =>
    rw [turn_of_none hclient, hclient] at hc
    cases hc
  | some c₀ =>
    obtain ⟨cid, received⟩ := c₀
    obtain rfl : cid = id := h.client_id _ hclient
    rcases turn_client (t := t) (w := w) hclient with ⟨received', hkept⟩ | hnone
    · rw [hkept] at hc
      rw [← Option.some.inj hc]
    · rw [hnone] at hc
      cases hc

theorem poll_alone (h : Alone id s w) (hheard : s.heard t = (.ok (), s')) :
    s.poll t w = (.ok (), s'.turn t w) := by
  rw [poll_of_heard hheard, h.waiting_eq]
  rfl

theorem Alone.heard (h : Alone id s w) (hheard : s.heard t = (.ok (), s')) : Alone id s' w := by
  have hclient := heard_client t s
  rw [hheard] at hclient
  refine ⟨h.meanwhile_eq, h.waiting_eq, fun c hc => h.client_id c ?_⟩
  rw [← hclient]
  exact hc

theorem poll_left (hhears : Hears t s.device) (h : HasLeft id sent resyncs x s w)
    (halone : Alone id s w) :
    ∃ s', s.poll t w = (.ok (), s', w) ∧ HasLeft id sent resyncs (x.hear t) s' w ∧
      Alone id s' w := by
  have hnone : s.client = none := by
    cases hc : s.client with
    | none => rfl
    | some c =>
      have hne := h.client_ne
      rw [hc, Option.any_some, halone.client_id c hc] at hne
      exact absurd hne (by simp)
  obtain ⟨r, s', hok, hheard, hclient, hleft⟩ := hear_left t h
  obtain rfl : r = .ok () := hok hhears
  refine ⟨s', ?_, hleft, halone.heard hheard⟩
  rw [poll_alone halone hheard, turn, hclient, hnone]

theorem poll_accepts {n : Network} (hhears : Hears t s.device) (hnone : s.client = none)
    (hwaiting : n.waiting = [id]) (hlookup : n.connections.lookup id = some {}) :
    ∃ s' n', s.poll t { network := n } = (.ok (), s', { network := n' }) ∧
      Alone id s' { network := n' } ∧
      Serves id .standard [] [] s.resyncs (Exchange.hear t ⟨s.context, s.device, []⟩) s'
        { network := n' } := by
  have hmirrors : Mirrors id s.resyncs ⟨s.context, s.device, []⟩ s { network := n } :=
    ⟨rfl, rfl, rfl, fun _ ha => absurd ha List.not_mem_nil⟩
  obtain ⟨r, device, notified, hok, hheard, hx⟩ := hear_mirrors t hmirrors
  obtain rfl : r = .ok () := hok hhears
  obtain ⟨s', hs'⟩ : ∃ s' : Server σ,
      s' = { s with device, notified, client := some ⟨id, .standard⟩ } := ⟨_, rfl⟩
  have hclient : s'.client = some ⟨id, .standard⟩ := by rw [hs']
  refine ⟨s', { n with waiting := [] }, ?_, ⟨rfl, rfl, ?_⟩, ?_⟩
  · rw [poll_of_heard hheard, hs']
    simp only [turn, hnone, acceptWaiting, accept, hwaiting]
    rfl
  · intro c hc
    rw [hclient] at hc
    rw [← Option.some.inj hc]
  · rw [hx]
    have hserves := serves_anew hclient
      (⟨hlookup, List.not_mem_nil⟩ : Network.Carries id [] [] { n with waiting := [] })
    rw [hs'] at hserves ⊢
    exact hserves

end Server

namespace RunningService

open Server

variable {σ : Type} {t : Transport σ} {id : ConnectionId} {received : Reassembly}
  {unread sent : Bytes} {resyncs : Nat} {x : Exchange σ} {r : RunningService σ}

def surroundings (r : RunningService σ) : Surroundings := { network := r.network }

theorem go_of_poll {n : Nat} {s' : Server σ} {w' : Surroundings}
    (hpoll : r.server.poll t r.surroundings = (.ok (), s', w')) :
    settle.go t (n + 1) r = settle.go t n ⟨s', w'.network⟩ := by
  rw [surroundings] at hpoll
  rw [settle.go, hpoll]

theorem go_left (hhears : ∀ device, Hears t device) (n : Nat)
    (h : HasLeft id sent resyncs x r.server r.surroundings)
    (halone : Alone id r.server r.surroundings) :
    let r' := settle.go t n r
    ∃ x', Exchange.Proceeds t [] x x' ∧ HasLeft id sent resyncs x' r'.server r'.surroundings ∧
      Alone id r'.server r'.surroundings := by
  induction n generalizing x r with
  | zero => exact ⟨x, .done x, h, halone⟩
  | succ n ih =>
    obtain ⟨s', hpoll, hleft, halone'⟩ := poll_left (hhears _) h halone
    rw [go_of_poll hpoll]
    obtain ⟨x', hproceeds, hfinal⟩ := ih (r := ⟨s', r.network⟩) hleft halone'
    exact ⟨x', .heard hproceeds, hfinal⟩

theorem go_succ_serves (hhears : Hears t r.server.device) (n : Nat) (hr : received.Idle)
    (h : Serves id received unread sent resyncs x r.server r.surroundings)
    (halone : Alone id r.server r.surroundings) :
    ∃ r' messages received', settle.go t (n + 1) r = settle.go t n r' ∧
      received.Absorbs (unread.take readChunk) messages received' ∧
      Alone id r'.server r'.surroundings ∧
      (Serves id received' (unread.drop readChunk) sent resyncs ((x.hear t).converse t messages)
          r'.server r'.surroundings ∨
        HasLeft id sent resyncs ((x.hear t).converse t messages) r'.server r'.surroundings) := by
  obtain ⟨there, hcarries, hthere⟩ := h.carries
  rw [surroundings, List.flatten_nil, written, List.flatMap_nil, List.append_nil] at hthere
  subst hthere
  obtain ⟨s', ⟨network, meanwhile⟩, messages, received', hpoll, habsorbs, hserved⟩ :=
    poll_converse hhears hr h hcarries
  obtain ⟨r, s₁, hok, hheard, -⟩ := hear_serves t h
  obtain rfl : r = .ok () := hok hhears
  have halone' : Alone id s' ⟨network, meanwhile⟩ := by
    have hturned := turn_alone (t := t) (halone.heard hheard)
    have hpoll' := poll_alone halone hheard
    rw [hpoll] at hpoll'
    rwa [← (Prod.mk.inj hpoll').2] at hturned
  obtain rfl : meanwhile = [] := halone'.meanwhile_eq
  have hnothing : written id r.surroundings.meanwhile.flatten = [] := rfl
  rw [hnothing, List.append_nil] at hserved
  exact ⟨⟨s', network⟩, messages, received', go_of_poll hpoll, habsorbs, halone', hserved⟩

theorem go_serves (hhears : ∀ device, Hears t device) {n : Nat} (hr : received.Idle)
    (hn : unread.length ≤ n * readChunk)
    (h : Serves id received unread sent resyncs x r.server r.surroundings)
    (halone : Alone id r.server r.surroundings) :
    let r' := settle.go t n r
    ∃ messages received' x', received.Absorbs unread messages received' ∧
      Exchange.Proceeds t messages x x' ∧ Alone id r'.server r'.surroundings ∧
      (Serves id received' [] sent resyncs x' r'.server r'.surroundings ∨
        HasLeft id sent resyncs x' r'.server r'.surroundings) := by
  induction n generalizing received unread x r with
  | zero =>
    obtain rfl : unread = [] := List.eq_nil_of_length_eq_zero (by omega)
    exact ⟨[], received, x, Reassembly.absorbs_nil hr, .done x, halone, .inl h⟩
  | succ n ih =>
    obtain ⟨r', messages, received', hgo, habsorbs, halone', hserved⟩ :=
      go_succ_serves (hhears _) n hr h halone
    have hfirst := Exchange.proceeds_converse t (x.hear t) messages
    rw [hgo, ← List.take_append_drop readChunk unread]
    rcases hserved with hserves | hleft
    · have hless : (unread.drop readChunk).length ≤ n * readChunk := by
        rw [List.length_drop]
        rw [Nat.add_mul, Nat.one_mul] at hn
        omega
      obtain ⟨more, received'', x', habsorbs', hrest, hend⟩ :=
        ih habsorbs.idle hless hserves halone'
      exact ⟨messages ++ more, received'', x', habsorbs.append habsorbs',
        .heard (hfirst.append hrest), hend⟩
    · -- the rest is not read any more, and would not be answered
      obtain ⟨x', hquiet, hleft', halone''⟩ := go_left hhears n hleft halone'
      have habsorbs' := Reassembly.absorbs_drain habsorbs.idle (unread.drop readChunk)
      generalize (received'.extend (unread.drop readChunk)).drain = drained at habsorbs'
      have hnone := Exchange.proceeds_converse t ((x.hear t).converse t messages) drained.1
      rw [Exchange.converse_of_isOver hleft.isOver_eq] at hnone
      have hrest := hnone.append hquiet
      rw [List.append_nil] at hrest
      exact ⟨messages ++ drained.1, drained.2, x', habsorbs.append habsorbs',
        .heard (hfirst.append hrest), halone'', .inr hleft'⟩

theorem rounds_of_entries (id : ConnectionId) (entries : List (ConnectionId × Connection))
    (k : Nat) :
    k + ((entries.lookup id).elim 0 fun c => c.toService.length / readChunk + 2) ≤
      entries.foldl (fun n (_, c) => n + (c.toService.length / readChunk + 2)) k := by
  induction entries generalizing k with
  | nil => exact Nat.le_refl k
  | cons entry entries ih =>
    obtain ⟨i, c⟩ := entry
    have hrest := ih (k + (c.toService.length / readChunk + 2))
    rw [List.foldl_cons, List.lookup_cons]
    refine Nat.le_trans ?_ hrest
    split
    · exact Nat.le_add_right _ _
    · exact Nat.add_le_add_right (Nat.le_add_right _ _) _

theorem length_le_rounds (h : r.network.Carries id unread sent) :
    unread.length ≤ r.rounds * readChunk := by
  have hrounds : 1 + (unread.length / readChunk + 2) ≤ r.rounds := by
    have hentries := rounds_of_entries id r.network.connections 1
    rw [h.lookup_eq] at hentries
    exact hentries
  have hdiv := Nat.div_add_mod unread.length readChunk
  have hmod := Nat.mod_lt unread.length (show 0 < readChunk by decide)
  have hmul := Nat.mul_le_mul_left readChunk hrounds
  rw [Nat.mul_comm r.rounds]
  rw [Nat.mul_add, Nat.mul_add] at hmul
  omega

theorem act_connect (hhears : ∀ device, Hears t device) (hnone : r.server.client = none)
    (hwaiting : r.network.waiting = []) (hfresh : r.network.connections.lookup id = none) :
    let r' := r.act t (.connect id)
    ∃ received' x', received'.Clear ∧
      Exchange.Proceeds t [] ⟨r.server.context, r.server.device, []⟩ x' ∧
      Alone id r'.server r'.surroundings ∧
      Serves id received' [] [] r.server.resyncs x' r'.server r'.surroundings := by
  have hone : (r.network.act (.connect id)).waiting = [id] := by
    rw [Network.act, hwaiting, List.nil_append]
  have hlookup : (r.network.act (.connect id)).connections.lookup id = some {} := by
    rw [Network.act, List.lookup_append, hfresh, List.lookup_cons_self, Option.none_or]
  obtain ⟨n, hrounds⟩ : ∃ n, rounds ⟨r.server, r.network.act (.connect id)⟩ = n + 1 := by
    have hentries := rounds_of_entries id (r.network.act (.connect id)).connections 1
    exact Nat.exists_eq_add_of_le' (Nat.le_trans (Nat.le_add_right _ _) hentries)
  -- the first round accepts the client, and nothing is read in the others
  obtain ⟨s', n', hpoll, halone, haccepted⟩ := poll_accepts (hhears _) hnone hone hlookup
  have hgo : r.act t (.connect id) = settle.go t n ⟨s', n'⟩ := by
    rw [act, settle, hrounds]
    exact go_of_poll (r := ⟨r.server, r.network.act (.connect id)⟩) hpoll
  obtain ⟨messages, received', x', habsorbs, hproceeds, halone', hend⟩ :=
    go_serves (r := ⟨s', n'⟩) (n := n) hhears Reassembly.idle_standard (Nat.zero_le _) haccepted
      halone
  obtain ⟨rfl, hclear⟩ := Reassembly.clear_standard.absorbs_nil habsorbs
  rw [hgo]
  refine ⟨received', x', hclear, .heard hproceeds, halone', ?_⟩
  rcases hend with hserves | hleft
  · exact hserves
  · have hover := hleft.isOver_eq
    rw [Exchange.isOver, hproceeds.answers_nil, Exchange.hear_eq] at hover
    exact absurd hover (by simp)

theorem act_write {m : ClientMessage} (hhears : ∀ device, Hears t device) (hr : received.Clear)
    (hm : m.Fits) (h : Serves id received [] sent resyncs x r.server r.surroundings)
    (halone : Alone id r.server r.surroundings) :
    let r' := r.act t (.write id m.encode)
    ∃ received' x', received'.Clear ∧ Exchange.Proceeds t [.ok m.request] x x' ∧
      Alone id r'.server r'.surroundings ∧
      (Serves id received' [] sent resyncs x' r'.server r'.surroundings ∨
        HasLeft id sent resyncs x' r'.server r'.surroundings) := by
  obtain ⟨unread, hcarries, hnothing⟩ := h.carries
  obtain ⟨rfl, -⟩ := List.append_eq_nil_iff.mp hnothing
  have hkeeps : (Activity.write id m.encode).Keeps id := ⟨nofun, nofun⟩
  have hwritten := hcarries.act hkeeps
  rw [Activity.written, if_pos rfl, List.nil_append] at hwritten
  have hstart : Serves id received m.encode sent resyncs x r.server
      ⟨r.network.act (.write id m.encode), []⟩ :=
    { h with carries := ⟨_, hwritten, List.append_nil _⟩ }
  have halone' : Alone id r.server ⟨r.network.act (.write id m.encode), []⟩ :=
    { halone with }
  have henough : m.encode.length ≤
      rounds ⟨r.server, r.network.act (.write id m.encode)⟩ * readChunk :=
    length_le_rounds hwritten
  obtain ⟨messages, received', x', habsorbs, hproceeds, hend⟩ :=
    go_serves (r := ⟨r.server, r.network.act (.write id m.encode)⟩) hhears hr.toIdle henough
      hstart halone'
  obtain ⟨rfl, hclear⟩ := hr.absorbs_message hm habsorbs
  exact ⟨received', x', hclear, hproceeds, hend⟩

end RunningService

end CardFirmware
