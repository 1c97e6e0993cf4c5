import CardFirmware.Device.Simulator
import CardFirmware.Proofs.Control.Reassembly
import CardFirmware.Proofs.Device.Runs
import CardFirmware.Proofs.Service.Answers
import CardFirmware.Proofs.Service.Network
import CardFirmware.Proofs.Service.Turns

/-! A service and its client, from the time that the client was accepted. However the bytes of the
client are split over writes, reads and rounds, the messages in them are answered one after the
other as in an exchange without sockets (`answers_by_stream`). -/

namespace CardFirmware

/-- What clients do before a round and while it lasts. What finds no tick in it comes after it. -/
structure Round where
  before : List Activity
  meanwhile : List (List Activity)

def Round.activities (r : Round) : List Activity := r.before ++ r.meanwhile.flatten

namespace Server

variable {σ : Type}

def attend (t : Transport σ) (id : ConnectionId) :
    List Round → Server σ → Network → Server σ × Network
  | [], s, n => (s, n)
  | round :: rounds, s, n =>
    if s.client.any (·.id = id) then
      match s.poll t ⟨round.before.foldl Network.act n, round.meanwhile⟩ with
      | (.error _, s, w) => (s, w.network)
      | (.ok (), s, w) => attend t id rounds s (w.meanwhile.flatten.foldl Network.act w.network)
    else (s, n)

def intake (id : ConnectionId) : Bytes → List Round → Bytes × Bytes
  | unread, [] => ([], unread)
  | unread, round :: rounds =>
    let there := unread ++ written id round.before
    let (read, left) := intake id
      (there.drop readChunk ++ written id round.meanwhile.flatten) rounds
    (there.take readChunk ++ read, left)

theorem intake_append (id : ConnectionId) (unread : Bytes) (rounds : List Round) :
    (intake id unread rounds).1 ++ (intake id unread rounds).2 =
      unread ++ written id (rounds.flatMap Round.activities) := by
  induction rounds generalizing unread with
  | nil => exact (List.append_nil unread).symm
  | cons round rounds ih =>
    rw [intake, List.flatMap_cons, written_append, Round.activities, written_append]
    simp only [List.append_assoc, ih]
    rw [← List.append_assoc, List.take_append_drop, List.append_assoc]

structure Mirrors (id : ConnectionId) (resyncs : Nat) (x : Exchange σ) (s : Server σ)
    (w : Surroundings) : Prop where
  context_eq : s.context = x.context
  device_eq : s.device = x.device
  resyncs_eq : s.resyncs = resyncs + x.resyncs
  keeps : ∀ a ∈ w.meanwhile.flatten, a.Keeps id

/-- The exchange goes on: the client is kept, with what was received of its next message. It has
written `pending` or will do so while the round lasts. -/
structure Serves (id : ConnectionId) (received : Reassembly) (pending sent : Bytes) (resyncs : Nat)
    (x : Exchange σ) (s : Server σ) (w : Surroundings) : Prop extends
    Mirrors id resyncs x s w where
  isOver_eq : x.isOver = false
  client_eq : s.client = some ⟨id, received⟩
  carries : ∃ unread, w.network.Carries id unread (sent ++ x.bytes) ∧
    unread ++ written id w.meanwhile.flatten = pending

structure HasLeft (id : ConnectionId) (sent : Bytes) (resyncs : Nat) (x : Exchange σ)
    (s : Server σ) (w : Surroundings) : Prop extends Mirrors id resyncs x s w where
  isOver_eq : x.isOver = true
  client_ne : s.client.any (·.id = id) = false
  letGo : w.network.LetGo id (sent ++ x.bytes)

variable {t : Transport σ} {id : ConnectionId} {received : Reassembly} {pending sent : Bytes}
  {resyncs : Nat} {x : Exchange σ} {s : Server σ} {w : Surroundings}

theorem play_carries {n : Network} {unread : Bytes} {meanwhile : List (List Activity)}
    (events : List Event) (h : n.Carries id unread sent)
    (hkeeps : ∀ a ∈ meanwhile.flatten, a.Keeps id) :
    let (meanwhile', n') := play id events meanwhile n
    (∀ a ∈ meanwhile'.flatten, a.Keeps id) ∧
      ∃ unread', n'.Carries id unread' (sent ++
          (events.filterMap Event.percent?).flatMap Response.encodeProgress) ∧
        unread' ++ written id meanwhile'.flatten = unread ++ written id meanwhile.flatten := by
  induction events generalizing n unread sent meanwhile with
  | nil =>
    refine ⟨hkeeps, unread, ?_, rfl⟩
    rw [List.filterMap_nil, List.flatMap_nil, List.append_nil]
    exact h
  | cons e events ih =>
    cases e with
    | sent c reply => exact ih h hkeeps
    | heard reply => exact ih h hkeeps
    | reported p =>
      have hrest := ih (h.send (Response.encodeProgress p)) hkeeps
      rw [List.append_assoc] at hrest
      exact hrest
    | ticked =>
      have hsplit : meanwhile.flatten = meanwhile.headD [] ++ meanwhile.tail.flatten :=
        Surroundings.flatten_meanwhile ⟨n, meanwhile⟩
      rw [hsplit, written, List.flatMap_append, ← List.append_assoc]
      rw [hsplit] at hkeeps
      obtain ⟨hfirst, hlater⟩ := List.forall_mem_append.mp hkeeps
      exact ih (h.acts hfirst).rejectWaiting hlater

theorem handle_reply (h : Serves id received pending sent resyncs x s w) (request : Request) :
    let (s', w') := s.handle t id request w
    Serves id received pending sent resyncs (x.reply t (.ok request)) s' w' ∨
      HasLeft id sent resyncs (x.reply t (.ok request)) s' w' ∧ s'.client = none := by
  obtain ⟨unread, hcarries, hpending⟩ := h.carries
  simp only [handle, Exchange.reply, h.context_eq, h.device_eq]
  generalize (x.context.dispatch request).run t ⟨x.device, []⟩ = run
  obtain ⟨⟨result, context⟩, link⟩ := run
  have hplay := play_carries link.events.reverse hcarries h.keeps
  simp only [← link.reports_eq] at hplay
  generalize play id link.events.reverse w.meanwhile w.network = played at hplay
  obtain ⟨meanwhile, network⟩ := played
  obtain ⟨hkeeps, unread', hcarries', hpending'⟩ := hplay
  generalize ha : Answer.mk link.reports link.commands result = a
  -- whatever the result, what is sent last is the last frame of the answer
  have hlast : (network.send id a.lastFrame).Carries id unread'
      (sent ++ Exchange.bytes ⟨context, link.device, x.answers ++ [a]⟩) := by
    have hsent := hcarries'.send a.lastFrame
    rw [Exchange.bytes_concat, ← ha]
    rw [← ha] at hsent
    simpa only [List.append_assoc] using hsent
  have hgoing : Exchange.isOver ⟨context, link.device, x.answers ++ [a]⟩ = a.isReboot := by
    rw [Exchange.isOver_concat, h.isOver_eq, Bool.false_or]
  have hcount : resyncs + Exchange.resyncs ⟨context, link.device, x.answers ++ [a]⟩ =
      s.resyncs + a.resyncs.toNat := by
    rw [Exchange.resyncs_concat, h.resyncs_eq, Nat.add_assoc]
  have hpend := hpending'.trans hpending
  subst ha
  cases result with
  | error e =>
    exact .inl ⟨⟨rfl, rfl, hcount.symm, hkeeps⟩, hgoing, h.client_eq, unread', hlast, hpend⟩
  | ok type =>
    cases type with
    | reboot => exact .inr ⟨⟨⟨rfl, rfl, hcount.symm, hkeeps⟩, hgoing, rfl, hlast.hangUp⟩, rfl⟩
    | configErase | appErase | appUpdate | espUpdate =>
      exact .inl ⟨⟨rfl, rfl, hcount.symm, hkeeps⟩, hgoing, h.client_eq, unread', hlast, hpend⟩

theorem refuse_reply (h : Serves id received pending sent resyncs x s w) (e : WireError) :
    Serves id received pending sent resyncs (x.reply t (.error e)) s
      { w with network := w.network.send id (Response.encodeError e.code) } := by
  obtain ⟨unread, hcarries, hpending⟩ := h.carries
  refine ⟨⟨h.context_eq, h.device_eq, ?_, h.keeps⟩, ?_, h.client_eq, unread, ?_, hpending⟩
  · rw [h.resyncs_eq, Exchange.reply, Exchange.resyncs_concat]
    rfl
  · exact (Exchange.isOver_concat x.context x.device).trans (by rw [h.isOver_eq]; rfl)
  · have hsent := hcarries.send (Response.encodeError e.code)
    rw [List.append_assoc] at hsent
    rw [Exchange.reply, Exchange.bytes_concat]
    exact hsent

theorem handleAll_converse (messages : List (Except WireError Request))
    (h : Serves id received pending sent resyncs x s w) :
    let (s', w') := handleAll t id messages s w
    Serves id received pending sent resyncs (x.converse t messages) s' w' ∨
      HasLeft id sent resyncs (x.converse t messages) s' w' := by
  induction messages generalizing x s w with
  | nil => exact .inl h
  | cons message messages ih =>
    rw [Exchange.converse_cons h.isOver_eq]
    cases message with
    | error e => exact ih (refuse_reply h e)
    | ok request =>
      have hreply := handle_reply (t := t) h request
      rw [handleAll]
      generalize s.handle t id request w = handled at hreply
      obtain ⟨s', w'⟩ := handled
      rcases hreply with hserves | ⟨hleft, hnone⟩
      · simp only [hserves.client_eq]
        exact ih hserves
      · simp only [hnone]
        rw [Exchange.converse_of_isOver hleft.isOver_eq]
        exact .inr hleft

theorem serve_converse {unread : Bytes} (hr : received.Idle)
    (h : Serves id received pending sent resyncs x s w)
    (hcarries : w.network.Carries id unread (sent ++ x.bytes)) (hunread : unread ≠ []) :
    ∃ messages received', received.Absorbs (unread.take readChunk) messages received' ∧
      let (s', w') := s.serve t ⟨id, received⟩ w
      Serves id received' (unread.drop readChunk ++ written id w.meanwhile.flatten) sent resyncs
          (x.converse t messages) s' w' ∨
        HasLeft id sent resyncs (x.converse t messages) s' w' := by
  have hsent : (w.network.find id).toService = unread := by rw [hcarries.find_eq]
  have hserve : s.serve t ⟨id, received⟩ w = _ := serve_of_ne_nil (by rw [hsent]; exact hunread)
  rw [hsent] at hserve
  refine ⟨_, _, Reassembly.absorbs_drain hr _, ?_⟩
  have hread := hcarries.modify (fun c => { c with toService := c.toService.drop readChunk }) rfl
  rw [hserve]
  exact handleAll_converse _ { h with client_eq := rfl, carries := ⟨_, hread, rfl⟩ }

theorem accept_serves (h : Serves id received pending sent resyncs x s w) :
    let (s', n') := s.accept w.network
    Serves id received pending sent resyncs x s' { w with network := n' } := by
  obtain ⟨unread, hcarries, hpending⟩ := h.carries
  have haccept : s.accept w.network = (s, w.network.rejectWaiting) := by
    simp only [accept, h.client_eq]
  rw [haccept]
  exact { h with carries := ⟨unread, hcarries.rejectWaiting, hpending⟩ }

theorem accept_left (h : HasLeft id sent resyncs x s w) :
    let (s', n') := s.accept w.network
    HasLeft id sent resyncs x s' { w with network := n' } := by
  generalize haccept : s.accept w.network = accepted
  unfold accept at haccept
  split at haccept
  · next other rest hclient hwaiting =>
    subst haccept
    -- the next client is one of those that wait, and this one was accepted long ago
    obtain ⟨hother, hrest⟩ : id ≠ other ∧ id ∉ rest := by
      have hnot := h.letGo.not_waiting
      rw [hwaiting, List.mem_cons, not_or] at hnot
      exact hnot
    have hgone : { w.network with waiting := rest }.LetGo id (sent ++ x.bytes) :=
      ⟨h.letGo.lookup_eq, hrest⟩
    exact { h with
      client_ne := decide_eq_false (Ne.symm hother)
      letGo := hgone.rejectWaiting }
  · subst haccept
    exact { h with letGo := h.letGo.rejectWaiting }

theorem hear_mirrors (t : Transport σ) (h : Mirrors id resyncs x s w) :
    ∃ r device notified, (Hears t s.device → r = .ok ()) ∧
      s.heard t = (r, { s with device, notified }) ∧
      x.hear t = ⟨x.context, device, x.answers⟩ := by
  obtain ⟨r, notified, hok, hheard⟩ := heard_eq t s
  refine ⟨r, _, notified, hok, hheard, ?_⟩
  unfold Exchange.hear
  rw [← h.device_eq]
  split
  · rfl
  · rw [h.device_eq]

theorem hear_serves (t : Transport σ) (h : Serves id received pending sent resyncs x s w) :
    ∃ r s', (Hears t s.device → r = .ok ()) ∧ s.heard t = (r, s') ∧
      Serves id received pending sent resyncs (x.hear t) s' w := by
  obtain ⟨r, device, notified, hok, hheard, hx⟩ := hear_mirrors t h.toMirrors
  rw [hx]
  exact ⟨r, _, hok, hheard, ⟨⟨h.context_eq, rfl, h.resyncs_eq, h.keeps⟩, h.isOver_eq, h.client_eq,
    h.carries⟩⟩

theorem hear_left (t : Transport σ) (h : HasLeft id sent resyncs x s w) :
    ∃ r s', (Hears t s.device → r = .ok ()) ∧ s.heard t = (r, s') ∧ s'.client = s.client ∧
      HasLeft id sent resyncs (x.hear t) s' w := by
  obtain ⟨r, device, notified, hok, hheard, hx⟩ := hear_mirrors t h.toMirrors
  rw [hx]
  exact ⟨r, _, hok, hheard, rfl, ⟨⟨h.context_eq, rfl, h.resyncs_eq, h.keeps⟩, h.isOver_eq,
    h.client_ne, h.letGo⟩⟩

theorem turn_converse {unread : Bytes} (hr : received.Idle)
    (h : Serves id received pending sent resyncs x s w)
    (hcarries : w.network.Carries id unread (sent ++ x.bytes)) :
    ∃ messages received', received.Absorbs (unread.take readChunk) messages received' ∧
      (Serves id received' (unread.drop readChunk ++ written id w.meanwhile.flatten) sent resyncs
          (x.converse t messages) (s.turn t w).1 (s.turn t w).2 ∨
        HasLeft id sent resyncs (x.converse t messages) (s.turn t w).1 (s.turn t w).2) := by
  have hready : w.network.readable id = !unread.isEmpty := by
    rw [Network.readable, hcarries.find_eq]
    exact Bool.or_false _
  by_cases hunread : unread = []
  · subst hunread
    have hturn : s.turn t w = (s, w) := by
      simp only [turn, h.client_eq, hready, List.isEmpty_nil, Bool.not_true, Bool.false_eq_true,
        if_false]
    rw [hturn]
    exact ⟨[], received, Reassembly.absorbs_nil hr,
      .inl { h with carries := ⟨[], hcarries, rfl⟩ }⟩
  · have hturn : s.turn t w = s.serve t ⟨id, received⟩ w := by
      simp only [turn, h.client_eq, hready, List.isEmpty_eq_false_iff.mpr hunread, Bool.not_false,
        if_true]
    rw [hturn]
    exact serve_converse hr h hcarries hunread

theorem poll_converse {unread : Bytes} (hhears : Hears t s.device) (hr : received.Idle)
    (h : Serves id received pending sent resyncs x s w)
    (hcarries : w.network.Carries id unread (sent ++ x.bytes)) :
    ∃ s' w' messages received', s.poll t w = (.ok (), s', w') ∧
      received.Absorbs (unread.take readChunk) messages received' ∧
      (Serves id received' (unread.drop readChunk ++ written id w.meanwhile.flatten) sent resyncs
          ((x.hear t).converse t messages) s' w' ∨
        HasLeft id sent resyncs ((x.hear t).converse t messages) s' w') := by
  obtain ⟨r, s₁, hok, hheard, h₁⟩ := hear_serves t h
  obtain rfl : r = .ok () := hok hhears
  have hcarries₁ : w.network.Carries id unread (sent ++ (x.hear t).bytes) := by
    rw [Exchange.hear_eq]
    exact hcarries
  obtain ⟨messages, received', habsorbs, hserved⟩ := turn_converse (t := t) hr h₁ hcarries₁
  rw [poll_of_heard hheard]
  split
  · exact ⟨_, _, messages, received', rfl, habsorbs, hserved⟩
  · exact ⟨_, _, messages, received', rfl, habsorbs, hserved.imp accept_serves accept_left⟩

theorem settle_serves (h : Serves id received pending sent resyncs x s w) :
    Serves id received pending sent resyncs x s
      ⟨w.meanwhile.flatten.foldl Network.act w.network, []⟩ := by
  obtain ⟨unread, hcarries, hpending⟩ := h.carries
  have hall := hcarries.acts h.keeps
  rw [hpending] at hall
  exact { h with
    keeps := fun _ ha => absurd ha List.not_mem_nil
    carries := ⟨pending, hall, List.append_nil pending⟩ }

theorem settle_left (h : HasLeft id sent resyncs x s w) :
    HasLeft id sent resyncs x s ⟨w.meanwhile.flatten.foldl Network.act w.network, []⟩ :=
  { h with
    keeps := fun _ ha => absurd ha List.not_mem_nil
    letGo := h.letGo.acts h.keeps }

theorem attend_of_left (h : s.client.any (·.id = id) = false) (rounds : List Round) (n : Network) :
    attend t id rounds s n = (s, n) := by
  cases rounds with
  | nil => rfl
  | cons round rounds => rw [attend, h, if_neg Bool.false_ne_true]

theorem attend_converse (hquiet : ∀ device, t.announces device = false) {rounds : List Round}
    {n : Network} (hrounds : ∀ round ∈ rounds, ∀ a ∈ round.activities, a.Keeps id)
    (hr : received.Idle) (h : Serves id received pending sent resyncs x s ⟨n, []⟩) :
    let (s', n') := attend t id rounds s n
    (∃ received', Serves id received' (intake id pending rounds).2 sent resyncs
        (x.converse t (received.owed (intake id pending rounds).1).1) s' ⟨n', []⟩) ∨
      HasLeft id sent resyncs (x.converse t (received.owed (intake id pending rounds).1).1) s'
        ⟨n', []⟩ := by
  induction rounds generalizing received pending x s n with
  | nil =>
    refine .inl ⟨received, ?_⟩
    rw [intake, hr.owed_nil]
    exact h
  | cons round rounds ih =>
    obtain ⟨hround, hlater⟩ := List.forall_mem_cons.mp hrounds
    obtain ⟨hbefore, hmeanwhile⟩ := List.forall_mem_append.mp hround
    obtain ⟨unread, hcarries, hpending⟩ := h.carries
    rw [List.flatten_nil, written, List.flatMap_nil, List.append_nil] at hpending
    subst hpending
    -- what was written before the round can be read in it, and the rest after it
    have hstart : Serves id received
        (unread ++ written id round.before ++ written id round.meanwhile.flatten) sent resyncs x s
        ⟨round.before.foldl Network.act n, round.meanwhile⟩ :=
      { h with keeps := hmeanwhile, carries := ⟨_, hcarries.acts hbefore, rfl⟩ }
    have hhears : Hears t s.device := by
      intro hannounced
      rw [hquiet s.device] at hannounced
      cases hannounced
    obtain ⟨s', w', messages, received', hpoll, habsorbs, hserved⟩ :=
      poll_converse hhears hr hstart (hcarries.acts hbefore)
    rw [Exchange.hear_of_quiet (hquiet x.device)] at hserved
    have hclient : s.client.any (·.id = id) = true := by
      rw [h.client_eq]
      exact decide_eq_true rfl
    have hattend : attend t id (round :: rounds) s n = attend t id rounds s'
        (w'.meanwhile.flatten.foldl Network.act w'.network) := by
      rw [attend, if_pos hclient, hpoll]
    rw [hattend, intake]
    simp only [habsorbs.owed_eq, Exchange.converse_append]
    rcases hserved with hserves | hleft
    · exact ih hlater habsorbs.idle (settle_serves hserves)
    · rw [attend_of_left hleft.client_ne, Exchange.converse_of_isOver hleft.isOver_eq]
      exact .inr (settle_left hleft)

theorem serves_anew {n : Network} {early : Bytes} (hclient : s.client = some ⟨id, received⟩)
    (hcarries : n.Carries id early sent) :
    Serves id received early sent s.resyncs ⟨s.context, s.device, []⟩ s ⟨n, []⟩ := by
  refine ⟨⟨rfl, rfl, rfl, fun _ ha => absurd ha List.not_mem_nil⟩, rfl, hclient, early, ?_,
    List.append_nil early⟩
  rwa [Exchange.bytes, List.flatMap_nil, List.flatten_nil, List.append_nil]

/-- A service has accepted a client and polls as often as may be, while the client writes and others
do what they like. Its transport announces nothing. What it has read of its client by then it has
answered, message after message and up to a reboot, as in an exchange: with these frames, these
calls of the device and so many calls of the controls. A reboot ends the connection, and nothing
else does. How the bytes were split has no other part in it. -/
theorem answers_by_stream (t : Transport σ) (id : ConnectionId) (rounds : List Round)
    (s : Server (σ × List Call)) (n : Network) (early sent : Bytes)
    (hquiet : ∀ device, t.announces device = false)
    (hclient : s.client = some ⟨id, .standard⟩)
    (hconnection : n.connections.lookup id = some { toService := early, toClient := sent })
    (hwaiting : id ∉ n.waiting)
    (hrounds : ∀ round ∈ rounds, ∀ a ∈ round.activities, a ≠ .connect id ∧ a ≠ .close id) :
    let (s', n') := attend t.logged id rounds s n
    let read := (intake id early rounds).1
    let unread := (intake id early rounds).2
    let x := Exchange.converse t ⟨s.context, s.device.1, []⟩
      (Reassembly.standard.extend read).drain.1
    read ++ unread = early ++ written id (rounds.flatMap Round.activities) ∧
      (n'.find id).toClient = sent ++ x.bytes ∧ s'.device = (x.device, s.device.2 ++ x.calls) ∧
      s'.context = x.context ∧ s'.resyncs = s.resyncs + x.resyncs ∧
      (n'.find id).closedByService = x.isOver ∧ s'.client.any (·.id = id) = !x.isOver ∧
      (x.isOver = false → (n'.find id).toService = unread) := by
  have hattend := attend_converse (t := t.logged) (fun device => hquiet device.1) hrounds
    Reassembly.idle_standard (serves_anew hclient ⟨hconnection, hwaiting⟩)
  have hstart : (⟨s.context, s.device, []⟩ : Exchange (σ × List Call)) =
      Exchange.logged s.device.2 ⟨s.context, s.device.1, []⟩ := by
    simp [Exchange.logged, Exchange.calls]
  simp only [Reassembly.owed_standard, hstart, Exchange.converse_logged] at hattend
  refine ⟨intake_append id early rounds, ?_⟩
  generalize attend t.logged id rounds s n = attended at hattend ⊢
  rcases hattend with ⟨received, hserves⟩ | hleft
  · obtain ⟨unread, hcarries, hunread⟩ := hserves.carries
    rw [List.flatten_nil, written, List.flatMap_nil, List.append_nil] at hunread
    have hgoing := hserves.isOver_eq
    rw [hcarries.find_eq, hserves.client_eq]
    refine ⟨rfl, hserves.device_eq, hserves.context_eq, hserves.resyncs_eq, hgoing.symm, ?_,
      fun _ => hunread⟩
    exact (decide_eq_true rfl).trans (congrArg Bool.not hgoing).symm
  · obtain ⟨hsent, hclosed⟩ := hleft.letGo.find_eq
    have hover := hleft.isOver_eq
    refine ⟨hsent, hleft.device_eq, hleft.context_eq, hleft.resyncs_eq, hclosed.trans hover.symm,
      ?_, ?_⟩
    · rw [hleft.client_ne]
      exact (congrArg Bool.not hover).symm
    · intro hgoing
      exact absurd (hover.symm.trans hgoing) (by decide)

/-- A message that is none, and a reboot that comes in two parts while another client connects. What
is written after the reboot is not answered. -/
theorem reboot_in_parts_answered :
    let s : Server (Simulator × List Call) :=
      { device := ({}, []), context := { usbId := ⟨1, 2⟩, firmwareBuild := 3 },
        config := { card := 0, socketDirectory := "run" }, client := some ⟨1, .standard⟩ }
    let n : Network := { connections := [(1, {})] }
    let rounds : List Round :=
      [⟨[.write 1 [0, 0, 0, 0, 0, 0, 0x53]], []⟩,
        ⟨[.connect 2, .write 1 [1, 0, 0, 0, 0, 0x53, 2, 0, 0, 0, 0]], []⟩]
    (∀ device, Simulator.transport.announces device = false) ∧
      (∀ round ∈ rounds, ∀ a ∈ round.activities, a ≠ .connect 1 ∧ a ≠ .close 1) ∧
      let (s', n') := attend Simulator.transport.logged 1 rounds s n
      (n'.find 1).toClient = Response.encodeError .invalidMagic ++ Response.encodeSuccess ∧
        s'.device.2 = [Command.reboot.call] ∧ s'.resyncs = 0 ∧
        (n'.find 1).closedByService = true := by
  intro s n rounds
  have hquiet : ∀ device, Simulator.transport.announces device = false := fun _ => rfl
  have hrounds : ∀ round ∈ rounds, ∀ a ∈ round.activities, a ≠ .connect 1 ∧ a ≠ .close 1 := by
    decide
  have hanswers := answers_by_stream Simulator.transport 1 rounds s n [] []
  specialize hanswers hquiet rfl rfl List.not_mem_nil hrounds
  refine ⟨hquiet, hrounds, ?_⟩
  generalize attend Simulator.transport.logged 1 rounds s n = attended at hanswers ⊢
  obtain ⟨-, hsent, hdevice, -, hresyncs, hclosed, -⟩ := hanswers
  generalize hx : Exchange.converse Simulator.transport ⟨s.context, s.device.1, []⟩
    (Reassembly.standard.extend (intake 1 [] rounds).1).drain.1 = x
    at hsent hdevice hresyncs hclosed
  obtain ⟨hbytes, hcalls, hcount, hover⟩ :
      x.bytes = Response.encodeError .invalidMagic ++ Response.encodeSuccess ∧
        x.calls = [Command.reboot.call] ∧ x.resyncs = 0 ∧ x.isOver = true := by
    rw [← hx]
    decide +kernel
  rw [hbytes] at hsent
  rw [hcalls] at hdevice
  rw [hcount] at hresyncs
  exact ⟨hsent, congrArg Prod.snd hdevice, hresyncs, hclosed.trans hover⟩

end Server

end CardFirmware
