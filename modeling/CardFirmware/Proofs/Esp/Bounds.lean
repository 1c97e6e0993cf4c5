import CardFirmware.Proofs.Device.Reports
import CardFirmware.Proofs.Esp.Waits
import Mathlib.Tactic.Ring

/-! What a transfer takes at most, whatever its device answers: so many commands and so many waits
for a change. It succeeds only if every wait heard of a change and every state and notification
code that it waits for was read (`handshake_bounded`). -/

namespace CardFirmware

namespace Esp

/-- What a transfer does, with each wait for a change as a whole. -/
inductive Part where
  | sent (command : Command) (reply : Except TransportError Bytes)
  | waited (awaited : String) (replies : List (Except TransportError (Option UInt32)))
      (result : Except DfuError Unit)
  | reported (percent : Nat)
  | ticked

namespace Part

def events : Part → List Event
  | sent command reply => [.sent command reply]
  | waited _ replies _ => replies.map .heard
  | reported percent => [.reported percent]
  | ticked => [.ticked]

def isCommand : Part → Bool
  | sent _ _ => true
  | _ => false

def isWait : Part → Bool
  | waited _ _ _ => true
  | _ => false

def isShown : Part → Bool
  | reported _ | ticked => true
  | _ => false

def Valid (config : EspConfig) (reads : Nat) : Part → Prop
  | waited awaited replies result => Waited config reads awaited replies result
  | _ => True

def Changed : Part → Prop
  | waited _ _ result => result = .ok ()
  | _ => True

theorem commands_flatMap (parts : List Part) :
    ((parts.flatMap events).filterMap Event.command?).length = parts.countP isCommand := by
  induction parts with
  | nil => rfl
  | cons part parts ih =>
    rw [List.flatMap_cons, List.filterMap_append, List.length_append, ih, List.countP_cons,
      Nat.add_comm]
    cases part with
    | waited awaited replies result =>
      simp [events, isCommand, List.filterMap_map, Function.comp_def, Event.command?]
    | sent | reported | ticked => rfl

end Part

structure Parts (config : EspConfig) (reads : Nat) (es : List Event) (parts : List Part) :
    Prop where
  events_eq : parts.flatMap Part.events = es
  valid : ∀ part ∈ parts, part.Valid config reads

section Takes

variable {config : EspConfig} {reads : Nat} {es es' : List Event} {parts parts' : List Part}

theorem Parts.append (h : Parts config reads es parts) (h' : Parts config reads es' parts') :
    Parts config reads (es ++ es') (parts ++ parts') where
  events_eq := by rw [List.flatMap_append, h.events_eq, h'.events_eq]
  valid part hpart := (List.mem_append.mp hpart).elim (h.valid part) (h'.valid part)

/-- Every run of the procedure consists of so many commands, waits and parts that are shown, at
most; if it succeeds, all of its waits ended with a change. -/
def Takes {ε α : Type} (config : EspConfig) (reads commands waits shown : Nat)
    (p : Procedure ε α) : Prop :=
  ∀ es r, p.Runs es r → ∃ parts, Parts config reads es parts ∧
    parts.countP Part.isCommand ≤ commands ∧ parts.countP Part.isWait ≤ waits ∧
    parts.countP Part.isShown ≤ shown ∧ ∀ a, r = .ok a → ∀ part ∈ parts, part.Changed

variable {ε ε' α β : Type} {p : Procedure ε α} {f : α → Procedure ε β}
  {commands waits shown commands' waits' shown' : Nat}

theorem takes_of_part (h : ∀ es r, p.Runs es r → es = [] ∨ ∃ part : Part, es = part.events ∧
      part.Valid config reads ∧ (∀ a, r = .ok a → part.Changed) ∧
      part.isCommand.toNat ≤ commands ∧ part.isWait.toNat ≤ waits ∧ part.isShown.toNat ≤ shown) :
    Takes config reads commands waits shown p := by
  intro es r hr
  obtain rfl | ⟨part, rfl, hvalid, hchanged, hcommands, hwaits, hshown⟩ := h es r hr
  · exact ⟨[], ⟨rfl, fun _ hp => absurd hp List.not_mem_nil⟩, Nat.zero_le _, Nat.zero_le _,
      Nat.zero_le _, fun _ _ _ hp => absurd hp List.not_mem_nil⟩
  · have hcount : ∀ q : Part → Bool, [part].countP q = (q part).toNat := by
      intro q
      cases hq : q part <;> simp [hq]
    refine ⟨[part], ⟨List.flatMap_singleton .., fun part' hp => ?_⟩, ?_, ?_, ?_,
      fun a ha part' hp => ?_⟩
    · rw [List.mem_singleton.mp hp]
      exact hvalid
    · rwa [hcount]
    · rwa [hcount]
    · rwa [hcount]
    · rw [List.mem_singleton.mp hp]
      exact hchanged a ha

theorem takes_of_runs_nil (h : ∀ es r, p.Runs es r → es = []) : Takes config reads 0 0 0 p :=
  takes_of_part fun es r hr => .inl (h es r hr)

theorem takes_pure (a : α) : Takes config reads 0 0 0 (pure a : Procedure ε α) :=
  takes_of_runs_nil fun _ _ h => (Procedure.runs_pure.mp h).1

theorem takes_throw (e : ε) : Takes config reads 0 0 0 (throw e : Procedure ε α) :=
  takes_of_runs_nil fun _ _ h => (Procedure.runs_throw.mp h).1

theorem Takes.mono (h : Takes config reads commands waits shown p)
    (hcommands : commands ≤ commands')
    (hwaits : waits ≤ waits') (hshown : shown ≤ shown') :
    Takes config reads commands' waits' shown' p := by
  intro es r hr
  obtain ⟨parts, hparts, hc, hw, hs, hok⟩ := h es r hr
  exact ⟨parts, hparts, hc.trans hcommands, hw.trans hwaits, hs.trans hshown, hok⟩

theorem Takes.bind (hp : Takes config reads commands waits shown p)
    (hf : ∀ a, Takes config reads commands' waits' shown' (f a)) :
    Takes config reads (commands + commands') (waits + waits') (shown + shown') (p >>= f) := by
  intro es r h
  obtain ⟨e, h₁, rfl⟩ | ⟨a, es₁, es₂, rfl, h₁, h₂⟩ := Procedure.runs_bind.mp h
  · obtain ⟨parts, hparts, hc, hw, hs, -⟩ := hp es _ h₁
    exact ⟨parts, hparts, Nat.le_add_right_of_le hc, Nat.le_add_right_of_le hw,
      Nat.le_add_right_of_le hs, fun _ h => nomatch h⟩
  · obtain ⟨parts, hparts, hc, hw, hs, hok⟩ := hp es₁ _ h₁
    obtain ⟨parts', hparts', hc', hw', hs', hok'⟩ := hf a es₂ r h₂
    refine ⟨parts ++ parts', hparts.append hparts', ?_, ?_, ?_, fun b hb part hpart => ?_⟩
    · rw [List.countP_append]
      exact Nat.add_le_add hc hc'
    · rw [List.countP_append]
      exact Nat.add_le_add hw hw'
    · rw [List.countP_append]
      exact Nat.add_le_add hs hs'
    · exact (List.mem_append.mp hpart).elim (hok a rfl part) (hok' b hb part)

theorem Takes.bind_le {commands'' waits'' shown'' : Nat}
    (hp : Takes config reads commands waits shown p)
    (hf : ∀ a, Takes config reads commands' waits' shown' (f a))
    (hcommands : commands + commands' ≤ commands'') (hwaits : waits + waits' ≤ waits'')
    (hshown : shown + shown' ≤ shown'') :
    Takes config reads commands'' waits'' shown'' (p >>= f) :=
  (hp.bind hf).mono hcommands hwaits hshown

theorem Takes.orFail {g : ε → ε'} (hp : Takes config reads commands waits shown p) :
    Takes config reads commands waits shown (p.orFail g) := by
  intro es r h
  obtain ⟨r', h', rfl⟩ := Procedure.runs_orFail.mp h
  obtain ⟨parts, hparts, hc, hw, hs, hok⟩ := hp es r' h'
  refine ⟨parts, hparts, hc, hw, hs, fun a ha => ?_⟩
  cases r' with
  | error e => cases ha
  | ok b => exact hok b rfl

theorem takes_send (c : Command) : Takes config reads 1 0 0 (Device.send c) := by
  refine takes_of_part fun es r h => ?_
  obtain rfl | ⟨reply, rfl⟩ := Device.runs_send_cases h
  · exact .inl rfl
  · exact .inr ⟨.sent c reply, rfl, trivial, fun _ _ => trivial, Nat.le_refl 1, Nat.le_refl 0,
      Nat.le_refl 0⟩

theorem takes_query (c : Command) (f : Bytes → Except WireError α) :
    Takes config reads 1 0 0 (Device.send c >>= fun b => Device.decoded (f b)) :=
  (takes_send c).bind fun _ => takes_of_runs_nil fun _ _ h => (Procedure.runs_ofExcept.mp h).1

theorem takes_command (c : Command) : Takes config reads 1 0 0 (Device.command c) :=
  (takes_send c).bind fun _ => takes_pure ()

theorem takes_tick : Takes config reads 0 0 1 (Procedure.tick : Procedure ε Unit) := by
  refine takes_of_part fun es r h => .inr ⟨.ticked, ?_, trivial, fun _ _ => trivial, by decide⟩
  exact (Procedure.runs_tick.mp h).1

theorem takes_update (p : Progress) (percent : Nat) :
    Takes config reads 0 0 1 (p.update percent : Procedure ε Progress) := by
  refine takes_of_part fun es r h => ?_
  obtain ⟨-, rfl⟩ := Progress.runs_update h
  split
  · exact .inl rfl
  · exact .inr ⟨.reported (min percent 100), rfl, trivial, fun _ _ => trivial, Nat.le_refl 0,
      Nat.le_refl 0, Nat.le_refl 1⟩

theorem Part.reports_eq_nil {part : Part} (h : part.isShown = false) :
    part.events.filterMap Event.percent? = [] := by
  cases part with
  | waited awaited replies result =>
    simp [events, List.filterMap_map, Function.comp_def, Event.percent?]
  | sent | ticked => rfl
  | reported => cases h

theorem Takes.silent (h : Takes config reads commands waits 0 p) : p.Silent := by
  intro es r hr
  obtain ⟨parts, hparts, -, -, hshown, -⟩ := h es r hr
  have hnone := List.countP_eq_zero.mp (Nat.le_zero.mp hshown)
  rw [← hparts.events_eq, List.filterMap_flatMap]
  exact List.flatMap_eq_nil_iff.mpr fun part hpart =>
    Part.reports_eq_nil (Bool.eq_false_iff.mpr (hnone part hpart))

theorem takes_wait (awaited : String) :
    Takes config reads 0 1 0 (awaitChange config awaited reads) := by
  refine takes_of_part fun es r h => ?_
  obtain ⟨replies, rfl, hwaited⟩ := awaitChange_waited h
  exact .inr ⟨.waited awaited replies r, rfl, hwaited, fun _ hr => hr, Nat.le_refl 0,
    Nat.le_refl 1, Nat.le_refl 0⟩

end Takes

section Steps

variable (config : EspConfig) (timings : DfuTimings)

theorem takes_state (reads : Nat) : Takes config reads 1 0 0 (state config) :=
  (takes_query _ _).orFail.bind fun _ => takes_pure _

theorem takes_awaitState (reads : Nat) (expected : UInt8) (n : Nat) (initial : UInt8) :
    Takes config reads n 0 0 (awaitState config expected n initial) := by
  induction n generalizing initial with
  | zero => exact takes_throw _
  | succ n ih =>
    have hnext (actual : UInt8) : Takes config reads n 0 0
        (if actual = expected then pure () else awaitState config expected n actual) := by
      split
      · exact (takes_pure ()).mono (Nat.zero_le n) (Nat.le_refl 0) (Nat.le_refl 0)
      · exact ih actual
    exact (takes_state config reads).bind_le hnext (by omega) (Nat.le_refl 0) (Nat.le_refl 0)

theorem takes_awaitNotify (reads : Nat) (expected : UInt8) (awaited : String) (n : Nat) :
    Takes config reads (2 * n) n 0 (awaitNotify config reads expected awaited n) := by
  induction n with
  | zero => exact takes_throw _
  | succ n ih =>
    have hnext (code : UInt8) : Takes config reads (2 * n) n 0
        (if code = expected then pure () else
          awaitNotify config reads expected awaited n) := by
      split
      · exact (takes_pure ()).mono (Nat.zero_le _) (Nat.zero_le n) (Nat.le_refl 0)
      · exact ih
    exact (takes_wait awaited).bind_le (fun _ => (takes_query _ _).orFail.bind fun v =>
      (takes_command _).orFail.bind fun _ => hnext v.toUInt32.toUInt8)
      (by omega) (by omega) (Nat.le_refl 0)

theorem takes_setState (target : UInt8) :
    Takes config timings.notificationReads (2 + timings.stateAttempts) 1 0
      (setState config timings target) := by
  have hmode : Takes config timings.notificationReads 2 0 0 (setBootMode config target) :=
    (takes_command _).orFail.bind fun _ => (takes_command _).orFail
  exact hmode.bind_le (fun _ => (takes_wait _).bind fun _ => takes_awaitState config _ _ _ _)
    (by omega) (by omega) (by omega)

theorem takes_makeOff (current : UInt8) :
    Takes config timings.notificationReads (2 + timings.stateAttempts) 1 0
      (makeOff config timings current) := by
  unfold makeOff
  split
  · exact (takes_throw _).mono (Nat.zero_le _) (Nat.zero_le _) (Nat.le_refl 0)
  · split
    · exact takes_setState config timings _
    · split
      · exact (takes_throw _).mono (Nat.zero_le _) (Nat.zero_le _) (Nat.le_refl 0)
      · exact (takes_pure ()).mono (Nat.zero_le _) (Nat.zero_le _) (Nat.le_refl 0)

theorem takes_start (data : Bytes) (md5 : Octets 16) :
    Takes config timings.notificationReads (1 + timings.stateAttempts + 2 * timings.notifyAttempts)
      (1 + timings.notifyAttempts) 0 (start config timings data md5) :=
  (takes_command _).orFail.bind_le (fun _ => (takes_wait _).bind fun _ =>
    (takes_awaitState config _ _ _ _).bind fun _ => takes_awaitNotify config _ _ _ _)
    (by omega) (by omega) (by omega)

theorem takes_sendBlocks (total offset : Nat) (p : Progress) (blocks : List Bytes) :
    Takes config timings.notificationReads (blocks.length * (1 + 2 * timings.notifyAttempts))
      (blocks.length * timings.notifyAttempts) (blocks.length * 2)
      (sendBlocks config timings total offset p blocks) := by
  induction blocks generalizing offset p with
  | nil => exact (takes_pure p).mono (Nat.zero_le _) (Nat.zero_le _) (Nat.zero_le _)
  | cons block blocks ih =>
    rw [List.length_cons, Nat.succ_mul blocks.length, Nat.succ_mul blocks.length,
      Nat.succ_mul blocks.length]
    exact (takes_command _).orFail.bind_le (fun _ => (takes_awaitNotify config _ _ _ _).bind
      fun _ => (takes_update p _).bind fun p => takes_tick.bind fun _ => ih _ p)
      (by omega) (by omega) (by omega)

theorem takes_conclude :
    Takes config timings.notificationReads
      (1 + 2 * timings.notifyAttempts + 2 * (2 + timings.stateAttempts))
      (timings.notifyAttempts + 2) 0 (conclude config timings) :=
  (takes_command _).orFail.bind_le (fun _ => (takes_awaitNotify config _ _ _ _).bind fun _ =>
    (takes_setState config timings _).bind fun _ => takes_setState config timings _)
    (by omega) (by omega) (by omega)

theorem takes_transfer (data : Bytes) (md5 : Octets 16) (p : Progress) {blocks : Nat}
    (hblocks : (data.chunksOf espBlockSize).length = blocks) :
    Takes config timings.notificationReads
      (9 + 4 * timings.stateAttempts + blocks + 2 * timings.notifyAttempts * (blocks + 2))
      (4 + timings.notifyAttempts * (blocks + 2)) (blocks * 2)
      (transfer config timings data md5 p) := by
  subst hblocks
  rw [transfer_eq]
  refine (takes_state config _).bind_le (fun v => (takes_makeOff config timings v).bind fun _ =>
    (takes_start config timings data md5).bind fun _ =>
      (takes_sendBlocks config timings _ _ _ _).bind fun q =>
        (takes_conclude config timings).bind fun _ => takes_pure q) ?_ ?_ ?_
  · exact Nat.le_of_eq (by ring)
  · exact Nat.le_of_eq (by ring)
  · omega

end Steps

section Shows

variable {ε α β : Type} {p : Procedure ε α} {f : α → Procedure ε β} {l l' : List Event}

def Shows (l : List Event) (p : Procedure ε α) : Prop :=
  ∀ es a, p.Runs es (.ok a) → l.Sublist es

theorem shows_nil (p : Procedure ε α) : Shows [] p := fun es _ _ => es.nil_sublist

theorem shows_throw (l : List Event) (e : ε) : Shows l (throw e : Procedure ε α) :=
  fun _ _ h => nomatch (Procedure.runs_throw.mp h).2

theorem Shows.bind (hp : Shows l p) (hf : ∀ a, Shows l' (f a)) : Shows (l ++ l') (p >>= f) := by
  intro es b h
  obtain ⟨e, -, hr⟩ | ⟨a, es₁, es₂, rfl, h₁, h₂⟩ := Procedure.runs_bind.mp h
  · cases hr
  · exact (hp es₁ a h₁).append (hf a es₂ b h₂)

theorem Shows.then (hf : ∀ a, Shows l (f a)) : Shows l (p >>= f) := (shows_nil p).bind hf

variable {config : EspConfig} {timings : DfuTimings}

theorem awaitState_shows (expected : UInt8) (n : Nat) (initial : UInt8) :
    Shows [reading config.stateOffset expected] (awaitState config expected n initial) :=
  fun _ _ h => List.singleton_sublist.mpr ((awaitState_awaited h).ok_iff.mp rfl)

theorem awaitNotify_shows (reads : Nat) (expected : UInt8) (awaited : String) (n : Nat) :
    Shows [reading config.notifyOffset expected]
      (awaitNotify config reads expected awaited n) := by
  intro es a h
  obtain ⟨past, rfl⟩ := (awaitNotify_awaited h).ok_iff.mp rfl
  exact List.singleton_sublist.mpr (by simp)

theorem setState_shows (target : UInt8) :
    Shows [reading config.stateOffset target] (setState config timings target) :=
  .then fun _ => .then fun _ => awaitState_shows target _ 0

def switchingOff (config : EspConfig) (found : UInt8) : List Event :=
  if found = config.states.normal then [reading config.stateOffset config.states.off] else []

theorem makeOff_shows (found : UInt8) :
    Shows (switchingOff config found) (makeOff config timings found) := by
  unfold makeOff
  split
  · exact shows_throw _ _
  · split
    · next hnormal =>
      rw [switchingOff, if_pos hnormal]
      exact setState_shows _
    · next hnormal =>
      rw [switchingOff, if_neg hnormal]
      exact shows_nil _

theorem start_shows (data : Bytes) (md5 : Octets 16) :
    Shows [reading config.stateOffset config.states.dfu,
      reading config.notifyOffset config.notifications.nextBlock]
      (start config timings data md5) :=
  .then fun _ => .then fun _ => (awaitState_shows _ _ _).bind fun _ => awaitNotify_shows _ _ _ _

theorem sendBlocks_shows (total offset : Nat) (p : Progress) (blocks : List Bytes) :
    Shows (List.replicate blocks.length
      (reading config.notifyOffset config.notifications.nextBlock))
      (sendBlocks config timings total offset p blocks) := by
  induction blocks generalizing offset p with
  | nil => exact shows_nil _
  | cons block blocks ih =>
    exact .then fun _ => (awaitNotify_shows _ _ _ _).bind fun _ => .then fun p => .then fun _ =>
      ih _ p

theorem conclude_shows :
    Shows [reading config.notifyOffset config.notifications.finish,
      reading config.stateOffset config.states.off,
      reading config.stateOffset config.states.normal] (conclude config timings) :=
  .then fun _ => (awaitNotify_shows _ _ _ _).bind fun _ =>
    (setState_shows _).bind fun _ => setState_shows _

/-- What a transfer of so many blocks waits to read, from the state in which it found the
coprocessor on. -/
def confirmations (config : EspConfig) (found : UInt8) (blocks : Nat) : List Event :=
  [reading config.stateOffset found] ++ (switchingOff config found ++
    ([reading config.stateOffset config.states.dfu,
      reading config.notifyOffset config.notifications.nextBlock] ++
    (List.replicate blocks (reading config.notifyOffset config.notifications.nextBlock) ++
    [reading config.notifyOffset config.notifications.finish,
      reading config.stateOffset config.states.off,
      reading config.stateOffset config.states.normal])))

theorem transfer_shows {data : Bytes} {md5 : Octets 16} {p q : Progress} {es : List Event}
    (h : (transfer config timings data md5 p).Runs es (.ok q)) :
    ∃ found, MayStart config found ∧
      (confirmations config found (data.chunksOf espBlockSize).length).Sublist es := by
  rw [transfer_eq] at h
  obtain ⟨reply, e, -, -, hr⟩ | ⟨found, rest, rfl, hrest⟩ := runs_stateCall h
  · cases hr
  · refine ⟨found, ?_, ?_⟩
    · by_contra hstart
      obtain ⟨e, he⟩ := makeOff_eq_throw config timings hstart
      rw [he] at hrest
      cases (Procedure.runs_throw.mp hrest).2
    · have hshows : Shows _ (do
          makeOff config timings found
          start config timings data md5
          let p ← sendBlocks config timings data.length 0 p (data.chunksOf espBlockSize)
          conclude config timings
          return p) :=
        (makeOff_shows found).bind fun _ => (start_shows data md5).bind fun _ =>
          (sendBlocks_shows _ _ _ _).bind fun _ => conclude_shows.bind fun _ => shows_nil _
      have hsublist := hshows _ _ hrest
      rw [List.append_nil] at hsublist
      exact hsublist.cons_cons _

end Shows

/-- A transfer sends and waits no more often than its attempts allow. It succeeds only if each of
its waits heard of a change and all that it waits to read was read, in order. The state is read
until it is the expected one, and a notification code is waited for in rounds that clear it; a wait
that hears nothing more has failed. -/
theorem handshake_bounded {σ : Type} (t : Transport σ) (device : σ) (config : EspConfig)
    (timings : DfuTimings) :
    let attempts := timings.stateAttempts
    let rounds := timings.notifyAttempts
    let reads := timings.notificationReads
    (∀ (data : Bytes) (md5 : Octets 16) (p : Progress),
      let blocks := (data.length + 1023) / 1024
      let (result, link) := (transfer config timings data md5 p).perform t device
      link.commands.length ≤ 9 + 4 * attempts + blocks + 2 * rounds * (blocks + 2) ∧
      ∃ parts, Parts config reads link.events.reverse parts ∧
        parts.countP Part.isWait ≤ 4 + rounds * (blocks + 2) ∧
        ∀ q, result = .ok q → (∀ part ∈ parts, part.Changed) ∧
          ∃ found, MayStart config found ∧
            (confirmations config found blocks).Sublist link.events.reverse) ∧
    (∀ expected : UInt8,
      let (result, link) := (awaitState config expected attempts 0).perform t device
      StateAwaited config expected attempts 0 link.events.reverse result ∧
      (result = .ok () ↔ reading config.stateOffset expected ∈ link.events)) ∧
    (∀ (expected : UInt8) (awaited : String),
      let (result, link) := (awaitNotify config reads expected awaited rounds).perform t device
      NotifyAwaited config reads expected awaited rounds link.events.reverse result ∧
      (result = .ok () ↔ ∃ past, link.events =
        .sent (clearing config) (.ok []) :: reading config.notifyOffset expected :: past)) ∧
    ∀ awaited : String,
      let (result, link) := (awaitChange config awaited reads).perform t device
      ∃ replies, link.events.reverse = replies.map .heard ∧
        Waited config reads awaited replies result ∧
        (.ok none ∈ replies → result = .error (.timeout awaited)) := by
  intro attempts rounds reads
  refine ⟨fun data md5 p => ?_, fun expected => ?_, fun expected awaited => ?_,
    fun awaited => ?_⟩
  · intro blocks
    have hruns := Procedure.runs_perform t (transfer config timings data md5 p) device
    generalize (transfer config timings data md5 p).perform t device = out at hruns
    obtain ⟨result, link⟩ := out
    have hblocks : (data.chunksOf espBlockSize).length = blocks :=
      Bytes.length_chunksOf (by decide) data
    obtain ⟨parts, hparts, hcommands, hwaits, -, hchanged⟩ :=
      takes_transfer config timings data md5 p hblocks _ _ hruns
    refine ⟨?_, parts, hparts, hwaits, fun q hq => ⟨hchanged q hq, ?_⟩⟩
    · rw [Link.commands_eq, ← hparts.events_eq, Part.commands_flatMap]
      exact hcommands
    · subst hq
      rw [← hblocks]
      exact transfer_shows hruns
  · have hruns := Procedure.runs_perform t (awaitState config expected attempts 0) device
    generalize (awaitState config expected attempts 0).perform t device = out at hruns
    obtain ⟨result, link⟩ := out
    have hawaited := awaitState_awaited hruns
    exact ⟨hawaited, hawaited.ok_iff.trans List.mem_reverse⟩
  · have hruns := Procedure.runs_perform t (awaitNotify config reads expected awaited rounds) device
    generalize (awaitNotify config reads expected awaited rounds).perform t device = out at hruns
    obtain ⟨result, link⟩ := out
    have hawaited := awaitNotify_awaited hruns
    refine ⟨hawaited, hawaited.ok_iff.trans ⟨?_, ?_⟩⟩
    · rintro ⟨past, hes⟩
      exact ⟨past.reverse, by simpa using congrArg List.reverse hes⟩
    · rintro ⟨past, hes⟩
      exact ⟨past.reverse, by simp [hes]⟩
  · have hruns := Procedure.runs_perform t (awaitChange config awaited reads) device
    generalize (awaitChange config awaited reads).perform t device = out at hruns
    obtain ⟨result, link⟩ := out
    obtain ⟨replies, hes, hwaited⟩ := awaitChange_waited hruns
    exact ⟨replies, hes, hwaited, hwaited.timeout_of_nothing⟩

end Esp

end CardFirmware
