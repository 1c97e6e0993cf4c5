import CardFirmware.Device.Client
import CardFirmware.Device.Progress

/-! The runs of a dialogue under any answers. A run against a transport is one of them, with the
replies that its device gives in turn (`Dialogue.run_gives`), so what holds of every run holds
against every device; `runs_bind` cuts a run where its procedure was put together. -/

namespace CardFirmware

inductive Transport.Gives {σ : Type} (t : Transport σ) : σ → List Event → σ → Prop
  | nil (device : σ) : Gives t device [] device
  | sent {device : σ} (c : Command) {es : List Event} {last : σ} :
      Gives t (t.transact c.call device).2 es last →
        Gives t device (.sent c (t.transact c.call device).1 :: es) last
  | heard {device : σ} {es : List Event} {last : σ} :
      Gives t (t.readNotification device).2 es last →
        Gives t device (.heard (t.readNotification device).1 :: es) last
  | reported {device : σ} (percent : Nat) {es : List Event} {last : σ} :
      Gives t device es last → Gives t device (.reported percent :: es) last
  | ticked {device : σ} {es : List Event} {last : σ} :
      Gives t device es last → Gives t device (.ticked :: es) last

namespace Dialogue

variable {α β σ : Type}

/-- The events of a run in order, whatever was answered, and the value at its end. -/
inductive Runs : Dialogue α → List Event → α → Prop
  | done (a : α) : Runs (.done a) [] a
  | send {c : Command} {next : Except TransportError Bytes → Dialogue α} {es : List Event} {a : α}
      (reply : Except TransportError Bytes) :
      Runs (next reply) es a → Runs (.send c next) (.sent c reply :: es) a
  | listen {next : Except TransportError (Option UInt32) → Dialogue α} {es : List Event} {a : α}
      (reply : Except TransportError (Option UInt32)) :
      Runs (next reply) es a → Runs (.listen next) (.heard reply :: es) a
  | report {percent : Nat} {next : Dialogue α} {es : List Event} {a : α} :
      Runs next es a → Runs (.report percent next) (.reported percent :: es) a
  | tick {next : Dialogue α} {es : List Event} {a : α} :
      Runs next es a → Runs (.tick next) (.ticked :: es) a

@[simp] theorem runs_done {a b : α} {es : List Event} :
    Runs (.done a) es b ↔ es = [] ∧ b = a := by
  constructor
  · intro h
    cases h
    exact ⟨rfl, rfl⟩
  · rintro ⟨rfl, rfl⟩
    exact .done b

theorem runs_bind {d : Dialogue α} {f : α → Dialogue β} {es : List Event} {b : β} :
    (d.bind f).Runs es b ↔
      ∃ a es₁ es₂, es = es₁ ++ es₂ ∧ d.Runs es₁ a ∧ (f a).Runs es₂ b := by
  constructor
  · intro h
    induction d generalizing es with
    | done a => exact ⟨a, [], es, rfl, .done a, h⟩
    | send c next ih =>
      cases h with
      | send reply h =>
        obtain ⟨a, es₁, es₂, rfl, h₁, h₂⟩ := ih reply h
        exact ⟨a, _, es₂, rfl, .send reply h₁, h₂⟩
    | listen next ih =>
      cases h with
      | listen reply h =>
        obtain ⟨a, es₁, es₂, rfl, h₁, h₂⟩ := ih reply h
        exact ⟨a, _, es₂, rfl, .listen reply h₁, h₂⟩
    | report p next ih =>
      cases h with
      | report h =>
        obtain ⟨a, es₁, es₂, rfl, h₁, h₂⟩ := ih h
        exact ⟨a, _, es₂, rfl, .report h₁, h₂⟩
    | tick next ih =>
      cases h with
      | tick h =>
        obtain ⟨a, es₁, es₂, rfl, h₁, h₂⟩ := ih h
        exact ⟨a, _, es₂, rfl, .tick h₁, h₂⟩
  · rintro ⟨a, es₁, es₂, rfl, h₁, h₂⟩
    induction h₁ with
    | done a => exact h₂
    | send reply _ ih => exact .send reply (ih h₂)
    | listen reply _ ih => exact .listen reply (ih h₂)
    | report _ ih => exact .report (ih h₂)
    | tick _ ih => exact .tick (ih h₂)

theorem run_gives (t : Transport σ) (d : Dialogue α) (l : Link σ) :
    ∃ es, (d.run t l).2.events = es.reverse ++ l.events ∧ d.Runs es (d.run t l).1 ∧
      t.Gives l.device es (d.run t l).2.device := by
  induction d generalizing l with
  | done a => exact ⟨[], rfl, .done a, .nil _⟩
  | send c next ih =>
    obtain ⟨es, he, hr, hg⟩ := ih (t.transact c.call l.device).1
      ⟨(t.transact c.call l.device).2, .sent c (t.transact c.call l.device).1 :: l.events⟩
    exact ⟨_ :: es, by simpa [run] using he, .send _ hr, .sent c hg⟩
  | listen next ih =>
    obtain ⟨es, he, hr, hg⟩ := ih (t.readNotification l.device).1
      ⟨(t.readNotification l.device).2, .heard (t.readNotification l.device).1 :: l.events⟩
    exact ⟨_ :: es, by simpa [run] using he, .listen _ hr, .heard hg⟩
  | report p next ih =>
    obtain ⟨es, he, hr, hg⟩ := ih (l.record (.reported p))
    exact ⟨_ :: es, by simpa [run, Link.record] using he, .report hr, .reported p hg⟩
  | tick next ih =>
    obtain ⟨es, he, hr, hg⟩ := ih (l.record .ticked)
    exact ⟨_ :: es, by simpa [run, Link.record] using he, .tick hr, .ticked hg⟩

theorem run_runs (t : Transport σ) (d : Dialogue α) (l : Link σ) :
    ∃ es, (d.run t l).2.events = es.reverse ++ l.events ∧ d.Runs es (d.run t l).1 := by
  obtain ⟨es, he, hr, -⟩ := d.run_gives t l
  exact ⟨es, he, hr⟩

theorem run_andThen (t : Transport σ) (d : Dialogue α) (f : α → Dialogue β) (l : Link σ) :
    (d >>= f).run t l = (f (d.run t l).1).run t (d.run t l).2 := run_bind t d f l

theorem runs_events (t : Transport σ) (d : Dialogue α) (device : σ) :
    d.Runs (d.run t ⟨device, []⟩).2.events.reverse (d.run t ⟨device, []⟩).1 := by
  obtain ⟨es, he, hr⟩ := d.run_runs t ⟨device, []⟩
  rw [he, List.append_nil, List.reverse_reverse]
  exact hr

end Dialogue

namespace Transport.Gives

variable {σ : Type} {t : Transport σ} {es : List Event} {device last : σ}

theorem keeps {inv : σ → Prop} (hheard : ∀ d, inv d → inv (t.readNotification d).2)
    (h : t.Gives device es last)
    (hsent : ∀ c reply, .sent c reply ∈ es → ∀ d, inv d → inv (t.transact c.call d).2)
    (hstart : inv device) : inv last := by
  induction h with
  | nil device => exact hstart
  | sent c _ ih =>
    have hlater := fun c' reply hc => hsent c' reply (List.mem_cons_of_mem _ hc)
    exact ih hlater (hsent c _ List.mem_cons_self _ hstart)
  | heard _ ih =>
    have hlater := fun c reply hc => hsent c reply (List.mem_cons_of_mem _ hc)
    exact ih hlater (hheard _ hstart)
  | reported p _ ih =>
    exact ih (fun c reply hc => hsent c reply (List.mem_cons_of_mem _ hc)) hstart
  | ticked _ ih =>
    exact ih (fun c reply hc => hsent c reply (List.mem_cons_of_mem _ hc)) hstart

theorem sent_inv {c : Command} {reply : Except TransportError Bytes}
    (h : t.Gives device (.sent c reply :: es) last) :
    reply = (t.transact c.call device).1 ∧ t.Gives (t.transact c.call device).2 es last := by
  cases h with
  | sent _ h => exact ⟨rfl, h⟩

end Transport.Gives

def Event.percent? : Event → Option Nat
  | .reported p => some p
  | .sent _ _ | .heard _ | .ticked => none

theorem Link.reports_eq {σ : Type} (l : Link σ) :
    l.reports = l.events.reverse.filterMap Event.percent? := by
  refine congrArg (List.filterMap · l.events.reverse) (funext fun e => ?_)
  cases e <;> rfl

theorem Link.mem_commands {σ : Type} {l : Link σ} {c : Command} :
    c ∈ l.commands ↔ ∃ reply, .sent c reply ∈ l.events.reverse := by
  unfold Link.commands
  rw [List.mem_filterMap]
  constructor
  · rintro ⟨e, he, hc⟩
    split at hc
    · next c' reply =>
      cases hc
      exact ⟨reply, he⟩
    · cases hc
  · rintro ⟨reply, he⟩
    exact ⟨_, he, rfl⟩

namespace Procedure

variable {ε ε' α β : Type} {es : List Event}

def Runs (p : Procedure ε α) (es : List Event) (r : Except ε α) : Prop := p.outcome.Runs es r

@[simp] theorem runs_pure {a : α} {r : Except ε α} :
    Runs (pure a : Procedure ε α) es r ↔ es = [] ∧ r = .ok a := Dialogue.runs_done

@[simp] theorem runs_throw {e : ε} {r : Except ε α} :
    Runs (throw e : Procedure ε α) es r ↔ es = [] ∧ r = .error e := Dialogue.runs_done

@[simp] theorem runs_ofExcept {x r : Except ε α} :
    Runs (ofExcept x) es r ↔ es = [] ∧ r = x := Dialogue.runs_done

@[simp] theorem runs_report {percent : Nat} {r : Except ε Unit} :
    Runs (report percent) es r ↔ es = [.reported percent] ∧ r = .ok () := by
  constructor
  · intro h
    cases h with
    | report h =>
      cases h
      exact ⟨rfl, rfl⟩
  · rintro ⟨rfl, rfl⟩
    exact .report (.done _)

@[simp] theorem runs_tick {r : Except ε Unit} :
    Runs tick es r ↔ es = [.ticked] ∧ r = .ok () := by
  constructor
  · intro h
    cases h with
    | tick h =>
      cases h
      exact ⟨rfl, rfl⟩
  · rintro ⟨rfl, rfl⟩
    exact .tick (.done _)

theorem runs_bind {p : Procedure ε α} {f : α → Procedure ε β} {r : Except ε β} :
    Runs (p >>= f) es r ↔
      (∃ e, p.Runs es (.error e) ∧ r = .error e) ∨
        ∃ a es₁ es₂, es = es₁ ++ es₂ ∧ p.Runs es₁ (.ok a) ∧ (f a).Runs es₂ r := by
  refine Dialogue.runs_bind.trans ⟨?_, ?_⟩
  · rintro ⟨a | a, es₁, es₂, rfl, h₁, h₂⟩
    · obtain ⟨rfl, rfl⟩ := Dialogue.runs_done.mp h₂
      rw [List.append_nil]
      exact .inl ⟨a, h₁, rfl⟩
    · exact .inr ⟨a, es₁, es₂, rfl, h₁, h₂⟩
  · rintro (⟨e, h, rfl⟩ | ⟨a, es₁, es₂, rfl, h₁, h₂⟩)
    · exact ⟨.error e, es, [], (List.append_nil es).symm, h, .done _⟩
    · exact ⟨.ok a, es₁, es₂, rfl, h₁, h₂⟩

theorem runs_orFail {p : Procedure ε α} {f : ε → ε'} {r : Except ε' α} :
    Runs (p.orFail f) es r ↔ ∃ r', p.Runs es r' ∧ r = r'.mapError f := by
  refine Dialogue.runs_bind.trans ⟨?_, ?_⟩
  · rintro ⟨a, es₁, es₂, rfl, h₁, h₂⟩
    obtain ⟨rfl, rfl⟩ := Dialogue.runs_done.mp h₂
    rw [List.append_nil]
    exact ⟨a, h₁, rfl⟩
  · rintro ⟨r', h, rfl⟩
    exact ⟨r', es, [], (List.append_nil es).symm, h, .done _⟩

theorem runs_orFail_error {p : Procedure ε α} {f : ε → ε'} {e : ε'} :
    Runs (p.orFail f) es (.error e) ↔ ∃ e', p.Runs es (.error e') ∧ e = f e' := by
  rw [runs_orFail]
  constructor
  · rintro ⟨r | a, h, he⟩
    · exact ⟨r, h, Except.error.inj he⟩
    · cases he
  · rintro ⟨e', h, rfl⟩
    exact ⟨.error e', h, rfl⟩

theorem runs_perform {σ : Type} (t : Transport σ) (p : Procedure ε α) (device : σ) :
    p.Runs (p.perform t device).2.events.reverse (p.perform t device).1 :=
  p.outcome.runs_events t device

theorem gives_perform {σ : Type} (t : Transport σ) (p : Procedure ε α) (device : σ) :
    t.Gives device (p.perform t device).2.events.reverse (p.perform t device).2.device := by
  obtain ⟨es, he, -, hg⟩ := p.outcome.run_gives t ⟨device, []⟩
  rw [List.append_nil] at he
  rw [perform, he, List.reverse_reverse]
  exact hg

theorem perform_gives {σ : Type} (t : Transport σ) (p : Procedure ε α) (device : σ) :
    ∃ es, p.Runs es (p.perform t device).1 ∧ t.Gives device es (p.perform t device).2.device :=
  ⟨_, runs_perform t p device, gives_perform t p device⟩

def Sends (P : Command → Prop) (p : Procedure ε α) : Prop :=
  ∀ es r, p.Runs es r → ∀ c reply, .sent c reply ∈ es → P c

def Fails (F : ε → Prop) (p : Procedure ε α) : Prop := ∀ es e, p.Runs es (.error e) → F e

section Combine

variable {P Q : Command → Prop} {F : ε → Prop} {p : Procedure ε α} {f : α → Procedure ε β}

theorem Sends.mono (h : p.Sends P) (hPQ : ∀ c, P c → Q c) : p.Sends Q :=
  fun es r hr c reply hc => hPQ c (h es r hr c reply hc)

theorem Sends.keeps {σ : Type} {t : Transport σ} {inv : σ → Prop} (hp : p.Sends P)
    (hsent : ∀ c, P c → ∀ d, inv d → inv (t.transact c.call d).2)
    (hheard : ∀ d, inv d → inv (t.readNotification d).2) {device : σ} (hstart : inv device) :
    inv (p.perform t device).2.device := by
  obtain ⟨es, hr, hg⟩ := p.perform_gives t device
  exact hg.keeps hheard (fun c reply hc => hsent c (hp es _ hr c reply hc)) hstart

theorem sends_of_runs_nil (h : ∀ es r, p.Runs es r → es = []) : p.Sends P := by
  intro es r hr c reply hc
  rw [h es r hr] at hc
  exact absurd hc List.not_mem_nil

theorem sends_pure (a : α) : Sends P (pure a : Procedure ε α) :=
  sends_of_runs_nil fun _ _ h => (runs_pure.mp h).1

theorem sends_throw (e : ε) : Sends P (throw e : Procedure ε α) :=
  sends_of_runs_nil fun _ _ h => (runs_throw.mp h).1

theorem sends_ofExcept (x : Except ε α) : Sends P (ofExcept x) :=
  sends_of_runs_nil fun _ _ h => (runs_ofExcept.mp h).1

theorem sends_tick : Sends P (tick : Procedure ε Unit) := by
  intro es r h c reply hc
  rw [(runs_tick.mp h).1] at hc
  simp at hc

theorem Sends.bind (hp : p.Sends P) (hf : ∀ a, (f a).Sends P) : (p >>= f).Sends P := by
  intro es r h c reply hc
  obtain ⟨e, h₁, -⟩ | ⟨a, es₁, es₂, rfl, h₁, h₂⟩ := runs_bind.mp h
  · exact hp es _ h₁ c reply hc
  · obtain hc | hc := List.mem_append.mp hc
    · exact hp es₁ _ h₁ c reply hc
    · exact hf a es₂ r h₂ c reply hc

theorem Sends.orFail {g : ε → ε'} (hp : p.Sends P) : (p.orFail g).Sends P := by
  intro es r h
  obtain ⟨r', h', -⟩ := runs_orFail.mp h
  exact hp es r' h'

theorem fails_pure (a : α) : Fails F (pure a : Procedure ε α) := by
  intro es e h
  cases (runs_pure.mp h).2

theorem fails_throw {e : ε} (h : F e) : Fails F (throw e : Procedure ε α) := by
  intro es e' hr
  cases (runs_throw.mp hr).2
  exact h

theorem fails_ofExcept {x : Except ε α} (h : ∀ e, x = .error e → F e) :
    Fails F (ofExcept x) := by
  intro es e hr
  exact h e (runs_ofExcept.mp hr).2.symm

theorem fails_tick : Fails F (tick : Procedure ε Unit) := by
  intro es e h
  cases (runs_tick.mp h).2

theorem Fails.bind (hp : p.Fails F) (hf : ∀ a, (f a).Fails F) : (p >>= f).Fails F := by
  intro es e h
  obtain ⟨e', h₁, he⟩ | ⟨a, es₁, es₂, -, -, h₂⟩ := runs_bind.mp h
  · cases he
    exact hp es _ h₁
  · exact hf a es₂ e h₂

theorem fails_orFail {g : ε → ε'} {G : ε' → Prop} (h : ∀ e, G (g e)) : (p.orFail g).Fails G := by
  intro es e hr
  obtain ⟨e', -, rfl⟩ := runs_orFail_error.mp hr
  exact h e'

end Combine

end Procedure

namespace Device

open Procedure

variable {α : Type} {c : Command} {es : List Event}

theorem send_refused {e : WireError} (hc : c.validate = .error e) :
    send c = throw (.wire e) := by
  rw [send, hc]

theorem runs_send {r : Except TransportError Bytes} :
    (send c).Runs es r ↔
      (∃ e, c.validate = .error e ∧ es = [] ∧ r = .error (.wire e)) ∨
        (c.validate = .ok () ∧ ∃ reply, es = [.sent c reply] ∧ r = checkedReply c reply) := by
  unfold send
  split
  · next e he => simp [he]
  · next he =>
    simp only [he, reduceCtorEq, false_and, exists_false, true_and, false_or]
    constructor
    · intro h
      cases h with
      | send reply h =>
        cases h
        exact ⟨reply, rfl, rfl⟩
    · rintro ⟨reply, rfl, rfl⟩
      exact .send reply (.done _)

theorem checkedReply_eq_ok {reply : Except TransportError Bytes} {b : Bytes} :
    checkedReply c reply = .ok b ↔ reply = .ok b ∧ b.length = c.responseLength := by
  cases reply with
  | error e => simp [checkedReply]
  | ok b' =>
    simp only [checkedReply]
    split
    · constructor
      · rintro ⟨⟩
        exact ⟨rfl, by assumption⟩
      · rintro ⟨⟨⟩, -⟩
        rfl
    · next h =>
      constructor
      · rintro ⟨⟩
      · rintro ⟨⟨⟩, h'⟩
        exact absurd h' h

theorem runs_send_ok {b : Bytes} (h : (send c).Runs es (.ok b)) :
    es = [.sent c (.ok b)] ∧ b.length = c.responseLength := by
  obtain ⟨e, -, -, hr⟩ | ⟨-, reply, rfl, hr⟩ := runs_send.mp h
  · cases hr
  · obtain ⟨rfl, hb⟩ := checkedReply_eq_ok.mp hr.symm
    exact ⟨rfl, hb⟩

theorem runs_send_cases {r : Except TransportError Bytes} (h : (send c).Runs es r) :
    es = [] ∨ ∃ reply, es = [.sent c reply] := by
  obtain ⟨e, -, he, -⟩ | ⟨-, reply, he, -⟩ := runs_send.mp h
  · exact .inl he
  · exact .inr ⟨reply, he⟩

@[simp] theorem runs_readNotification {r : Except TransportError (Option UInt32)} :
    readNotification.Runs es r ↔ es = [.heard r] := by
  constructor
  · intro h
    cases h with
    | listen reply h =>
      cases h
      rfl
  · rintro rfl
    exact .listen r (.done r)

theorem runs_query_ok {f : Bytes → Except WireError α} {a : α}
    (h : (send c >>= fun b => decoded (f b)).Runs es (.ok a)) :
    ∃ b, es = [.sent c (.ok b)] ∧ b.length = c.responseLength ∧ f b = .ok a := by
  obtain ⟨e, -, hr⟩ | ⟨b, es₁, es₂, rfl, h₁, h₂⟩ := runs_bind.mp h
  · cases hr
  · obtain ⟨rfl, hb⟩ := runs_send_ok h₁
    obtain ⟨rfl, hf⟩ := runs_ofExcept.mp h₂
    refine ⟨b, rfl, hb, ?_⟩
    cases hv : f b with
    | error e => rw [hv] at hf; cases hf
    | ok v => rw [hv] at hf; cases hf; rfl

theorem runs_send_of_valid {r : Except TransportError Bytes} (hc : c.validate = .ok ()) :
    (send c).Runs es r ↔ ∃ reply, es = [.sent c reply] ∧ r = checkedReply c reply := by
  rw [runs_send, hc]
  simp

theorem runs_sendThen {g : Bytes → Except TransportError α} {r : Except TransportError α}
    (hc : c.validate = .ok ()) :
    (send c >>= fun b => Procedure.ofExcept (g b)).Runs es r ↔
      ∃ reply, es = [.sent c reply] ∧ r = (checkedReply c reply).bind g := by
  simp only [runs_bind, runs_send_of_valid hc, runs_ofExcept]
  constructor
  · rintro (⟨e, ⟨reply, rfl, he⟩, rfl⟩ | ⟨b, es₁, es₂, rfl, ⟨reply, rfl, hb⟩, rfl, rfl⟩)
    · exact ⟨reply, rfl, by rw [← he]; rfl⟩
    · exact ⟨reply, rfl, by rw [← hb]; rfl⟩
  · rintro ⟨reply, rfl, rfl⟩
    cases h : checkedReply c reply with
    | error e => exact .inl ⟨e, ⟨reply, rfl, h.symm⟩, rfl⟩
    | ok b => exact .inr ⟨b, _, [], rfl, ⟨reply, rfl, h.symm⟩, rfl, rfl⟩

theorem runs_command {r : Except TransportError Unit} (hc : c.validate = .ok ()) :
    (command c).Runs es r ↔
      ∃ reply, es = [.sent c reply] ∧ r = (checkedReply c reply).bind fun _ => .ok () :=
  runs_sendThen hc

def answer (c : Command) (f : Bytes → Except WireError α) (reply : Except TransportError Bytes) :
    Except TransportError α :=
  (checkedReply c reply).bind fun b => (f b).mapError TransportError.wire

theorem answer_eq_ok {f : Bytes → Except WireError α} {reply : Except TransportError Bytes}
    {a : α} (h : answer c f reply = .ok a) :
    ∃ b, reply = .ok b ∧ b.length = c.responseLength ∧ f b = .ok a := by
  unfold answer at h
  cases hreply : checkedReply c reply with
  | error e => rw [hreply] at h; cases h
  | ok b =>
    obtain ⟨rfl, hb⟩ := checkedReply_eq_ok.mp hreply
    rw [hreply] at h
    change (f b).mapError TransportError.wire = .ok a at h
    refine ⟨b, rfl, hb, ?_⟩
    cases hf : f b with
    | error e => rw [hf] at h; cases h
    | ok v => rw [hf] at h; cases h; rfl

theorem runs_query_answer {f : Bytes → Except WireError α} {r : Except TransportError α}
    (hc : c.validate = .ok ()) :
    (send c >>= fun b => decoded (f b)).Runs es r ↔
      ∃ reply, es = [.sent c reply] ∧ r = answer c f reply :=
  runs_sendThen hc

theorem runs_call {ε β : Type} {x : Query α}
    {result : Except TransportError Bytes → Except TransportError α} {g : TransportError → ε}
    {k : α → Procedure ε β} {r : Except ε β}
    (hx : ∀ {es r}, x.Runs es r ↔ ∃ reply, es = [.sent c reply] ∧ r = result reply)
    (h : (x.orFail g >>= k).Runs es r) :
    ∃ reply, (∃ e, result reply = .error e ∧ es = [.sent c reply] ∧ r = .error (g e)) ∨
      ∃ a rest, result reply = .ok a ∧ es = .sent c reply :: rest ∧ (k a).Runs rest r := by
  obtain ⟨e, h₁, rfl⟩ | ⟨a, es₁, rest, rfl, h₁, h₂⟩ := runs_bind.mp h
  · obtain ⟨e', hfail, rfl⟩ := runs_orFail_error.mp h₁
    obtain ⟨reply, rfl, hreply⟩ := hx.mp hfail
    exact ⟨reply, .inl ⟨e', hreply.symm, rfl, rfl⟩⟩
  · obtain ⟨r', hok, hr'⟩ := runs_orFail.mp h₁
    obtain ⟨reply, rfl, rfl⟩ := hx.mp hok
    cases hreply : result reply with
    | error e => rw [hreply] at hr'; cases hr'
    | ok a' =>
      rw [hreply] at hr'
      cases hr'
      exact ⟨reply, .inr ⟨a, rest, hreply, rfl, h₂⟩⟩

theorem runs_commandCall {ε β : Type} {g : TransportError → ε} {k : Unit → Procedure ε β}
    {r : Except ε β} (hc : c.validate = .ok ()) (hlen : c.responseLength = 0)
    (h : ((command c).orFail g >>= k).Runs es r) :
    ∃ reply, (∃ e, checkedReply c reply = .error e ∧ es = [.sent c reply] ∧ r = .error (g e)) ∨
      ∃ rest, checkedReply c reply = .ok [] ∧ es = .sent c reply :: rest ∧ (k ()).Runs rest r := by
  obtain ⟨reply, hcall⟩ := runs_call (runs_command hc) h
  refine ⟨reply, ?_⟩
  cases hreply : checkedReply c reply with
  | error e =>
    rw [hreply] at hcall
    obtain ⟨e', he, hes, hr⟩ | ⟨a, rest, ha, -, -⟩ := hcall
    · cases he
      exact .inl ⟨e, rfl, hes, hr⟩
    · cases ha
  | ok b =>
    have hb := (checkedReply_eq_ok.mp hreply).2
    obtain rfl := List.eq_nil_of_length_eq_zero (hb.trans hlen)
    rw [hreply] at hcall
    obtain ⟨e, he, -, -⟩ | ⟨a, rest, -, hes, hrest⟩ := hcall
    · cases he
    · exact .inr ⟨rest, rfl, hes, hrest⟩

theorem runs_refused {ε β : Type} {e : WireError} {g : TransportError → ε}
    {k : Unit → Procedure ε β} {r : Except ε β} (hc : c.validate = .error e)
    (h : ((command c).orFail g >>= k).Runs es r) :
    es = [] ∧ r = .error (g (.wire e)) := by
  have hrefused : (command c).orFail g >>= k = throw (g (.wire e)) := by
    rw [command, send_refused hc]
    rfl
  rw [hrefused] at h
  exact Procedure.runs_throw.mp h

theorem runs_listen {ε β : Type} {g : TransportError → ε} {k : Option UInt32 → Procedure ε β}
    {r : Except ε β} (h : (readNotification.orFail g >>= k).Runs es r) :
    (∃ e, es = [.heard (.error e)] ∧ r = .error (g e)) ∨
      ∃ found rest, es = .heard (.ok found) :: rest ∧ (k found).Runs rest r := by
  obtain ⟨e, h₁, rfl⟩ | ⟨found, es₁, rest, rfl, h₁, h₂⟩ := runs_bind.mp h
  · obtain ⟨e', hfail, rfl⟩ := runs_orFail_error.mp h₁
    exact .inl ⟨e', runs_readNotification.mp hfail, rfl⟩
  · obtain ⟨r', hread, hr'⟩ := runs_orFail.mp h₁
    obtain rfl := runs_readNotification.mp hread
    cases r' with
    | error e => cases hr'
    | ok found' =>
      cases hr'
      exact .inr ⟨found, rest, rfl, h₂⟩

theorem runs_query {f : Bytes → Except WireError α} {r : Except TransportError α}
    (hc : c.validate = .ok ()) (h : (send c >>= fun b => decoded (f b)).Runs es r) :
    ∃ reply, es = [.sent c reply] ∧
      ∀ a, r = .ok a → ∃ b, reply = .ok b ∧ b.length = c.responseLength ∧ f b = .ok a := by
  obtain ⟨reply, he, rfl⟩ := (runs_query_answer hc).mp h
  exact ⟨reply, he, fun a ha => answer_eq_ok ha⟩

variable {P : Command → Prop}

theorem sends_send (h : P c) : (send c).Sends P := by
  intro es r hr c' reply hc
  obtain rfl | ⟨reply', rfl⟩ := runs_send_cases hr
  · exact absurd hc List.not_mem_nil
  · cases List.mem_singleton.mp hc
    exact h

theorem sends_query {f : Bytes → Except WireError α} (h : P c) :
    (send c >>= fun b => decoded (f b)).Sends P :=
  (sends_send h).bind fun _ => sends_ofExcept _

theorem sends_command (h : P c) : (command c).Sends P :=
  (sends_send h).bind fun _ => sends_pure ()

theorem sends_readNotification : readNotification.Sends P := by
  intro es r hr c reply hc
  rw [runs_readNotification.mp hr] at hc
  simp at hc

end Device

namespace Progress

variable {ε : Type} {P : Command → Prop} {F : ε → Prop} (p : Progress)

theorem runs_update {p : Progress} {percent : Nat} {es : List Event} {r : Except ε Progress}
    (h : (p.update percent).Runs es r) :
    r = .ok ⟨some (min percent 100)⟩ ∧
      es = if p.last = some (min percent 100) then [] else [.reported (min percent 100)] := by
  unfold update at h
  split at h
  · next hlast =>
    obtain ⟨rfl, rfl⟩ := Procedure.runs_pure.mp h
    rw [if_pos hlast, ← hlast]
    exact ⟨rfl, rfl⟩
  · next hlast =>
    rw [if_neg hlast]
    obtain ⟨e, h₁, -⟩ | ⟨⟨⟩, es₁, es₂, rfl, h₁, h₂⟩ := Procedure.runs_bind.mp h
    · cases (Procedure.runs_report.mp h₁).2
    · obtain ⟨rfl, rfl⟩ := Procedure.runs_pure.mp h₂
      rw [(Procedure.runs_report.mp h₁).1]
      exact ⟨rfl, rfl⟩

theorem update_sends (percent : Nat) : (p.update percent : Procedure ε Progress).Sends P := by
  intro es r h c reply hc
  rw [(runs_update h).2] at hc
  split at hc <;> simp at hc

theorem update_fails (percent : Nat) : (p.update percent : Procedure ε Progress).Fails F :=
  fun _ _ h => nomatch (runs_update h).1

end Progress

end CardFirmware
