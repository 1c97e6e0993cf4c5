import CardFirmware.Service.Dispatch

/-! What a service answers to the messages of one client, told without sockets and rounds: one
message is answered after the other, up to the first reboot. -/

namespace CardFirmware

structure Answer where
  reports : List Nat
  commands : List Command
  result : Except RequestError RequestType

namespace Answer

def refusal (e : WireError) : Answer := ⟨[], [], .error (.wire e)⟩

def lastFrame (a : Answer) : Bytes :=
  match a.result with
  | .ok _ => Response.encodeSuccess
  | .error e => Response.encodeError e.code

def frames (a : Answer) : List Bytes := a.reports.map Response.encodeProgress ++ [a.lastFrame]

def isReboot (a : Answer) : Bool :=
  match a.result with
  | .ok .reboot => true
  | _ => false

/-- Whether the controls are told, once of every success but a reboot. -/
def resyncs (a : Answer) : Bool :=
  match a.result with
  | .ok .reboot | .error _ => false
  | .ok _ => true

end Answer

structure Exchange (σ : Type) where
  context : ServiceContext
  device : σ
  answers : List Answer := []

namespace Exchange

variable {σ : Type}

def isOver (x : Exchange σ) : Bool := x.answers.any Answer.isReboot

def bytes (x : Exchange σ) : Bytes := (x.answers.flatMap Answer.frames).flatten

def calls (x : Exchange σ) : List Call := (x.answers.flatMap Answer.commands).map Command.call

def resyncs (x : Exchange σ) : Nat := x.answers.countP Answer.resyncs

def reply (t : Transport σ) (x : Exchange σ) : Except WireError Request → Exchange σ
  | .error e => { x with answers := x.answers ++ [.refusal e] }
  | .ok request =>
    let ((result, context), link) := (x.context.dispatch request).run t ⟨x.device, []⟩
    ⟨context, link.device, x.answers ++ [⟨link.reports, link.commands, result⟩]⟩

/-- After a reboot nothing is answered. -/
def step (t : Transport σ) (x : Exchange σ) (message : Except WireError Request) : Exchange σ :=
  if x.isOver then x else x.reply t message

def converse (t : Transport σ) (x : Exchange σ) (messages : List (Except WireError Request)) :
    Exchange σ :=
  messages.foldl (step t) x

def hear (t : Transport σ) (x : Exchange σ) : Exchange σ :=
  if t.announces x.device then { x with device := (t.readNotification x.device).2 } else x

/-- The messages are answered in order, up to a reboot, and notifications may be heard at any time
before, between and after them. -/
inductive Proceeds (t : Transport σ) :
    List (Except WireError Request) → Exchange σ → Exchange σ → Prop
  | done (x : Exchange σ) : Proceeds t [] x x
  | heard {messages : List (Except WireError Request)} {x x' : Exchange σ} :
      Proceeds t messages (x.hear t) x' → Proceeds t messages x x'
  | answered {message : Except WireError Request} {messages : List (Except WireError Request)}
      {x x' : Exchange σ} : Proceeds t messages (x.step t message) x' →
        Proceeds t (message :: messages) x x'

def after (earlier : List Answer) (x : Exchange σ) : Exchange σ :=
  { x with answers := earlier ++ x.answers }

variable {t : Transport σ} {x : Exchange σ} {a : Answer}

theorem isOver_concat (context : ServiceContext) (device : σ) :
    isOver ⟨context, device, x.answers ++ [a]⟩ = (x.isOver || a.isReboot) := by
  simp [isOver]

theorem bytes_concat (context : ServiceContext) (device : σ) :
    bytes ⟨context, device, x.answers ++ [a]⟩ =
      x.bytes ++ (a.reports.flatMap Response.encodeProgress ++ a.lastFrame) := by
  simp [bytes, Answer.frames, List.flatMap]

theorem resyncs_concat (context : ServiceContext) (device : σ) :
    resyncs ⟨context, device, x.answers ++ [a]⟩ = x.resyncs + a.resyncs.toNat := by
  rw [resyncs, resyncs, List.countP_append, List.countP_singleton]
  cases a.resyncs <;> rfl

theorem hear_of_quiet (h : t.announces x.device = false) : x.hear t = x := by
  rw [hear, h, if_neg Bool.false_ne_true]

theorem hear_eq (t : Transport σ) (x : Exchange σ) :
    x.hear t = ⟨x.context, (x.hear t).device, x.answers⟩ := by
  unfold hear
  split <;> rfl

theorem converse_append (messages more : List (Except WireError Request)) :
    x.converse t (messages ++ more) = (x.converse t messages).converse t more :=
  List.foldl_append

theorem converse_cons (h : x.isOver = false) (message : Except WireError Request)
    (messages : List (Except WireError Request)) :
    x.converse t (message :: messages) = (x.reply t message).converse t messages := by
  rw [converse, List.foldl_cons, step, h, if_neg Bool.false_ne_true]
  rfl

theorem converse_of_isOver (h : x.isOver = true) (messages : List (Except WireError Request)) :
    x.converse t messages = x := by
  induction messages with
  | nil => rfl
  | cons message messages ih =>
    rw [converse, List.foldl_cons, step, if_pos h]
    exact ih

section Proceeds

variable {x' x'' : Exchange σ} {messages more : List (Except WireError Request)}
  {earlier : List Answer}

theorem Proceeds.append (h : Proceeds t messages x x') (h' : Proceeds t more x' x'') :
    Proceeds t (messages ++ more) x x'' := by
  induction h with
  | done x => exact h'
  | heard _ ih => exact .heard (ih h')
  | answered _ ih => exact .answered (ih h')

theorem Proceeds.hear (h : Proceeds t messages x x') : Proceeds t messages x (x'.hear t) := by
  induction h with
  | done x => exact .heard (.done _)
  | heard _ ih => exact .heard ih
  | answered _ ih => exact .answered ih

theorem proceeds_converse (t : Transport σ) (x : Exchange σ)
    (messages : List (Except WireError Request)) :
    Proceeds t messages x (x.converse t messages) := by
  induction messages generalizing x with
  | nil => exact .done x
  | cons message messages ih => exact .answered (ih _)

theorem Proceeds.eq_converse (hquiet : ∀ device, t.announces device = false)
    (h : Proceeds t messages x x') : x' = x.converse t messages := by
  induction h with
  | done x => rfl
  | @heard messages x x' _ ih =>
    rw [hear_of_quiet (hquiet x.device)] at ih
    exact ih
  | answered _ ih => exact ih

theorem isOver_after (h : earlier.any Answer.isReboot = false) (x : Exchange σ) :
    (x.after earlier).isOver = x.isOver := by
  rw [isOver, after, List.any_append, h, Bool.false_or]
  rfl

theorem step_after (h : earlier.any Answer.isReboot = false) (x : Exchange σ)
    (message : Except WireError Request) :
    (x.after earlier).step t message = (x.step t message).after earlier := by
  rw [step, step, isOver_after h, apply_ite (after earlier)]
  congr 1
  cases message with
  | error e => simp only [reply, after, List.append_assoc]
  | ok request => simp only [reply, after, List.append_assoc]

theorem hear_after (t : Transport σ) (earlier : List Answer) (x : Exchange σ) :
    (x.after earlier).hear t = (x.hear t).after earlier := by
  unfold hear after
  split <;> rfl

theorem Proceeds.after (hearlier : earlier.any Answer.isReboot = false)
    (h : Proceeds t messages x x') :
    Proceeds t messages (x.after earlier) (x'.after earlier) := by
  induction h with
  | done x => exact .done _
  | heard _ ih =>
    refine .heard ?_
    rw [hear_after]
    exact ih
  | answered _ ih =>
    refine .answered ?_
    rw [step_after hearlier]
    exact ih

theorem Proceeds.answers_nil (h : Proceeds t [] x x') : x'.answers = x.answers := by
  generalize hnone : [] = messages at h
  induction h with
  | done x => rfl
  | heard _ ih => rw [ih hnone, hear_eq]
  | answered _ _ => cases hnone

theorem reply_answers (t : Transport σ) (x : Exchange σ) (message : Except WireError Request) :
    ∃ a, (x.reply t message).answers = x.answers ++ [a] := by
  cases message with
  | error e => exact ⟨_, rfl⟩
  | ok request => exact ⟨_, rfl⟩

theorem Proceeds.answers_single {message : Except WireError Request} (hgoing : x.isOver = false)
    (h : Proceeds t [message] x x') : ∃ a, x'.answers = x.answers ++ [a] := by
  generalize hone : [message] = messages at h
  induction h with
  | done x => cases hone
  | @heard messages x x' _ ih =>
    rw [hear_eq] at ih
    exact ih hgoing hone
  | @answered message' messages x x' hrest _ =>
    obtain ⟨rfl, rfl⟩ := List.cons.inj hone
    rw [hrest.answers_nil, step, hgoing, if_neg Bool.false_ne_true]
    exact reply_answers t x message

end Proceeds

end Exchange

/-- A transport that keeps the calls made through it, in order. -/
def Transport.logged {σ : Type} (t : Transport σ) : Transport (σ × List Call) where
  transact c s := ((t.transact c s.1).1, ((t.transact c s.1).2, s.2 ++ [c]))
  readNotification s := ((t.readNotification s.1).1, ((t.readNotification s.1).2, s.2))
  announces s := t.announces s.1

section Logged

variable {α σ : Type} {t : Transport σ}

def Link.logged (past : List Call) (l : Link σ) : Link (σ × List Call) :=
  ⟨(l.device, past ++ l.commands.map Command.call), l.events⟩

theorem Dialogue.run_logged (d : Dialogue α) (past : List Call) (l : Link σ) :
    d.run t.logged (l.logged past) = ((d.run t l).1, (d.run t l).2.logged past) := by
  induction d generalizing l with
  | done a => rfl
  | send c next ih =>
    refine Eq.trans ?_ (ih _ _)
    simp [run, Link.logged, Transport.logged, Link.commands]
  | listen next ih =>
    refine Eq.trans ?_ (ih _ _)
    simp [run, Link.logged, Transport.logged, Link.commands]
  | report p next ih =>
    refine Eq.trans ?_ (ih _)
    simp [run, Link.logged, Link.record, Link.commands]
  | tick next ih =>
    refine Eq.trans ?_ (ih _)
    simp [run, Link.logged, Link.record, Link.commands]

namespace Exchange

def logged (past : List Call) (x : Exchange σ) : Exchange (σ × List Call) :=
  ⟨x.context, (x.device, past ++ x.calls), x.answers⟩

theorem reply_logged (past : List Call) (x : Exchange σ) (message : Except WireError Request) :
    (x.logged past).reply t.logged message = (x.reply t message).logged past := by
  cases message with
  | error e => simp [reply, logged, calls, Answer.refusal]
  | ok request =>
    have hrun := (x.context.dispatch request).run_logged (t := t) (past ++ x.calls) ⟨x.device, []⟩
    have hpast : (⟨x.device, []⟩ : Link σ).logged (past ++ x.calls) =
        ⟨(x.device, past ++ x.calls), []⟩ := by simp [Link.logged, Link.commands]
    rw [hpast] at hrun
    simp only [reply, logged, hrun]
    simp [Link.logged, Link.reports, Link.commands, calls]

theorem converse_logged (past : List Call) (x : Exchange σ)
    (messages : List (Except WireError Request)) :
    (x.logged past).converse t.logged messages = (x.converse t messages).logged past := by
  induction messages generalizing x with
  | nil => rfl
  | cons message messages ih =>
    have hstep : (x.logged past).step t.logged message = (x.step t message).logged past := by
      rw [step, step, reply_logged]
      exact (apply_ite (logged past) _ _ _).symm
    rw [converse, List.foldl_cons, hstep]
    exact ih _

end Exchange

end Logged

end CardFirmware
