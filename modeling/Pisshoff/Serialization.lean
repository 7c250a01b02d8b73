import Pisshoff.Sequential
import Pisshoff.Credentials

set_option autoImplicit false

/- The converse of Sequential.lean: every run of the interleaved system ends where a run of
   the sequential engine ends, with the same Server, the same connections and, on every
   connection, the same replies in the same order.

   try_login takes the store's lock in `seen` and again in `store`, with the draw between,
   so another connection can store the password after the seen check of an attempt that its
   draw then turns down. The sequential engine runs such an attempt whole at its seen check,
   before the other connection stores: a rejection takes effect at the seen check, an
   acceptance at the store, a command at run_command's return. The simulation below runs a
   turned-down attempt at its call, and reads whether it will be turned down off the draw
   still to come among the acts of the run. -/
namespace Pisshoff

def Sys.replies (s : Sys) (index : Nat) : List (Event × Reply) :=
  s.trace.filterMap fun entry => if entry.1 = index then some entry.2 else none

def nextDraw (index : Nat) : List Act → Option Draw
  | [] => none
  | .draw target value :: acts => if target = index then some value else nextDraw index acts
  | _ :: acts => nextDraw index acts

-- Whether the password attempt in flight at `index` is turned down by its coming draw.
def declines (bound : ℚ) (index : Nat) (acts : List Act) : Bool :=
  (nextDraw index acts).any fun value => !value.le bound

def Conn.turnedDown (declined : Bool) (conn : Conn) : Option (String × String) :=
  match declined, conn.inFlight with
  | true, some (.authPassword user password, .draw) => some (user, password)
  | _, _ => none

-- Where the sequential engine stands for an interleaved connection: a call in flight has
-- not begun there, unless its draw turns it down; then it has returned.
def Conn.serial (declined : Bool) (conn : Conn) : Conn :=
  match conn.turnedDown declined with
  | some (user, password) => ⟨conn.handler.loginAttempt user password, conn.session, none⟩
  | none => ⟨conn.handler, conn.session, none⟩

def Conn.ahead (declined : Bool) (conn : Conn) : List (Event × Reply) :=
  (conn.turnedDown declined).toList.map fun (user, password) =>
    (.authPassword user password, .auth (passwordAuth false))

def Slot.serial (declined : Bool) : Slot → Slot
  | .live conn => .live (conn.serial declined)
  | .dropped => .dropped

def Slot.ahead (declined : Bool) : Slot → List (Event × Reply)
  | .live conn => conn.ahead declined
  | .dropped => []

-- Connection `index` of t is where the sequential engine stands for that of s with `acts`
-- still to run: the slot as Slot.serial has it, the replies of s followed by those given
-- ahead, and for an attempt waiting on its store, a draw that passed.
def SerialAt (s t : Sys) (acts : List Act) (index : Nat) : Prop :=
  t.conns[index]? =
      s.conns[index]?.map (Slot.serial (declines s.server.config.accessProbability index acts)) ∧
    t.replies index = s.replies index ++
      (s.conns[index]?.map (Slot.ahead (declines s.server.config.accessProbability index acts))).getD [] ∧
    ∀ event conn, s.conns[index]? = some (.live conn) → conn.inFlight = some (event, .store) →
      ∃ value : Draw, value.le s.server.config.accessProbability

structure Serializes (s t : Sys) (acts : List Act) : Prop where
  server : t.server = s.server
  slots : ∀ index, SerialAt s t acts index

def Sys.AgreeOff (s s' : Sys) (index : Nat) : Prop :=
  ∀ other, other ≠ index → s'.conns[other]? = s.conns[other]? ∧ s'.replies other = s.replies other

theorem run_seq_append (shell : Shell) (s : Sys) (turns more : List Turn) :
    s.runSeq shell (turns ++ more) = (s.runSeq shell turns).bind fun s => s.runSeq shell more := by
  induction turns generalizing s with
  | nil => rfl
  | cons turn turns ih => cases h : s.seqStep shell turn <;> simp [Sys.runSeq, h, ih]

section Views

variable {declined : Bool} {conn : Conn}

theorem next_draw_cons {index : Nat} {act : Act} (acts : List Act)
    (other : ∀ value, act ≠ .draw index value) : nextDraw index (act :: acts) = nextDraw index acts := by
  cases act
  case draw target value =>
    have moved : target ≠ index := fun same => other value (by rw [same])
    simp [nextDraw, moved]
  all_goals rfl

@[simp] theorem declines_draw (bound : ℚ) (index : Nat) (value : Draw) (acts : List Act) :
    declines bound index (.draw index value :: acts) = !value.le bound := by
  simp [declines, nextDraw]

theorem declines_eq_true {bound : ℚ} {index : Nat} {acts : List Act} :
    declines bound index acts = true ↔
      ∃ value, nextDraw index acts = some value ∧ value.le bound = false := by
  unfold declines
  cases nextDraw index acts <;> simp

@[simp] theorem declines_nil (bound : ℚ) (index : Nat) : declines bound index [] = false := rfl

theorem turned_down_eq_none (declined : Bool)
    (waiting : ∀ event phase, conn.inFlight = some (event, phase) → phase ≠ .draw) :
    conn.turnedDown declined = none := by
  obtain ⟨handler, session, _ | ⟨event, phase⟩⟩ := conn
  · cases declined <;> rfl
  · have other := waiting event phase rfl
    cases declined
    · rfl
    · cases event <;> cases phase <;> first | rfl | exact absurd rfl other

@[simp] theorem turned_down_false (conn : Conn) : conn.turnedDown false = none := rfl

theorem serial_of_turned_down_none (none : conn.turnedDown declined = none) :
    conn.serial declined = ⟨conn.handler, conn.session, Option.none⟩ := by
  simp [Conn.serial, none]

theorem ahead_of_turned_down_none (none : conn.turnedDown declined = none) :
    conn.ahead declined = [] := by
  simp [Conn.ahead, none]

@[simp] theorem serial_false (conn : Conn) :
    conn.serial false = ⟨conn.handler, conn.session, none⟩ :=
  serial_of_turned_down_none rfl

@[simp] theorem ahead_false (conn : Conn) : conn.ahead false = [] :=
  ahead_of_turned_down_none rfl

@[simp] theorem serial_idle (declined : Bool) (handler : Connection) (session : Session) :
    Conn.serial declined ⟨handler, session, none⟩ = ⟨handler, session, none⟩ :=
  serial_of_turned_down_none (turned_down_eq_none declined (by simp))

@[simp] theorem ahead_idle (declined : Bool) (handler : Connection) (session : Session) :
    Conn.ahead declined ⟨handler, session, none⟩ = [] :=
  ahead_of_turned_down_none (turned_down_eq_none declined (by simp))

@[simp] theorem serial_waiting (declined : Bool) (handler : Connection) (session : Session)
    (event : Event) {phase : Phase} (other : phase ≠ .draw) :
    Conn.serial declined ⟨handler, session, some (event, phase)⟩ = ⟨handler, session, none⟩ :=
  serial_of_turned_down_none (turned_down_eq_none declined (by simpa using other))

@[simp] theorem ahead_waiting (declined : Bool) (handler : Connection) (session : Session)
    (event : Event) {phase : Phase} (other : phase ≠ .draw) :
    Conn.ahead declined ⟨handler, session, some (event, phase)⟩ = [] :=
  ahead_of_turned_down_none (turned_down_eq_none declined (by simpa using other))

@[simp] theorem slot_ahead_false (slot : Slot) : slot.ahead false = [] := by
  cases slot <;> simp [Slot.ahead]

end Views

section Frame

variable (s : Sys) (index other : Nat)

@[simp] theorem replies_with_conns (conns : List Slot) :
    ({ s with conns } : Sys).replies other = s.replies other := rfl

@[simp] theorem replies_with_server_conns (server : Server) (conns : List Slot) :
    ({ s with server, conns } : Sys).replies other = s.replies other := rfl

@[simp] theorem replies_set_slot (slot : Slot) : (s.setSlot index slot).replies other = s.replies other :=
  rfl

@[simp] theorem replies_set_state (state : State) : (s.setState state).replies other = s.replies other :=
  rfl

@[simp] theorem replies_store_password (password : String) :
    (s.storePassword password).replies other = s.replies other := rfl

@[simp] theorem server_set_slot (slot : Slot) : (s.setSlot index slot).server = s.server := rfl

theorem replies_finish (event : Event) (handler : Connection) (session : Session) (reply : Reply) :
    (s.finish index event handler session reply).replies other =
      if index = other then s.replies other ++ [(event, reply)] else s.replies other := by
  by_cases same : index = other <;> simp [Sys.replies, Sys.finish, Sys.setSlot, same]

theorem agree_off_finish (event : Event) (handler : Connection) (session : Session) (reply : Reply) :
    s.AgreeOff (s.finish index event handler session reply) index := fun other moved =>
  ⟨List.getElem?_set_ne (Ne.symm moved), by simp [replies_finish, Ne.symm moved]⟩

theorem agree_off_set_slot (slot : Slot) : s.AgreeOff (s.setSlot index slot) index := fun _ moved =>
  ⟨List.getElem?_set_ne (Ne.symm moved), rfl⟩

theorem agree_off_drop (server : Server) :
    s.AgreeOff { s with server, conns := s.conns.set index .dropped } index := fun _ moved =>
  ⟨List.getElem?_set_ne (Ne.symm moved), rfl⟩

theorem agree_off_accept (slot : Slot) :
    s.AgreeOff { s with conns := s.conns ++ [slot] } s.conns.length := fun other moved =>
  ⟨getElem?_snoc_of_ne _ _ other moved, rfl⟩

end Frame

section Simulation

variable {shell : Shell} {s s' t t' : Sys} {acts : List Act} {index : Nat}

theorem serial_at_live {conn : Conn} (live : s.conns[index]? = some (.live conn)) :
    SerialAt s t acts index ↔
      t.conns[index]? = some (.live (conn.serial (declines s.server.config.accessProbability index acts))) ∧
      t.replies index =
        s.replies index ++ conn.ahead (declines s.server.config.accessProbability index acts) ∧
      ∀ event, conn.inFlight = some (event, .store) →
        ∃ value : Draw, value.le s.server.config.accessProbability := by
  simp [SerialAt, live, Slot.serial, Slot.ahead]

theorem serial_at_finish {slot slot' : Slot} {event : Event} {handler : Connection}
    {session : Session} {reply : Reply} (live : s.conns[index]? = some slot)
    (live' : t.conns[index]? = some slot') (replies : t.replies index = s.replies index) :
    SerialAt (s.finish index event handler session reply) (t.finish index event handler session reply)
      acts index := by
  rw [serial_at_live (set_self_of_some live)]
  exact ⟨by simp [set_self_of_some live'], by simp [replies_finish, replies], by simp⟩

theorem serial_at_frame {act : Act} (related : SerialAt s t (act :: acts) index)
    (config : s'.server.config = s.server.config) (other : ∀ value, act ≠ .draw index value)
    (agree : s'.conns[index]? = s.conns[index]? ∧ s'.replies index = s.replies index)
    (agree' : t'.conns[index]? = t.conns[index]? ∧ t'.replies index = t.replies index) :
    SerialAt s' t' acts index := by
  have next : declines s.server.config.accessProbability index (act :: acts) =
      declines s.server.config.accessProbability index acts := by
    simp only [declines, next_draw_cons acts other]
  simpa only [SerialAt, config, agree.1, agree.2, agree'.1, agree'.2, next] using related

theorem serializes_of_touched {act : Act} (related : Serializes s t (act :: acts))
    (server : t'.server = s'.server) (config : s'.server.config = s.server.config)
    (other : ∀ moved, moved ≠ index → ∀ value, act ≠ .draw moved value)
    (agree : s.AgreeOff s' index) (agree' : t.AgreeOff t' index)
    (touched : SerialAt s' t' acts index) : Serializes s' t' acts := by
  refine ⟨server, fun moved => ?_⟩
  by_cases same : moved = index
  · exact same ▸ touched
  · exact serial_at_frame (related.slots moved) config (other moved same) (agree moved same)
      (agree' moved same)

theorem serializes_init (config : Config) (acts : List Act) :
    Serializes (Sys.init config) (Sys.init config) acts :=
  ⟨rfl, fun _ => by simp [SerialAt, Sys.init]⟩

theorem handle_password {handler : Connection} {session : Session}
    (idle : t.conns[index]? = some (.live ⟨handler, session, none⟩)) (draw : Draw)
    (user password : String) :
    t.handle shell index draw (.authPassword user password) =
      some ((t.setState (handler.tryLogin t.server draw user password).2.1).finish index
        (.authPassword user password) (handler.loginAttempt user password) session
        (.auth (passwordAuth (handler.tryLogin t.server draw user password).2.2))) := by
  simp [Sys.handle, Sys.idle, idle, Connection.authPassword, Connection.tryLogin]

theorem handle_finished {handler handler' : Connection} {session session' : Session}
    {event : Event} {reply : Reply} (draw : Draw)
    (idle : t.conns[index]? = some (.live ⟨handler, session, none⟩))
    (finished : handler.call shell t.server.state session event = .finished handler' session' reply) :
    t.handle shell index draw event = some (t.finish index event handler' session' reply) := by
  have idle' : t.idle index = some (handler, session) := by simp [Sys.idle, idle]
  cases event
  case authPassword user password =>
    obtain ⟨seen, rfl⟩ := call_password_finished finished
    simp only [Connection.call, (seen_iff _ _).mpr seen, if_true, Outcome.finished.injEq] at finished
    obtain ⟨rfl, rfl, -⟩ := finished
    simp [handle_password idle, Connection.tryLogin, seen, passwordAuth]
  case data channel text =>
    simp only [Connection.call] at finished
    split at finished
    · cases finished
    · cases finished
      simp [Sys.handle, idle', Connection.data, *, Outcome.ofUnit]
  case execRequest channel text =>
    simp only [Connection.call] at finished
    split at finished
    · cases finished
    · cases finished
      simp [Sys.handle, idle', Connection.execRequest, *, Outcome.ofUnit]
  all_goals simp [Sys.handle, Sys.step, idle, finished]

theorem handle_resume {handler : Connection} {session : Session} {event : Event}
    {args : List String} (idle : t.conns[index]? = some (.live ⟨handler, session, none⟩))
    (fits : (Phase.command args).Fits shell event) (draw : Draw) :
    t.handle shell index draw event = some (t.finish index event
      (handler.resume shell session args event).1 (handler.resume shell session args event).2 .unit) := by
  have idle' : t.idle index = some (handler, session) := by simp [Sys.idle, idle]
  cases event <;> simp only [Phase.Fits] at fits
  all_goals simp [Sys.handle, idle', Connection.data, Connection.execRequest, Connection.resume, fits]

theorem try_login_passing {server : Server} {draw : Draw} (handler : Connection) (user password : String)
    (passes : draw.le server.config.accessProbability = true) :
    handler.tryLogin server draw user password =
      (handler.loginAttempt user password,
        ⟨server.state.previouslyAcceptedPasswords.store password⟩, true) := by
  by_cases seen : server.state.previouslyAcceptedPasswords.seen password
  · have stored : insert password server.state.previouslyAcceptedPasswords.passwords =
        server.state.previouslyAcceptedPasswords.passwords :=
      Finset.insert_eq_of_mem ((seen_iff _ _).mp seen)
    simp [Connection.tryLogin, seen, StoredPasswords.store, stored]
  · simp [Connection.tryLogin, seen, passes]

theorem try_login_failing {server : Server} {draw : Draw} (handler : Connection) (user password : String)
    (unseen : ¬ server.state.previouslyAcceptedPasswords.seen password)
    (fails : draw.le server.config.accessProbability = false) :
    handler.tryLogin server draw user password =
      (handler.loginAttempt user password, server.state, false) := by
  simp [Connection.tryLogin, unseen, fails]

theorem call_suspended_cases {state : State} {handler : Connection} {session : Session}
    {event : Event} {phase : Phase}
    (suspended : handler.call shell state session event = .suspended phase) :
    (∃ user password, event = .authPassword user password ∧ phase = .draw ∧
      ¬ state.previouslyAcceptedPasswords.seen password) ∨ ∃ args, phase = .command args := by
  cases event <;> simp only [Connection.call, Outcome.ofAuth, Outcome.ofUnit, Outcome.ofBool,
    reduceCtorEq] at suspended
  case authPassword user password =>
    split at suspended <;> cases suspended
    exact .inl ⟨user, password, rfl, rfl, ‹_›⟩
  all_goals split at suspended <;> cases suspended; exact .inr ⟨_, rfl⟩

theorem serializes_accept {connectionId : Uuid} {peerAddr : Option SocketAddr}
    (related : Serializes s t (.accept connectionId peerAddr :: acts))
    (step : s.step shell (.accept connectionId peerAddr) = some s') :
    ∃ turns t', t.runSeq shell turns = some t' ∧ Serializes s' t' acts := by
  cases step
  have fresh := related.slots s.conns.length
  simp only [SerialAt, List.getElem?_eq_none le_rfl, Option.map_none', Option.getD_none,
    List.append_nil] at fresh
  have length : t.conns.length = s.conns.length := by
    have short := List.getElem?_eq_none_iff.mp fresh.1
    have long := (related.slots t.conns.length).1
    rw [List.getElem?_eq_none le_rfl, eq_comm, Option.map_eq_none', List.getElem?_eq_none_iff] at long
    omega
  refine ⟨[.accept connectionId peerAddr], _, rfl, serializes_of_touched related related.server rfl
    (fun _ _ _ => by simp) (agree_off_accept s _) (length ▸ agree_off_accept t _) ?_⟩
  rw [serial_at_live (List.getElem?_concat_length _ _)]
  exact ⟨by simp [← length, List.getElem?_concat_length], by simp [fresh.2.1], by simp⟩

theorem serializes_call {event : Event} (related : Serializes s t (.call index event :: acts))
    (step : s.step shell (.call index event) = some s') :
    ∃ turns t', t.runSeq shell turns = some t' ∧ Serializes s' t' acts := by
  obtain ⟨handler, session, live, returned⟩ := step_call_cases step
  obtain ⟨idle, replies, -⟩ := (serial_at_live live).mp (related.slots index)
  simp only [serial_idle, ahead_idle, List.append_nil] at idle replies
  have moved : ∀ other, other ≠ index → ∀ value, Act.call index event ≠ .draw other value := by
    simp
  rcases returned with ⟨handler', session', reply, called, rfl⟩ | ⟨phase, called, rfl⟩
  · -- the handler returned at once: the same call, in the sequential engine
    rw [← related.server] at called
    refine ⟨[.handle index event 0], t.finish index event handler' session' reply,
      by simp [Sys.runSeq, Sys.seqStep, handle_finished 0 idle called],
      serializes_of_touched related related.server rfl moved (agree_off_finish _ _ _ _ _ _)
        (agree_off_finish _ _ _ _ _ _) (serial_at_finish live idle replies)⟩
  rcases call_suspended_cases called with ⟨user, password, rfl, rfl, unseen⟩ | ⟨args, rfl⟩
  · -- an unseen password: if its coming draw turns it down, the sequential engine runs the
    -- whole attempt now, before another connection can store the password
    cases next : declines s.server.config.accessProbability index acts
    · refine ⟨[], t, rfl, serializes_of_touched related related.server rfl moved
        (agree_off_set_slot _ _ _) (fun _ _ => ⟨rfl, rfl⟩) ?_⟩
      rw [serial_at_live (set_self_of_some live)]
      exact ⟨by simpa [next] using idle, by simpa [next] using replies, by simp⟩
    · obtain ⟨value, -, fails⟩ := declines_eq_true.mp next
      have decided := try_login_failing handler user password (by rwa [related.server])
        (by rwa [related.server] : value.le t.server.config.accessProbability = false)
      refine ⟨[.handle index (.authPassword user password) value],
        t.finish index (.authPassword user password) (handler.loginAttempt user password) session
          (.auth (passwordAuth false)),
        by simp [Sys.runSeq, Sys.seqStep, handle_password idle, decided],
        serializes_of_touched related related.server rfl moved (agree_off_set_slot _ _ _)
          (agree_off_finish _ _ _ _ _ _) ?_⟩
      rw [serial_at_live (set_self_of_some live)]
      exact ⟨by simp [next, Conn.serial, Conn.turnedDown, set_self_of_some idle],
        by simp [next, Conn.ahead, Conn.turnedDown, replies_finish, replies], by simp⟩
  · -- run_command is awaited: nothing has happened yet in the sequential engine
    refine ⟨[], t, rfl, serializes_of_touched related related.server rfl moved
      (agree_off_set_slot _ _ _) (fun _ _ => ⟨rfl, rfl⟩) ?_⟩
    rw [serial_at_live (set_self_of_some live)]
    exact ⟨by simpa using idle, by simpa using replies, by simp⟩

theorem serializes_draw {value : Draw} (related : Serializes s t (.draw index value :: acts))
    (step : s.step shell (.draw index value) = some s') :
    ∃ turns t', t.runSeq shell turns = some t' ∧ Serializes s' t' acts := by
  obtain ⟨handler, session, user, password, live, drawn⟩ := step_draw_cases step
  obtain ⟨slot, replies, -⟩ := (serial_at_live live).mp (related.slots index)
  have moved : ∀ other, other ≠ index → ∀ value', Act.draw index value ≠ .draw other value' :=
    fun _ moved _ same => moved (Act.draw.inj same).1.symm
  rcases drawn with ⟨passes, rfl⟩ | ⟨fails, rfl⟩
  · -- the draw passed: the attempt now waits on its store
    refine ⟨[], t, rfl, serializes_of_touched related related.server rfl moved
      (agree_off_set_slot _ _ _) (fun _ _ => ⟨rfl, rfl⟩) ?_⟩
    rw [serial_at_live (set_self_of_some live)]
    exact ⟨by simpa [passes] using slot, by simpa [passes] using replies, fun _ _ => ⟨value, passes⟩⟩
  · -- the draw turned the attempt down: the sequential engine has already run it
    refine ⟨[], t, rfl, serializes_of_touched related related.server rfl moved
      (agree_off_finish _ _ _ _ _ _) (fun _ _ => ⟨rfl, rfl⟩) ?_⟩
    rw [serial_at_live (set_self_of_some live)]
    exact ⟨by simpa [fails, Conn.serial, Conn.turnedDown] using slot,
      by simpa [fails, Conn.ahead, Conn.turnedDown, replies_finish] using replies, by simp⟩

theorem serializes_store (related : Serializes s t (.store index :: acts))
    (step : s.step shell (.store index) = some s') :
    ∃ turns t', t.runSeq shell turns = some t' ∧ Serializes s' t' acts := by
  obtain ⟨handler, session, user, password, live, rfl⟩ := step_store_cases step
  obtain ⟨idle, replies, drawn⟩ := (serial_at_live live).mp (related.slots index)
  simp only [serial_waiting, ahead_waiting, ne_eq, reduceCtorEq, not_false_eq_true,
    List.append_nil] at idle replies
  obtain ⟨value, passes⟩ := drawn _ rfl
  have decided := try_login_passing handler user password
    (by rwa [related.server] : value.le t.server.config.accessProbability = true)
  refine ⟨[.handle index (.authPassword user password) value],
    (t.setState ⟨t.server.state.previouslyAcceptedPasswords.store password⟩).finish index
      (.authPassword user password) (handler.loginAttempt user password) session
      (.auth (passwordAuth true)),
    by simp [Sys.runSeq, Sys.seqStep, handle_password idle, decided],
    serializes_of_touched related
      (by simp [Sys.finish, Sys.setSlot, Sys.setState, Sys.storePassword, related.server]) rfl
      (fun _ _ _ => by simp) (agree_off_finish (s.storePassword password) _ _ _ _ _)
      (agree_off_finish (t.setState _) _ _ _ _ _) (serial_at_finish live idle replies)⟩

theorem serializes_resume
    (fits : ∀ conn, s.conns[index]? = some (.live conn) →
      ∀ event phase, conn.inFlight = some (event, phase) → phase.Fits shell event)
    (related : Serializes s t (.resume index :: acts)) (step : s.step shell (.resume index) = some s') :
    ∃ turns t', t.runSeq shell turns = some t' ∧ Serializes s' t' acts := by
  obtain ⟨handler, session, event, args, live, rfl⟩ := step_resume_cases step
  obtain ⟨idle, replies, -⟩ := (serial_at_live live).mp (related.slots index)
  simp only [serial_waiting, ahead_waiting, ne_eq, reduceCtorEq, not_false_eq_true,
    List.append_nil] at idle replies
  refine ⟨[.handle index event 0], t.finish index event (handler.resume shell session args event).1
      (handler.resume shell session args event).2 .unit,
    by simp [Sys.runSeq, Sys.seqStep, handle_resume idle (fits _ live event _ rfl)],
    serializes_of_touched related related.server rfl (fun _ _ _ => by simp)
      (agree_off_finish _ _ _ _ _ _) (agree_off_finish _ _ _ _ _ _) (serial_at_finish live idle replies)⟩

theorem serializes_drop (related : Serializes s t (.drop index :: acts))
    (step : s.step shell (.drop index) = some s') :
    ∃ turns t', t.runSeq shell turns = some t' ∧ Serializes s' t' acts := by
  obtain ⟨handler, session, inFlight, live, commanded, rfl⟩ := step_drop_cases step
  obtain ⟨idle, replies, -⟩ := (serial_at_live live).mp (related.slots index)
  have waiting : ∀ event phase, (Conn.mk handler session inFlight).inFlight = some (event, phase) →
      phase ≠ .draw :=
    fun event phase found => by
      obtain ⟨args, rfl⟩ := commanded event phase found
      simp
  simp only [serial_of_turned_down_none (turned_down_eq_none _ waiting),
    ahead_of_turned_down_none (turned_down_eq_none _ waiting), List.append_nil] at idle replies
  refine ⟨[.drop index],
    { t with server := handler.drop t.server index, conns := t.conns.set index .dropped },
    by simp [Sys.runSeq, Sys.seqStep, Sys.step, idle],
    serializes_of_touched related (by simp [related.server]) rfl (fun _ _ _ => by simp)
      (agree_off_drop _ _ _) (agree_off_drop _ _ _) ?_⟩
  simp [SerialAt, set_self_of_some live, set_self_of_some idle, Slot.serial, Slot.ahead, replies]

theorem step_serializes {act : Act}
    (fits : ∀ (index : Nat) (conn : Conn), s.conns[index]? = some (.live conn) →
      ∀ event phase, conn.inFlight = some (event, phase) → phase.Fits shell event)
    (related : Serializes s t (act :: acts)) (step : s.step shell act = some s') :
    ∃ turns t', t.runSeq shell turns = some t' ∧ Serializes s' t' acts := by
  cases act with
  | accept connectionId peerAddr => exact serializes_accept related step
  | call index event => exact serializes_call related step
  | draw index value => exact serializes_draw related step
  | store index => exact serializes_store related step
  | resume index => exact serializes_resume (fits index) related step
  | drop index => exact serializes_drop related step

theorem run_serializes (config : Config) (done acts : List Act)
    (before : (Sys.init config).run shell done = some s) (related : Serializes s t acts)
    (run : s.run shell acts = some s') :
    ∃ turns t', t.runSeq shell turns = some t' ∧ Serializes s' t' [] := by
  induction acts generalizing done s t with
  | nil => cases run; exact ⟨[], t, rfl, related⟩
  | cons act acts ih =>
      obtain ⟨s₁, step, rest⟩ := Option.bind_eq_some.mp run
      have fits := fun (index : Nat) (conn : Conn) (live : s.conns[index]? = some (.live conn)) =>
        conn_inv_live (run_conn_inv config done before index) live
      obtain ⟨turns, t₁, first, related₁⟩ := step_serializes fits related step
      obtain ⟨more, t', second, related'⟩ := ih (done ++ [act])
        (by simp [run_append, before, Sys.run, step]) related₁ rest
      exact ⟨turns ++ more, t', by rw [run_seq_append, first, Option.some_bind, second], related'⟩

end Simulation

-- Every run of the interleaved system, whatever the order of the connections' seen checks,
-- draws, stores and run_command returns, ends with the Server, the connections and the
-- replies of each connection that a run of the sequential engine also ends with; a call
-- still in flight has not begun there (Slot.serial false forgets it).
theorem interleaved_runs_serialize (shell : Shell) (config : Config) (acts : List Act) (s : Sys)
    (run : (Sys.init config).run shell acts = some s) :
    ∃ turns t, (Sys.init config).runSeq shell turns = some t ∧ t.server = s.server ∧
      t.conns = s.conns.map (Slot.serial false) ∧ ∀ index, t.replies index = s.replies index := by
  obtain ⟨turns, t, seq, related⟩ := run_serializes config [] acts rfl (serializes_init config acts) run
  refine ⟨turns, t, seq, related.server, List.ext_getElem? fun index => ?_, fun index => ?_⟩
  · simpa using (related.slots index).1
  · have replies := (related.slots index).2.1
    cases found : s.conns[index]? <;> simpa [found] using replies

theorem interleaved_runs_serialize_race :
    ∃ s, (Sys.init ⟨0⟩).run ⟨fun _ => none, fun _ _ session => session,
        fun _ => true, fun _ => false⟩
        [.accept 1 none, .accept 2 none, .call 0 (.authPassword "root" "toor"),
          .call 1 (.authPassword "admin" "toor"), .draw 1 0, .store 1, .draw 0 1] = some s ∧
      ∃ turns t, (Sys.init ⟨0⟩).runSeq ⟨fun _ => none, fun _ _ session => session,
          fun _ => true, fun _ => false⟩ turns = some t ∧
        t.server = s.server ∧ t.conns = s.conns.map (Slot.serial false) ∧
        ∀ index, t.replies index = s.replies index := by
  obtain ⟨s, run⟩ := Option.isSome_iff_exists.mp (by decide :
    ((Sys.init ⟨0⟩).run ⟨fun _ => none, fun _ _ session => session, fun _ => true, fun _ => false⟩
      [.accept 1 none, .accept 2 none, .call 0 (.authPassword "root" "toor"),
        .call 1 (.authPassword "admin" "toor"), .draw 1 0, .store 1, .draw 0 1]).isSome = true)
  exact ⟨s, run, interleaved_runs_serialize _ _ _ s run⟩

end Pisshoff
