import Pisshoff.Event

set_option autoImplicit false

/- Every connection the server has accepted, run by one engine: one task per connection,
   interleaved at the points where a handler waits (Phase) and between handler calls. Each
   handler call runs alone on its connection until it returns; other connections run in
   between. A Connection is dropped when the engine lets go of it, after a handler returns
   or while one awaits run_command, never inside the synchronous body of try_login. -/
namespace Pisshoff

-- What the engine holds for one accepted connection.
structure Conn where
  handler : Connection
  session : Session
  inFlight : Option (Event × Phase)

inductive Slot where
  | live (conn : Conn)
  | dropped

-- trace is the engine's record of each handler that returned: on which connection, the
-- call, and what the future resolved to, in the order they returned.
structure Sys where
  server : Server
  conns : List Slot
  trace : List (Nat × Event × Reply)

def Sys.init (config : Config) : Sys := ⟨Server.new config, [], []⟩

-- The scheduler's choices. accept brings the Uuid that new_v4 draws, draw the value
-- fastrand::f64() returns, resume is run_command returning, and drop is the end of the
-- connection, orderly or abrupt.
inductive Act where
  | accept (connectionId : Uuid) (peerAddr : Option SocketAddr)
  | call (index : Nat) (event : Event)
  | draw (index : Nat) (value : Draw)
  | store (index : Nat)
  | resume (index : Nat)
  | drop (index : Nat)
deriving DecidableEq

def Sys.setSlot (s : Sys) (index : Nat) (slot : Slot) : Sys :=
  { s with conns := s.conns.set index slot }

-- A handler has returned: the engine takes back the Connection and the Session.
def Sys.finish (s : Sys) (index : Nat) (event : Event) (handler : Connection) (session : Session)
    (reply : Reply) : Sys :=
  { s.setSlot index (.live ⟨handler, session, none⟩) with trace := s.trace ++ [(index, event, reply)] }

def Sys.storePassword (s : Sys) (password : String) : Sys :=
  { s with server := { s.server with
      state := ⟨s.server.state.previouslyAcceptedPasswords.store password⟩ } }

def Sys.step (shell : Shell) (s : Sys) : Act → Option Sys
  | .accept connectionId peerAddr =>
      some { s with conns := s.conns ++ [.live ⟨Server.newHandler connectionId peerAddr, ⟨[]⟩, none⟩] }
  | .call index event =>
      match s.conns[index]? with
      | some (.live ⟨handler, session, none⟩) =>
          match handler.call shell s.server.state session event with
          | .finished handler' session' reply => some (s.finish index event handler' session' reply)
          | .suspended phase => some (s.setSlot index (.live ⟨handler, session, some (event, phase)⟩))
      | _ => none
  | .draw index value =>
      match s.conns[index]? with
      | some (.live ⟨handler, session, some (.authPassword user password, .draw)⟩) =>
          if value.le s.server.config.accessProbability then
            some (s.setSlot index (.live ⟨handler, session, some (.authPassword user password, .store)⟩))
          else
            some (s.finish index (.authPassword user password) (handler.loginAttempt user password)
              session (.auth (passwordAuth false)))
      | _ => none
  | .store index =>
      match s.conns[index]? with
      | some (.live ⟨handler, session, some (.authPassword user password, .store)⟩) =>
          some ((s.storePassword password).finish index (.authPassword user password)
            (handler.loginAttempt user password) session (.auth (passwordAuth true)))
      | _ => none
  | .resume index =>
      match s.conns[index]? with
      | some (.live ⟨handler, session, some (event, .command args)⟩) =>
          let (handler', session') := handler.resume shell session args event
          some (s.finish index event handler' session' .unit)
      | _ => none
  | .drop index =>
      match s.conns[index]? with
      | some (.live ⟨handler, _, none⟩) | some (.live ⟨handler, _, some (_, .command _)⟩) =>
          some { s with server := handler.drop s.server index, conns := s.conns.set index .dropped }
      | _ => none

def Sys.run (shell : Shell) (s : Sys) : List Act → Option Sys
  | [] => some s
  | act :: acts => (s.step shell act).bind fun s => s.run shell acts

theorem run_append (shell : Shell) (s : Sys) (acts more : List Act) :
    s.run shell (acts ++ more) = (s.run shell acts).bind fun s => s.run shell more := by
  induction acts generalizing s with
  | nil => rfl
  | cons act acts ih => cases h : s.step shell act <;> simp [Sys.run, h, ih]

theorem run_induction (shell : Shell) (motive : List Act → Sys → Prop)
    (step : ∀ acts s act s', motive acts s → s.step shell act = some s' → motive (acts ++ [act]) s')
    (acts more : List Act) (s s' : Sys) (holds : motive acts s) (run : s.run shell more = some s') :
    motive (acts ++ more) s' := by
  induction more generalizing acts s with
  | nil => cases run; simpa using holds
  | cons act more ih =>
      obtain ⟨s₁, stepped, rest⟩ := Option.bind_eq_some.mp run
      simpa using ih (acts ++ [act]) s₁ (step acts s act s₁ holds stepped) rest

section Steps

variable {shell : Shell} {s s' : Sys} {index : Nat}

theorem step_call_cases {event : Event} (step : s.step shell (.call index event) = some s') :
    ∃ handler session, s.conns[index]? = some (.live ⟨handler, session, none⟩) ∧
      ((∃ handler' session' reply,
          handler.call shell s.server.state session event = .finished handler' session' reply ∧
          s' = s.finish index event handler' session' reply) ∨
        (∃ phase, handler.call shell s.server.state session event = .suspended phase ∧
          s' = s.setSlot index (.live ⟨handler, session, some (event, phase)⟩))) := by
  simp only [Sys.step] at step
  split at step
  · rename_i handler session _
    refine ⟨handler, session, ‹_›, ?_⟩
    split at step <;> cases step
    · exact .inl ⟨_, _, _, ‹_›, rfl⟩
    · exact .inr ⟨_, ‹_›, rfl⟩
  · cases step

theorem step_draw_cases {value : Draw} (step : s.step shell (.draw index value) = some s') :
    ∃ handler session user password,
      s.conns[index]? = some (.live ⟨handler, session, some (.authPassword user password, .draw)⟩) ∧
      (value.le s.server.config.accessProbability ∧
          s' = s.setSlot index (.live ⟨handler, session, some (.authPassword user password, .store)⟩) ∨
        ¬ value.le s.server.config.accessProbability ∧
          s' = s.finish index (.authPassword user password) (handler.loginAttempt user password)
            session (.auth (passwordAuth false))) := by
  simp only [Sys.step] at step
  split at step
  · refine ⟨_, _, _, _, ‹_›, ?_⟩
    split at step <;> cases step
    · exact .inl ⟨‹_›, rfl⟩
    · exact .inr ⟨‹_›, rfl⟩
  · cases step

theorem step_store_cases (step : s.step shell (.store index) = some s') :
    ∃ handler session user password,
      s.conns[index]? = some (.live ⟨handler, session, some (.authPassword user password, .store)⟩) ∧
      s' = (s.storePassword password).finish index (.authPassword user password)
        (handler.loginAttempt user password) session (.auth (passwordAuth true)) := by
  simp only [Sys.step] at step
  split at step
  · cases step
    exact ⟨_, _, _, _, ‹_›, rfl⟩
  · cases step

theorem step_resume_cases (step : s.step shell (.resume index) = some s') :
    ∃ handler session event args,
      s.conns[index]? = some (.live ⟨handler, session, some (event, .command args)⟩) ∧
      s' = s.finish index event (handler.resume shell session args event).1
        (handler.resume shell session args event).2 .unit := by
  simp only [Sys.step] at step
  split at step
  · cases step
    exact ⟨_, _, _, _, ‹_›, rfl⟩
  · cases step

theorem step_drop_cases (step : s.step shell (.drop index) = some s') :
    ∃ handler session inFlight,
      s.conns[index]? = some (.live ⟨handler, session, inFlight⟩) ∧
      (∀ event phase, inFlight = some (event, phase) → ∃ args, phase = .command args) ∧
      s' = { s with server := handler.drop s.server index, conns := s.conns.set index .dropped } := by
  simp only [Sys.step] at step
  split at step
  · cases step
    exact ⟨_, _, none, ‹_›, by simp, rfl⟩
  · cases step
    exact ⟨_, _, some _, ‹_›, by simp, rfl⟩
  · cases step

theorem step_drop_live {handler : Connection} {session : Session}
    {inFlight : Option (Event × Phase)}
    (live : s.conns[index]? = some (.live ⟨handler, session, inFlight⟩))
    (waits : ∀ event phase, inFlight = some (event, phase) → ∃ args, phase = .command args) :
    s.step shell (.drop index) =
      some { s with server := handler.drop s.server index, conns := s.conns.set index .dropped } := by
  rcases inFlight with _ | ⟨event, phase⟩
  · simp [Sys.step, live]
  · obtain ⟨args, rfl⟩ := waits event phase rfl
    simp [Sys.step, live]

theorem step_config {act : Act} (step : s.step shell act = some s') :
    s'.server.config = s.server.config := by
  cases act with
  | accept connectionId peerAddr => cases step; rfl
  | call target event =>
      obtain ⟨_, _, _, ⟨_, _, _, _, rfl⟩ | ⟨_, _, rfl⟩⟩ := step_call_cases step <;> rfl
  | draw target value =>
      obtain ⟨_, _, _, _, _, ⟨_, rfl⟩ | ⟨_, rfl⟩⟩ := step_draw_cases step <;> rfl
  | store target =>
      obtain ⟨_, _, _, _, _, rfl⟩ := step_store_cases step
      rfl
  | resume target =>
      obtain ⟨_, _, _, _, _, rfl⟩ := step_resume_cases step
      rfl
  | drop target =>
      obtain ⟨_, _, _, _, _, rfl⟩ := step_drop_cases step
      rfl

end Steps

end Pisshoff
