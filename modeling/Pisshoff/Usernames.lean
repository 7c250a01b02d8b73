import Pisshoff.System

set_option autoImplicit false

/- Usernames reach the model only as arguments of the four authentication handlers and, from
   try_login, in the LoginAttempt it logs. Erasing every username is a map on states that
   commutes with every step, so two runs that differ only in usernames pass through states
   that differ only in usernames: the same store and the same replies. -/
namespace Pisshoff

def LoginAttemptEvent.anonymize : LoginAttemptEvent → LoginAttemptEvent
  | .usernamePassword _ password => .usernamePassword "" password
  | event => event

def AuditLogAction.anonymize : AuditLogAction → AuditLogAction
  | .loginAttempt event => .loginAttempt event.anonymize
  | action => action

def AuditLog.anonymize (log : AuditLog) : AuditLog :=
  { log with actions := log.actions.map AuditLogAction.anonymize }

def Connection.anonymize (self : Connection) : Connection := ⟨self.auditLog.anonymize⟩

def Event.anonymize : Event → Event
  | .authNone _ => .authNone ""
  | .authPassword _ password => .authPassword "" password
  | .authPublickey _ publicKey => .authPublickey "" publicKey
  | .authKeyboardInteractive _ submethods => .authKeyboardInteractive "" submethods
  | event => event

def Act.anonymize : Act → Act
  | .call index event => .call index event.anonymize
  | act => act

def Conn.anonymize (conn : Conn) : Conn :=
  ⟨conn.handler.anonymize, conn.session, conn.inFlight.map fun entry => (entry.1.anonymize, entry.2)⟩

def Slot.anonymize : Slot → Slot
  | .live conn => .live conn.anonymize
  | .dropped => .dropped

def Sys.anonymize (s : Sys) : Sys :=
  ⟨{ s.server with auditSend := s.server.auditSend.map fun entry => (entry.1, entry.2.anonymize) },
    s.conns.map Slot.anonymize, s.trace.map fun entry => (entry.1, entry.2.1.anonymize, entry.2.2)⟩

def Outcome.anonymize : Outcome → Outcome
  | .finished handler session reply => .finished handler.anonymize session reply
  | .suspended phase => .suspended phase

section Erasure

variable (shell : Shell) (s : Sys)

@[simp] theorem push_action_anonymize (log : AuditLog) (action : AuditLogAction) :
    (log.pushAction action).anonymize = log.anonymize.pushAction action.anonymize := by
  simp [AuditLog.anonymize, AuditLog.pushAction]

@[simp] theorem environment_anonymize (log : AuditLog) (pairs : List (String × String)) :
    ({ log with environmentVariables := pairs } : AuditLog).anonymize =
      { log.anonymize with environmentVariables := pairs } := rfl

@[simp] theorem environment_variables_anonymize (log : AuditLog) :
    log.anonymize.environmentVariables = log.environmentVariables := rfl

theorem call_anonymize (state : State) (handler : Connection) (session : Session) (event : Event) :
    (handler.call shell state session event).anonymize =
      handler.anonymize.call shell state session event.anonymize := by
  cases event <;> simp only [Connection.call, Event.anonymize]
  all_goals (try split) <;> simp [Outcome.anonymize, Outcome.ofAuth, Outcome.ofUnit,
    Outcome.ofBool, Connection.anonymize, Connection.loginAttempt, Connection.authNone,
    Connection.authPublickey, Connection.authKeyboardInteractive, Connection.channelClose,
    Connection.channelEof, Connection.channelOpenSession, Connection.record,
    Connection.channelOpenX11, Connection.channelOpenDirectTcpip, Connection.data,
    Connection.extendedData, Connection.windowAdjusted, Connection.adjustWindow,
    Connection.ptyRequest, Connection.x11Request, Connection.envRequest, Connection.shellRequest,
    Connection.execRequest, Connection.subsystemRequest, Connection.windowChangeRequest,
    Connection.signal, Connection.tcpipForward, Connection.cancelTcpipForward,
    AuditLogAction.anonymize, LoginAttemptEvent.anonymize, *]

@[simp] theorem audit_log_anonymize (handler : Connection) :
    handler.anonymize.auditLog = handler.auditLog.anonymize := rfl

@[simp] theorem conns_anonymize : s.anonymize.conns = s.conns.map Slot.anonymize := rfl

@[simp] theorem server_state_anonymize : s.anonymize.server.state = s.server.state := rfl

@[simp] theorem server_config_anonymize : s.anonymize.server.config = s.server.config := rfl

@[simp] theorem set_slot_anonymize (index : Nat) (slot : Slot) :
    (s.setSlot index slot).anonymize = s.anonymize.setSlot index slot.anonymize := by
  simp [Sys.anonymize, Sys.setSlot, List.map_set]

@[simp] theorem finish_anonymize (index : Nat) (event : Event) (handler : Connection)
    (session : Session) (reply : Reply) :
    (s.finish index event handler session reply).anonymize =
      s.anonymize.finish index event.anonymize handler.anonymize session reply := by
  simp [Sys.anonymize, Sys.finish, Sys.setSlot, List.map_set, Slot.anonymize, Conn.anonymize]

@[simp] theorem store_password_anonymize (password : String) :
    (s.storePassword password).anonymize = s.anonymize.storePassword password := rfl

@[simp] theorem login_attempt_anonymize (handler : Connection) (user password : String) :
    (handler.loginAttempt user password).anonymize = handler.anonymize.loginAttempt "" password := by
  simp [Connection.loginAttempt, Connection.anonymize, AuditLogAction.anonymize,
    LoginAttemptEvent.anonymize]

theorem resume_anonymize (handler : Connection) (session : Session) (args : List String)
    (event : Event) :
    ((handler.resume shell session args event).1.anonymize, (handler.resume shell session args event).2) =
      handler.anonymize.resume shell session args event.anonymize := by
  cases event <;> simp [Connection.resume, Event.anonymize, Connection.dataResume,
    Connection.execResume, Connection.anonymize, AuditLogAction.anonymize]

theorem step_anonymize (act : Act) :
    (s.step shell act).map Sys.anonymize = s.anonymize.step shell act.anonymize := by
  cases act with
  | accept connectionId peerAddr =>
      simp [Sys.step, Act.anonymize, Sys.anonymize, Slot.anonymize, Conn.anonymize,
        Server.newHandler, Connection.anonymize, AuditLog.anonymize, AuditLog.default]
  | call index event =>
      simp only [Sys.step, Act.anonymize, conns_anonymize, List.getElem?_map]
      cases found : s.conns[index]? with
      | none => rfl
      | some slot =>
          rcases slot with ⟨handler, session, _ | entry⟩ | _
          · simp only [Option.map_some', Slot.anonymize, Conn.anonymize, Option.map_none']
            rw [server_state_anonymize, ← call_anonymize]
            cases called : handler.call shell s.server.state session event <;>
              simp [Outcome.anonymize, Slot.anonymize, Conn.anonymize]
          · rfl
          · rfl
  | draw index value =>
      simp only [Sys.step, Act.anonymize, conns_anonymize, List.getElem?_map]
      cases found : s.conns[index]? with
      | none => rfl
      | some slot =>
          rcases slot with ⟨handler, session, _ | ⟨event, phase⟩⟩ | _
          · rfl
          · cases event <;> cases phase <;> try rfl
            simp only [Option.map_some', Slot.anonymize, Conn.anonymize, Event.anonymize]
            split <;> simp [*, Event.anonymize, Slot.anonymize, Conn.anonymize]
          · rfl
  | store index =>
      simp only [Sys.step, Act.anonymize, conns_anonymize, List.getElem?_map]
      cases found : s.conns[index]? with
      | none => rfl
      | some slot =>
          rcases slot with ⟨handler, session, _ | ⟨event, phase⟩⟩ | _
          · rfl
          · cases event <;> cases phase <;> try rfl
            simp [Event.anonymize, Slot.anonymize, Conn.anonymize]
          · rfl
  | resume index =>
      simp only [Sys.step, Act.anonymize, conns_anonymize, List.getElem?_map]
      cases found : s.conns[index]? with
      | none => rfl
      | some slot =>
          rcases slot with ⟨handler, session, _ | ⟨event, _ | _ | args⟩⟩ | _
          all_goals try rfl
          simp only [Option.map_some', Slot.anonymize, Conn.anonymize, Option.map_some']
          rw [← resume_anonymize]
          simp
  | drop index =>
      simp only [Sys.step, Act.anonymize, conns_anonymize, List.getElem?_map]
      cases found : s.conns[index]? with
      | none => rfl
      | some slot =>
          rcases slot with ⟨handler, session, _ | ⟨event, _ | _ | args⟩⟩ | _
          all_goals try rfl
          all_goals simp [Slot.anonymize, Conn.anonymize, Sys.anonymize, Connection.drop, List.map_set]

theorem run_anonymize (acts : List Act) :
    (s.run shell acts).map Sys.anonymize = s.anonymize.run shell (acts.map Act.anonymize) := by
  induction acts generalizing s with
  | nil => rfl
  | cons act acts ih =>
      simp only [Sys.run, List.map_cons, ← step_anonymize]
      cases s.step shell act with
      | none => rfl
      | some s' => exact ih s'

end Erasure

@[simp] theorem init_anonymize (config : Config) : (Sys.init config).anonymize = Sys.init config := rfl

-- What a login decision can be observed by: the shared State and, in the order the handlers
-- returned, each connection's reply.
def Sys.decisions (s : Sys) : State × List (Nat × Reply) :=
  (s.server.state, s.trace.map fun entry => (entry.1, entry.2.2))

@[simp] theorem decisions_anonymize (s : Sys) : s.anonymize.decisions = s.decisions := by
  simp [Sys.anonymize, Sys.decisions, Function.comp_def]

-- Two runs with the same interleaving, passwords, draws and access_probability that differ
-- only in the usernames submitted: after every number of steps both are defined or neither
-- is, the store is the same, and every handler has returned the same reply.
theorem username_independent (shell : Shell) (config : Config) (acts acts' : List Act)
    (usernamesOnly : acts.map Act.anonymize = acts'.map Act.anonymize) (steps : Nat) :
    ((Sys.init config).run shell (acts.take steps)).map Sys.decisions =
      ((Sys.init config).run shell (acts'.take steps)).map Sys.decisions := by
  have erased : ∀ acts : List Act, ((Sys.init config).run shell acts).map Sys.decisions =
      ((Sys.init config).run shell (acts.map Act.anonymize)).map Sys.decisions := fun acts => by
    rw [← init_anonymize, ← run_anonymize, Option.map_map, init_anonymize]
    simp [Function.comp_def]
  rw [erased, erased (acts'.take steps), List.map_take, List.map_take, usernamesOnly]

theorem username_independent_run :
    ((Sys.init ⟨0⟩).run ⟨fun _ => none, fun _ _ session => session, fun _ => true, fun _ => false⟩
        (List.take 4 [.accept 1 none, .call 0 (.authPassword "root" "toor"), .draw 0 0, .store 0])).map
        Sys.decisions =
      ((Sys.init ⟨0⟩).run ⟨fun _ => none, fun _ _ session => session, fun _ => true, fun _ => false⟩
        (List.take 4 [.accept 1 none, .call 0 (.authPassword "admin" "toor"), .draw 0 0, .store 0])).map
        Sys.decisions :=
  username_independent _ _ _ _ (by decide) 4

end Pisshoff
