import Pisshoff.Connection

set_option autoImplicit false

/- The engine's side of one connection: which handler it calls with which arguments, what
   the handler's future resolves to, and where a handler waits while other connections run.
   Below the dispatch, the audit law: the action each call is to add. -/
namespace Pisshoff

inductive Event where
  | authNone (user : String)
  | authPassword (user password : String)
  | authPublickey (user : String) (publicKey : PublicKey)
  | authKeyboardInteractive (user submethods : String)
  | channelClose (channel : ChannelId)
  | channelEof (channel : ChannelId)
  | channelOpenSession (channel : ChannelId)
  | channelOpenX11 (channel : ChannelId) (originatorAddress : String) (originatorPort : UInt32)
  | channelOpenDirectTcpip (channel : ChannelId) (hostToConnect : String) (portToConnect : UInt32)
      (originatorAddress : String) (originatorPort : UInt32)
  | data (channel : ChannelId) (data : List UInt8)
  | extendedData (channel : ChannelId) (code : UInt32) (data : List UInt8)
  | windowAdjusted (channel : ChannelId) (newWindowSize : UInt64)
  | adjustWindow (channel : ChannelId) (current : UInt32)
  | ptyRequest (channel : ChannelId) (term : String) (colWidth rowHeight pixWidth pixHeight : UInt32)
      (modes : List (Pty × UInt32))
  | x11Request (channel : ChannelId) (singleConnection : Bool) (x11AuthProtocol x11AuthCookie : String)
      (x11ScreenNumber : UInt32)
  | envRequest (channel : ChannelId) (variableName variableValue : String)
  | shellRequest (channel : ChannelId)
  | execRequest (channel : ChannelId) (data : List UInt8)
  | subsystemRequest (channel : ChannelId) (name : String)
  | windowChangeRequest (channel : ChannelId) (colWidth rowHeight pixWidth pixHeight : UInt32)
  | signal (channel : ChannelId) (signalName : Sig)
  | tcpipForward (address : String) (port : UInt32)
  | cancelTcpipForward (address : String) (port : UInt32)
deriving DecidableEq, Repr

-- What a handler's future resolves to besides the Connection and the Session.
inductive Reply where
  | auth (result : Auth)
  | unit
  | bool (result : Bool)
  | window (size : UInt32)
deriving DecidableEq, Repr

-- try_login takes the store's lock in `seen` and again in `store`, with the draw between;
-- data and exec_request await run_command. Other connections run at each of these points.
inductive Phase where
  | draw
  | store
  | command (args : List String)
deriving DecidableEq, Repr

inductive Outcome where
  | finished (self : Connection) (session : Session) (reply : Reply)
  | suspended (phase : Phase)

def Outcome.ofAuth (result : Connection × Auth) (session : Session) : Outcome :=
  .finished result.1 session (.auth result.2)

def Outcome.ofUnit (result : Connection × Session) : Outcome :=
  .finished result.1 result.2 .unit

def Outcome.ofBool (result : Connection × Session × Bool) : Outcome :=
  .finished result.1 result.2.1 (.bool result.2.2)

-- Each handler up to its end or its first wait. Nothing is recorded before a wait: a
-- suspended handler leaves the Connection and the Session as they were.
def Connection.call (shell : Shell) (state : State) (self : Connection) (session : Session) :
    Event → Outcome
  | .authNone user => .ofAuth (self.authNone user) session
  | .authPassword user password =>
      if state.previouslyAcceptedPasswords.seen password then
        .finished (self.loginAttempt user password) session (.auth (passwordAuth true))
      else .suspended .draw
  | .authPublickey user publicKey => .ofAuth (self.authPublickey user publicKey) session
  | .authKeyboardInteractive user submethods =>
      .ofAuth (self.authKeyboardInteractive user submethods) session
  | .channelClose channel => .ofUnit (self.channelClose channel session)
  | .channelEof channel => .ofUnit (self.channelEof channel session)
  | .channelOpenSession channel => .ofUnit (self.channelOpenSession channel session)
  | .channelOpenX11 channel address port =>
      .ofUnit (self.channelOpenX11 channel address port session)
  | .channelOpenDirectTcpip channel host port address originatorPort =>
      .ofUnit (self.channelOpenDirectTcpip channel host port address originatorPort session)
  | .data channel data =>
      match shell.split data with
      | some args => .suspended (.command args)
      | none => .ofUnit (self.data shell channel data session)
  | .extendedData channel code data => .ofUnit (self.extendedData channel code data session)
  | .windowAdjusted channel size => .ofUnit (self.windowAdjusted channel size session)
  | .adjustWindow channel current =>
      .finished self session (.window (self.adjustWindow channel current))
  | .ptyRequest channel term colWidth rowHeight pixWidth pixHeight modes =>
      .ofUnit (self.ptyRequest channel term colWidth rowHeight pixWidth pixHeight modes session)
  | .x11Request channel single protocol cookie screen =>
      .ofUnit (self.x11Request channel single protocol cookie screen session)
  | .envRequest channel name value => .ofUnit (self.envRequest channel name value session)
  | .shellRequest channel => .ofUnit (self.shellRequest channel session)
  | .execRequest channel data =>
      match shell.split data with
      | some args => .suspended (.command args)
      | none => .ofUnit (self.execRequest shell channel data session)
  | .subsystemRequest channel name => .ofUnit (self.subsystemRequest channel name session)
  | .windowChangeRequest channel colWidth rowHeight pixWidth pixHeight =>
      .ofUnit (self.windowChangeRequest channel colWidth rowHeight pixWidth pixHeight session)
  | .signal channel signalName => .ofUnit (self.signal shell channel signalName session)
  | .tcpipForward address port => .ofBool (self.tcpipForward address port session)
  | .cancelTcpipForward address port => .ofBool (self.cancelTcpipForward address port session)

-- data or exec_request once run_command(&args, ..) has returned; no other handler waits
-- on a command.
def Connection.resume (shell : Shell) (self : Connection) (session : Session)
    (args : List String) : Event → Connection × Session
  | .data channel _ => self.dataResume channel args (shell.runCommand args channel session)
  | .execRequest channel _ => self.execResume channel args (shell.runCommand args channel session)
  | _ => (self, session)

-- The wait a handler can be in: try_login's for a password attempt, run_command's for the
-- text that split into `args`.
def Phase.Fits (shell : Shell) : Phase → Event → Prop
  | .draw, .authPassword _ _ | .store, .authPassword _ _ => True
  | .command args, .data _ data | .command args, .execRequest _ data => shell.split data = some args
  | _, _ => False

theorem call_suspended_fits (shell : Shell) (state : State) (self : Connection)
    (session : Session) (event : Event) (phase : Phase)
    (suspended : self.call shell state session event = .suspended phase) :
    phase.Fits shell event := by
  cases event <;> simp only [Connection.call, Outcome.ofAuth, Outcome.ofUnit, Outcome.ofBool,
    reduceCtorEq] at suspended
  case authPassword => split at suspended <;> cases suspended; trivial
  all_goals
    split at suspended <;> cases suspended
    simpa [Phase.Fits]

-- The audit law: the action each call adds, in the order of the calls. A password
-- attempt is logged whether or not it is accepted; data and exec_request log the
-- arguments their text splits into, and nothing when it does not split.
def Event.loggedAction (shell : Shell) : Event → Option AuditLogAction
  | .authPassword user password => some (.loginAttempt (.usernamePassword user password))
  | .authPublickey _ publicKey =>
      some (.loginAttempt (.publicKey publicKey.name publicKey.fingerprint))
  | .channelOpenX11 _ address port => some (.openX11 ⟨address, port⟩)
  | .channelOpenDirectTcpip _ host port address originatorPort =>
      some (.openDirectTcpIp ⟨host, port, address, originatorPort⟩)
  | .data _ text | .execRequest _ text =>
      (shell.split text).map fun args => .execCommand ⟨args⟩
  | .windowAdjusted _ size => some (.windowAdjusted ⟨size⟩)
  | .ptyRequest _ term colWidth rowHeight pixWidth pixHeight modes =>
      some (.ptyRequest ⟨term, colWidth, rowHeight, pixWidth, pixHeight,
        modes.map fun mode => (mode.1.opcode, mode.2)⟩)
  | .x11Request _ single protocol cookie screen =>
      some (.x11Request ⟨single, protocol, cookie, screen⟩)
  | .shellRequest _ => some .shellRequested
  | .subsystemRequest _ name => some (.subsystemRequest ⟨name⟩)
  | .windowChangeRequest _ colWidth rowHeight pixWidth pixHeight =>
      some (.windowChangeRequest ⟨colWidth, rowHeight, pixWidth, pixHeight⟩)
  | .signal _ signalName => some (.signal ⟨signalName.debug shell.printable shell.graphemeExtend⟩)
  | .tcpipForward address port => some (.tcpIpForward ⟨address, port⟩)
  | .cancelTcpipForward address port => some (.cancelTcpIpForward ⟨address, port⟩)
  | _ => none

def Event.loggedVariable : Event → Option (String × String)
  | .envRequest _ name value => some (name, value)
  | _ => none

def AuditLog.record (shell : Shell) (log : AuditLog) (event : Event) : AuditLog :=
  { log with
    environmentVariables := log.environmentVariables ++ event.loggedVariable.toList
    actions := log.actions ++ (event.loggedAction shell).toList }

theorem call_finished_record (shell : Shell) (state : State) (self : Connection)
    (session : Session) (event : Event) (handler : Connection) (session' : Session) (reply : Reply)
    (finished : self.call shell state session event = .finished handler session' reply) :
    handler.auditLog = self.auditLog.record shell event := by
  cases event <;> simp only [Connection.call, Outcome.ofAuth, Outcome.ofUnit, Outcome.ofBool] at finished
  all_goals (try split at finished) <;> cases finished
  all_goals simp [Connection.authNone, Connection.authPublickey, Connection.authKeyboardInteractive,
    Connection.channelClose, Connection.channelEof, Connection.channelOpenSession,
    Connection.channelOpenX11, Connection.channelOpenDirectTcpip, Connection.data,
    Connection.extendedData, Connection.windowAdjusted, Connection.ptyRequest,
    Connection.x11Request, Connection.envRequest, Connection.shellRequest, Connection.execRequest,
    Connection.subsystemRequest, Connection.windowChangeRequest, Connection.signal,
    Connection.tcpipForward, Connection.cancelTcpipForward, Connection.record,
    Connection.loginAttempt, AuditLog.record, Event.loggedAction, Event.loggedVariable,
    AuditLog.pushAction, *]

theorem login_attempt_record (shell : Shell) (self : Connection) (user password : String) :
    (self.loginAttempt user password).auditLog =
      self.auditLog.record shell (.authPassword user password) := by
  simp [Connection.loginAttempt, AuditLog.record, AuditLog.pushAction, Event.loggedAction,
    Event.loggedVariable]

theorem resume_record (shell : Shell) (self : Connection) (session : Session) (args : List String)
    (event : Event) (fits : (Phase.command args).Fits shell event) :
    (self.resume shell session args event).1.auditLog = self.auditLog.record shell event := by
  cases event <;> simp only [Phase.Fits] at fits <;>
    simp [Connection.resume, Connection.dataResume, Connection.execResume, AuditLog.record,
      AuditLog.pushAction, Event.loggedAction, Event.loggedVariable, fits]

end Pisshoff
