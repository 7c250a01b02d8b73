import Pisshoff.Audit
import Pisshoff.Protocol
import Pisshoff.State

set_option autoImplicit false

/- The handlers of server.rs, one definition each under the source's name. A handler takes
   the Connection by value and gives it back with the value its future resolves to; the
   tracing spans, finished_auth, finished and finished_bool only wrap that value and are
   not modelled. -/
namespace Pisshoff

def keyboardInteractivePrompt : List (String × Bool) := [("Password: ", false)]

def shellPrompt : String := "bash-5.1$ "

-- Every Connection holds a clone of the Server, and the clones share config and state
-- through Arc and send on one channel: one Server stands for all of them. auditSend is
-- what the channel has received, each log with the index of the connection that sent it.
structure Server where
  config : Config
  state : State
  auditSend : List (Nat × AuditLog)

def Server.new (config : Config) : Server := ⟨config, State.default, []⟩

-- The span and the Server clone are left out: handlers receive the shared Server.
structure Connection where
  auditLog : AuditLog
deriving DecidableEq

-- thrussh::server::Server::new for Server, once per accepted socket.
def Server.newHandler (connectionId : Uuid) (peerAddr : Option SocketAddr) : Connection :=
  ⟨{ AuditLog.default with connectionId, peerAddress := peerAddr }⟩

-- What the handlers call outside this repository, taken as given: shlex::split over
-- String::from_utf8_lossy; command::run_command, which writes fabricated output to the
-- session; and the Unicode tables of Rust's core that escape_debug reads (is_printable above
-- ASCII, Grapheme_Extend). Every result holds for all of them.
structure Shell where
  split : List UInt8 → Option (List String)
  runCommand : List String → ChannelId → Session → Session
  printable : Char → Bool
  graphemeExtend : Char → Bool

def Connection.loginAttempt (self : Connection) (user password : String) : Connection :=
  ⟨self.auditLog.pushAction (.loginAttempt (.usernamePassword user password))⟩

-- try_login as one uninterrupted call. `draw` is what fastrand::f64() returns; it is read
-- only when the password is unseen.
def Connection.tryLogin (self : Connection) (server : Server) (draw : Draw)
    (user password : String) : Connection × State × Bool :=
  let stored := server.state.previouslyAcceptedPasswords
  let (state, res) :=
    if stored.seen password then (server.state, true)
    else if draw.le server.config.accessProbability then (⟨stored.store password⟩, true)
    else (server.state, false)
  (self.loginAttempt user password, state, res)

def passwordAuth (accepted : Bool) : Auth :=
  if accepted then .accept else .partialSuccess "" "" keyboardInteractivePrompt

def Connection.authPassword (self : Connection) (server : Server) (draw : Draw)
    (user password : String) : Connection × State × Auth :=
  let (self, state, accepted) := self.tryLogin server draw user password
  (self, state, passwordAuth accepted)

def Connection.authNone (self : Connection) (_user : String) : Connection × Auth :=
  (self, .unsupportedMethod)

def Connection.authPublickey (self : Connection) (_user : String) (publicKey : PublicKey) :
    Connection × Auth :=
  (⟨self.auditLog.pushAction (.loginAttempt (.publicKey publicKey.name publicKey.fingerprint))⟩,
    .reject)

-- The body that tries the response as a password is commented out in the source.
def Connection.authKeyboardInteractive (self : Connection) (_user _submethods : String) :
    Connection × Auth :=
  (self, .reject)

def Connection.channelClose (self : Connection) (channel : ChannelId) (session : Session) :
    Connection × Session :=
  (self, session.channelSuccess channel)

def Connection.channelEof (self : Connection) (channel : ChannelId) (session : Session) :
    Connection × Session :=
  (self, session.channelSuccess channel)

def Connection.channelOpenSession (self : Connection) (channel : ChannelId) (session : Session) :
    Connection × Session :=
  (self, session.channelSuccess channel)

-- Most handlers record one action and then answer on the session.
def Connection.record (self : Connection) (action : AuditLogAction) (answer : Session → Session)
    (session : Session) : Connection × Session :=
  (⟨self.auditLog.pushAction action⟩, answer session)

def Connection.channelOpenX11 (self : Connection) (channel : ChannelId)
    (originatorAddress : String) (originatorPort : UInt32) (session : Session) :
    Connection × Session :=
  self.record (.openX11 ⟨originatorAddress, originatorPort⟩) (·.channelFailure channel) session

def Connection.channelOpenDirectTcpip (self : Connection) (channel : ChannelId)
    (hostToConnect : String) (portToConnect : UInt32) (originatorAddress : String)
    (originatorPort : UInt32) (session : Session) : Connection × Session :=
  self.record (.openDirectTcpIp ⟨hostToConnect, portToConnect, originatorAddress, originatorPort⟩)
    (·.channelFailure channel) session

-- What data's async block does once run_command has returned.
def Connection.dataResume (self : Connection) (channel : ChannelId) (args : List String)
    (session : Session) : Connection × Session :=
  (⟨self.auditLog.pushAction (.execCommand ⟨args⟩)⟩, session.data channel shellPrompt)

-- data with its async block run to the end.
def Connection.data (shell : Shell) (self : Connection) (channel : ChannelId) (data : List UInt8)
    (session : Session) : Connection × Session :=
  match shell.split data with
  | some args => self.dataResume channel args (shell.runCommand args channel session)
  | none => (self, session.data channel shellPrompt)

def Connection.extendedData (self : Connection) (_channel : ChannelId) (_code : UInt32)
    (_data : List UInt8) (session : Session) : Connection × Session :=
  (self, session)

def Connection.windowAdjusted (self : Connection) (_channel : ChannelId) (newWindowSize : UInt64)
    (session : Session) : Connection × Session :=
  self.record (.windowAdjusted ⟨newWindowSize⟩) id session

def Connection.adjustWindow (_self : Connection) (_channel : ChannelId) (current : UInt32) :
    UInt32 :=
  current

def Connection.ptyRequest (self : Connection) (channel : ChannelId) (term : String)
    (colWidth rowHeight pixWidth pixHeight : UInt32) (modes : List (Pty × UInt32))
    (session : Session) : Connection × Session :=
  self.record
    (.ptyRequest ⟨term, colWidth, rowHeight, pixWidth, pixHeight,
      modes.map fun (pty, val) => (pty.opcode, val)⟩)
    (·.channelFailure channel) session

def Connection.x11Request (self : Connection) (channel : ChannelId) (singleConnection : Bool)
    (x11AuthProtocol x11AuthCookie : String) (x11ScreenNumber : UInt32) (session : Session) :
    Connection × Session :=
  self.record (.x11Request ⟨singleConnection, x11AuthProtocol, x11AuthCookie, x11ScreenNumber⟩)
    (·.channelFailure channel) session

-- The one handler that writes to the environment variables instead of the actions.
def Connection.envRequest (self : Connection) (channel : ChannelId)
    (variableName variableValue : String) (session : Session) : Connection × Session :=
  (⟨{ self.auditLog with
      environmentVariables := self.auditLog.environmentVariables ++ [(variableName, variableValue)] }⟩,
    session.channelSuccess channel)

def Connection.shellRequest (self : Connection) (channel : ChannelId) (session : Session) :
    Connection × Session :=
  self.record .shellRequested (fun session => (session.data channel shellPrompt).channelSuccess channel)
    session

-- What exec_request's async block does once run_command has returned.
def Connection.execResume (self : Connection) (channel : ChannelId) (args : List String)
    (session : Session) : Connection × Session :=
  (⟨self.auditLog.pushAction (.execCommand ⟨args⟩)⟩, session.channelSuccess channel)

-- exec_request with its async block run to the end.
def Connection.execRequest (shell : Shell) (self : Connection) (channel : ChannelId)
    (data : List UInt8) (session : Session) : Connection × Session :=
  match shell.split data with
  | some args => self.execResume channel args (shell.runCommand args channel session)
  | none => (self, session.channelFailure channel)

def Connection.subsystemRequest (self : Connection) (channel : ChannelId) (name : String)
    (session : Session) : Connection × Session :=
  self.record (.subsystemRequest ⟨name⟩) (·.channelFailure channel) session

def Connection.windowChangeRequest (self : Connection) (channel : ChannelId)
    (colWidth rowHeight pixWidth pixHeight : UInt32) (session : Session) : Connection × Session :=
  self.record (.windowChangeRequest ⟨colWidth, rowHeight, pixWidth, pixHeight⟩)
    (·.channelSuccess channel) session

def Connection.signal (shell : Shell) (self : Connection) (_channel : ChannelId) (signalName : Sig)
    (session : Session) : Connection × Session :=
  self.record (.signal ⟨signalName.debug shell.printable shell.graphemeExtend⟩) id session

def Connection.tcpipForward (self : Connection) (address : String) (port : UInt32)
    (session : Session) : Connection × Session × Bool :=
  let (self, session) := self.record (.tcpIpForward ⟨address, port⟩) id session
  (self, session, false)

def Connection.cancelTcpipForward (self : Connection) (address : String) (port : UInt32)
    (session : Session) : Connection × Session × Bool :=
  let (self, session) := self.record (.cancelTcpIpForward ⟨address, port⟩) id session
  (self, session, false)

-- Drop for Connection: std::mem::take hands the log to audit_send; the Connection is gone
-- afterwards, so what take leaves behind is not kept.
def Connection.drop (self : Connection) (server : Server) (index : Nat) : Server :=
  { server with auditSend := server.auditSend ++ [(index, self.auditLog)] }

end Pisshoff
