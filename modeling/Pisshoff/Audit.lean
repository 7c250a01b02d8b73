set_option autoImplicit false

/- The audit record server.rs builds for each connection. The types audit.rs declares are
   modelled from the spec and from their uses in server.rs: each event structure has exactly
   the fields server.rs fills in, under the same names, and AuditLog has the four fields of
   the spec's AuditRecord. Serialization is not modelled; the writer task is in Writer.lean. -/
namespace Pisshoff

-- uuid::Uuid, drawn by Uuid::new_v4 when a connection is accepted.
abbrev Uuid := BitVec 128

-- std::net::SocketAddr; no handler looks inside one.
inductive SocketAddr where
  | v4 (ip : BitVec 32) (port : UInt16)
  | v6 (ip : BitVec 128) (port : UInt16) (flowinfo scopeId : UInt32)
deriving DecidableEq, Repr

inductive LoginAttemptEvent where
  | usernamePassword (username password : String)
  | publicKey (kind fingerprint : String)
deriving DecidableEq, Repr

structure OpenX11Event where
  originatorAddress : String
  originatorPort : UInt32
deriving DecidableEq, Repr

structure OpenDirectTcpIpEvent where
  hostToConnect : String
  portToConnect : UInt32
  originatorAddress : String
  originatorPort : UInt32
deriving DecidableEq, Repr

structure PtyRequestEvent where
  term : String
  colWidth : UInt32
  rowHeight : UInt32
  pixWidth : UInt32
  pixHeight : UInt32
  modes : List (UInt8 × UInt32)
deriving DecidableEq, Repr

structure X11RequestEvent where
  singleConnection : Bool
  x11AuthProtocol : String
  x11AuthCookie : String
  x11ScreenNumber : UInt32
deriving DecidableEq, Repr

structure ExecCommandEvent where
  args : List String
deriving DecidableEq, Repr

structure SubsystemRequestEvent where
  name : String
deriving DecidableEq, Repr

structure WindowChangeRequestEvent where
  colWidth : UInt32
  rowHeight : UInt32
  pixWidth : UInt32
  pixHeight : UInt32
deriving DecidableEq, Repr

-- new_size is a usize; the server is built for 64-bit targets.
structure WindowAdjustedEvent where
  newSize : UInt64
deriving DecidableEq, Repr

structure SignalEvent where
  name : String
deriving DecidableEq, Repr

structure TcpIpForwardEvent where
  address : String
  port : UInt32
deriving DecidableEq, Repr

inductive AuditLogAction where
  | loginAttempt (event : LoginAttemptEvent)
  | openX11 (event : OpenX11Event)
  | openDirectTcpIp (event : OpenDirectTcpIpEvent)
  | ptyRequest (event : PtyRequestEvent)
  | x11Request (event : X11RequestEvent)
  | execCommand (event : ExecCommandEvent)
  | shellRequested
  | subsystemRequest (event : SubsystemRequestEvent)
  | windowChangeRequest (event : WindowChangeRequestEvent)
  | windowAdjusted (event : WindowAdjustedEvent)
  | signal (event : SignalEvent)
  | tcpIpForward (event : TcpIpForwardEvent)
  | cancelTcpIpForward (event : TcpIpForwardEvent)
deriving DecidableEq, Repr

/-- Modelled from the spec: AuditLog, declared in audit.rs, is the spec's AuditRecord. It
holds the connection id, the optional peer address, the environment variable pairs in
request order and the actions in occurrence order. -/
structure AuditLog where
  connectionId : Uuid
  peerAddress : Option SocketAddr
  environmentVariables : List (String × String)
  actions : List AuditLogAction
deriving DecidableEq, Repr

/-- Modelled from the spec: AuditLog::default() as audit.rs derives it, the nil Uuid with no
peer address and no entries. -/
def AuditLog.default : AuditLog := ⟨0, none, [], []⟩

/-- Modelled from the spec: push_action (audit.rs) appends the action, so that insertion
order is occurrence order. -/
def AuditLog.pushAction (log : AuditLog) (action : AuditLogAction) : AuditLog :=
  { log with actions := log.actions ++ [action] }

@[simp] theorem push_action_actions (log : AuditLog) (action : AuditLogAction) :
    (log.pushAction action).actions = log.actions ++ [action] := rfl

@[simp] theorem push_action_environment_variables (log : AuditLog) (action : AuditLogAction) :
    (log.pushAction action).environmentVariables = log.environmentVariables := rfl

@[simp] theorem push_action_connection_id (log : AuditLog) (action : AuditLogAction) :
    (log.pushAction action).connectionId = log.connectionId := rfl

@[simp] theorem push_action_peer_address (log : AuditLog) (action : AuditLogAction) :
    (log.pushAction action).peerAddress = log.peerAddress := rfl

end Pisshoff
