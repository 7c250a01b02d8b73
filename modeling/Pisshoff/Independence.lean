import Pisshoff.Serialization

set_option autoImplicit false

/- Which turns of the sequential engine depend on each other's order. A whole handler call
   reads and writes its own connection and, for a password attempt, the credential store;
   Drop appends to audit_send; accept adds the next connection. Two turns on different
   connections therefore commute unless both are password attempts with the same password:
   the first can store it, and the second is then accepted without a draw. Swapping them
   changes only how the trace and audit_send interleave the two connections, which no
   connection observes. -/
namespace Pisshoff

structure Returned where
  handler : Connection
  session : Session
  reply : Reply
  state : State

-- A whole handler call as the sequential engine runs it (Sys.handle), on the Connection and
-- Session of an idle connection.
def Connection.whole (shell : Shell) (server : Server) (draw : Draw) (self : Connection)
    (session : Session) : Event → Returned
  | .authPassword user password =>
      ⟨(self.tryLogin server draw user password).1, session,
        .auth (passwordAuth (self.tryLogin server draw user password).2.2),
        (self.tryLogin server draw user password).2.1⟩
  | .data channel text =>
      ⟨(self.data shell channel text session).1, (self.data shell channel text session).2, .unit,
        server.state⟩
  | .execRequest channel text =>
      ⟨(self.execRequest shell channel text session).1,
        (self.execRequest shell channel text session).2, .unit, server.state⟩
  | event =>
      match self.call shell server.state session event with
      | .finished self session reply => ⟨self, session, reply, server.state⟩
      | .suspended _ => ⟨self, session, .unit, server.state⟩

def Sys.land (s : Sys) (index : Nat) (event : Event) (returned : Returned) : Sys :=
  (s.setState returned.state).finish index event returned.handler returned.session returned.reply

def Sys.acceptConn (s : Sys) (connectionId : Uuid) (peerAddr : Option SocketAddr) : Sys :=
  { s with conns := s.conns ++ [.live ⟨Server.newHandler connectionId peerAddr, ⟨[]⟩, none⟩] }

def Sys.dropConn (s : Sys) (index : Nat) (handler : Connection) : Sys :=
  { s with server := handler.drop s.server index, conns := s.conns.set index .dropped }

-- try_login's decision: the password was stored before, or the draw passes.
def Server.admits (server : Server) (draw : Draw) (password : String) : Bool :=
  server.state.previouslyAcceptedPasswords.seen password || draw.le server.config.accessProbability

def Turn.target (s : Sys) : Turn → Nat
  | .accept _ _ => s.conns.length
  | .handle index _ _ | .drop index => index

def Turn.password : Turn → Option String
  | .handle _ (.authPassword _ password) _ => some password
  | _ => none

-- Two states no connection can tell apart: they differ at most in how the trace and
-- audit_send interleave different connections.
structure Sys.Alike (s t : Sys) : Prop where
  config : s.server.config = t.server.config
  state : s.server.state = t.server.state
  conns : s.conns = t.conns
  replies : ∀ index, s.replies index = t.replies index
  sentBy : ∀ index, s.sentBy index = t.sentBy index

section Whole

variable (shell : Shell) (draw : Draw) (self : Connection) (session : Session)

theorem try_login_admits (server : Server) (user password : String) :
    self.tryLogin server draw user password =
      (self.loginAttempt user password,
        if server.admits draw password then ⟨server.state.previouslyAcceptedPasswords.store password⟩
        else server.state,
        server.admits draw password) := by
  by_cases seen : server.state.previouslyAcceptedPasswords.seen password
  · have stored : insert password server.state.previouslyAcceptedPasswords.passwords =
        server.state.previouslyAcceptedPasswords.passwords :=
      Finset.insert_eq_of_mem ((seen_iff _ _).mp seen)
    simp [Connection.tryLogin, Server.admits, seen, StoredPasswords.store, stored]
  · cases passes : draw.le server.config.accessProbability <;>
      simp [Connection.tryLogin, Server.admits, seen, passes]

theorem whole_of_not_password (server server' : Server) (event : Event)
    (other : ∀ user password, event ≠ .authPassword user password) :
    self.whole shell server' draw session event =
      { self.whole shell server draw session event with state := server'.state } := by
  cases event <;> first | exact absurd rfl (other _ _) | rfl

theorem admits_of_ne (server : Server) (stored other : String) (moved : other ≠ stored) :
    ({ server with state := ⟨server.state.previouslyAcceptedPasswords.store stored⟩ } : Server).admits
      draw other = server.admits draw other := by
  simp [Server.admits, StoredPasswords.seen, moved]

theorem whole_state_of_not_password (server : Server) (event : Event)
    (other : ∀ user password, event ≠ .authPassword user password) :
    (self.whole shell server draw session event).state = server.state := by
  rw [whole_of_not_password shell draw self session server server event other]

theorem whole_password (server : Server) (user password : String) :
    self.whole shell server draw session (.authPassword user password) =
      ⟨self.loginAttempt user password, session, .auth (passwordAuth (server.admits draw password)),
        if server.admits draw password then ⟨server.state.previouslyAcceptedPasswords.store password⟩
        else server.state⟩ := by
  simp only [Connection.whole, try_login_admits]

theorem admits_after (server : Server) (draw' : Draw) (stored other : String)
    (moved : other ≠ stored) :
    ({ server with state := if server.admits draw' stored
        then ⟨server.state.previouslyAcceptedPasswords.store stored⟩ else server.state } : Server).admits
      draw other = server.admits draw other := by
  split
  · exact admits_of_ne draw server stored other moved
  · rfl

end Whole

theorem whole_commute (shell : Shell) (server : Server) (draw draw' : Draw) (self self' : Connection)
    (session session' : Session) (event event' : Event)
    (distinct : ∀ user user' password, event = .authPassword user password →
      event' ≠ .authPassword user' password) :
    ∃ state,
      self'.whole shell { server with state := (self.whole shell server draw session event).state }
          draw' session' event' = { self'.whole shell server draw' session' event' with state } ∧
      self.whole shell { server with state := (self'.whole shell server draw' session' event').state }
          draw session event = { self.whole shell server draw session event with state } := by
  by_cases attempt : ∃ user password, event = .authPassword user password
  · obtain ⟨user, password, rfl⟩ := attempt
    by_cases attempt' : ∃ user' password', event' = .authPassword user' password'
    · -- two password attempts: different passwords, so each reads the store where the other
      -- does not write, and the two inserts commute
      obtain ⟨user', password', rfl⟩ := attempt'
      have moved : password' ≠ password := fun same => distinct user user' password rfl (by rw [same])
      refine ⟨if server.admits draw password ∨ server.admits draw' password' then
          ⟨⟨(if server.admits draw password then insert password else id)
            ((if server.admits draw' password' then insert password' else id)
              server.state.previouslyAcceptedPasswords.passwords)⟩⟩
        else server.state, ?_, ?_⟩
      · rw [whole_password, whole_password, whole_password,
          admits_after draw' server draw password password' moved]
        cases server.admits draw password <;> cases server.admits draw' password' <;>
          simp [StoredPasswords.store, Finset.Insert.comm]
      · rw [whole_password, whole_password, whole_password,
          admits_after draw server draw' password' password (Ne.symm moved)]
        cases server.admits draw password <;> cases server.admits draw' password' <;>
          simp [StoredPasswords.store]
    · push_neg at attempt'
      refine ⟨(self.whole shell server draw session (.authPassword user password)).state, ?_, ?_⟩
      · exact whole_of_not_password shell draw' self' session' server _ event' attempt'
      · rw [whole_state_of_not_password shell draw' self' session' server event' attempt']
  · push_neg at attempt
    refine ⟨(self'.whole shell server draw' session' event').state, ?_, ?_⟩
    · rw [whole_state_of_not_password shell draw self session server event attempt]
    · exact whole_of_not_password shell draw self session server _ event attempt

theorem Sys.Alike.symm {s t : Sys} (alike : s.Alike t) : t.Alike s :=
  ⟨alike.config.symm, alike.state.symm, alike.conns.symm, fun index => (alike.replies index).symm,
    fun index => (alike.sentBy index).symm⟩

section Turns

variable {shell : Shell} {s : Sys}

theorem handle_whole (s : Sys) (index : Nat) (draw : Draw) (event : Event) :
    s.handle shell index draw event = (s.idle index).map fun (handler, session) =>
      s.land index event (handler.whole shell s.server draw session event) := by
  cases found : s.conns[index]? with
  | none => cases event <;> simp [Sys.handle, Sys.idle, Sys.step, found]
  | some slot =>
      rcases slot with ⟨handler, session, _ | inFlight⟩ | _
      · have idle : s.idle index = some (handler, session) := by simp [Sys.idle, found]
        cases event
        case authPassword user password =>
          simp [handle_password found, Sys.land, Connection.whole, try_login_admits, idle]
        all_goals simp [Sys.handle, Sys.step, Sys.land, Connection.whole, Connection.call,
          Outcome.ofAuth, Outcome.ofUnit, Outcome.ofBool, found, idle]
      all_goals cases event <;> simp [Sys.handle, Sys.idle, Sys.step, found]

theorem idle_of_slot {s' : Sys} {index : Nat} (slot : s'.conns[index]? = s.conns[index]?) :
    s'.idle index = s.idle index := by
  simp [Sys.idle, slot]

theorem step_drop_eq {index : Nat} {handler : Connection} {session : Session}
    {inFlight : Option (Event × Phase)}
    (live : s.conns[index]? = some (.live ⟨handler, session, inFlight⟩))
    (waits : ∀ event phase, inFlight = some (event, phase) → ∃ args, phase = .command args) :
    s.step shell (.drop index) = some (s.dropConn index handler) :=
  step_drop_live live waits

theorem seq_step_handle_cases {index : Nat} {draw : Draw} {event : Event} {s' : Sys}
    (step : s.seqStep shell (.handle index event draw) = some s') :
    ∃ handler session, s.idle index = some (handler, session) ∧
      s' = s.land index event (handler.whole shell s.server draw session event) := by
  simp only [Sys.seqStep, handle_whole] at step
  obtain ⟨⟨handler, session⟩, idle, rfl⟩ := Option.map_eq_some'.mp step
  exact ⟨handler, session, idle, rfl⟩

@[simp] theorem drop_conn_server (index : Nat) (handler : Connection) :
    (s.dropConn index handler).server = handler.drop s.server index := rfl

@[simp] theorem drop_conn_conns (index : Nat) (handler : Connection) :
    (s.dropConn index handler).conns = s.conns.set index .dropped := rfl

@[simp] theorem accept_conn_server (connectionId : Uuid) (peerAddr : Option SocketAddr) :
    (s.acceptConn connectionId peerAddr).server = s.server := rfl

@[simp] theorem seq_step_accept (connectionId : Uuid) (peerAddr : Option SocketAddr) :
    s.seqStep shell (.accept connectionId peerAddr) = some (s.acceptConn connectionId peerAddr) := rfl

@[simp] theorem seq_step_handle (index : Nat) (event : Event) (draw : Draw) :
    s.seqStep shell (.handle index event draw) = s.handle shell index draw event := rfl

@[simp] theorem seq_step_drop (index : Nat) : s.seqStep shell (.drop index) = s.step shell (.drop index) :=
  rfl

theorem seq_step_drop_cases {index : Nat} {s' : Sys} (step : s.seqStep shell (.drop index) = some s') :
    ∃ handler session inFlight, s.conns[index]? = some (.live ⟨handler, session, inFlight⟩) ∧
      (∀ event phase, inFlight = some (event, phase) → ∃ args, phase = .command args) ∧
      s' = s.dropConn index handler :=
  step_drop_cases ((seq_step_drop index).symm.trans step)

theorem sent_by_drop_conn (index other : Nat) (handler : Connection) :
    (s.dropConn index handler).sentBy other =
      if index = other then s.sentBy other ++ [handler.auditLog] else s.sentBy other :=
  sent_by_drop s index other handler

@[simp] theorem land_server (index : Nat) (event : Event) (returned : Returned) :
    (s.land index event returned).server = { s.server with state := returned.state } := rfl

@[simp] theorem land_conns (index : Nat) (event : Event) (returned : Returned) :
    (s.land index event returned).conns =
      s.conns.set index (.live ⟨returned.handler, returned.session, none⟩) := rfl

theorem land_replies (index other : Nat) (event : Event) (returned : Returned) :
    (s.land index event returned).replies other =
      if index = other then s.replies other ++ [(event, returned.reply)] else s.replies other :=
  replies_finish _ _ _ _ _ _ _

@[simp] theorem land_sent_by (index other : Nat) (event : Event) (returned : Returned) :
    (s.land index event returned).sentBy other = s.sentBy other := rfl

theorem whole_congr {server server' : Server} (config : server.config = server'.config)
    (state : server.state = server'.state) (self : Connection) (draw : Draw) (session : Session)
    (event : Event) :
    self.whole shell server draw session event = self.whole shell server' draw session event := by
  obtain ⟨_, _, _⟩ := server
  obtain ⟨_, _, _⟩ := server'
  simp only at config state
  subst config state
  cases event <;> rfl

theorem whole_drop_server (server : Server) (handler self : Connection) (index : Nat)
    (draw : Draw) (session : Session) (event : Event) :
    self.whole shell (handler.drop server index) draw session event =
      self.whole shell server draw session event :=
  whole_congr rfl rfl self draw session event

end Turns

section Pairs

variable {shell : Shell} {s : Sys}

theorem handles_commute {index index' : Nat} {handler handler' : Connection}
    {session session' : Session} (apart : index ≠ index')
    (idle : s.idle index = some (handler, session)) (idle' : s.idle index' = some (handler', session'))
    (draw draw' : Draw) (event event' : Event)
    (distinct : ∀ user user' password, event = .authPassword user password →
      event' ≠ .authPassword user' password) :
    ∃ u u', s.runSeq shell [.handle index event draw, .handle index' event' draw'] = some u ∧
      s.runSeq shell [.handle index' event' draw', .handle index event draw] = some u' ∧
      u'.Alike u := by
  obtain ⟨state, second, first⟩ :=
    whole_commute shell s.server draw draw' handler handler' session session' event event' distinct
  have after : (s.land index event (handler.whole shell s.server draw session event)).idle index' =
      some (handler', session') :=
    (idle_of_slot (List.getElem?_set_ne apart)).trans idle'
  have after' : (s.land index' event' (handler'.whole shell s.server draw' session' event')).idle
      index = some (handler, session) :=
    (idle_of_slot (List.getElem?_set_ne (Ne.symm apart))).trans idle
  refine ⟨(s.land index event (handler.whole shell s.server draw session event)).land index' event'
      { handler'.whole shell s.server draw' session' event' with state },
    (s.land index' event' (handler'.whole shell s.server draw' session' event')).land index event
      { handler.whole shell s.server draw session event with state },
    by simp [Sys.runSeq, handle_whole, idle, after, second],
    by simp [Sys.runSeq, handle_whole, idle', after', first],
    rfl, rfl, by simp [List.set_comm _ _ _ apart], fun other => ?_, fun _ => rfl⟩
  simp only [land_replies]
  split_ifs <;> simp_all

theorem handle_drop_commute {index index' : Nat} {handler handler' : Connection}
    {session session' : Session} {inFlight : Option (Event × Phase)} (apart : index ≠ index')
    (idle : s.idle index = some (handler, session))
    (live : s.conns[index']? = some (.live ⟨handler', session', inFlight⟩))
    (waits : ∀ event phase, inFlight = some (event, phase) → ∃ args, phase = .command args)
    (draw : Draw) (event : Event) :
    ∃ u u', s.runSeq shell [.handle index event draw, .drop index'] = some u ∧
      s.runSeq shell [.drop index', .handle index event draw] = some u' ∧ u'.Alike u := by
  have live' : (s.land index event (handler.whole shell s.server draw session event)).conns[index']? =
      some (.live ⟨handler', session', inFlight⟩) := by
    rw [land_conns, List.getElem?_set_ne apart, live]
  have idle' : (s.dropConn index' handler').idle index = some (handler, session) :=
    (idle_of_slot (List.getElem?_set_ne (Ne.symm apart))).trans idle
  refine ⟨(s.land index event (handler.whole shell s.server draw session event)).dropConn index' handler',
    (s.dropConn index' handler').land index event (handler.whole shell s.server draw session event),
    by simp [Sys.runSeq, handle_whole, idle, step_drop_eq live' waits],
    by simp [Sys.runSeq, step_drop_eq live waits, handle_whole, idle',
      whole_drop_server], rfl, rfl, by simp [List.set_comm _ _ _ apart],
    fun _ => rfl, fun _ => rfl⟩

theorem drops_commute {index index' : Nat} {handler handler' : Connection}
    {session session' : Session} {inFlight inFlight' : Option (Event × Phase)} (apart : index ≠ index')
    (live : s.conns[index]? = some (.live ⟨handler, session, inFlight⟩))
    (waits : ∀ event phase, inFlight = some (event, phase) → ∃ args, phase = .command args)
    (live' : s.conns[index']? = some (.live ⟨handler', session', inFlight'⟩))
    (waits' : ∀ event phase, inFlight' = some (event, phase) → ∃ args, phase = .command args) :
    ∃ u u', s.runSeq shell [.drop index, .drop index'] = some u ∧
      s.runSeq shell [.drop index', .drop index] = some u' ∧ u'.Alike u := by
  have after : (s.dropConn index handler).conns[index']? = some (.live ⟨handler', session', inFlight'⟩) := by
    rw [drop_conn_conns, List.getElem?_set_ne apart, live']
  have after' : (s.dropConn index' handler').conns[index]? = some (.live ⟨handler, session, inFlight⟩) := by
    rw [drop_conn_conns, List.getElem?_set_ne (Ne.symm apart), live]
  refine ⟨(s.dropConn index handler).dropConn index' handler',
    (s.dropConn index' handler').dropConn index handler,
    by simp [Sys.runSeq, step_drop_eq live waits, step_drop_eq after waits'],
    by simp [Sys.runSeq, step_drop_eq live' waits', step_drop_eq after' waits],
    rfl, rfl, by simp [List.set_comm _ _ _ apart], fun _ => rfl, fun other => ?_⟩
  simp only [sent_by_drop_conn]
  split_ifs <;> simp_all

theorem accept_handle_commute {index : Nat} {handler : Connection} {session : Session}
    (idle : s.idle index = some (handler, session)) (connectionId : Uuid)
    (peerAddr : Option SocketAddr) (draw : Draw) (event : Event) :
    ∃ u u', s.runSeq shell [.accept connectionId peerAddr, .handle index event draw] = some u ∧
      s.runSeq shell [.handle index event draw, .accept connectionId peerAddr] = some u' ∧
      u'.Alike u := by
  have bound : index < s.conns.length := by
    by_contra far
    simp [Sys.idle, List.getElem?_eq_none (not_lt.mp far)] at idle
  have idle' : (s.acceptConn connectionId peerAddr).idle index = some (handler, session) :=
    (idle_of_slot (List.getElem?_append_left bound)).trans idle
  refine ⟨(s.acceptConn connectionId peerAddr).land index event
      (handler.whole shell s.server draw session event),
    (s.land index event (handler.whole shell s.server draw session event)).acceptConn connectionId
      peerAddr,
    by simp [Sys.runSeq, handle_whole, idle'],
    by simp [Sys.runSeq, handle_whole, idle],
    rfl, rfl, by simp [Sys.acceptConn, Sys.land, Sys.finish, Sys.setSlot, Sys.setState, bound],
    fun _ => rfl, fun _ => rfl⟩

theorem accept_drop_commute {index : Nat} {handler : Connection} {session : Session}
    {inFlight : Option (Event × Phase)}
    (live : s.conns[index]? = some (.live ⟨handler, session, inFlight⟩))
    (waits : ∀ event phase, inFlight = some (event, phase) → ∃ args, phase = .command args)
    (connectionId : Uuid) (peerAddr : Option SocketAddr) :
    ∃ u u', s.runSeq shell [.accept connectionId peerAddr, .drop index] = some u ∧
      s.runSeq shell [.drop index, .accept connectionId peerAddr] = some u' ∧ u'.Alike u := by
  have bound : index < s.conns.length := (List.getElem?_eq_some_iff.mp live).1
  have live' : (s.acceptConn connectionId peerAddr).conns[index]? =
      some (.live ⟨handler, session, inFlight⟩) := by
    rw [Sys.acceptConn, List.getElem?_append_left bound, live]
  refine ⟨(s.acceptConn connectionId peerAddr).dropConn index handler,
    (s.dropConn index handler).acceptConn connectionId peerAddr,
    by simp [Sys.runSeq, step_drop_eq live' waits],
    by simp [Sys.runSeq, step_drop_eq live waits],
    rfl, rfl, by simp [Sys.acceptConn, Sys.dropConn, bound], fun _ => rfl, fun _ => rfl⟩

theorem alike_of_pair {a b : List Turn} {u : Sys} (run : s.runSeq shell a = some u)
    (pair : ∃ v v', s.runSeq shell a = some v ∧ s.runSeq shell b = some v' ∧ v'.Alike v) :
    ∃ u', s.runSeq shell b = some u' ∧ u'.Alike u := by
  obtain ⟨v, v', first, second, alike⟩ := pair
  rw [run, Option.some_inj] at first
  exact ⟨v', second, first ▸ alike⟩

theorem alike_of_swapped {a b : List Turn} {u : Sys} (run : s.runSeq shell b = some u)
    (pair : ∃ v v', s.runSeq shell a = some v ∧ s.runSeq shell b = some v' ∧ v'.Alike v) :
    ∃ u', s.runSeq shell a = some u' ∧ u'.Alike u := by
  obtain ⟨v, v', first, second, alike⟩ := pair
  rw [run, Option.some_inj] at second
  exact ⟨v, first, second ▸ alike.symm⟩

end Pairs

theorem turn_pair_commutes (shell : Shell) (s u : Sys) (first second : Turn)
    (apart : first.target s ≠ second.target s)
    (distinct : ∀ password, first.password = some password → second.password ≠ some password)
    (run : s.runSeq shell [first, second] = some u) :
    ∃ u', s.runSeq shell [second, first] = some u' ∧ u'.Alike u := by
  obtain ⟨s₁, step, rest⟩ := Option.bind_eq_some.mp run
  obtain ⟨u₁, step', -⟩ := Option.bind_eq_some.mp rest
  cases first <;> cases second
  case accept.accept => exact absurd rfl apart
  all_goals simp only [Turn.target] at apart
  case accept.handle connectionId peerAddr index event draw =>
    rw [seq_step_accept, Option.some_inj] at step
    subst step
    obtain ⟨handler, session, idle, -⟩ := seq_step_handle_cases step'
    rw [idle_of_slot (getElem?_snoc_of_ne _ _ _ (Ne.symm apart))] at idle
    exact alike_of_pair run (accept_handle_commute idle connectionId peerAddr draw event)
  case accept.drop connectionId peerAddr index =>
    rw [seq_step_accept, Option.some_inj] at step
    subst step
    obtain ⟨handler, session, inFlight, live, waits, -⟩ := seq_step_drop_cases step'
    rw [Sys.acceptConn, getElem?_snoc_of_ne _ _ _ (Ne.symm apart)] at live
    exact alike_of_pair run (accept_drop_commute live waits connectionId peerAddr)
  case handle.accept index event draw connectionId peerAddr =>
    obtain ⟨handler, session, idle, -⟩ := seq_step_handle_cases step
    exact alike_of_swapped run (accept_handle_commute idle connectionId peerAddr draw event)
  case handle.handle index event draw index' event' draw' =>
    obtain ⟨handler, session, idle, rfl⟩ := seq_step_handle_cases step
    obtain ⟨handler', session', idle', -⟩ := seq_step_handle_cases step'
    rw [idle_of_slot (List.getElem?_set_ne apart)] at idle'
    refine alike_of_pair run (handles_commute apart idle idle' draw draw' event event' ?_)
    rintro user user' password rfl rfl
    exact distinct password rfl rfl
  case handle.drop index event draw index' =>
    obtain ⟨handler, session, idle, rfl⟩ := seq_step_handle_cases step
    obtain ⟨handler', session', inFlight, live, waits, -⟩ := seq_step_drop_cases step'
    rw [land_conns, List.getElem?_set_ne apart] at live
    exact alike_of_pair run (handle_drop_commute apart idle live waits draw event)
  case drop.accept index connectionId peerAddr =>
    obtain ⟨handler, session, inFlight, live, waits, -⟩ := seq_step_drop_cases step
    exact alike_of_swapped run (accept_drop_commute live waits connectionId peerAddr)
  case drop.handle index index' event draw =>
    obtain ⟨handler, session, inFlight, live, waits, rfl⟩ := seq_step_drop_cases step
    obtain ⟨handler', session', idle, -⟩ := seq_step_handle_cases step'
    rw [idle_of_slot (List.getElem?_set_ne apart)] at idle
    exact alike_of_swapped run (handle_drop_commute (Ne.symm apart) idle live waits draw event)
  case drop.drop index index' =>
    obtain ⟨handler, session, inFlight, live, waits, rfl⟩ := seq_step_drop_cases step
    obtain ⟨handler', session', inFlight', live', waits', -⟩ := seq_step_drop_cases step'
    rw [drop_conn_conns, List.getElem?_set_ne apart] at live'
    exact alike_of_pair run (drops_commute apart live waits live' waits')

section Alike

variable {shell : Shell}

theorem seq_step_alike {s t s' : Sys} (alike : t.Alike s) {turn : Turn}
    (step : s.seqStep shell turn = some s') :
    ∃ t', t.seqStep shell turn = some t' ∧ t'.Alike s' := by
  cases turn with
  | accept connectionId peerAddr =>
      rw [seq_step_accept, Option.some_inj] at step
      subst step
      exact ⟨_, seq_step_accept connectionId peerAddr, alike.config, alike.state,
        by simp [Sys.acceptConn, alike.conns], alike.replies, alike.sentBy⟩
  | handle index event draw =>
      obtain ⟨handler, session, idle, rfl⟩ := seq_step_handle_cases step
      have idle' : t.idle index = some (handler, session) :=
        (idle_of_slot (by rw [alike.conns])).trans idle
      refine ⟨t.land index event (handler.whole shell s.server draw session event),
        by simp only [seq_step_handle, handle_whole, idle', Option.map_some',
          whole_congr alike.config alike.state],
        alike.config, rfl, by simp [alike.conns], fun other => ?_, alike.sentBy⟩
      simp only [land_replies, alike.replies]
  | drop index =>
      obtain ⟨handler, session, inFlight, live, waits, rfl⟩ := seq_step_drop_cases step
      have live' : t.conns[index]? = some (.live ⟨handler, session, inFlight⟩) := by
        rw [alike.conns, live]
      refine ⟨t.dropConn index handler, (seq_step_drop index).trans (step_drop_eq live' waits),
        alike.config, alike.state,
        by simp [alike.conns], alike.replies, fun other => ?_⟩
      simp only [sent_by_drop_conn, alike.sentBy]

theorem run_seq_alike {s t s' : Sys} (alike : t.Alike s) {turns : List Turn}
    (run : s.runSeq shell turns = some s') :
    ∃ t', t.runSeq shell turns = some t' ∧ t'.Alike s' := by
  induction turns generalizing s t with
  | nil =>
      rw [Sys.runSeq, Option.some_inj] at run
      exact ⟨t, rfl, run ▸ alike⟩
  | cons turn turns ih =>
      obtain ⟨s₁, step, rest⟩ := Option.bind_eq_some.mp run
      obtain ⟨t₁, step', alike₁⟩ := seq_step_alike alike step
      obtain ⟨t', run', alike'⟩ := ih alike₁ rest
      exact ⟨t', by simp only [Sys.runSeq, step', Option.some_bind, run'], alike'⟩

end Alike

-- Anywhere in a run, two turns on different connections commute unless both are password
-- attempts with the same password: run the other way round, the run ends in a state no
-- connection can tell apart, with the same store, the same connections, and on each
-- connection the same replies and logs.
theorem turns_commute (shell : Shell) (s mid u : Sys) (before after : List Turn)
    (first second : Turn) (reach : s.runSeq shell before = some mid)
    (apart : first.target mid ≠ second.target mid)
    (distinct : ∀ password, first.password = some password → second.password ≠ some password)
    (run : s.runSeq shell (before ++ first :: second :: after) = some u) :
    ∃ u', s.runSeq shell (before ++ second :: first :: after) = some u' ∧ u'.Alike u := by
  rw [run_seq_append, reach, Option.some_bind,
    show first :: second :: after = [first, second] ++ after from rfl, run_seq_append] at run
  obtain ⟨v, pair, rest⟩ := Option.bind_eq_some.mp run
  obtain ⟨v', swapped, alike⟩ := turn_pair_commutes shell mid v first second apart distinct pair
  obtain ⟨u', run', alike'⟩ := run_seq_alike alike rest
  refine ⟨u', ?_, alike'⟩
  rw [run_seq_append, reach, Option.some_bind,
    show second :: first :: after = [second, first] ++ after from rfl, run_seq_append, swapped,
    Option.some_bind, run']

theorem turns_commute_two_passwords :
    ∃ mid u, (Sys.init ⟨0⟩).runSeq ⟨fun _ => none, fun _ _ session => session,
        fun _ => true, fun _ => false⟩
        [.accept 1 none, .accept 2 none] = some mid ∧
      (Turn.handle 0 (.authPassword "root" "toor") 0).target mid ≠
        (Turn.handle 1 (.authPassword "admin" "hunter2") 5).target mid ∧
      (∀ password, (Turn.handle 0 (.authPassword "root" "toor") 0).password = some password →
        (Turn.handle 1 (.authPassword "admin" "hunter2") 5).password ≠ some password) ∧
      (Sys.init ⟨0⟩).runSeq ⟨fun _ => none, fun _ _ session => session,
          fun _ => true, fun _ => false⟩
        ([.accept 1 none, .accept 2 none] ++ .handle 0 (.authPassword "root" "toor") 0 ::
          .handle 1 (.authPassword "admin" "hunter2") 5 :: [.drop 0, .drop 1]) = some u ∧
      ∃ u', (Sys.init ⟨0⟩).runSeq ⟨fun _ => none, fun _ _ session => session,
          fun _ => true, fun _ => false⟩
          ([.accept 1 none, .accept 2 none] ++ .handle 1 (.authPassword "admin" "hunter2") 5 ::
            .handle 0 (.authPassword "root" "toor") 0 :: [.drop 0, .drop 1]) = some u' ∧
        u'.Alike u :=
  ⟨_, _, rfl, by decide, by simp [Turn.password], rfl,
    turns_commute _ _ _ _ _ _ _ _ rfl (by decide) (by simp [Turn.password]) rfl⟩

end Pisshoff
