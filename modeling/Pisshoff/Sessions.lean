import Pisshoff.AuditTrail

set_option autoImplicit false

/- What a client sees on its channels. A handler queues messages on its own connection's
   Session only, and what it queues depends on its own arguments and on what run_command
   writes, never on the shared store, the draws, access_probability or another connection:
   a connection's Session is a function of the calls it has returned, whatever the other
   connections did and however the calls interleaved. -/
namespace Pisshoff

-- The session law: what each handler queues on the Session of its connection.
def Event.answer (shell : Shell) : Event → Session → Session
  | .channelClose channel | .channelEof channel | .channelOpenSession channel
  | .envRequest channel _ _ | .windowChangeRequest channel _ _ _ _ => (·.channelSuccess channel)
  | .channelOpenX11 channel _ _ | .channelOpenDirectTcpip channel _ _ _ _
  | .ptyRequest channel _ _ _ _ _ _ | .x11Request channel _ _ _ _
  | .subsystemRequest channel _ => (·.channelFailure channel)
  | .data channel text => fun session =>
      match shell.split text with
      | some args => (shell.runCommand args channel session).data channel shellPrompt
      | none => session.data channel shellPrompt
  | .shellRequest channel => fun session => (session.data channel shellPrompt).channelSuccess channel
  | .execRequest channel text => fun session =>
      match shell.split text with
      | some args => (shell.runCommand args channel session).channelSuccess channel
      | none => session.channelFailure channel
  | _ => id

def answers (shell : Shell) (events : List Event) : Session :=
  events.foldl (fun session event => event.answer shell session) ⟨[]⟩

theorem answers_snoc (shell : Shell) (events : List Event) (event : Event) :
    answers shell (events ++ [event]) = event.answer shell (answers shell events) := by
  simp [answers, List.foldl_append]

section Law

variable (shell : Shell) (self : Connection) (session : Session)

theorem call_finished_answer (state : State) (event : Event) (handler : Connection)
    (session' : Session) (reply : Reply)
    (finished : self.call shell state session event = .finished handler session' reply) :
    session' = event.answer shell session := by
  cases event <;> simp only [Connection.call, Outcome.ofAuth, Outcome.ofUnit, Outcome.ofBool] at finished
  all_goals (try split at finished) <;> cases finished
  all_goals simp [Event.answer, Connection.authNone, Connection.authPublickey,
    Connection.authKeyboardInteractive, Connection.channelClose, Connection.channelEof,
    Connection.channelOpenSession, Connection.channelOpenX11, Connection.channelOpenDirectTcpip,
    Connection.data, Connection.extendedData, Connection.windowAdjusted, Connection.ptyRequest,
    Connection.x11Request, Connection.envRequest, Connection.shellRequest, Connection.execRequest,
    Connection.subsystemRequest, Connection.windowChangeRequest, Connection.signal,
    Connection.tcpipForward, Connection.cancelTcpipForward, Connection.record, *]

theorem resume_answer (args : List String) (event : Event)
    (fits : (Phase.command args).Fits shell event) :
    (self.resume shell session args event).2 = event.answer shell session := by
  cases event <;> simp only [Phase.Fits] at fits <;>
    simp [Connection.resume, Connection.dataResume, Connection.execResume, Event.answer, fits]

end Law

def SessionAt (shell : Shell) (s : Sys) (index : Nat) : Prop :=
  ∀ conn, s.conns[index]? = some (.live conn) → conn.session = answers shell (s.handled index)

section Invariant

variable {shell : Shell} {acts : List Act} {s s' : Sys} {index : Nat}

theorem session_at_frame (inv : SessionAt shell s index) (slot : s'.conns[index]? = s.conns[index]?)
    (handled : s'.handled index = s.handled index) : SessionAt shell s' index := fun conn live => by
  rw [handled]
  exact inv conn (slot ▸ live)

theorem session_at_finish {conn : Conn} {event : Event} {handler : Connection} {session : Session}
    (inv : SessionAt shell s index) (live : s.conns[index]? = some (.live conn))
    (answered : session = event.answer shell conn.session) (reply : Reply) :
    SessionAt shell (s.finish index event handler session reply) index := fun conn' live' => by
  simp only [conns_finish, set_self_of_some live, Option.some.injEq, Slot.live.injEq] at live'
  rw [← live', handled_finish, if_pos rfl, answers_snoc, ← inv conn live]
  exact answered

theorem session_at_wait {conn : Conn} (inv : SessionAt shell s index)
    (live : s.conns[index]? = some (.live conn)) (inFlight : Option (Event × Phase)) :
    SessionAt shell (s.setSlot index (.live ⟨conn.handler, conn.session, inFlight⟩)) index :=
  fun conn' live' => by
    simp only [conns_set_slot, set_self_of_some live, Option.some.injEq, Slot.live.injEq] at live'
    rw [← live', handled_set_slot]
    exact inv conn live

theorem step_session_at {act : Act} (invs : ∀ index, ConnInv shell acts s index)
    (inv : ∀ index, SessionAt shell s index) (step : s.step shell act = some s') (index : Nat) :
    SessionAt shell s' index := by
  cases act with
  | accept connectionId peerAddr =>
      cases step
      by_cases fresh : index = s.conns.length
      · -- a new connection starts with an empty Session and no returned calls
        have never : (accepts acts)[index]? = none := by simp [fresh, conns_length invs]
        have handled := invs index
        simp only [ConnInv, never] at handled
        intro conn live
        simp only [fresh, List.getElem?_concat_length, Option.some.injEq, Slot.live.injEq] at live
        simp [← live, handled.2.1, answers]
      · exact session_at_frame (inv index) (getElem?_snoc_of_ne _ _ _ fresh) rfl
  | call target event =>
      obtain ⟨handler, session, live, ⟨handler', session', reply, called, rfl⟩ | ⟨phase, called, rfl⟩⟩ :=
        step_call_cases step
      all_goals by_cases same : target = index
      · subst same
        exact session_at_finish (inv target) live
          (call_finished_answer shell handler session _ event handler' session' reply called) reply
      · exact session_at_frame (inv index) (List.getElem?_set_ne same) (by simp [handled_finish, same])
      · exact same ▸ session_at_wait (inv target) live _
      · exact session_at_frame (inv index) (List.getElem?_set_ne same) rfl
  | draw target value =>
      obtain ⟨handler, session, user, password, live, ⟨-, rfl⟩ | ⟨-, rfl⟩⟩ := step_draw_cases step
      all_goals by_cases same : target = index
      · exact same ▸ session_at_wait (inv target) live _
      · exact session_at_frame (inv index) (List.getElem?_set_ne same) rfl
      · subst same
        exact session_at_finish (inv target) live rfl _
      · exact session_at_frame (inv index) (List.getElem?_set_ne same) (by simp [handled_finish, same])
  | store target =>
      obtain ⟨handler, session, user, password, live, rfl⟩ := step_store_cases step
      by_cases same : target = index
      · subst same
        exact session_at_finish (session_at_frame (inv target) rfl rfl :
          SessionAt shell (s.storePassword password) target) live rfl _
      · exact session_at_frame (inv index) (List.getElem?_set_ne same) (by simp [handled_finish, same])
  | resume target =>
      obtain ⟨handler, session, event, args, live, rfl⟩ := step_resume_cases step
      by_cases same : target = index
      · subst same
        exact session_at_finish (inv target) live
          (resume_answer shell handler session args event
            (conn_inv_live (invs target) live event (.command args) rfl)) _
      · exact session_at_frame (inv index) (List.getElem?_set_ne same) (by simp [handled_finish, same])
  | drop target =>
      obtain ⟨handler, session, inFlight, live, -, rfl⟩ := step_drop_cases step
      by_cases same : target = index
      · intro conn dropped
        simp [← same, set_self_of_some live] at dropped
      · exact session_at_frame (inv index) (List.getElem?_set_ne same) rfl

theorem run_session_at (config : Config) (run : (Sys.init config).run shell acts = some s)
    (index : Nat) : SessionAt shell s index :=
  (run_induction shell
    (fun acts s => (∀ index, ConnInv shell acts s index) ∧ ∀ index, SessionAt shell s index)
    (fun _ _ _ _ invs step => ⟨step_conn_inv invs.1 step, step_session_at invs.1 invs.2 step⟩)
    [] acts _ s ⟨conn_inv_init config, fun _ _ live => by simp [Sys.init] at live⟩ run).2 index

end Invariant

-- A client's view cannot tell runs apart by anything but its own calls: two connections
-- that have returned the same calls hold the same Session, whatever the configurations, the
-- other connections, the store, the draws and the interleavings of the two runs.
theorem client_view_isolated (shell : Shell) (config config' : Config) (acts acts' : List Act)
    (s s' : Sys) (run : (Sys.init config).run shell acts = some s)
    (run' : (Sys.init config').run shell acts' = some s') (index index' : Nat) (conn conn' : Conn)
    (live : s.conns[index]? = some (.live conn)) (live' : s'.conns[index']? = some (.live conn'))
    (same : s.handled index = s'.handled index') : conn.session = conn'.session := by
  rw [run_session_at config run index conn live, run_session_at config' run' index' conn' live', same]

theorem client_view_isolated_accept_reject :
    ∃ s s', (Sys.init ⟨1⟩).run ⟨fun _ => none, fun _ _ session => session,
        fun _ => true, fun _ => false⟩
        [.accept 1 none, .call 0 (.channelOpenSession 0), .call 0 (.authPassword "root" "toor"),
          .draw 0 0, .store 0] = some s ∧
      (Sys.init ⟨0⟩).run ⟨fun _ => none, fun _ _ session => session, fun _ => true, fun _ => false⟩
        [.accept 2 none, .accept 3 none, .call 0 (.shellRequest 0), .call 1 (.channelOpenSession 0),
          .call 1 (.authPassword "root" "toor"), .draw 1 5] = some s' ∧
      ∃ conn conn', s.conns[0]? = some (.live conn) ∧ s'.conns[1]? = some (.live conn') ∧
        s.handled 0 = s'.handled 1 ∧ conn.session = conn'.session :=
  ⟨_, _, rfl, rfl, _, _, rfl, rfl, by decide,
    client_view_isolated ⟨fun _ => none, fun _ _ session => session,
        fun _ => true, fun _ => false⟩ ⟨1⟩ ⟨0⟩
      [.accept 1 none, .call 0 (.channelOpenSession 0), .call 0 (.authPassword "root" "toor"),
        .draw 0 0, .store 0]
      [.accept 2 none, .accept 3 none, .call 0 (.shellRequest 0), .call 1 (.channelOpenSession 0),
        .call 1 (.authPassword "root" "toor"), .draw 1 5] _ _ rfl rfl 0 1 _ _ rfl rfl (by decide)⟩

end Pisshoff
