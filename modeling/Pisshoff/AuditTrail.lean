import Pisshoff.System

set_option autoImplicit false

/- What audit_send receives from each connection over a whole run: Drop sends the log once,
   and the log holds the Uuid and peer address the connection was created with and, in
   order, one entry per handler call of that connection that returned, whatever the other
   connections did in between. -/
namespace Pisshoff

def Act.accepted : Act → Option (Uuid × Option SocketAddr)
  | .accept connectionId peerAddr => some (connectionId, peerAddr)
  | _ => none

-- The connections of a run, by index: the Uuid and peer address each was created with.
def accepts (acts : List Act) : List (Uuid × Option SocketAddr) := acts.filterMap Act.accepted

def Sys.handled (s : Sys) (index : Nat) : List Event :=
  s.trace.filterMap fun entry => if entry.1 = index then some entry.2.1 else none

def Sys.sentBy (s : Sys) (index : Nat) : List AuditLog :=
  s.server.auditSend.filterMap fun entry => if entry.1 = index then some entry.2 else none

def expectedLog (shell : Shell) (connectionId : Uuid) (peerAddr : Option SocketAddr)
    (events : List Event) : AuditLog :=
  ⟨connectionId, peerAddr, events.filterMap Event.loggedVariable,
    events.filterMap (Event.loggedAction shell)⟩

theorem expected_log_snoc (shell : Shell) (connectionId : Uuid) (peerAddr : Option SocketAddr)
    (events : List Event) (event : Event) :
    expectedLog shell connectionId peerAddr (events ++ [event]) =
      (expectedLog shell connectionId peerAddr events).record shell event := by
  simp only [expectedLog, AuditLog.record, List.filterMap_append, List.filterMap_cons,
    List.filterMap_nil]
  cases event.loggedVariable <;> cases event.loggedAction shell <;> rfl

theorem count_sent (sent : List (Nat × AuditLog)) (index : Nat) :
    (sent.map Prod.fst).count index =
      (sent.filterMap fun entry => if entry.1 = index then some entry.2 else none).length := by
  induction sent with
  | nil => rfl
  | cons entry sent ih => by_cases same : entry.1 = index <;> simp [List.count_cons, same, ih]

section Frame

variable (s : Sys) (index other : Nat)

@[simp] theorem handled_with_conns (conns : List Slot) :
    ({ s with conns } : Sys).handled other = s.handled other := rfl

@[simp] theorem sent_by_with_conns (conns : List Slot) :
    ({ s with conns } : Sys).sentBy other = s.sentBy other := rfl

@[simp] theorem handled_set_slot (slot : Slot) : (s.setSlot index slot).handled other = s.handled other :=
  rfl

@[simp] theorem sent_by_set_slot (slot : Slot) : (s.setSlot index slot).sentBy other = s.sentBy other :=
  rfl

@[simp] theorem handled_store_password (password : String) :
    (s.storePassword password).handled other = s.handled other := rfl

@[simp] theorem sent_by_store_password (password : String) :
    (s.storePassword password).sentBy other = s.sentBy other := rfl

@[simp] theorem conns_store_password (password : String) :
    (s.storePassword password).conns = s.conns := rfl

@[simp] theorem conns_set_slot (slot : Slot) : (s.setSlot index slot).conns = s.conns.set index slot :=
  rfl

@[simp] theorem sent_by_finish (event : Event) (handler : Connection) (session : Session)
    (reply : Reply) : (s.finish index event handler session reply).sentBy other = s.sentBy other :=
  rfl

@[simp] theorem conns_finish (event : Event) (handler : Connection) (session : Session)
    (reply : Reply) : (s.finish index event handler session reply).conns =
      s.conns.set index (.live ⟨handler, session, none⟩) := rfl

theorem handled_finish (event : Event) (handler : Connection) (session : Session) (reply : Reply) :
    (s.finish index event handler session reply).handled other =
      if index = other then s.handled other ++ [event] else s.handled other := by
  by_cases same : index = other <;>
    simp [Sys.handled, Sys.finish, Sys.setSlot, same]

theorem sent_by_drop (handler : Connection) :
    ({ s with server := handler.drop s.server index, conns := s.conns.set index .dropped } : Sys).sentBy other =
      if index = other then s.sentBy other ++ [handler.auditLog] else s.sentBy other := by
  by_cases same : index = other <;>
    simp [Sys.sentBy, Connection.drop, same]

end Frame

theorem getElem?_snoc_of_ne {α : Type} (l : List α) (a : α) (index : Nat) (other : index ≠ l.length) :
    (l ++ [a])[index]? = l[index]? := by
  rcases Nat.lt_or_gt_of_ne other with before | after
  · exact List.getElem?_append_left before
  · rw [List.getElem?_append_right after.le, List.getElem?_eq_none after.le,
      List.getElem?_eq_none (by simp only [List.length_singleton]; omega)]

-- What a run leaves for one connection index: a live connection's log is the expected log
-- of its returned calls and it has sent nothing; a dropped one has sent that log once; an
-- index never accepted has neither calls nor logs.
def ConnInv (shell : Shell) (acts : List Act) (s : Sys) (index : Nat) : Prop :=
  match (accepts acts)[index]? with
  | none => s.conns[index]? = none ∧ s.handled index = [] ∧ s.sentBy index = [] ∧ Act.drop index ∉ acts
  | some (connectionId, peerAddr) =>
      match s.conns[index]? with
      | some (.live conn) =>
          conn.handler.auditLog = expectedLog shell connectionId peerAddr (s.handled index) ∧
          (∀ event phase, conn.inFlight = some (event, phase) → phase.Fits shell event) ∧
          s.sentBy index = [] ∧ Act.drop index ∉ acts
      | some .dropped =>
          s.sentBy index = [expectedLog shell connectionId peerAddr (s.handled index)] ∧
          Act.drop index ∈ acts
      | none => False

section Invariant

variable {shell : Shell} {acts : List Act} {s s' : Sys}

theorem conn_inv_init (config : Config) (index : Nat) : ConnInv shell [] (Sys.init config) index := by
  simp [ConnInv, accepts, Sys.init, Sys.handled, Sys.sentBy, Server.new]

theorem conn_inv_aligned {index : Nat} (inv : ConnInv shell acts s index) :
    (accepts acts)[index]? = none ↔ s.conns[index]? = none := by
  unfold ConnInv at inv
  cases found : (accepts acts)[index]? with
  | none =>
      simp only [found] at inv
      simpa using inv.1
  | some entry => cases slot : s.conns[index]? <;> simp_all

theorem conns_length (invs : ∀ index, ConnInv shell acts s index) :
    s.conns.length = (accepts acts).length := by
  have short := (conn_inv_aligned (invs s.conns.length)).mpr (by simp)
  have long := (conn_inv_aligned (invs (accepts acts).length)).mp (by simp)
  simp only [List.getElem?_eq_none_iff] at short long
  omega

theorem conn_inv_frame {act : Act} {index : Nat} (inv : ConnInv shell acts s index)
    (accepted : act.accepted = none) (other : act ≠ .drop index)
    (slot : s'.conns[index]? = s.conns[index]?) (handled : s'.handled index = s.handled index)
    (sent : s'.sentBy index = s.sentBy index) : ConnInv shell (acts ++ [act]) s' index := by
  have same : accepts (acts ++ [act]) = accepts acts := by simp [accepts, accepted]
  have dropped : Act.drop index ∈ acts ++ [act] ↔ Act.drop index ∈ acts := by
    simp [Ne.symm other]
  simpa only [ConnInv, same, slot, handled, sent, dropped] using inv

theorem conn_inv_live_step {act : Act} {index : Nat} {conn : Conn}
    (inv : ConnInv shell acts s index) (live : s.conns[index]? = some (.live conn))
    (accepted : act.accepted = none) (other : act ≠ .drop index) (conn' : Conn)
    (live' : s'.conns[index]? = some (.live conn')) (sent : s'.sentBy index = s.sentBy index)
    (log : ∀ connectionId peerAddr,
      conn.handler.auditLog = expectedLog shell connectionId peerAddr (s.handled index) →
      conn'.handler.auditLog = expectedLog shell connectionId peerAddr (s'.handled index))
    (fits : ∀ event phase, conn'.inFlight = some (event, phase) → phase.Fits shell event) :
    ConnInv shell (acts ++ [act]) s' index := by
  have same : accepts (acts ++ [act]) = accepts acts := by simp [accepts, accepted]
  unfold ConnInv at inv ⊢
  rw [same]
  cases found : (accepts acts)[index]? with
  | none => simp [found, live] at inv
  | some entry =>
      simp only [found, live] at inv
      simp only [live']
      exact ⟨log _ _ inv.1, fits, sent.trans inv.2.2.1, by simpa [Ne.symm other] using inv.2.2.2⟩

theorem conn_inv_live {index : Nat} {conn : Conn} (inv : ConnInv shell acts s index)
    (live : s.conns[index]? = some (.live conn)) :
    ∀ event phase, conn.inFlight = some (event, phase) → phase.Fits shell event := by
  unfold ConnInv at inv
  cases found : (accepts acts)[index]? with
  | none => simp [found, live] at inv
  | some entry =>
      simp only [found, live] at inv
      exact inv.2.1

theorem sent_by_cases {index : Nat} (inv : ConnInv shell acts s index) :
    s.sentBy index = [] ∨ s.conns[index]? = some .dropped ∧ ∃ connectionId peerAddr,
      (accepts acts)[index]? = some (connectionId, peerAddr) ∧
        s.sentBy index = [expectedLog shell connectionId peerAddr (s.handled index)] := by
  unfold ConnInv at inv
  cases found : (accepts acts)[index]? with
  | none =>
      simp only [found] at inv
      exact .inl inv.2.2.1
  | some entry =>
      simp only [found] at inv
      split at inv
      · exact .inl inv.2.2.1
      · exact .inr ⟨‹_›, _, _, rfl, inv.1⟩
      · exact inv.elim

theorem set_self_of_some {slot slot' : Slot} {index : Nat} (found : s.conns[index]? = some slot) :
    (s.conns.set index slot')[index]? = some slot' := by
  simp [List.getElem?_set_self', found]

theorem conn_inv_accept {connectionId : Uuid} {peerAddr : Option SocketAddr}
    (invs : ∀ index, ConnInv shell acts s index)
    (step : s.step shell (.accept connectionId peerAddr) = some s') (index : Nat) :
    ConnInv shell (acts ++ [.accept connectionId peerAddr]) s' index := by
  cases step
  have length := conns_length invs
  have extended : accepts (acts ++ [.accept connectionId peerAddr]) =
      accepts acts ++ [(connectionId, peerAddr)] := by simp [accepts, Act.accepted]
  have dropped : Act.drop index ∈ acts ++ [.accept connectionId peerAddr] ↔ Act.drop index ∈ acts := by
    simp
  have inv := invs index
  by_cases fresh : index = s.conns.length
  · subst fresh
    have found : (accepts acts)[s.conns.length]? = none := by simp [length]
    have added : (accepts acts ++ [(connectionId, peerAddr)])[s.conns.length]? =
        some (connectionId, peerAddr) := by
      rw [length]
      exact List.getElem?_concat_length _ _
    simp only [ConnInv, found] at inv
    simp only [ConnInv, extended, dropped, added, List.getElem?_concat_length]
    exact ⟨by simp [inv.2.1, expectedLog, Server.newHandler, AuditLog.default], by simp, inv.2.2⟩
  · simpa only [ConnInv, extended, dropped, getElem?_snoc_of_ne _ _ _ fresh,
      getElem?_snoc_of_ne _ _ _ (length ▸ fresh : index ≠ (accepts acts).length)] using inv

theorem conn_inv_call {target : Nat} {event : Event} (invs : ∀ index, ConnInv shell acts s index)
    (step : s.step shell (.call target event) = some s') (index : Nat) :
    ConnInv shell (acts ++ [.call target event]) s' index := by
  obtain ⟨handler, session, live, ⟨handler', session', reply, called, rfl⟩ | ⟨phase, called, rfl⟩⟩ :=
    step_call_cases step
  all_goals by_cases same : target = index
  · subst same
    refine conn_inv_live_step (invs target) live rfl (by simp) ⟨handler', session', none⟩
      (set_self_of_some live) rfl (fun connectionId peerAddr old => ?_) (by simp)
    rw [handled_finish, if_pos rfl, expected_log_snoc, ← old]
    exact call_finished_record shell s.server.state handler session event handler' session' reply called
  · exact conn_inv_frame (invs index) rfl (by simp) (by simp [List.getElem?_set_ne same])
      (by simp [handled_finish, same]) rfl
  · subst same
    refine conn_inv_live_step (invs target) live rfl (by simp) ⟨handler, session, some (event, phase)⟩
      (set_self_of_some live) rfl (fun _ _ old => old) ?_
    rintro _ _ ⟨⟩
    exact call_suspended_fits shell s.server.state handler session event phase called
  · exact conn_inv_frame (invs index) rfl (by simp) (by simp [List.getElem?_set_ne same]) rfl rfl

theorem conn_inv_draw {target : Nat} {value : Draw} (invs : ∀ index, ConnInv shell acts s index)
    (step : s.step shell (.draw target value) = some s') (index : Nat) :
    ConnInv shell (acts ++ [.draw target value]) s' index := by
  obtain ⟨handler, session, user, password, live, ⟨-, rfl⟩ | ⟨-, rfl⟩⟩ := step_draw_cases step
  all_goals by_cases same : target = index
  · subst same
    refine conn_inv_live_step (invs target) live rfl (by simp)
      ⟨handler, session, some (.authPassword user password, .store)⟩ (set_self_of_some live) rfl
      (fun _ _ old => old) ?_
    rintro _ _ ⟨⟩
    trivial
  · exact conn_inv_frame (invs index) rfl (by simp) (by simp [List.getElem?_set_ne same]) rfl rfl
  · subst same
    refine conn_inv_live_step (invs target) live rfl (by simp)
      ⟨handler.loginAttempt user password, session, none⟩ (set_self_of_some live) rfl
      (fun connectionId peerAddr old => ?_) (by simp)
    rw [handled_finish, if_pos rfl, expected_log_snoc, ← old, login_attempt_record]
  · exact conn_inv_frame (invs index) rfl (by simp) (by simp [List.getElem?_set_ne same])
      (by simp [handled_finish, same]) rfl

theorem conn_inv_store {target : Nat} (invs : ∀ index, ConnInv shell acts s index)
    (step : s.step shell (.store target) = some s') (index : Nat) :
    ConnInv shell (acts ++ [.store target]) s' index := by
  obtain ⟨handler, session, user, password, live, rfl⟩ := step_store_cases step
  by_cases same : target = index
  · subst same
    refine conn_inv_live_step (invs target) live rfl (by simp)
      ⟨handler.loginAttempt user password, session, none⟩ (set_self_of_some live) rfl
      (fun connectionId peerAddr old => ?_) (by simp)
    rw [handled_finish, if_pos rfl, handled_store_password, expected_log_snoc, ← old,
      login_attempt_record]
  · exact conn_inv_frame (invs index) rfl (by simp) (by simp [List.getElem?_set_ne same])
      (by simp [handled_finish, same]) rfl

theorem conn_inv_resume {target : Nat} (invs : ∀ index, ConnInv shell acts s index)
    (step : s.step shell (.resume target) = some s') (index : Nat) :
    ConnInv shell (acts ++ [.resume target]) s' index := by
  obtain ⟨handler, session, event, args, live, rfl⟩ := step_resume_cases step
  by_cases same : target = index
  · subst same
    have fits := conn_inv_live (invs target) live event (.command args) rfl
    refine conn_inv_live_step (invs target) live rfl (by simp)
      ⟨(handler.resume shell session args event).1, (handler.resume shell session args event).2, none⟩
      (set_self_of_some live) rfl (fun connectionId peerAddr old => ?_) (by simp)
    rw [handled_finish, if_pos rfl, expected_log_snoc, ← old]
    exact resume_record shell handler session args event fits
  · exact conn_inv_frame (invs index) rfl (by simp) (by simp [List.getElem?_set_ne same])
      (by simp [handled_finish, same]) rfl

theorem conn_inv_drop {target : Nat} (invs : ∀ index, ConnInv shell acts s index)
    (step : s.step shell (.drop target) = some s') (index : Nat) :
    ConnInv shell (acts ++ [.drop target]) s' index := by
  obtain ⟨handler, session, inFlight, live, -, rfl⟩ := step_drop_cases step
  by_cases same : target = index
  · subst same
    have inv := invs target
    unfold ConnInv at inv ⊢
    have same : accepts (acts ++ [.drop target]) = accepts acts := by simp [accepts, Act.accepted]
    rw [same]
    cases found : (accepts acts)[target]? with
    | none => simp [found, live] at inv
    | some entry =>
        simp only [found, live] at inv
        simp only [set_self_of_some live, sent_by_drop, if_pos rfl, inv.2.2.1, List.nil_append]
        exact ⟨congrArg (fun log => [log]) inv.1, by simp⟩
  · exact conn_inv_frame (invs index) rfl (by simpa using same) (by simp [List.getElem?_set_ne same])
      rfl (by simp [sent_by_drop, same])

theorem step_conn_inv {act : Act} (invs : ∀ index, ConnInv shell acts s index)
    (step : s.step shell act = some s') (index : Nat) : ConnInv shell (acts ++ [act]) s' index := by
  cases act with
  | accept connectionId peerAddr => exact conn_inv_accept invs step index
  | call target event => exact conn_inv_call invs step index
  | draw target value => exact conn_inv_draw invs step index
  | store target => exact conn_inv_store invs step index
  | resume target => exact conn_inv_resume invs step index
  | drop target => exact conn_inv_drop invs step index

theorem run_conn_inv (config : Config) (acts : List Act)
    (run : (Sys.init config).run shell acts = some s) (index : Nat) : ConnInv shell acts s index :=
  run_induction shell (fun acts s => ∀ index, ConnInv shell acts s index)
    (fun _ _ _ _ invs step => step_conn_inv invs step) [] acts _ s (conn_inv_init config) run index

end Invariant

-- Whatever the other connections do and however the calls of this one interleave with
-- theirs, a connection that is dropped has sent exactly one log, holding its Uuid and peer
-- address and one entry per call of its own that returned, in order; one never dropped
-- has sent nothing.
theorem audit_log_sent_on_drop (shell : Shell) (config : Config) (acts : List Act) (s : Sys)
    (run : (Sys.init config).run shell acts = some s) (index : Nat) :
    (Act.drop index ∈ acts → ∃ connectionId peerAddr,
        (accepts acts)[index]? = some (connectionId, peerAddr) ∧
        s.sentBy index = [expectedLog shell connectionId peerAddr (s.handled index)]) ∧
    (Act.drop index ∉ acts → s.sentBy index = []) := by
  have inv := run_conn_inv config acts run index
  unfold ConnInv at inv
  cases found : (accepts acts)[index]? with
  | none =>
      simp only [found] at inv
      exact ⟨fun dropped => absurd dropped inv.2.2.2, fun _ => inv.2.2.1⟩
  | some entry =>
      simp only [found] at inv
      split at inv
      · exact ⟨fun dropped => absurd dropped inv.2.2.2, fun _ => inv.2.2.1⟩
      · exact ⟨fun _ => ⟨_, _, rfl, inv.1⟩, fun notDropped => absurd inv.2 notDropped⟩
      · exact inv.elim

theorem audit_log_sent_on_drop_run :
    ∃ s, (Sys.init ⟨1⟩).run ⟨fun _ => some ["ls", "-la"], fun _ _ session => session,
        fun _ => true, fun _ => false⟩
        [.accept 7 none, .call 0 (.authPassword "root" "toor"), .draw 0 0, .store 0,
          .call 0 (.envRequest 0 "LANG" "C"), .call 0 (.execRequest 0 [108, 115]), .resume 0,
          .drop 0] = some s ∧
      ∃ connectionId peerAddr, s.sentBy 0 =
        [expectedLog ⟨fun _ => some ["ls", "-la"], fun _ _ session => session,
            fun _ => true, fun _ => false⟩ connectionId peerAddr
          (s.handled 0)] := by
  obtain ⟨s, run⟩ := Option.isSome_iff_exists.mp (by decide :
    ((Sys.init ⟨1⟩).run ⟨fun _ => some ["ls", "-la"], fun _ _ session => session,
        fun _ => true, fun _ => false⟩
      [.accept 7 none, .call 0 (.authPassword "root" "toor"), .draw 0 0, .store 0,
        .call 0 (.envRequest 0 "LANG" "C"), .call 0 (.execRequest 0 [108, 115]), .resume 0,
        .drop 0]).isSome = true)
  obtain ⟨connectionId, peerAddr, -, sent⟩ := (audit_log_sent_on_drop _ _ _ s run 0).1 (by simp)
  exact ⟨s, run, connectionId, peerAddr, sent⟩

def Sys.inFlight (s : Sys) (index : Nat) : Option (Event × Phase) :=
  match s.conns[index]? with
  | some (.live conn) => conn.inFlight
  | _ => none

-- exec_request pushes ExecCommand after run_command's await. Dropped during that await, the
-- connection sends a log without the command, although the call had begun and its text had
-- split into args.
theorem exec_request_dropped_during_run_command (shell : Shell) (config : Config)
    (connectionId : Uuid) (peerAddr : Option SocketAddr) (channel : ChannelId) (text : List UInt8) :
    (∃ s, (Sys.init config).run shell
        [.accept connectionId peerAddr, .call 0 (.execRequest channel text)] = some s ∧
      s.inFlight 0 = (shell.split text).map fun args => (.execRequest channel text, .command args)) ∧
    ∃ s, (Sys.init config).run shell
        [.accept connectionId peerAddr, .call 0 (.execRequest channel text), .drop 0] = some s ∧
      s.sentBy 0 = [⟨connectionId, peerAddr, [], []⟩] := by
  cases split : shell.split text <;>
    simp only [Sys.run, Sys.step, Sys.init, Server.new, Server.newHandler, AuditLog.default,
      List.nil_append, Connection.call, split, Outcome.ofUnit, Connection.execRequest, Sys.finish,
      Sys.setSlot, Option.bind_some, Option.some_bind, List.length_singleton, zero_lt_one,
      List.getElem?_eq_getElem, List.getElem_cons_zero, List.set_cons_zero, Option.some.injEq,
      Sys.inFlight, Option.map_none', Option.map_some', exists_eq_left', Connection.drop, Sys.sentBy,
      if_true, List.filterMap_cons_some, List.filterMap_nil, and_self]

-- The law holds over the calls that returned, not over the events delivered: a data or
-- exec_request whose text splits is delivered, and a drop while run_command is pending sends
-- a log without its ExecCommand.
theorem sent_log_misses_pending_command (shell : Shell) (config : Config) (connectionId : Uuid)
    (peerAddr : Option SocketAddr) (event : Event) (channel : ChannelId) (text : List UInt8)
    (args : List String) (command : event = .data channel text ∨ event = .execRequest channel text)
    (split : shell.split text = some args) :
    ∃ s, (Sys.init config).run shell [.accept connectionId peerAddr, .call 0 event, .drop 0] =
        some s ∧
      s.sentBy 0 = [expectedLog shell connectionId peerAddr []] ∧
      s.sentBy 0 ≠ [expectedLog shell connectionId peerAddr [event]] := by
  rcases command with rfl | rfl <;>
    simp only [Sys.run, Sys.step, Sys.init, Server.new, Server.newHandler, AuditLog.default,
      List.nil_append, Connection.call, split, Sys.setSlot, Connection.drop, Option.bind_some,
      Option.some_bind, List.length_singleton, zero_lt_one, List.getElem?_eq_getElem,
      List.getElem_cons_zero, List.set_cons_zero, Option.some.injEq, Sys.sentBy, expectedLog,
      List.filterMap_nil, Event.loggedVariable, List.filterMap_cons_none, Event.loggedAction,
      Option.map_some', List.filterMap_cons_some, ne_eq, exists_eq_left', if_true,
      List.cons.injEq, AuditLog.mk.injEq, List.ne_cons_self, and_false, and_true,
      not_false_eq_true, and_self]

theorem sent_log_misses_pending_command_ls :
    (Event.data 0 [108, 115] = .data 0 [108, 115] ∨ Event.data 0 [108, 115] = .execRequest 0 [108, 115]) ∧
      (⟨fun _ => some ["ls"], fun _ _ session => session,
          fun _ => true, fun _ => false⟩ : Shell).split [108, 115] = some ["ls"] ∧
      ∃ s, (Sys.init ⟨1⟩).run ⟨fun _ => some ["ls"], fun _ _ session => session,
          fun _ => true, fun _ => false⟩
          [.accept 7 none, .call 0 (.data 0 [108, 115]), .drop 0] = some s ∧
        s.sentBy 0 = [expectedLog ⟨fun _ => some ["ls"], fun _ _ session => session,
            fun _ => true, fun _ => false⟩ 7 none []] ∧
        s.sentBy 0 ≠
          [expectedLog ⟨fun _ => some ["ls"], fun _ _ session => session,
              fun _ => true, fun _ => false⟩ 7 none [.data 0 [108, 115]]] :=
  ⟨.inl rfl, rfl,
    sent_log_misses_pending_command _ _ _ _ _ _ _ _ (.inl rfl) rfl⟩

end Pisshoff
