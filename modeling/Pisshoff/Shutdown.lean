import Pisshoff.Writer
import Pisshoff.AuditTrail

set_option autoImplicit false

/- run() of main.rs after its setup (arguments, the tracing subscriber, the host key and
   thrussh's Config, each done once before anything is accepted). tokio::select! races fut,
   that is thrussh::server::run, which accepts connections and owns the Server and with it a
   sender of audit_send; the writer task's JoinHandle, fused; and ctrl_c. The branches not
   taken are dropped, fut among them, and run() then awaits the handle again. The connection
   tasks fut has spawned keep running until run() returns, and the process ends with it. -/
namespace Pisshoff

-- Where run() is. awaitingFused is the second await of a handle that has already resolved
-- inside the select: a fused future that has completed never resolves again.
inductive Main where
  | selecting
  | draining
  | awaitingFused
  | returned (result : Except String Unit)

def Main.running : Main → Bool
  | .returned _ => false
  | _ => true

def Main.inSelect : Main → Bool
  | .selecting => true
  | _ => false

-- main's exit status once run() has returned: std::process::exit(1) on an error.
def Main.exitCode : Main → Option Nat
  | .returned (.ok ()) => some 0
  | .returned (.error _) => some 1
  | _ => none

-- What `res?` does with fut's result, and `res??` with the handle's inside the select.
def Main.afterServer : Except String Unit → Main
  | .ok () => .draining
  | .error message => .returned (.error message)

def Main.afterWriter : Except String Unit → Main
  | .ok () => .awaitingFused
  | .error message => .returned (.error message)

-- listening: fut has not been dropped, so it accepts, and its Server holds a sender.
structure Process where
  sys : Sys
  listening : Bool
  writer : Writer
  main : Main

def Process.start (config : Config) : Process := ⟨Sys.init config, true, Writer.start, .selecting⟩

-- Every log audit_send's channel has received, in order.
def Sys.channel (s : Sys) : List AuditLog := s.server.auditSend.map Prod.snd

def Slot.isLive : Slot → Bool
  | .live _ => true
  | .dropped => false

-- fut's Server and every Connection not yet dropped each hold a sender of audit_send.
def Process.senders (p : Process) : Bool := p.listening || p.sys.conns.any Slot.isLive

-- The scheduler's choices: a step of the connections or of the writer task, or one of the
-- futures run() awaits resolving.
inductive Tick where
  | conn (act : Act)
  | writer (act : WriterAct)
  | serverEnded (result : Except String Unit)
  | ctrlC
  | joined

def Process.step (shell : Shell) (p : Process) : Tick → Option Process
  | .conn act =>
      if p.main.running && (p.listening || act.accepted.isNone) then
        (p.sys.step shell act).map fun sys => { p with sys }
      else none
  | .writer act =>
      if p.main.running then
        (p.writer.step p.sys.channel p.senders act).map fun writer => { p with writer }
      else none
  | .serverEnded result =>
      match p.main with
      | .selecting => some { p with listening := false, main := Main.afterServer result }
      | _ => none
  | .ctrlC =>
      match p.main with
      | .selecting => some { p with listening := false, main := .draining }
      | _ => none
  | .joined =>
      match p.main, p.writer.result with
      | .selecting, some result => some { p with listening := false, main := Main.afterWriter result }
      | .draining, some result => some { p with main := .returned result }
      | _, _ => none

def Process.run (shell : Shell) (p : Process) : List Tick → Option Process
  | [] => some p
  | tick :: ticks => (p.step shell tick).bind fun p => p.run shell ticks

def Tick.connAct : Tick → Option Act
  | .conn act => some act
  | _ => none

def connActs (ticks : List Tick) : List Act := ticks.filterMap Tick.connAct

section Steps

variable {shell : Shell} {s s' : Sys} {p p' : Process}

theorem step_audit_send_grows {act : Act} (step : s.step shell act = some s') :
    s.server.auditSend <+: s'.server.auditSend := by
  cases act with
  | accept connectionId peerAddr => cases step; exact List.prefix_refl _
  | call target event =>
      obtain ⟨_, _, _, ⟨_, _, _, _, rfl⟩ | ⟨_, _, rfl⟩⟩ := step_call_cases step <;>
        exact List.prefix_refl _
  | draw target value =>
      obtain ⟨_, _, _, _, _, ⟨_, rfl⟩ | ⟨_, rfl⟩⟩ := step_draw_cases step <;>
        exact List.prefix_refl _
  | store target =>
      obtain ⟨_, _, _, _, _, rfl⟩ := step_store_cases step
      exact List.prefix_refl _
  | resume target =>
      obtain ⟨_, _, _, _, _, rfl⟩ := step_resume_cases step
      exact List.prefix_refl _
  | drop target =>
      obtain ⟨_, _, _, _, _, rfl⟩ := step_drop_cases step
      exact List.prefix_append _ _

theorem step_live {act : Act} (step : s.step shell act = some s') (accepted : act.accepted = none) :
    ∃ (index : Nat) (conn : Conn), s.conns[index]? = some (.live conn) := by
  cases act with
  | accept connectionId peerAddr => cases accepted
  | call target event => obtain ⟨_, _, live, -⟩ := step_call_cases step; exact ⟨_, _, live⟩
  | draw target value => obtain ⟨_, _, _, _, live, -⟩ := step_draw_cases step; exact ⟨_, _, live⟩
  | store target => obtain ⟨_, _, _, _, live, -⟩ := step_store_cases step; exact ⟨_, _, live⟩
  | resume target => obtain ⟨_, _, _, _, live, -⟩ := step_resume_cases step; exact ⟨_, _, live⟩
  | drop target => obtain ⟨_, _, _, live, -⟩ := step_drop_cases step; exact ⟨_, _, live⟩

theorem process_conn_cases {act : Act} (step : p.step shell (.conn act) = some p') :
    (p.listening = true ∨ act.accepted = none) ∧
      ∃ sys, p.sys.step shell act = some sys ∧ p' = { p with sys } := by
  simp only [Process.step] at step
  split at step
  · rename_i allowed
    obtain ⟨sys, stepped, rfl⟩ := Option.map_eq_some'.mp step
    simp only [Bool.and_eq_true, Bool.or_eq_true, Option.isNone_iff_eq_none] at allowed
    exact ⟨allowed.2, sys, stepped, rfl⟩
  · cases step

theorem process_writer_cases {act : WriterAct} (step : p.step shell (.writer act) = some p') :
    p.main.running = true ∧
      ∃ writer, p.writer.step p.sys.channel p.senders act = some writer ∧ p' = { p with writer } := by
  simp only [Process.step] at step
  split at step
  · obtain ⟨writer, stepped, rfl⟩ := Option.map_eq_some'.mp step
    exact ⟨‹_›, writer, stepped, rfl⟩
  · cases step

theorem process_server_ended_cases {result : Except String Unit}
    (step : p.step shell (.serverEnded result) = some p') :
    p.main = .selecting ∧ p' = { p with listening := false, main := Main.afterServer result } := by
  simp only [Process.step] at step
  split at step <;> cases step
  exact ⟨‹_›, rfl⟩

theorem process_ctrl_c_cases (step : p.step shell .ctrlC = some p') :
    p.main = .selecting ∧ p' = { p with listening := false, main := .draining } := by
  simp only [Process.step] at step
  split at step <;> cases step
  exact ⟨‹_›, rfl⟩

theorem process_joined_cases (step : p.step shell .joined = some p') :
    ∃ result, p.writer.result = some result ∧
      (p.main = .selecting ∧ p' = { p with listening := false, main := Main.afterWriter result } ∨
        p.main = .draining ∧ p' = { p with main := .returned result }) := by
  simp only [Process.step] at step
  split at step <;> cases step
  · exact ⟨_, ‹_›, .inl ⟨‹_›, rfl⟩⟩
  · exact ⟨_, ‹_›, .inr ⟨‹_›, rfl⟩⟩

theorem conn_step_needs_senders {act : Act} (step : p.step shell (.conn act) = some p') :
    p.senders = true := by
  obtain ⟨allowed, sys, stepped, -⟩ := process_conn_cases step
  rcases allowed with listening | accepted
  · simp [Process.senders, listening]
  · obtain ⟨index, conn, live⟩ := step_live stepped accepted
    simp only [Process.senders, Bool.or_eq_true, List.any_eq_true]
    exact .inr ⟨_, List.getElem?_mem live, rfl⟩

end Steps

-- What run() and the writer keep over a whole run: the writer writes the channel's logs in
-- order; fut is held exactly as long as run() selects; the writer ends with Ok only when no
-- sender is left and every log is written; run() returns Ok only after that; and it never
-- awaits the spent handle.
structure PipelineInv (p : Process) : Prop where
  ordered : p.writer.written <+: p.sys.channel
  listening : p.listening = p.main.inSelect
  drained : p.writer.result = some (.ok ()) → p.senders = false ∧ p.writer.written = p.sys.channel
  clean : p.main = .returned (.ok ()) → p.writer.result = some (.ok ())
  unfused : p.main ≠ .awaitingFused

section Invariant

variable {shell : Shell} {p p' : Process}

theorem pipeline_inv_start (config : Config) : PipelineInv (Process.start config) where
  ordered := List.nil_prefix
  listening := rfl
  drained := nofun
  clean := nofun
  unfused := nofun

theorem writer_not_done (inv : PipelineInv p) (selecting : p.main = .selecting) :
    p.writer.result ≠ some (.ok ()) := fun done => by
  have senders := (inv.drained done).1
  simp [Process.senders, inv.listening, selecting, Main.inSelect] at senders

theorem pipeline_inv_conn {act : Act} (inv : PipelineInv p) (step : p.step shell (.conn act) = some p') :
    PipelineInv p' := by
  have senders := conn_step_needs_senders step
  obtain ⟨-, sys, stepped, rfl⟩ := process_conn_cases step
  exact {
    ordered := inv.ordered.trans ((step_audit_send_grows stepped).map _)
    listening := inv.listening
    drained := fun done => by simp [(inv.drained done).1] at senders
    clean := inv.clean
    unfused := inv.unfused }

theorem pipeline_inv_writer {act : WriterAct} (inv : PipelineInv p)
    (step : p.step shell (.writer act) = some p') : PipelineInv p' := by
  obtain ⟨running, writer, stepped, rfl⟩ := process_writer_cases step
  have ordered := writer_step_prefix inv.ordered (List.prefix_refl _) stepped
  refine ⟨ordered, inv.listening, fun done => ?_, fun returned => ?_, inv.unfused⟩
  · obtain ⟨closed, length⟩ := writer_step_ok stepped done
    exact ⟨closed, ordered.eq_of_length length⟩
  · have returned : p.main = .returned (.ok ()) := returned
    simp [returned, Main.running] at running

theorem pipeline_inv_server_ended {result : Except String Unit} (inv : PipelineInv p)
    (step : p.step shell (.serverEnded result) = some p') : PipelineInv p' := by
  obtain ⟨selecting, rfl⟩ := process_server_ended_cases step
  refine ⟨inv.ordered, ?_, fun done => (writer_not_done inv selecting done).elim, ?_, ?_⟩ <;>
    cases result <;> simp [Main.afterServer, Main.inSelect]

theorem pipeline_inv_ctrl_c (inv : PipelineInv p) (step : p.step shell .ctrlC = some p') :
    PipelineInv p' := by
  obtain ⟨selecting, rfl⟩ := process_ctrl_c_cases step
  exact ⟨inv.ordered, rfl, fun done => (writer_not_done inv selecting done).elim, nofun, nofun⟩

theorem pipeline_inv_joined (inv : PipelineInv p) (step : p.step shell .joined = some p') :
    PipelineInv p' := by
  obtain ⟨result, joined, ⟨selecting, rfl⟩ | ⟨draining, rfl⟩⟩ := process_joined_cases step
  · -- The select took the handle: it can only have failed.
    cases result with
    | ok => exact absurd joined (writer_not_done inv selecting)
    | error message =>
        exact ⟨inv.ordered, rfl, fun done => (writer_not_done inv selecting done).elim, nofun,
          nofun⟩
  · refine ⟨inv.ordered, inv.listening.trans (by rw [draining]; rfl), inv.drained, ?_, nofun⟩
    rintro ⟨⟩
    exact joined

theorem step_pipeline_inv {tick : Tick} (inv : PipelineInv p) (step : p.step shell tick = some p') :
    PipelineInv p' := by
  cases tick with
  | conn act => exact pipeline_inv_conn inv step
  | writer act => exact pipeline_inv_writer inv step
  | serverEnded result => exact pipeline_inv_server_ended inv step
  | ctrlC => exact pipeline_inv_ctrl_c inv step
  | joined => exact pipeline_inv_joined inv step

theorem run_pipeline_inv (ticks : List Tick) (inv : PipelineInv p)
    (run : p.run shell ticks = some p') : PipelineInv p' := by
  induction ticks generalizing p with
  | nil => cases run; exact inv
  | cons tick ticks ih =>
      obtain ⟨p₁, stepped, rest⟩ := Option.bind_eq_some.mp run
      exact ih (step_pipeline_inv inv stepped) rest

theorem step_sys {tick : Tick} (step : p.step shell tick = some p') :
    p.sys.run shell tick.connAct.toList = some p'.sys := by
  cases tick with
  | conn act =>
      obtain ⟨-, sys, stepped, rfl⟩ := process_conn_cases step
      simp [Tick.connAct, Sys.run, stepped]
  | writer act => obtain ⟨-, _, -, rfl⟩ := process_writer_cases step; rfl
  | serverEnded result => obtain ⟨-, rfl⟩ := process_server_ended_cases step; rfl
  | ctrlC => obtain ⟨-, rfl⟩ := process_ctrl_c_cases step; rfl
  | joined => obtain ⟨_, -, ⟨-, rfl⟩ | ⟨-, rfl⟩⟩ := process_joined_cases step <;> rfl

theorem run_conn_acts (ticks : List Tick) (run : p.run shell ticks = some p') :
    p.sys.run shell (connActs ticks) = some p'.sys := by
  induction ticks generalizing p with
  | nil => cases run; rfl
  | cons tick ticks ih =>
      obtain ⟨p₁, stepped, rest⟩ := Option.bind_eq_some.mp run
      have split : connActs (tick :: ticks) = tick.connAct.toList ++ connActs ticks := by
        cases tick <;> rfl
      rw [split, run_append, step_sys stepped, Option.some_bind, ih rest]

end Invariant

theorem process_run_append (shell : Shell) (p : Process) (ticks more : List Tick) :
    p.run shell (ticks ++ more) = (p.run shell ticks).bind fun p => p.run shell more := by
  induction ticks generalizing p with
  | nil => rfl
  | cons tick ticks ih => cases h : p.step shell tick <;> simp [Process.run, h, ih]

theorem exit_code_zero {main : Main} (clean : main.exitCode = some 0) : main = .returned (.ok ()) := by
  rcases main with _ | _ | _ | (_ | ⟨⟨⟩⟩) <;> first | rfl | cases clean

theorem no_live_of_senders {p : Process} (closed : p.senders = false) {index : Nat} {conn : Conn} :
    p.sys.conns[index]? ≠ some (.live conn) := fun live => by
  simp only [Process.senders, Bool.or_eq_false_iff, List.any_eq_false] at closed
  exact closed.2 _ (List.getElem?_mem live) rfl

-- A process that exits with status 0 has written every log audit_send received, in the order
-- received, and every accepted connection had sent exactly one: the log of its own calls.
theorem clean_exit_writes_every_log (shell : Shell) (config : Config) (ticks : List Tick)
    (p : Process) (run : (Process.start config).run shell ticks = some p)
    (clean : p.main.exitCode = some 0) :
    p.writer.written = p.sys.channel ∧
      (∀ index connectionId peerAddr,
        (accepts (connActs ticks))[index]? = some (connectionId, peerAddr) →
          p.sys.sentBy index = [expectedLog shell connectionId peerAddr (p.sys.handled index)]) ∧
      ∀ index, (accepts (connActs ticks))[index]? = none → p.sys.sentBy index = [] := by
  have inv := run_pipeline_inv ticks (pipeline_inv_start config) run
  obtain ⟨closed, drained⟩ := inv.drained (inv.clean (exit_code_zero clean))
  have conns := run_conn_inv config (connActs ticks) (run_conn_acts ticks run)
  refine ⟨drained, fun index connectionId peerAddr found => ?_, fun index found => ?_⟩
  · have conn := conns index
    unfold ConnInv at conn
    simp only [found] at conn
    split at conn
    · exact (no_live_of_senders closed ‹_›).elim
    · exact conn.1
    · exact conn.elim
  · have conn := conns index
    unfold ConnInv at conn
    simp only [found] at conn
    exact conn.2.2.1

theorem clean_exit_writes_every_log_run :
    ∃ p, (Process.start ⟨1⟩).run ⟨fun _ => none, fun _ _ session => session,
        fun _ => true, fun _ => false⟩
        [.conn (.accept 7 none), .conn (.call 0 (.authPassword "root" "toor")), .conn (.draw 0 0),
          .conn (.store 0), .conn (.drop 0), .ctrlC, .writer .write, .writer .close, .joined] =
        some p ∧
      p.main.exitCode = some 0 ∧ p.writer.written = p.sys.channel := by
  obtain ⟨p, run⟩ := Option.isSome_iff_exists.mp (by decide :
    ((Process.start ⟨1⟩).run ⟨fun _ => none, fun _ _ session => session,
        fun _ => true, fun _ => false⟩
      [.conn (.accept 7 none), .conn (.call 0 (.authPassword "root" "toor")), .conn (.draw 0 0),
        .conn (.store 0), .conn (.drop 0), .ctrlC, .writer .write, .writer .close,
        .joined]).isSome = true)
  have clean : p.main.exitCode = some 0 := by
    have exited := (by decide :
      ((Process.start ⟨1⟩).run ⟨fun _ => none, fun _ _ session => session,
          fun _ => true, fun _ => false⟩
        [.conn (.accept 7 none), .conn (.call 0 (.authPassword "root" "toor")), .conn (.draw 0 0),
          .conn (.store 0), .conn (.drop 0), .ctrlC, .writer .write, .writer .close,
          .joined]).map (fun p => p.main.exitCode) = some (some 0))
    rwa [run, Option.map_some', Option.some_inj] at exited
  exact ⟨p, run, clean, (clean_exit_writes_every_log _ _ _ p run clean).1⟩

-- At every state a run reaches, whatever comes next (ctrl_c, a failed write, the process
-- killed), the audit file holds the complete logs of distinct connections that have closed,
-- in the order audit_send received them.
theorem audit_file_consistent (shell : Shell) (config : Config) (ticks : List Tick) (p : Process)
    (run : (Process.start config).run shell ticks = some p) :
    ∃ closed, closed <+: p.sys.server.auditSend ∧ p.writer.written = closed.map Prod.snd ∧
      (closed.map Prod.fst).Nodup ∧
      ∀ index log, (index, log) ∈ closed → p.sys.conns[index]? = some .dropped ∧
        ∃ connectionId peerAddr, (accepts (connActs ticks))[index]? = some (connectionId, peerAddr) ∧
          log = expectedLog shell connectionId peerAddr (p.sys.handled index) := by
  have ordered := (run_pipeline_inv ticks (pipeline_inv_start config) run).ordered
  have conns := run_conn_inv config (connActs ticks) (run_conn_acts ticks run)
  have first := List.take_prefix p.writer.written.length p.sys.server.auditSend
  have once : ∀ index, (p.sys.sentBy index).length ≤ 1 := fun index => by
    rcases sent_by_cases (conns index) with none | ⟨-, _, _, -, one⟩ <;> simp [*]
  refine ⟨_, first, ?_, ?_, fun index log mem => ?_⟩
  · rw [List.map_take]
    exact List.prefix_iff_eq_take.mp ordered
  · exact (List.nodup_iff_count_le_one.mpr fun index => (count_sent _ index).trans_le (once index)).sublist
      (first.map Prod.fst).sublist
  · have sent : log ∈ p.sys.sentBy index :=
      List.mem_filterMap.mpr ⟨(index, log), first.subset mem, by simp⟩
    rcases sent_by_cases (conns index) with none | ⟨dropped, connectionId, peerAddr, found, one⟩
    · simp [none] at sent
    · rw [one, List.mem_singleton] at sent
      exact ⟨dropped, connectionId, peerAddr, found, sent⟩

theorem audit_file_consistent_mid_write :
    ∃ p, (Process.start ⟨1⟩).run ⟨fun _ => none, fun _ _ session => session,
        fun _ => true, fun _ => false⟩
        [.conn (.accept 7 none), .conn (.accept 8 none), .conn (.drop 1), .conn (.drop 0),
          .writer .write] = some p ∧
      ∃ closed, closed <+: p.sys.server.auditSend ∧ p.writer.written = closed.map Prod.snd ∧
        (closed.map Prod.fst).Nodup ∧
        ∀ index log, (index, log) ∈ closed → p.sys.conns[index]? = some .dropped ∧
          ∃ connectionId peerAddr,
            (accepts (connActs [.conn (.accept 7 none), .conn (.accept 8 none), .conn (.drop 1),
              .conn (.drop 0), .writer .write]))[index]? = some (connectionId, peerAddr) ∧
            log = expectedLog ⟨fun _ => none, fun _ _ session => session,
                fun _ => true, fun _ => false⟩ connectionId peerAddr
              (p.sys.handled index) :=
  ⟨_, rfl, audit_file_consistent _ _ _ _ rfl⟩

-- The writer cannot end with Ok while fut holds its Server, so the select never takes the
-- handle's branch with Ok, and run() never waits on the spent fused handle, which would
-- never resolve.
theorem spent_handle_never_awaited (shell : Shell) (config : Config) (ticks : List Tick)
    (p : Process) (run : (Process.start config).run shell ticks = some p) :
    p.main ≠ .awaitingFused :=
  (run_pipeline_inv ticks (pipeline_inv_start config) run).unfused

theorem spent_handle_never_awaited_run :
    ∃ p, (Process.start ⟨0⟩).run ⟨fun _ => none, fun _ _ session => session,
        fun _ => true, fun _ => false⟩
        [.conn (.accept 7 none), .serverEnded (.ok ()), .conn (.drop 0), .writer .write,
          .writer .close] = some p ∧ p.main ≠ .awaitingFused := by
  obtain ⟨p, run⟩ := Option.isSome_iff_exists.mp (by decide :
    ((Process.start ⟨0⟩).run ⟨fun _ => none, fun _ _ session => session,
        fun _ => true, fun _ => false⟩
      [.conn (.accept 7 none), .serverEnded (.ok ()), .conn (.drop 0), .writer .write,
        .writer .close]).isSome = true)
  exact ⟨p, run, spent_handle_never_awaited _ _ _ p run⟩

end Pisshoff
