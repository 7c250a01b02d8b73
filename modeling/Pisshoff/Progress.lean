import Pisshoff.Shutdown

set_option autoImplicit false

/- Nothing on the way out of run() can get stuck. From every state a run reaches in which
   neither the writer task nor run() has failed, some continuation ends with run() returning
   Ok: ctrl_c wins the select if it is still racing, every connection still held is brought
   to its Drop (a password attempt through its draw and its store, a wait on run_command as
   it stands), the writer writes what the channel holds, recv returns None once the last
   sender is gone, and the second await of the handle resolves with Ok. -/
namespace Pisshoff

-- Every wait of a live connection is one its call can be in: ConnInv gives it for every
-- reachable state.
def Sys.WaitsFit (shell : Shell) (s : Sys) : Prop :=
  ∀ (index : Nat) (conn : Conn), s.conns[index]? = some (.live conn) →
    ∀ event phase, conn.inFlight = some (event, phase) → phase.Fits shell event

section Connections

variable {shell : Shell} {s s' : Sys}

theorem run_channel_grows {acts : List Act} (run : s.run shell acts = some s') :
    s.channel <+: s'.channel :=
  run_induction shell (fun _ s' => s.channel <+: s'.channel)
    (fun _ _ _ _ grown step => grown.trans ((step_audit_send_grows step).map _)) [] acts s s'
    (List.prefix_refl _) run

theorem fits_attempt {event : Event} {phase : Phase} (fit : phase.Fits shell event)
    (attempt : phase = .draw ∨ phase = .store) :
    ∃ user password, event = .authPassword user password := by
  rcases attempt with rfl | rfl <;> cases event <;> simp_all [Phase.Fits]

theorem settle_one {index : Nat} {slot : Slot} (found : s.conns[index]? = some slot)
    (fits : ∀ conn, slot = .live conn →
      ∀ event phase, conn.inFlight = some (event, phase) → phase.Fits shell event) :
    ∃ acts, (∀ act ∈ acts, act.accepted = none) ∧
      (s.run shell acts).map Sys.conns = some (s.conns.set index .dropped) := by
  cases slot with
  | dropped =>
      have same : s.conns.set index .dropped = s.conns := List.ext_getElem? fun other => by
        by_cases moved : index = other
        · subst moved
          rw [set_self_of_some found, found]
        · rw [List.getElem?_set_ne moved]
      exact ⟨[], by simp, by simp [Sys.run, same]⟩
  | live conn =>
      obtain ⟨handler, session, _ | ⟨event, phase⟩⟩ := conn
      · exact ⟨[.drop index], by simp [Act.accepted], by simp [Sys.run, Sys.step, found]⟩
      have fit := fits _ rfl event phase rfl
      cases phase with
      | command args =>
          exact ⟨[.drop index], by simp [Act.accepted], by simp [Sys.run, Sys.step, found]⟩
      | store =>
          obtain ⟨user, password, rfl⟩ := fits_attempt fit (.inr rfl)
          exact ⟨[.store index, .drop index], by simp [Act.accepted], by
            simp [Sys.run, Sys.step, found, Sys.finish, Sys.storePassword, Sys.setSlot,
              set_self_of_some found, List.set_set]⟩
      | draw =>
          obtain ⟨user, password, rfl⟩ := fits_attempt fit (.inl rfl)
          by_cases passes : (0 : Draw).le s.server.config.accessProbability
          · exact ⟨[.draw index 0, .store index, .drop index], by simp [Act.accepted], by
              simp [Sys.run, Sys.step, found, passes, Sys.finish, Sys.storePassword, Sys.setSlot,
                set_self_of_some found, List.set_set]⟩
          · exact ⟨[.draw index 0, .drop index], by simp [Act.accepted], by
              simp [Sys.run, Sys.step, found, passes, Sys.finish, Sys.setSlot,
                set_self_of_some found, List.set_set]⟩

theorem settle_upto (fits : s.WaitsFit shell) (count : Nat) :
    ∃ acts, (∀ act ∈ acts, act.accepted = none) ∧ ∃ s', s.run shell acts = some s' ∧
      ∀ index, s'.conns[index]? =
        if index < count then s.conns[index]?.map fun _ => .dropped else s.conns[index]? := by
  induction count with
  | zero => exact ⟨[], by simp, s, rfl, by simp⟩
  | succ count ih =>
      obtain ⟨acts, quiet, s', run, conns⟩ := ih
      have others : ∀ index, index ≠ count → s'.conns[index]? =
          if index < count + 1 then s.conns[index]?.map fun _ => .dropped else s.conns[index]? := by
        intro index moved
        rw [conns index]
        split_ifs <;> first | rfl | omega
      cases found : s.conns[count]? with
      | none =>
          refine ⟨acts, quiet, s', run, fun index => ?_⟩
          by_cases same : index = count
          · subst same
            simp [conns, found]
          · exact others index same
      | some slot =>
          have found' : s'.conns[count]? = some slot := by simp [conns, found]
          obtain ⟨more, quiet', settled⟩ := settle_one found' fun conn live =>
            fits count conn (found.trans (congrArg some live))
          obtain ⟨s'', run', conns'⟩ := Option.map_eq_some'.mp settled
          refine ⟨acts ++ more, by simpa [or_imp, forall_and] using And.intro quiet quiet', s'',
            by rw [run_append, run, Option.some_bind, run'], fun index => ?_⟩
          by_cases same : index = count
          · subst same
            simp [conns', set_self_of_some found', found]
          · rw [conns', List.getElem?_set_ne (Ne.symm same), others index same]

theorem settle_all (fits : s.WaitsFit shell) :
    ∃ acts, (∀ act ∈ acts, act.accepted = none) ∧ ∃ s', s.run shell acts = some s' ∧
      s'.conns = s.conns.map fun _ => .dropped := by
  obtain ⟨acts, quiet, s', run, conns⟩ := settle_upto fits s.conns.length
  refine ⟨acts, quiet, s', run, List.ext_getElem? fun index => ?_⟩
  rw [conns index, List.getElem?_map]
  split_ifs with below
  · rfl
  · simp [List.getElem?_eq_none (not_lt.mp below)]

end Connections

section Process

variable {shell : Shell}

theorem run_conn_ticks (p : Process) {acts : List Act} {s : Sys} (running : p.main.running = true)
    (quiet : ∀ act ∈ acts, act.accepted = none) (run : p.sys.run shell acts = some s) :
    p.run shell (acts.map .conn) = some { p with sys := s } := by
  induction acts generalizing p with
  | nil => cases run; rfl
  | cons act acts ih =>
      obtain ⟨s₁, step, rest⟩ := Option.bind_eq_some.mp run
      have tail : ({ p with sys := s₁ } : Process).run shell (acts.map .conn) =
          some { p with sys := s } :=
        ih _ running (fun act mem => quiet act (List.mem_cons_of_mem _ mem)) rest
      simp [Process.run, Process.step, running, quiet act (List.mem_cons_self _ _), step, tail]

theorem writer_drains (p : Process) (running : p.main.running = true) (written rest : List AuditLog)
    (whole : written ++ rest = p.sys.channel) :
    ∃ ticks, ({ p with writer := ⟨written, none⟩ } : Process).run shell ticks =
      some { p with writer := ⟨p.sys.channel, none⟩ } := by
  induction rest generalizing written with
  | nil =>
      rw [List.append_nil] at whole
      exact ⟨[], by rw [whole]; rfl⟩
  | cons log rest ih =>
      obtain ⟨ticks, run⟩ := ih (written ++ [log]) (by simpa using whole)
      have next : p.sys.channel[written.length]? = some log := by
        rw [← whole, List.getElem?_append_right (le_refl _), Nat.sub_self, List.getElem?_cons_zero]
      exact ⟨.writer .write :: ticks, by
        simpa [Process.run, Process.step, running, Writer.step, next] using run⟩

theorem draining_exits (sys : Sys) (written : List AuditLog) (fits : sys.WaitsFit shell)
    (ordered : written <+: sys.channel) :
    ∃ ticks q, (⟨sys, false, ⟨written, none⟩, .draining⟩ : Process).run shell ticks = some q ∧
      q.main = .returned (.ok ()) := by
  obtain ⟨acts, quiet, s, settled, dropped⟩ := settle_all fits
  have dropping : (⟨sys, false, ⟨written, none⟩, .draining⟩ : Process).run shell (acts.map .conn) =
      some ⟨s, false, ⟨written, none⟩, .draining⟩ :=
    run_conn_ticks _ rfl quiet settled
  obtain ⟨rest, whole⟩ := ordered.trans (run_channel_grows settled)
  obtain ⟨writes, drained⟩ : ∃ writes,
      (⟨s, false, ⟨written, none⟩, .draining⟩ : Process).run shell writes =
        some ⟨s, false, ⟨s.channel, none⟩, .draining⟩ :=
    writer_drains ⟨s, false, ⟨written, none⟩, .draining⟩ rfl written rest whole
  have closed : (⟨s, false, ⟨s.channel, none⟩, .draining⟩ : Process).senders = false := by
    simp [Process.senders, dropped, List.any_map, Slot.isLive]
  refine ⟨acts.map .conn ++ writes ++ [.writer .close, .joined],
    ⟨s, false, ⟨s.channel, some (.ok ())⟩, .returned (.ok ())⟩, ?_, rfl⟩
  simp [process_run_append, dropping, drained, Process.run, Process.step, Main.running,
    Writer.step, closed]

end Process

-- From every state a run reaches in which neither the writer task nor run() has failed,
-- run() can still return Ok: no connection, no log and no await is left that could hold
-- the process up for good.
theorem clean_exit_reachable (shell : Shell) (config : Config) (ticks : List Tick) (p : Process)
    (run : (Process.start config).run shell ticks = some p)
    (healthy : ∀ message, p.writer.result ≠ some (.error message))
    (alive : ∀ message, p.main ≠ .returned (.error message)) :
    ∃ more q, p.run shell more = some q ∧ q.main.exitCode = some 0 := by
  have inv := run_pipeline_inv ticks (pipeline_inv_start config) run
  have fits : p.sys.WaitsFit shell := fun index _ live =>
    conn_inv_live (run_conn_inv config (connActs ticks) (run_conn_acts ticks run) index) live
  obtain ⟨sys, listening, ⟨written, result⟩, main⟩ := p
  have listening : listening = main.inSelect := inv.listening
  subst listening
  cases main with
  | selecting =>
      -- ctrl_c wins the select; the writer cannot have ended, with Ok or an error
      have fresh : result = none := by
        rcases result with _ | (message | ⟨⟩)
        · rfl
        · exact (healthy message rfl).elim
        · exact (writer_not_done inv rfl rfl).elim
      subst fresh
      obtain ⟨more, q, exits, clean⟩ := draining_exits sys written fits inv.ordered
      exact ⟨.ctrlC :: more, q, by simpa [Process.run, Process.step] using exits,
        by simp [clean, Main.exitCode]⟩
  | draining =>
      rcases result with _ | (message | ⟨⟩)
      · obtain ⟨more, q, exits, clean⟩ := draining_exits sys written fits inv.ordered
        exact ⟨more, q, exits, by simp [clean, Main.exitCode]⟩
      · exact (healthy message rfl).elim
      · exact ⟨[.joined], _, rfl, rfl⟩
  | awaitingFused => exact (inv.unfused rfl).elim
  | returned result =>
      rcases result with message | ⟨⟩
      · exact (alive message rfl).elim
      · exact ⟨[], _, rfl, rfl⟩

theorem clean_exit_reachable_mid_attempt :
    ∃ p, (Process.start ⟨1⟩).run ⟨fun _ => none, fun _ _ session => session,
        fun _ => true, fun _ => false⟩
        [.conn (.accept 7 none), .conn (.call 0 (.authPassword "root" "toor"))] = some p ∧
      (∀ message, p.writer.result ≠ some (.error message)) ∧
      (∀ message, p.main ≠ .returned (.error message)) ∧
      ∃ more q, p.run ⟨fun _ => none, fun _ _ session => session,
          fun _ => true, fun _ => false⟩ more = some q ∧
        q.main.exitCode = some 0 :=
  ⟨_, rfl, nofun, nofun, clean_exit_reachable _ ⟨1⟩
    [.conn (.accept 7 none), .conn (.call 0 (.authPassword "root" "toor"))] _ rfl nofun nofun⟩

end Pisshoff
