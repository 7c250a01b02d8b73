import Pisshoff.Audit

set_option autoImplicit false

/- The task that start_audit_writer spawns, modelled from the spec: it takes the logs off
   audit_send's channel one at a time in the order the channel received them, writes each as
   one line and flushes it before it takes the next, and ends with Ok once recv returns None,
   that is once every sender is gone and the channel is empty. A failed write ends it with
   that error. -/
namespace Pisshoff

/-- Modelled from the spec: the lines the writer task has written and flushed, and what its
JoinHandle resolves to once the task has ended (a JoinError and an error of the task are both
an error). -/
structure Writer where
  written : List AuditLog
  result : Option (Except String Unit)

def Writer.start : Writer := ⟨[], none⟩

inductive WriterAct where
  | write
  | fail (message : String)
  | close

/-- Modelled from the spec: one step of the writer task. `sent` is every log the channel has
received, in order; `senders` says whether a sender of audit_send is left. -/
def Writer.step (sent : List AuditLog) (senders : Bool) (w : Writer) : WriterAct → Option Writer
  | .write =>
      match w.result, sent[w.written.length]? with
      | none, some log => some { w with written := w.written ++ [log] }
      | _, _ => none
  | .fail message =>
      match w.result with
      | none => some { w with result := some (.error message) }
      | some _ => none
  | .close =>
      match w.result with
      | none =>
          if senders = false ∧ w.written.length = sent.length then
            some { w with result := some (.ok ()) }
          else none
      | some _ => none

section Steps

variable {sent : List AuditLog} {senders : Bool} {w w' : Writer}

theorem writer_step_cases {act : WriterAct} (step : w.step sent senders act = some w') :
    w.result = none ∧
      ((∃ log, act = .write ∧ sent[w.written.length]? = some log ∧
          w' = { w with written := w.written ++ [log] }) ∨
        (∃ message, act = .fail message ∧ w' = { w with result := some (.error message) }) ∨
        (act = .close ∧ senders = false ∧ w.written.length = sent.length ∧
          w' = { w with result := some (.ok ()) })) := by
  cases act with
  | write =>
      simp only [Writer.step] at step
      split at step <;> cases step
      exact ⟨‹_›, .inl ⟨_, rfl, ‹_›, rfl⟩⟩
  | fail message =>
      simp only [Writer.step] at step
      split at step <;> cases step
      exact ⟨‹_›, .inr (.inl ⟨_, rfl, rfl⟩)⟩
  | close =>
      simp only [Writer.step] at step
      split at step
      · split at step <;> cases step
        rename_i fresh closed
        exact ⟨fresh, .inr (.inr ⟨rfl, closed.1, closed.2, rfl⟩)⟩
      · cases step

theorem snoc_prefix_of_next {written sent : List AuditLog} {log : AuditLog}
    (before : written <+: sent) (next : sent[written.length]? = some log) :
    written ++ [log] <+: sent := by
  obtain ⟨rest, rfl⟩ := before
  cases rest with
  | nil =>
      rw [List.append_nil, List.getElem?_eq_none (Nat.le_refl _)] at next
      cases next
  | cons head rest =>
      simp only [List.getElem?_append_right (Nat.le_refl _), Nat.sub_self,
        List.getElem?_cons_zero, Option.some.injEq] at next
      exact ⟨rest, by simp [next]⟩

theorem writer_step_prefix {act : WriterAct} {sent' : List AuditLog}
    (before : w.written <+: sent) (grown : sent <+: sent')
    (step : w.step sent' senders act = some w') : w'.written <+: sent' := by
  obtain ⟨-, ⟨log, -, next, rfl⟩ | ⟨_, -, rfl⟩ | ⟨-, -, -, rfl⟩⟩ := writer_step_cases step
  · exact snoc_prefix_of_next (before.trans grown) next
  all_goals exact before.trans grown

theorem writer_step_ok {act : WriterAct} (step : w.step sent senders act = some w')
    (ok : w'.result = some (.ok ())) : senders = false ∧ w'.written.length = sent.length := by
  obtain ⟨fresh, ⟨_, -, -, rfl⟩ | ⟨_, -, rfl⟩ | ⟨-, closed, length, rfl⟩⟩ :=
    writer_step_cases step
  · simp only [fresh] at ok
    cases ok
  · cases ok
  · exact ⟨closed, length⟩

end Steps

end Pisshoff
