import Pisshoff.AuditTrail

set_option autoImplicit false

/- The split steps against the handlers as server.rs writes them. The system runs a password
   attempt as three steps and data or exec_request as two, so that other connections can run
   in between; run with nothing in between, those steps leave the connection, the store and
   the trace exactly as the uninterrupted auth_password, data and exec_request of
   Connection.lean do. -/
namespace Pisshoff

def Sys.setState (s : Sys) (state : State) : Sys := { s with server := { s.server with state } }

@[simp] theorem set_state_self (s : Sys) : s.setState s.server.state = s := rfl

section Alone

variable (shell : Shell) {s : Sys} {index : Nat} {handler : Connection} {session : Session}

theorem finish_set_slot (slot : Slot) (event : Event) (handler' : Connection) (session' : Session)
    (reply : Reply) :
    (s.setSlot index slot).finish index event handler' session' reply =
      s.finish index event handler' session' reply := by
  simp [Sys.finish, Sys.setSlot]

theorem auth_password_alone (live : s.conns[index]? = some (.live ⟨handler, session, none⟩))
    (draw : Draw) (user password : String) :
    ∃ more, more <+: [.draw index draw, .store index] ∧
      s.run shell (.call index (.authPassword user password) :: more) =
        some ((s.setState (handler.authPassword s.server draw user password).2.1).finish index
          (.authPassword user password) (handler.authPassword s.server draw user password).1
          session (.auth (handler.authPassword s.server draw user password).2.2)) := by
  by_cases seen : s.server.state.previouslyAcceptedPasswords.seen password
  · exact ⟨[], List.nil_prefix, by
      simp [Sys.run, Sys.step, live, Connection.call, seen, Connection.authPassword,
        Connection.tryLogin]⟩
  by_cases passes : draw.le s.server.config.accessProbability
  · refine ⟨_, List.prefix_refl _, ?_⟩
    simp [Sys.run, Sys.step, live, Connection.call, seen, Sys.setSlot, set_self_of_some live,
      passes, Connection.authPassword, Connection.tryLogin, Sys.storePassword, Sys.setState,
      Sys.finish, List.set_set]
  · refine ⟨[.draw index draw], by simp, ?_⟩
    simp [Sys.run, Sys.step, live, Connection.call, seen, Sys.setSlot, set_self_of_some live,
      passes, Connection.authPassword, Connection.tryLogin, Sys.finish, List.set_set]

theorem data_alone (live : s.conns[index]? = some (.live ⟨handler, session, none⟩))
    (channel : ChannelId) (text : List UInt8) :
    ∃ more, more <+: [.resume index] ∧
      s.run shell (.call index (.data channel text) :: more) =
        some (s.finish index (.data channel text) (handler.data shell channel text session).1
          (handler.data shell channel text session).2 .unit) := by
  cases split : shell.split text with
  | none =>
      exact ⟨[], List.nil_prefix, by simp [Sys.run, Sys.step, live, Connection.call, split,
        Outcome.ofUnit]⟩
  | some args =>
      refine ⟨_, List.prefix_refl _, ?_⟩
      simp [Sys.run, Sys.step, live, Connection.call, split, set_self_of_some live,
        finish_set_slot, Connection.resume, Connection.data]

theorem exec_request_alone (live : s.conns[index]? = some (.live ⟨handler, session, none⟩))
    (channel : ChannelId) (text : List UInt8) :
    ∃ more, more <+: [.resume index] ∧
      s.run shell (.call index (.execRequest channel text) :: more) =
        some (s.finish index (.execRequest channel text)
          (handler.execRequest shell channel text session).1
          (handler.execRequest shell channel text session).2 .unit) := by
  cases split : shell.split text with
  | none =>
      exact ⟨[], List.nil_prefix, by simp [Sys.run, Sys.step, live, Connection.call, split,
        Outcome.ofUnit]⟩
  | some args =>
      refine ⟨_, List.prefix_refl _, ?_⟩
      simp [Sys.run, Sys.step, live, Connection.call, split, set_self_of_some live,
        finish_set_slot, Connection.resume, Connection.execRequest]

end Alone

-- The engine without interleaving inside a call: thrussh calls a handler and runs its future
-- to the end, try_login's draw and run_command included, before anything else happens.
inductive Turn where
  | accept (connectionId : Uuid) (peerAddr : Option SocketAddr)
  | handle (index : Nat) (event : Event) (draw : Draw)
  | drop (index : Nat)

def Sys.idle (s : Sys) (index : Nat) : Option (Connection × Session) :=
  match s.conns[index]? with
  | some (.live ⟨handler, session, none⟩) => some (handler, session)
  | _ => none

-- The handlers of Connection.lean, each called on an idle connection; every other handler
-- has no await, so the engine's call is the whole handler.
def Sys.handle (shell : Shell) (s : Sys) (index : Nat) (draw : Draw) : Event → Option Sys
  | .authPassword user password => (s.idle index).map fun (handler, session) =>
      let result := handler.authPassword s.server draw user password
      (s.setState result.2.1).finish index (.authPassword user password) result.1 session
        (.auth result.2.2)
  | .data channel text => (s.idle index).map fun (handler, session) =>
      let result := handler.data shell channel text session
      s.finish index (.data channel text) result.1 result.2 .unit
  | .execRequest channel text => (s.idle index).map fun (handler, session) =>
      let result := handler.execRequest shell channel text session
      s.finish index (.execRequest channel text) result.1 result.2 .unit
  | event => s.step shell (.call index event)

def Sys.seqStep (shell : Shell) (s : Sys) : Turn → Option Sys
  | .accept connectionId peerAddr => s.step shell (.accept connectionId peerAddr)
  | .handle index event draw => s.handle shell index draw event
  | .drop index => s.step shell (.drop index)

def Sys.runSeq (shell : Shell) (s : Sys) : List Turn → Option Sys
  | [] => some s
  | turn :: turns => (s.seqStep shell turn).bind fun s => s.runSeq shell turns

theorem idle_eq_some {s : Sys} {index : Nat} {handler : Connection} {session : Session}
    (idle : s.idle index = some (handler, session)) :
    s.conns[index]? = some (.live ⟨handler, session, none⟩) := by
  unfold Sys.idle at idle
  split at idle <;> cases idle
  assumption

theorem handle_simulated (shell : Shell) {s t : Sys} {index : Nat} {draw : Draw} {event : Event}
    (handled : s.handle shell index draw event = some t) : ∃ acts, s.run shell acts = some t := by
  cases event
  case authPassword user password =>
    obtain ⟨⟨handler, session⟩, idle, rfl⟩ := Option.map_eq_some'.mp handled
    obtain ⟨_, -, run⟩ := auth_password_alone shell (idle_eq_some idle) draw user password
    exact ⟨_, run⟩
  case data channel text =>
    obtain ⟨⟨handler, session⟩, idle, rfl⟩ := Option.map_eq_some'.mp handled
    obtain ⟨_, -, run⟩ := data_alone shell (idle_eq_some idle) channel text
    exact ⟨_, run⟩
  case execRequest channel text =>
    obtain ⟨⟨handler, session⟩, idle, rfl⟩ := Option.map_eq_some'.mp handled
    obtain ⟨_, -, run⟩ := exec_request_alone shell (idle_eq_some idle) channel text
    exact ⟨_, run⟩
  all_goals exact ⟨[.call index _], by simpa [Sys.run, Sys.handle] using handled⟩

theorem seq_step_simulated (shell : Shell) {s t : Sys} {turn : Turn}
    (stepped : s.seqStep shell turn = some t) : ∃ acts, s.run shell acts = some t := by
  cases turn with
  | accept connectionId peerAddr => exact ⟨[_], by simpa [Sys.run, Sys.seqStep] using stepped⟩
  | handle index event draw => exact handle_simulated shell stepped
  | drop index => exact ⟨[_], by simpa [Sys.run, Sys.seqStep] using stepped⟩

-- Every run of the server that runs each handler call to its end before anything else
-- happens is a run of the interleaved system, ending in the same state.
theorem sequential_runs_simulated (shell : Shell) (s t : Sys) (turns : List Turn)
    (run : s.runSeq shell turns = some t) : ∃ acts, s.run shell acts = some t := by
  induction turns generalizing s with
  | nil => exact ⟨[], run⟩
  | cons turn turns ih =>
      obtain ⟨s₁, stepped, rest⟩ := Option.bind_eq_some.mp run
      obtain ⟨first, first_run⟩ := seq_step_simulated shell stepped
      obtain ⟨more, more_run⟩ := ih s₁ rest
      exact ⟨first ++ more, by rw [run_append, first_run, Option.some_bind, more_run]⟩

theorem sequential_runs_simulated_run :
    ∃ t, (Sys.init ⟨1⟩).runSeq ⟨fun _ => some ["ls"], fun _ _ session => session,
        fun _ => true, fun _ => false⟩
        [.accept 7 none, .handle 0 (.authPassword "root" "toor") 0,
          .handle 0 (.execRequest 0 [108, 115]) 0, .drop 0] = some t ∧
      ∃ acts, (Sys.init ⟨1⟩).run ⟨fun _ => some ["ls"], fun _ _ session => session,
          fun _ => true, fun _ => false⟩ acts =
        some t := by
  obtain ⟨t, run⟩ := Option.isSome_iff_exists.mp (by decide :
    ((Sys.init ⟨1⟩).runSeq ⟨fun _ => some ["ls"], fun _ _ session => session,
        fun _ => true, fun _ => false⟩
      [.accept 7 none, .handle 0 (.authPassword "root" "toor") 0,
        .handle 0 (.execRequest 0 [108, 115]) 0, .drop 0]).isSome = true)
  exact ⟨t, run, sequential_runs_simulated _ _ t _ run⟩

end Pisshoff
