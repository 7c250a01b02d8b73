import Pisshoff.AuditTrail

set_option autoImplicit false

/- The credential store over whole runs. try_login reads the shared store in `seen`, draws,
   and writes it in `store`, and other connections run between the three; the results
   below hold for every interleaving, every draw and every access_probability. -/
namespace Pisshoff

def Sys.stored (s : Sys) : Finset String := s.server.state.previouslyAcceptedPasswords.passwords

-- Some password attempt with this password has returned Auth::Accept.
def Sys.Accepted (s : Sys) (password : String) : Prop :=
  ∃ index user, (index, .authPassword user password, .auth .accept) ∈ s.trace

section Store

variable {shell : Shell} {s s' : Sys}

@[simp] theorem stored_set_slot (index : Nat) (slot : Slot) : (s.setSlot index slot).stored = s.stored :=
  rfl

@[simp] theorem stored_finish (index : Nat) (event : Event) (handler : Connection) (session : Session)
    (reply : Reply) : (s.finish index event handler session reply).stored = s.stored := rfl

@[simp] theorem stored_store_password (password : String) :
    (s.storePassword password).stored = insert password s.stored := rfl

@[simp] theorem trace_finish (index : Nat) (event : Event) (handler : Connection) (session : Session)
    (reply : Reply) : (s.finish index event handler session reply).trace = s.trace ++ [(index, event, reply)] :=
  rfl

@[simp] theorem trace_set_slot (index : Nat) (slot : Slot) : (s.setSlot index slot).trace = s.trace :=
  rfl

@[simp] theorem trace_store_password (password : String) :
    (s.storePassword password).trace = s.trace := rfl

theorem call_password_finished {state : State} {handler handler' : Connection}
    {session session' : Session} {user password : String} {reply : Reply}
    (finished : handler.call shell state session (.authPassword user password) =
      .finished handler' session' reply) :
    password ∈ state.previouslyAcceptedPasswords.passwords ∧ reply = .auth .accept := by
  simp only [Connection.call] at finished
  split at finished
  · rename_i seen
    cases finished
    exact ⟨(seen_iff _ _).mp seen, rfl⟩
  · cases finished

theorem step_stored_mono {act : Act} (step : s.step shell act = some s') : s.stored ⊆ s'.stored := by
  cases act with
  | accept connectionId peerAddr => cases step; rfl
  | call index event =>
      obtain ⟨_, _, _, ⟨_, _, _, _, rfl⟩ | ⟨_, _, rfl⟩⟩ := step_call_cases step <;> rfl
  | draw index value =>
      obtain ⟨_, _, _, _, _, ⟨_, rfl⟩ | ⟨_, rfl⟩⟩ := step_draw_cases step <;> rfl
  | store index =>
      obtain ⟨_, _, _, _, _, rfl⟩ := step_store_cases step
      simp
  | resume index =>
      obtain ⟨_, _, _, _, _, rfl⟩ := step_resume_cases step
      rfl
  | drop index =>
      obtain ⟨_, _, _, _, _, rfl⟩ := step_drop_cases step
      rfl

theorem step_trace_mono {act : Act} (step : s.step shell act = some s') : s.trace <+: s'.trace := by
  cases act with
  | accept connectionId peerAddr => cases step; exact List.prefix_refl _
  | call index event =>
      obtain ⟨_, _, _, ⟨_, _, _, _, rfl⟩ | ⟨_, _, rfl⟩⟩ := step_call_cases step <;> simp
  | draw index value =>
      obtain ⟨_, _, _, _, _, ⟨_, rfl⟩ | ⟨_, rfl⟩⟩ := step_draw_cases step <;> simp
  | store index =>
      obtain ⟨_, _, _, _, _, rfl⟩ := step_store_cases step
      simp
  | resume index =>
      obtain ⟨_, _, _, _, _, rfl⟩ := step_resume_cases step
      simp
  | drop index =>
      obtain ⟨_, _, _, _, _, rfl⟩ := step_drop_cases step
      exact List.prefix_refl _

theorem accepted_finish_iff {index : Nat} {event : Event} {handler : Connection} {session : Session}
    {reply : Reply} {password : String} :
    (s.finish index event handler session reply).Accepted password ↔
      s.Accepted password ∨ (∃ user, event = .authPassword user password) ∧ reply = .auth .accept := by
  simp only [Sys.Accepted, trace_finish, List.mem_append, List.mem_singleton, Prod.mk.injEq]
  constructor
  · rintro ⟨index', user, found | ⟨-, same, rfl⟩⟩
    · exact .inl ⟨index', user, found⟩
    · exact .inr ⟨⟨user, same.symm⟩, rfl⟩
  · rintro (⟨index', user, found⟩ | ⟨⟨user, rfl⟩, rfl⟩)
    · exact ⟨index', user, .inl found⟩
    · exact ⟨index, user, .inr ⟨rfl, rfl, rfl⟩⟩

def StoreInv (s : Sys) : Prop := ∀ password, password ∈ s.stored ↔ s.Accepted password

theorem store_inv_init (config : Config) : StoreInv (Sys.init config) := by
  simp [StoreInv, Sys.stored, Sys.Accepted, Sys.init, Server.new]

theorem step_store_inv {act : Act} (inv : StoreInv s) (step : s.step shell act = some s') :
    StoreInv s' := by
  cases act with
  | accept connectionId peerAddr => cases step; exact inv
  | call index event =>
      obtain ⟨handler, session, -, ⟨handler', session', reply, called, rfl⟩ | ⟨_, _, rfl⟩⟩ :=
        step_call_cases step
      · intro password
        rw [stored_finish, accepted_finish_iff, inv]
        refine ⟨.inl, fun accepted => accepted.elim id ?_⟩
        rintro ⟨⟨user, rfl⟩, -⟩
        exact (inv password).mp (call_password_finished called).1
      · exact inv
  | draw index value =>
      obtain ⟨_, _, _, _, _, ⟨_, rfl⟩ | ⟨_, rfl⟩⟩ := step_draw_cases step
      · exact inv
      · intro password
        simp [accepted_finish_iff, inv password, passwordAuth]
  | store index =>
      obtain ⟨_, _, user, stored, _, rfl⟩ := step_store_cases step
      intro password
      rw [stored_finish, accepted_finish_iff, stored_store_password, Finset.mem_insert, inv]
      simp only [passwordAuth, if_true, Event.authPassword.injEq, and_true]
      constructor
      · rintro (rfl | accepted)
        · exact .inr ⟨user, rfl, rfl⟩
        · exact .inl accepted
      · rintro (accepted | ⟨_, -, rfl⟩)
        · exact .inr accepted
        · exact .inl rfl
  | resume index =>
      obtain ⟨_, _, _, _, _, rfl⟩ := step_resume_cases step
      intro password
      simp [accepted_finish_iff, inv password]
  | drop index =>
      obtain ⟨_, _, _, _, _, rfl⟩ := step_drop_cases step
      exact inv

theorem run_store_inv (config : Config) (acts : List Act)
    (run : (Sys.init config).run shell acts = some s) : StoreInv s :=
  run_induction shell (fun _ s => StoreInv s) (fun _ _ _ _ inv step => step_store_inv inv step)
    [] acts _ s (store_inv_init config) run

theorem run_stored_mono {more : List Act} (run : s.run shell more = some s') : s.stored ⊆ s'.stored :=
  run_induction shell (fun _ s' => s.stored ⊆ s'.stored)
    (fun _ _ _ _ grown step => grown.trans (step_stored_mono step)) [] more s s' subset_rfl run

theorem run_trace_mono {more : List Act} (run : s.run shell more = some s') : s.trace <+: s'.trace :=
  run_induction shell (fun _ s' => s.trace <+: s'.trace)
    (fun _ _ _ _ grown step => grown.trans (step_trace_mono step)) [] more s s' (List.prefix_refl _) run

theorem call_password_seen {state : State} {handler : Connection} {session : Session}
    {user password : String} (seen : password ∈ state.previouslyAcceptedPasswords.passwords) :
    handler.call shell state session (.authPassword user password) =
      .finished (handler.loginAttempt user password) session (.auth .accept) := by
  simp [Connection.call, seen, passwordAuth]

theorem replay_call {index : Nat} {user password : String} (inv : StoreInv s)
    (accepted : s.Accepted password)
    (step : s.step shell (.call index (.authPassword user password)) = some s') :
    s'.trace = s.trace ++ [(index, .authPassword user password, .auth .accept)] := by
  obtain ⟨handler, session, -, ⟨_, _, reply, called, rfl⟩ | ⟨_, called, -⟩⟩ := step_call_cases step
  all_goals rw [call_password_seen ((inv password).mpr accepted)] at called
  · cases called
    rfl
  · cases called

end Store

-- For every access_probability, every interleaving of the connections' seen, draw and store
-- steps and every draw: the store only grows; it holds exactly the passwords some attempt
-- returned Accept for; and once one has, every later attempt with that password, on any
-- connection and under any username, returns Accept in its call, without a draw.
theorem replay_consistent (shell : Shell) (config : Config) (acts more : List Act) (s s' : Sys)
    (run : (Sys.init config).run shell acts = some s) (later : s.run shell more = some s') :
    s.stored ⊆ s'.stored ∧
    (∀ password ∈ s.stored, s.Accepted password) ∧
    (∀ password, s.Accepted password → password ∈ s.stored) ∧
    ∀ index user password s'', s.Accepted password →
      s'.step shell (.call index (.authPassword user password)) = some s'' →
      s''.trace = s'.trace ++ [(index, .authPassword user password, .auth .accept)] := by
  have inv := run_store_inv config acts run
  have inv' := run_store_inv config (acts ++ more) (by rw [run_append, run]; exact later)
  refine ⟨run_stored_mono later, fun password => (inv password).mp,
    fun password => (inv password).mpr, fun index user password s'' accepted step => ?_⟩
  obtain ⟨index', user', found⟩ := accepted
  exact replay_call inv' ⟨index', user', (run_trace_mono later).subset found⟩ step

theorem replay_consistent_run :
    ∃ s s' s'', (Sys.init ⟨1⟩).run ⟨fun _ => none, fun _ _ session => session,
        fun _ => true, fun _ => false⟩
        [.accept 1 none, .call 0 (.authPassword "root" "toor"), .draw 0 0, .store 0] = some s ∧
      s.run ⟨fun _ => none, fun _ _ session => session,
          fun _ => true, fun _ => false⟩ [.accept 2 none] = some s' ∧
      (0, Event.authPassword "root" "toor", Reply.auth .accept) ∈ s.trace ∧
      s'.step ⟨fun _ => none, fun _ _ session => session, fun _ => true, fun _ => false⟩
          (.call 1 (.authPassword "admin" "toor")) = some s'' ∧
      s''.trace = s'.trace ++ [(1, .authPassword "admin" "toor", .auth .accept)] :=
  ⟨_, _, _, rfl, rfl, by decide, rfl,
    (replay_consistent ⟨fun _ => none, fun _ _ session => session,
        fun _ => true, fun _ => false⟩ ⟨1⟩
      [.accept 1 none, .call 0 (.authPassword "root" "toor"), .draw 0 0, .store 0]
      [.accept 2 none] _ _ rfl rfl).2.2.2 1 "admin" "toor" _ ⟨0, "root", by decide⟩ rfl⟩

-- try_login compares the draw with `<=`: with access_probability = 0 the draw 0.0 still
-- accepts an unseen password, and stores it.
theorem zero_probability_accepts_draw_zero (shell : Shell) :
    ∃ s, (Sys.init ⟨0⟩).run shell
        [.accept 0 none, .call 0 (.authPassword "root" "hunter2"), .draw 0 0, .store 0] = some s ∧
      (0, Event.authPassword "root" "hunter2", Reply.auth .accept) ∈ s.trace ∧
      s.stored = {"hunter2"} :=
  ⟨_, rfl, by simp [Sys.finish, Sys.storePassword, passwordAuth],
    by simp [Sys.stored, Sys.finish, Sys.storePassword, Sys.setSlot, Sys.init, Server.new,
      State.default]⟩

theorem draw_le_zero {value : Draw} (admitted : value.le 0 = true) : value = 0 :=
  (draw_value_eq_zero value).mp
    (le_antisymm ((draw_le_iff value 0).mp admitted) (draw_value_nonneg value))

theorem draw_le_of_one_le {value : Draw} {bound : ℚ} (high : 1 ≤ bound) : value.le bound = true :=
  (draw_le_iff value bound).mpr ((draw_value_lt_one value).le.trans high)

theorem call_suspended_phase {shell : Shell} {state : State} {handler : Connection}
    {session : Session} {event : Event} {phase : Phase}
    (suspended : handler.call shell state session event = .suspended phase) : phase ≠ .store := by
  cases event <;> simp only [Connection.call, Outcome.ofAuth, Outcome.ofUnit, Outcome.ofBool,
    reduceCtorEq] at suspended
  all_goals split at suspended <;> cases suspended; simp

theorem getElem?_set_cases {α : Type} {l : List α} {index other : Nat} {a x : α}
    (found : (l.set index a)[other]? = some x) : x = a ∨ l[other]? = some x := by
  rw [List.getElem?_set] at found
  split at found
  · split at found <;> cases found
    exact .inl rfl
  · exact .inr found

theorem getElem?_snoc_cases {α : Type} {l : List α} {index : Nat} {a x : α}
    (found : (l ++ [a])[index]? = some x) : x = a ∨ l[index]? = some x := by
  by_cases fresh : index = l.length
  · subst fresh
    rw [List.getElem?_concat_length] at found
    exact .inl (Option.some_inj.mp found).symm
  · exact .inr (by rwa [getElem?_snoc_of_ne _ _ _ fresh] at found)

theorem step_trace_cases {act : Act} {s s' : Sys} {shell : Shell}
    (step : s.step shell act = some s') :
    s'.trace = s.trace ∨
      ∃ (index : Nat) (event : Event) (reply : Reply),
        s'.trace = s.trace ++ [(index, event, reply)] ∧
        ((∃ (handler handler' : Connection) (session session' : Session),
            handler.call shell s.server.state session event = .finished handler' session' reply) ∨
          (∃ user password, event = .authPassword user password ∧
            (reply = .auth .accept ∨ ∃ value, act = .draw index value ∧
              value.le s.server.config.accessProbability = false ∧
              reply = .auth (passwordAuth false))) ∨
          (∃ conn args, s.conns[index]? = some (.live conn) ∧
            conn.inFlight = some (event, .command args) ∧ reply = .unit)) := by
  cases act with
  | accept connectionId peerAddr => cases step; exact .inl rfl
  | call target event =>
      obtain ⟨handler, session, -, ⟨_, _, _, called, rfl⟩ | ⟨_, _, rfl⟩⟩ := step_call_cases step
      · exact .inr ⟨_, _, _, rfl, .inl ⟨_, _, _, _, called⟩⟩
      · exact .inl rfl
  | draw target value =>
      obtain ⟨_, _, user, password, -, ⟨-, rfl⟩ | ⟨rejected, rfl⟩⟩ := step_draw_cases step
      · exact .inl rfl
      · exact .inr ⟨_, _, _, rfl, .inr (.inl ⟨user, password, rfl,
          .inr ⟨value, rfl, by simpa using rejected, rfl⟩⟩)⟩
  | store target =>
      obtain ⟨_, _, user, password, -, rfl⟩ := step_store_cases step
      exact .inr ⟨_, _, _, rfl, .inr (.inl ⟨user, password, rfl, .inl rfl⟩)⟩
  | resume target =>
      obtain ⟨_, _, _, _, live, rfl⟩ := step_resume_cases step
      exact .inr ⟨_, _, _, rfl, .inr (.inr ⟨_, _, live, rfl, rfl⟩)⟩
  | drop target =>
      obtain ⟨_, _, _, _, -, rfl⟩ := step_drop_cases step
      exact .inl rfl

def NothingStored (s : Sys) : Prop :=
  s.stored = ∅ ∧ ∀ (index : Nat) (conn : Conn) (event : Event),
    s.conns[index]? = some (.live conn) → conn.inFlight ≠ some (event, .store)

theorem step_nothing_stored {act : Act} {s s' : Sys} {shell : Shell}
    (zero : s.server.config.accessProbability = 0)
    (nonzero : ∀ index value, act = .draw index value → value ≠ 0)
    (inv : NothingStored s) (step : s.step shell act = some s') : NothingStored s' := by
  obtain ⟨empty, waiting⟩ := inv
  cases act with
  | accept connectionId peerAddr =>
      cases step
      refine ⟨empty, fun index conn event found => ?_⟩
      rcases getElem?_snoc_cases found with same | old
      · cases same; simp
      · exact waiting index conn event old
  | call target event =>
      obtain ⟨handler, session, -, ⟨_, _, _, _, rfl⟩ | ⟨phase, called, rfl⟩⟩ := step_call_cases step
      all_goals refine ⟨empty, fun index conn event' found => ?_⟩
      all_goals rcases getElem?_set_cases found with same | old
      · cases same; simp
      · exact waiting index conn event' old
      · cases same
        simpa using fun _ => call_suspended_phase called
      · exact waiting index conn event' old
  | draw target value =>
      obtain ⟨_, _, _, _, -, ⟨admitted, -⟩ | ⟨-, rfl⟩⟩ := step_draw_cases step
      · rw [zero] at admitted
        exact absurd (draw_le_zero admitted) (nonzero target value rfl)
      · refine ⟨empty, fun index conn event found => ?_⟩
        rcases getElem?_set_cases found with same | old
        · cases same; simp
        · exact waiting index conn event old
  | store target =>
      obtain ⟨_, _, _, _, live, -⟩ := step_store_cases step
      exact absurd rfl (waiting target _ _ live)
  | resume target =>
      obtain ⟨_, _, _, _, -, rfl⟩ := step_resume_cases step
      refine ⟨empty, fun index conn event found => ?_⟩
      rcases getElem?_set_cases found with same | old
      · cases same; simp
      · exact waiting index conn event old
  | drop target =>
      obtain ⟨_, _, _, _, -, rfl⟩ := step_drop_cases step
      refine ⟨empty, fun index conn event found => ?_⟩
      rcases getElem?_set_cases found with same | old
      · cases same
      · exact waiting index conn event old

-- With access_probability = 0, the nearby statement that holds: a run in which
-- fastrand::f64() never returns 0.0 stores nothing and accepts no password.
theorem zero_probability_rejects_nonzero_draws (shell : Shell) (acts : List Act) (s : Sys)
    (run : (Sys.init ⟨0⟩).run shell acts = some s)
    (nonzero : ∀ index value, Act.draw index value ∈ acts → value ≠ 0) :
    s.stored = ∅ ∧ ∀ password, ¬ s.Accepted password := by
  have nothing := run_induction shell
    (fun acts s => s.server.config = ⟨0⟩ ∧
      ((∀ index value, Act.draw index value ∈ acts → value ≠ 0) → NothingStored s))
    (fun acts s act s' holds step => ⟨(step_config step).trans holds.1, fun draws =>
      step_nothing_stored (by rw [holds.1])
        (fun index value same => draws index value (by simp [same]))
        (holds.2 fun index value mem => draws index value (List.mem_append_left _ mem)) step⟩)
    [] acts _ s ⟨rfl, fun _ => ⟨by simp [Sys.stored, Sys.init, Server.new], by simp [Sys.init]⟩⟩ run
    |>.2 nonzero
  refine ⟨nothing.1, fun password accepted => ?_⟩
  have stored := (run_store_inv ⟨0⟩ acts run password).mpr accepted
  simp [nothing.1] at stored

theorem zero_probability_rejects_nonzero_draws_run :
    ∃ s, (Sys.init ⟨0⟩).run ⟨fun _ => none, fun _ _ session => session,
        fun _ => true, fun _ => false⟩
        [.accept 1 none, .call 0 (.authPassword "root" "toor"), .draw 0 1] = some s ∧
      s.stored = ∅ ∧ ∀ password, ¬ s.Accepted password := by
  obtain ⟨s, run⟩ := Option.isSome_iff_exists.mp (by decide :
    ((Sys.init ⟨0⟩).run ⟨fun _ => none, fun _ _ session => session, fun _ => true, fun _ => false⟩
      [.accept 1 none, .call 0 (.authPassword "root" "toor"), .draw 0 1]).isSome = true)
  exact ⟨s, run, zero_probability_rejects_nonzero_draws _ _ s run (by simp)⟩

def AllAccepted (s : Sys) : Prop :=
  ∀ index user password reply, (index, .authPassword user password, reply) ∈ s.trace →
    reply = .auth .accept

theorem step_all_accepted {act : Act} {s s' : Sys} {shell : Shell}
    (high : 1 ≤ s.server.config.accessProbability)
    (fits : ∀ (index : Nat) (conn : Conn) (event : Event) (phase : Phase),
      s.conns[index]? = some (.live conn) → conn.inFlight = some (event, phase) →
      phase.Fits shell event)
    (inv : AllAccepted s) (step : s.step shell act = some s') : AllAccepted s' := by
  rcases step_trace_cases step with same | ⟨target, event, reply, added, made⟩
  · simpa only [AllAccepted, same] using inv
  intro index user password reply' found
  rw [added, List.mem_append, List.mem_singleton, Prod.mk.injEq] at found
  rcases found with old | ⟨-, rfl, rfl⟩
  · exact inv index user password reply' old
  rcases made with ⟨_, _, _, _, called⟩ | ⟨_, _, same, accepted | ⟨_, -, rejected, -⟩⟩ |
      ⟨_, _, live, waiting, -⟩
  · exact (call_password_finished called).2
  · exact accepted
  · simp [draw_le_of_one_le high] at rejected
  · exact (fits target _ _ _ live waiting).elim

-- With access_probability = 1 (the spec's "always true on first attempt"), every draw passes:
-- every password attempt that returns, returns Accept.
theorem full_probability_accepts_every_attempt (shell : Shell) (config : Config)
    (high : 1 ≤ config.accessProbability) (acts : List Act) (s : Sys)
    (run : (Sys.init config).run shell acts = some s) : AllAccepted s :=
  (run_induction shell
    (fun acts s => (∀ index, ConnInv shell acts s index) ∧ s.server.config = config ∧ AllAccepted s)
    (fun _ _ _ _ holds step => ⟨step_conn_inv holds.1 step, (step_config step).trans holds.2.1,
      step_all_accepted (by rw [holds.2.1]; exact high)
        (fun index _ event phase live => conn_inv_live (holds.1 index) live event phase) holds.2.2
        step⟩)
    [] acts _ s ⟨conn_inv_init config, rfl, by simp [AllAccepted, Sys.init]⟩ run).2.2

theorem full_probability_accepts_every_attempt_run :
    ∃ s, (Sys.init ⟨1⟩).run ⟨fun _ => none, fun _ _ session => session,
        fun _ => true, fun _ => false⟩
        [.accept 1 none, .call 0 (.authPassword "root" "toor"), .draw 0 4503599627370495,
          .store 0] = some s ∧ AllAccepted s := by
  obtain ⟨s, run⟩ := Option.isSome_iff_exists.mp (by decide :
    ((Sys.init ⟨1⟩).run ⟨fun _ => none, fun _ _ session => session, fun _ => true, fun _ => false⟩
      [.accept 1 none, .call 0 (.authPassword "root" "toor"), .draw 0 4503599627370495,
        .store 0]).isSome = true)
  exact ⟨s, run, full_probability_accepts_every_attempt _ _ le_rfl _ s run⟩

end Pisshoff
