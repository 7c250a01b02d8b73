import Pisshoff.Serialization

set_option autoImplicit false

/- What the other connections can do to one connection. Every connection shares the Server,
   and through it previously_accepted_passwords; try_login reads that store only at the
   password it tries, and Drop only appends to audit_send. So unless another connection tries
   one of its passwords, a connection ends as if every other connection had been accepted
   and had done nothing: the same Connection, Session and call in flight, the same replies,
   the same log sent. -/
namespace Pisshoff

-- The acts connection `index` still meets when the others only connect: every accept, and
-- its own calls, draws, stores, run_command returns and drop.
def Act.keptFor (index : Nat) : Act → Bool
  | .accept _ _ => true
  | .call target _ | .draw target _ | .store target | .resume target | .drop target =>
      target = index

def Slot.Avoids (tried : String → Prop) : Slot → Prop
  | .live ⟨_, _, some (.authPassword _ password, _)⟩ => ¬ tried password
  | _ => True

-- The run with the other connections' acts left out (t) beside the real run (s): connection
-- `index` is where it is in s, the stores agree at every password in `tried`, and no other
-- connection is in the middle of an attempt at one of them.
structure Shadow (index : Nat) (tried : String → Prop) (s t : Sys) : Prop where
  length : t.conns.length = s.conns.length
  slot : t.conns[index]? = s.conns[index]?
  config : t.server.config = s.server.config
  seen : ∀ password, tried password →
    t.server.state.previouslyAcceptedPasswords.seen password =
      s.server.state.previouslyAcceptedPasswords.seen password
  replies : t.replies index = s.replies index
  sentBy : t.sentBy index = s.sentBy index
  avoids : ∀ other slot, other ≠ index → s.conns[other]? = some slot → slot.Avoids tried

theorem call_state_congr (shell : Shell) {state state' : State} (self : Connection)
    (session : Session) (event : Event)
    (same : ∀ user password, event = .authPassword user password →
      state'.previouslyAcceptedPasswords.seen password =
        state.previouslyAcceptedPasswords.seen password) :
    self.call shell state' session event = self.call shell state session event := by
  cases event
  case authPassword user password => simp only [Connection.call, same user password rfl]
  all_goals rfl

theorem getElem?_snoc_congr {α : Type} {l l' : List α} {index : Nat} (length : l'.length = l.length)
    (found : l'[index]? = l[index]?) (a : α) : (l' ++ [a])[index]? = (l ++ [a])[index]? := by
  simp only [List.getElem?_append, length, found]

section Frame

variable {index other : Nat} {tried : String → Prop} {s t : Sys}

theorem shadow_set_slot_other (shadow : Shadow index tried s t) (apart : other ≠ index) (slot : Slot)
    (avoids : slot.Avoids tried) : Shadow index tried (s.setSlot other slot) t where
  length := by simp [shadow.length]
  slot := by simp [List.getElem?_set_ne apart, shadow.slot]
  config := shadow.config
  seen := shadow.seen
  replies := shadow.replies
  sentBy := shadow.sentBy
  avoids := fun other' slot' apart' found => by
    rcases getElem?_set_cases found with rfl | found
    · exact avoids
    · exact shadow.avoids other' slot' apart' found

theorem shadow_finish_other (shadow : Shadow index tried s t) (apart : other ≠ index) (event : Event)
    (handler : Connection) (session : Session) (reply : Reply) :
    Shadow index tried (s.finish other event handler session reply) t :=
  have set := shadow_set_slot_other shadow apart (.live ⟨handler, session, none⟩) trivial
  { set with replies := by rw [replies_finish, if_neg apart, shadow.replies] }

theorem shadow_store_other (shadow : Shadow index tried s t) {password : String}
    (fresh : ¬ tried password) : Shadow index tried (s.storePassword password) t :=
  { shadow with
    seen := fun other stays => by
      have moved : other ≠ password := fun same => fresh (same ▸ stays)
      rw [shadow.seen other stays]
      simp [Sys.storePassword, StoredPasswords.seen, moved] }

theorem shadow_drop_other (shadow : Shadow index tried s t) (apart : other ≠ index)
    (handler : Connection) :
    Shadow index tried
      { s with server := handler.drop s.server other, conns := s.conns.set other .dropped } t :=
  have set := shadow_set_slot_other shadow apart .dropped trivial
  { set with
    config := shadow.config
    seen := shadow.seen
    sentBy := by rw [sent_by_drop, if_neg apart, shadow.sentBy] }

theorem shadow_set_slot_own (shadow : Shadow index tried s t) (slot : Slot) :
    Shadow index tried (s.setSlot index slot) (t.setSlot index slot) where
  length := by simp [shadow.length]
  slot := by simp [List.getElem?_set, shadow.length]
  config := shadow.config
  seen := shadow.seen
  replies := shadow.replies
  sentBy := shadow.sentBy
  avoids := fun other slot' apart found => by
    rw [conns_set_slot, List.getElem?_set_ne (Ne.symm apart)] at found
    exact shadow.avoids other slot' apart found

theorem shadow_finish_own (shadow : Shadow index tried s t) (event : Event) (handler : Connection)
    (session : Session) (reply : Reply) :
    Shadow index tried (s.finish index event handler session reply)
      (t.finish index event handler session reply) :=
  have set := shadow_set_slot_own shadow (.live ⟨handler, session, none⟩)
  { set with replies := by rw [replies_finish, replies_finish, if_pos rfl, if_pos rfl, shadow.replies] }

theorem shadow_store_own (shadow : Shadow index tried s t) (password : String) :
    Shadow index tried (s.storePassword password) (t.storePassword password) :=
  { shadow with
    seen := fun other stays => by
      have same := shadow.seen other stays
      simp only [StoredPasswords.seen, decide_eq_decide] at same
      simp [Sys.storePassword, StoredPasswords.seen, same] }

theorem shadow_drop_own (shadow : Shadow index tried s t) (handler : Connection) :
    Shadow index tried
      { s with server := handler.drop s.server index, conns := s.conns.set index .dropped }
      { t with server := handler.drop t.server index, conns := t.conns.set index .dropped } :=
  have set := shadow_set_slot_own shadow .dropped
  { set with
    config := shadow.config
    seen := shadow.seen
    sentBy := by rw [sent_by_drop, sent_by_drop, if_pos rfl, if_pos rfl, shadow.sentBy] }

theorem shadow_accept (shadow : Shadow index tried s t) (connectionId : Uuid)
    (peerAddr : Option SocketAddr) :
    Shadow index tried
      { s with conns := s.conns ++ [.live ⟨Server.newHandler connectionId peerAddr, ⟨[]⟩, none⟩] }
      { t with conns := t.conns ++ [.live ⟨Server.newHandler connectionId peerAddr, ⟨[]⟩, none⟩] } where
  length := by simp [shadow.length]
  slot := getElem?_snoc_congr shadow.length shadow.slot _
  config := shadow.config
  seen := shadow.seen
  replies := shadow.replies
  sentBy := shadow.sentBy
  avoids := fun other slot apart found => by
    rcases getElem?_snoc_cases found with rfl | found
    · trivial
    · exact shadow.avoids other slot apart found

end Frame

section Steps

variable {shell : Shell} {index : Nat} {tried : String → Prop} {s s' t : Sys}

theorem step_shadow_skipped {act : Act} (shadow : Shadow index tried s t)
    (step : s.step shell act = some s') (skipped : act.keptFor index = false)
    (fresh : ∀ other user password, act = .call other (.authPassword user password) →
      ¬ tried password) :
    Shadow index tried s' t := by
  cases act <;> simp only [Act.keptFor, Bool.true_eq_false, decide_eq_false_iff_not] at skipped
  case call other event =>
    obtain ⟨handler, session, -, ⟨_, _, _, -, rfl⟩ | ⟨phase, -, rfl⟩⟩ := step_call_cases step
    · exact shadow_finish_other shadow skipped _ _ _ _
    · refine shadow_set_slot_other shadow skipped _ ?_
      cases event <;> first | trivial | exact fresh _ _ _ rfl
  case draw other value =>
    obtain ⟨handler, session, user, password, found, ⟨-, rfl⟩ | ⟨-, rfl⟩⟩ := step_draw_cases step
    · have fresh : ¬ tried password := shadow.avoids other _ skipped found
      exact shadow_set_slot_other shadow skipped _ fresh
    · exact shadow_finish_other shadow skipped _ _ _ _
  case store other =>
    obtain ⟨handler, session, user, password, found, rfl⟩ := step_store_cases step
    exact shadow_finish_other (shadow_store_other shadow (shadow.avoids other _ skipped found))
      skipped _ _ _ _
  case resume other =>
    obtain ⟨handler, session, event, args, -, rfl⟩ := step_resume_cases step
    exact shadow_finish_other shadow skipped _ _ _ _
  case drop other =>
    obtain ⟨handler, session, inFlight, -, -, rfl⟩ := step_drop_cases step
    exact shadow_drop_other shadow skipped handler

theorem step_shadow_kept {act : Act} (shadow : Shadow index tried s t)
    (step : s.step shell act = some s') (kept : act.keptFor index = true)
    (own : ∀ user password, act = .call index (.authPassword user password) → tried password) :
    ∃ t', t.step shell act = some t' ∧ Shadow index tried s' t' := by
  cases act <;> simp only [Act.keptFor, decide_eq_true_eq] at kept
  case accept connectionId peerAddr =>
    cases step
    exact ⟨_, rfl, shadow_accept shadow connectionId peerAddr⟩
  case call target event =>
    subst kept
    obtain ⟨handler, session, found, outcome⟩ := step_call_cases step
    have same := call_state_congr shell handler session event fun user password attempt =>
      shadow.seen password (own user password (attempt ▸ rfl))
    rcases outcome with ⟨handler', session', reply, called, rfl⟩ | ⟨phase, called, rfl⟩
    · exact ⟨_, by simp only [Sys.step, shadow.slot, found, same, called],
        shadow_finish_own shadow _ _ _ _⟩
    · exact ⟨_, by simp only [Sys.step, shadow.slot, found, same, called],
        shadow_set_slot_own shadow _⟩
  case draw target value =>
    subst kept
    obtain ⟨handler, session, user, password, found, ⟨passes, rfl⟩ | ⟨fails, rfl⟩⟩ :=
      step_draw_cases step
    · exact ⟨_, by simp only [Sys.step, shadow.slot, found, shadow.config, passes, if_true],
        shadow_set_slot_own shadow _⟩
    · exact ⟨_, by simp [Sys.step, shadow.slot, found, shadow.config, fails],
        shadow_finish_own shadow _ _ _ _⟩
  case store target =>
    subst kept
    obtain ⟨handler, session, user, password, found, rfl⟩ := step_store_cases step
    exact ⟨_, by simp only [Sys.step, shadow.slot, found],
      shadow_finish_own (shadow_store_own shadow password) _ _ _ _⟩
  case resume target =>
    subst kept
    obtain ⟨handler, session, event, args, found, rfl⟩ := step_resume_cases step
    exact ⟨_, by simp only [Sys.step, shadow.slot, found], shadow_finish_own shadow _ _ _ _⟩
  case drop target =>
    subst kept
    obtain ⟨handler, session, inFlight, found, waits, rfl⟩ := step_drop_cases step
    exact ⟨_, step_drop_live (shadow.slot.trans found) waits, shadow_drop_own shadow handler⟩

theorem run_shadow {acts : List Act} (shadow : Shadow index tried s t)
    (run : s.run shell acts = some s')
    (own : ∀ user password, Act.call index (.authPassword user password) ∈ acts → tried password)
    (fresh : ∀ other user password, other ≠ index →
      Act.call other (.authPassword user password) ∈ acts → ¬ tried password) :
    ∃ t', t.run shell (acts.filter (Act.keptFor index)) = some t' ∧ Shadow index tried s' t' := by
  induction acts generalizing s t with
  | nil =>
      rw [Sys.run, Option.some_inj] at run
      exact ⟨t, rfl, run ▸ shadow⟩
  | cons act acts ih =>
      obtain ⟨s₁, step, rest⟩ := Option.bind_eq_some.mp run
      have own' := fun user password mem => own user password (List.mem_cons_of_mem act mem)
      have fresh' := fun other user password apart mem =>
        fresh other user password apart (List.mem_cons_of_mem act mem)
      cases kept : act.keptFor index
      · have skipped := step_shadow_skipped shadow step kept fun other user password called => by
          subst called
          exact fresh other user password (by simpa [Act.keptFor] using kept) (List.mem_cons_self _ _)
        simpa only [List.filter_cons, kept] using ih skipped rest own' fresh'
      · obtain ⟨t₁, step', shadow₁⟩ := step_shadow_kept shadow step kept fun user password called =>
          own user password (called ▸ List.mem_cons_self _ _)
        obtain ⟨t', run', shadow'⟩ := ih shadow₁ rest own' fresh'
        exact ⟨t', by simp only [List.filter_cons, kept, if_true, Sys.run, step', Option.some_bind,
          run'], shadow'⟩

end Steps

-- Unless another connection tries one of its passwords, a connection ends as if every other
-- connection had been accepted and had done nothing: the run that keeps only the accepts and
-- its own acts runs, and leaves it with the same Connection, Session and call in flight, the
-- same replies and the same log sent, whatever the interleaving and the draws.
theorem outcome_ignores_other_connections (shell : Shell) (config : Config) (acts : List Act)
    (s : Sys) (index : Nat) (run : (Sys.init config).run shell acts = some s)
    (unshared : ∀ other user user' password, other ≠ index →
      Act.call other (.authPassword user password) ∈ acts →
        Act.call index (.authPassword user' password) ∉ acts) :
    ∃ t, (Sys.init config).run shell (acts.filter (Act.keptFor index)) = some t ∧
      t.conns[index]? = s.conns[index]? ∧ t.replies index = s.replies index ∧
      t.sentBy index = s.sentBy index := by
  have start : Shadow index (fun password => ∃ user, Act.call index (.authPassword user password) ∈ acts)
      (Sys.init config) (Sys.init config) :=
    ⟨rfl, rfl, rfl, fun _ _ => rfl, rfl, rfl, fun other slot _ found => by simp [Sys.init] at found⟩
  obtain ⟨t, run', shadow⟩ := run_shadow start run (fun user password mem => ⟨user, mem⟩)
    fun other user password apart mem ⟨user', mem'⟩ => unshared other user user' password apart mem mem'
  exact ⟨t, run', shadow.slot, shadow.replies, shadow.sentBy⟩

theorem outcome_ignores_other_connections_two_logins :
    ∃ s, (Sys.init ⟨0⟩).run ⟨fun _ => none, fun _ _ session => session,
        fun _ => true, fun _ => false⟩
        [.accept 1 none, .accept 2 none, .call 0 (.authPassword "root" "toor"),
          .call 1 (.authPassword "admin" "hunter2"), .draw 1 0, .store 1, .draw 0 5, .drop 1] =
        some s ∧
      (∀ other user user' password, other ≠ 0 →
        Act.call other (.authPassword user password) ∈
          [.accept 1 none, .accept 2 none, .call 0 (.authPassword "root" "toor"),
            .call 1 (.authPassword "admin" "hunter2"), .draw 1 0, .store 1, .draw 0 5, .drop 1] →
        Act.call 0 (.authPassword user' password) ∉
          [.accept 1 none, .accept 2 none, .call 0 (.authPassword "root" "toor"),
            .call 1 (.authPassword "admin" "hunter2"), .draw 1 0, .store 1, .draw 0 5, .drop 1]) ∧
      ∃ t, (Sys.init ⟨0⟩).run ⟨fun _ => none, fun _ _ session => session,
          fun _ => true, fun _ => false⟩
          ([.accept 1 none, .accept 2 none, .call 0 (.authPassword "root" "toor"),
            .call 1 (.authPassword "admin" "hunter2"), .draw 1 0, .store 1, .draw 0 5,
            .drop 1].filter (Act.keptFor 0)) = some t ∧
        t.conns[0]? = s.conns[0]? ∧ t.replies 0 = s.replies 0 ∧ t.sentBy 0 = s.sentBy 0 := by
  refine ⟨_, rfl, ?unshared, outcome_ignores_other_connections _ _ _ _ 0 rfl ?unshared⟩
  intro other user user' password apart mem
  simp only [List.mem_cons, Act.call.injEq, Event.authPassword.injEq, List.mem_singleton,
    List.not_mem_nil, reduceCtorEq, false_or, or_false] at mem
  rcases mem with ⟨rfl, -, rfl⟩ | ⟨-, -, rfl⟩
  · exact absurd rfl apart
  · simp

end Pisshoff
