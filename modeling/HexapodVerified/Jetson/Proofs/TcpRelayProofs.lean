import HexapodVerified.Jetson.TcpRelay

/-!
# The slot of the relay is given back

A client owns the slot from the moment it is taken until its session worker ends. The worker gives it back,
unless closing the connection raises before that; and nobody does when the client was accepted and no worker
was started for it.
-/

namespace HexapodVerified.Jetson

open Transition

/-- The connection that has taken the slot and whose session worker is being started. -/
def AcceptWorker.owner? : AcceptWorker → Option Nat
  | .confirming connection _ => some connection
  | .configuring connection _ => some connection
  | .starting connection _ => some connection
  | _ => none

/-- A socket operation fails with the slot taken: the `OK` line, the timeout of the session, or closing the
connection at its end. -/
def RelayAction.Leaks : RelayAction → Prop
  | .confirm ok => ok = false
  | .configure ok => ok = false
  | .close _ ok => ok = false
  | _ => False

namespace TcpRelayServer

variable {s t : TcpRelayServer} {io : RelayAction × List Reply} {connection : Nat}

/-- The session worker of this connection is running or being started. -/
def Owns (s : TcpRelayServer) (connection : Nat) : Prop :=
  s.accept_worker.owner? = some connection ∨ (s.sessions connection).isSome

def NotBusy (replies : List Reply) : Prop := ∀ connection, (connection, RELAY_BUSY) ∉ replies

/-- What a step does to the slot, the accept thread and the session workers. -/
inductive Change (s : TcpRelayServer) (io : RelayAction × List Reply) (t : TcpRelayServer) : Prop where
  /-- the slot stays with its owner -/
  | kept (hleaks : ¬ io.1.Leaks) (hclient : t.client = s.client) (hsessions : t.sessions = s.sessions)
      (howner : t.accept_worker.owner? = s.accept_worker.owner?)
      (hbusy : NotBusy io.2 ∨ s.client.isSome)
  | taken (connection : Nat) (hleaks : ¬ io.1.Leaks) (hbusy : NotBusy io.2) (hfree : s.client = none)
      (hclient : t.client = some connection) (hsessions : t.sessions = s.sessions)
      (howner : t.accept_worker.owner? = some connection)
  /-- an operation on the socket fails between taking the slot and starting the worker -/
  | dropped (connection : Nat) (hleaks : io.1.Leaks) (hbusy : NotBusy io.2)
      (hclient : t.client = s.client) (hsessions : t.sessions = s.sessions)
      (hfrom : s.accept_worker.owner? = some connection) (howner : t.accept_worker.owner? = none)
  | started (connection : Nat) (worker : SessionWorker) (hleaks : ¬ io.1.Leaks) (hbusy : NotBusy io.2)
      (hclient : t.client = s.client)
      (hsessions : t.sessions = Function.update s.sessions connection (some worker))
      (hfrom : s.accept_worker.owner? = some connection) (howner : t.accept_worker.owner? = none)
  | moved (connection : Nat) (worker : SessionWorker) (hleaks : ¬ io.1.Leaks) (hbusy : NotBusy io.2)
      (hfrom : (s.sessions connection).isSome) (hclient : t.client = s.client)
      (hsessions : t.sessions = Function.update s.sessions connection (some worker))
      (howner : t.accept_worker = s.accept_worker)
  /-- `connection.close` raises at the end of a session -/
  | lost (connection : Nat) (hleaks : io.1.Leaks) (hbusy : NotBusy io.2)
      (hfrom : (s.sessions connection).isSome) (hclient : t.client = s.client)
      (hsessions : t.sessions = Function.update s.sessions connection none)
      (howner : t.accept_worker = s.accept_worker)
  | released (connection : Nat) (hleaks : ¬ io.1.Leaks) (hbusy : NotBusy io.2)
      (hfrom : (s.sessions connection).isSome)
      (hclient : t.client = if s.client = some connection then none else s.client)
      (hsessions : t.sessions = Function.update s.sessions connection none)
      (howner : t.accept_worker = s.accept_worker)

@[simp] theorem notBusy_nil : NotBusy [] := fun _ => List.not_mem_nil

@[simp] theorem notBusy_unauthorized : NotBusy [(connection, RELAY_UNAUTHORIZED)] := by
  intro other hmem
  have hline : RELAY_BUSY = RELAY_UNAUTHORIZED := (Prod.mk.inj (List.mem_singleton.mp hmem)).2
  cases hline

@[simp] theorem notBusy_ok : NotBusy [(connection, RELAY_OK)] := by
  intro other hmem
  have hline : RELAY_BUSY = RELAY_OK := (Prod.mk.inj (List.mem_singleton.mp hmem)).2
  cases hline

theorem change_of_acceptStep (h : s.acceptStep s.accept_worker io.1 = some (t, io.2)) :
    Change s io t := by
  rcases io with ⟨action, replies⟩
  rcases s with ⟨token, client, session_worker, accepted, accept_worker, sessions⟩
  dsimp only at h
  unfold acceptStep at h
  split at h
  iterate 3
    · cases h
      exact .kept id rfl rfl rfl (.inl notBusy_nil)
  · split at h
    iterate 3
      · cases h
        exact .kept id rfl rfl rfl (.inl notBusy_nil)
  · cases h
    exact .kept id rfl rfl rfl (.inl notBusy_unauthorized)
  · split at h
    case isTrue htaken =>
      cases h
      exact .kept id rfl rfl rfl (.inr htaken)
    case isFalse hfree =>
      cases h
      exact .taken _ id notBusy_nil (Option.not_isSome_iff_eq_none.mp hfree) rfl rfl rfl
  case h_7 connection initial_data ok =>
    cases ok with
    | true =>
      cases h
      exact .kept Bool.noConfusion rfl rfl rfl (.inl notBusy_ok)
    | false =>
      cases h
      exact .dropped connection rfl notBusy_ok rfl rfl rfl rfl
  case h_8 connection initial_data ok =>
    cases ok with
    | true =>
      cases h
      exact .kept Bool.noConfusion rfl rfl rfl (.inl notBusy_nil)
    | false =>
      cases h
      exact .dropped connection rfl notBusy_nil rfl rfl rfl rfl
  case h_9 connection initial_data =>
    cases h
    exact .started connection _ id notBusy_nil rfl rfl rfl rfl
  · cases h

theorem release_spec (s : TcpRelayServer) (connection : Nat) :
    (s.release connection).client = (if s.client = some connection then none else s.client) ∧
      (s.release connection).sessions = s.sessions ∧
      (s.release connection).accept_worker = s.accept_worker := by
  unfold release
  split
  · exact ⟨rfl, rfl, rfl⟩
  · exact ⟨rfl, rfl, rfl⟩

theorem change_of_sessionStep (h : s.sessionStep io.1 = some (t, io.2)) : Change s io t := by
  rcases io with ⟨action, replies⟩
  dsimp only at h
  unfold sessionStep at h
  split at h
  case h_1 connection =>
    split at h
    case h_1 initial_data hsession =>
      cases h
      exact .moved connection _ id notBusy_nil (Option.isSome_of_eq_some hsession) rfl rfl rfl
    · cases h
  case h_2 connection ok =>
    split at h
    case h_1 hsession =>
      have hsome := Option.isSome_of_eq_some hsession
      cases ok with
      | true =>
        cases h
        exact .moved connection _ Bool.noConfusion notBusy_nil hsome rfl rfl rfl
      | false =>
        cases h
        exact .lost connection rfl notBusy_nil hsome rfl rfl rfl
    · cases h
  case h_3 connection =>
    split at h
    case h_1 hsession =>
      cases h
      obtain ⟨hclient, hsessions, howner⟩ := s.release_spec connection
      have hafter : Function.update (s.release connection).sessions connection none =
          Function.update s.sessions connection none := by rw [hsessions]
      exact .released connection id notBusy_nil (Option.isSome_of_eq_some hsession) hclient hafter howner
    · cases h
  · cases h

theorem change_of_step (h : Step s io t) : Change s io t := by
  unfold Step step at h
  split at h
  iterate 3 · exact change_of_sessionStep h
  · exact change_of_acceptStep h

/-- The client in the slot is the one whose session worker is running or being started, if there is one. -/
structure OneOwner (s : TcpRelayServer) : Prop where
  client : ∀ connection, s.Owns connection → s.client = some connection
  fresh : ∀ connection, s.accept_worker.owner? = some connection → s.sessions connection = none

theorem OneOwner.eq (h : s.OneOwner) {other : Nat} (howns : s.Owns connection) (hother : s.Owns other) :
    connection = other :=
  Option.some.inj ((h.client connection howns).symm.trans (h.client other hother))

theorem OneOwner.no_session (h : s.OneOwner) (hfrom : s.accept_worker.owner? = some connection)
    (other : Nat) : s.sessions other = none := by
  by_contra hsome
  have howns : s.Owns other := .inr (Option.isSome_iff_ne_none.mpr hsome)
  rw [h.eq howns (.inl hfrom)] at hsome
  exact hsome (h.fresh connection hfrom)

/-- While a session worker runs, it is the only one, and no client is being started. -/
theorem OneOwner.only (h : s.OneOwner) (hfrom : (s.sessions connection).isSome) :
    s.accept_worker.owner? = none ∧ ∀ other, other ≠ connection → s.sessions other = none := by
  constructor
  · by_contra howner
    obtain ⟨other, hother⟩ := Option.ne_none_iff_exists'.mp howner
    rw [h.no_session hother connection] at hfrom
    cases hfrom
  · intro other hne
    by_contra hsome
    exact hne (h.eq (.inr (Option.isSome_iff_ne_none.mpr hsome)) (.inr hfrom))

theorem owns_of_update {worker : Option SessionWorker} {other : Nat}
    (hsessions : t.sessions = Function.update s.sessions connection worker)
    (howner : t.accept_worker.owner? = none) (honly : ∀ other, other ≠ connection → s.sessions other = none)
    (howns : t.Owns other) : other = connection ∧ worker.isSome := by
  rcases howns with hstarting | hsession
  · rw [howner] at hstarting
    cases hstarting
  · rw [hsessions] at hsession
    by_cases hne : other = connection
    · rw [hne, Function.update_self] at hsession
      exact ⟨hne, hsession⟩
    · rw [Function.update_of_ne hne, honly other hne] at hsession
      cases hsession

theorem oneOwner_of_update {worker : Option SessionWorker}
    (hsessions : t.sessions = Function.update s.sessions connection worker)
    (howner : t.accept_worker.owner? = none) (honly : ∀ other, other ≠ connection → s.sessions other = none)
    (hclient : worker.isSome → t.client = some connection) : t.OneOwner := by
  refine ⟨fun other howns => ?_, fun other hstarting => ?_⟩
  · obtain ⟨rfl, hsome⟩ := owns_of_update hsessions howner honly howns
    exact hclient hsome
  · rw [howner] at hstarting
    cases hstarting

theorem oneOwner_new (token : List UInt8) : (TcpRelayServer.new token).OneOwner := by
  refine ⟨?_, nofun⟩
  rintro connection (hstarting | hsession)
  · cases hstarting
  · cases hsession

theorem oneOwner_step (h : s.OneOwner) (hstep : Step s io t) : t.OneOwner := by
  cases change_of_step hstep with
  | kept hleaks hclient hsessions howner hbusy =>
    refine ⟨fun c howns => ?_, fun c hstarting => ?_⟩
    · unfold Owns at howns
      rw [howner, hsessions] at howns
      rw [hclient]
      exact h.client c howns
    · rw [hsessions]
      exact h.fresh c (howner ▸ hstarting)
  | taken connection hleaks hbusy hfree hclient hsessions howner =>
    have hnone : ∀ other, s.sessions other = none := by
      intro other
      by_contra hsome
      have htaken := h.client other (.inr (Option.isSome_iff_ne_none.mpr hsome))
      rw [hfree] at htaken
      cases htaken
    refine ⟨?_, fun c _ => by rw [hsessions, hnone c]⟩
    rintro c (hstarting | hsession)
    · rw [hclient, ← howner, hstarting]
    · rw [hsessions, hnone c] at hsession
      cases hsession
  | dropped connection hleaks hbusy hclient hsessions hfrom howner =>
    have hnone : t.sessions = Function.update s.sessions connection none := by
      rw [hsessions, ← h.fresh connection hfrom, Function.update_eq_self]
    exact oneOwner_of_update hnone howner (fun other _ => h.no_session hfrom other) nofun
  | started connection worker hleaks hbusy hclient hsessions hfrom howner =>
    refine oneOwner_of_update hsessions howner (fun other _ => h.no_session hfrom other) fun _ => ?_
    rw [hclient]
    exact h.client connection (.inl hfrom)
  | moved connection worker hleaks hbusy hfrom hclient hsessions howner =>
    obtain ⟨hnone, honly⟩ := h.only hfrom
    refine oneOwner_of_update hsessions (howner ▸ hnone) honly fun _ => ?_
    rw [hclient]
    exact h.client connection (.inr hfrom)
  | lost connection hleaks hbusy hfrom hclient hsessions howner =>
    obtain ⟨hnone, honly⟩ := h.only hfrom
    exact oneOwner_of_update hsessions (howner ▸ hnone) honly nofun
  | released connection hleaks hbusy hfrom hclient hsessions howner =>
    obtain ⟨hnone, honly⟩ := h.only hfrom
    exact oneOwner_of_update hsessions (howner ▸ hnone) honly nofun

theorem oneOwner_of_run {token : List UInt8} {h : List RelayEvent} (run : RelayRun token h s) :
    s.OneOwner :=
  run.invariant OneOwner (oneOwner_new token) fun _ _ _ howner hstep => oneOwner_step howner hstep

/-- Without a session worker that is running or being started the slot is free. -/
def SlotFree (s : TcpRelayServer) : Prop := (∀ connection, ¬ s.Owns connection) → s.client = none

/-- A step keeps the slot from being lost unless a socket operation fails at the wrong place. -/
theorem slotFree_step (h : s.OneOwner) (hfree : s.SlotFree) (hstep : Step s io t) :
    t.SlotFree ↔ ¬ io.1.Leaks := by
  cases change_of_step hstep with
  | kept hleaks hclient hsessions howner hbusy =>
    refine iff_of_true (fun hidle => ?_) hleaks
    unfold Owns at hidle
    rw [howner, hsessions] at hidle
    rw [hclient]
    exact hfree hidle
  | taken connection hleaks hbusy hnone hclient hsessions howner =>
    exact iff_of_true (fun hidle => absurd (.inl howner) (hidle connection)) hleaks
  | dropped connection hleaks hbusy hclient hsessions hfrom howner =>
    refine iff_of_false (fun hfree' => ?_) (not_not.mpr hleaks)
    have hidle : ∀ other, ¬ t.Owns other := by
      rintro other (hstarting | hsession)
      · rw [howner] at hstarting
        cases hstarting
      · rw [hsessions, h.no_session hfrom other] at hsession
        cases hsession
    have hnone := hfree' hidle
    rw [hclient, h.client connection (.inl hfrom)] at hnone
    cases hnone
  | started connection worker hleaks hbusy hclient hsessions hfrom howner =>
    refine iff_of_true (fun hidle => absurd (.inr ?_) (hidle connection)) hleaks
    rw [hsessions, Function.update_self]
    rfl
  | moved connection worker hleaks hbusy hfrom hclient hsessions howner =>
    refine iff_of_true (fun hidle => absurd (.inr ?_) (hidle connection)) hleaks
    rw [hsessions, Function.update_self]
    rfl
  | lost connection hleaks hbusy hfrom hclient hsessions howner =>
    obtain ⟨hnone, honly⟩ := h.only hfrom
    refine iff_of_false (fun hfree' => ?_) (not_not.mpr hleaks)
    have hlost := hfree' fun other howns =>
      Bool.noConfusion (owns_of_update hsessions (howner ▸ hnone) honly howns).2
    rw [hclient, h.client connection (.inr hfrom)] at hlost
    cases hlost
  | released connection hleaks hbusy hfrom hclient hsessions howner =>
    refine iff_of_true (fun _ => ?_) hleaks
    rw [hclient, if_pos (h.client connection (.inr hfrom))]

/-- The client whose turn it is gets the slot and the line `OK`. -/
def Admits (s : TcpRelayServer) : Prop :=
  ∀ connection initial_data ok, s.accept_worker = .claiming connection initial_data →
    ∃ t, s.step (.claim ok) = some (t, []) ∧ t.client = some connection ∧
      ∀ ok, ∃ u, t.step (.confirm ok) = some (u, [(connection, RELAY_OK)])

theorem admits_of_free (hfree : s.client = none) : s.Admits := by
  intro connection initial_data ok hclaiming
  refine ⟨{ s with client := some connection,
                   accept_worker := .confirming connection initial_data }, ?_, rfl, ?_⟩
  · unfold step
    rw [hclaiming]
    unfold acceptStep
    rw [hfree]
    rfl
  · intro ok
    exact ⟨_, rfl⟩

/-- One client owns the slot at most, and without one the slot is free and the next client gets it. -/
structure SlotSound (s : TcpRelayServer) : Prop where
  single : ∀ connection other, s.Owns connection → s.Owns other → connection = other
  free : (∀ connection, ¬ s.Owns connection) → s.client = none ∧ s.Admits

theorem slotSound_iff (h : s.OneOwner) : s.SlotSound ↔ s.SlotFree := by
  constructor
  · intro hsound hidle
    exact (hsound.free hidle).1
  · intro hfree
    refine ⟨fun connection other howns hother => h.eq howns hother, fun hidle => ?_⟩
    exact ⟨hfree hidle, admits_of_free (hfree hidle)⟩

def someToken : List UInt8 := ascii "token"
def someLine : List UInt8 := RELAY_AUTH_PREFIX ++ someToken ++ [NEWLINE]

/-- The steps of these actions, from a server that was started with `someToken`. -/
def stepped (actions : List RelayAction) : Option TcpRelayServer :=
  actions.foldlM (fun s action => (s.step action).map Prod.fst) (.new someToken)

theorem run_foldlM {token : List UInt8} {h : List RelayEvent} (run : RelayRun token h s) {actions : List RelayAction}
    (hstepped : actions.foldlM (fun s action => (s.step action).map Prod.fst) s = some t) :
    ∃ h', RelayRun token h' t ∧ h'.map (·.label.1) = actions.reverse ++ h.map (·.label.1) := by
  induction actions generalizing s h with
  | nil =>
    cases hstepped
    exact ⟨h, run, rfl⟩
  | cons action actions ih =>
    rw [List.foldlM_cons] at hstepped
    obtain ⟨next, hnext, hlater⟩ := Option.bind_eq_some_iff.mp hstepped
    obtain ⟨⟨next', replies⟩, hstep, rfl⟩ := Option.map_eq_some_iff.mp hnext
    obtain ⟨h', run', hlabels⟩ := ih (run.step (i := (action, replies)) hstep) hlater
    refine ⟨h', run', ?_⟩
    rw [hlabels, List.reverse_cons, List.append_assoc]
    rfl

theorem run_stepped (actions : List RelayAction) (hstepped : stepped actions = some s) :
    ∃ h, RelayRun someToken h s ∧ h.map (·.label.1) = actions.reverse := by
  obtain ⟨h, run, hlabels⟩ := run_foldlM .nil hstepped
  exact ⟨h, run, hlabels.trans (List.append_nil _)⟩

instance : DecidablePred RelayAction.Leaks
  | .confirm ok => inferInstanceAs (Decidable (ok = false))
  | .configure ok => inferInstanceAs (Decidable (ok = false))
  | .close _ ok => inferInstanceAs (Decidable (ok = false))
  | .accept _ | .receive _ | .refuse _ | .claim _ | .start | .finish _ | .release _ => isFalse id

/-- Over a whole run, the slot is sound exactly as long as no socket operation fails between taking the slot
and starting the session worker, and none closing the connection at the end of a session. -/
theorem slot_released_iff {token : List UInt8} {h : List RelayEvent} (run : RelayRun token h s) :
    Throughout SlotSound h s ↔ ∀ e ∈ h, ¬ e.label.1.Leaks := by
  refine run.throughout_iff ?_ ?_
  · exact (slotSound_iff (oneOwner_new token)).mpr fun _ => rfl
  · intro h e hrun hstep hsound
    have howner := oneOwner_of_run hrun
    rw [slotSound_iff (oneOwner_step howner hstep)]
    exact slotFree_step howner ((slotSound_iff howner).mp hsound) hstep

/-- While a client has its session, a second one is told that the relay is busy, and hangs up; the first one
ends its session. A third one has no token, and has hung up when it is told. -/
def served : List RelayAction :=
  [.accept .connected, .receive [someLine], .claim true, .confirm true, .configure true, .start,
    .accept .connected, .receive [someLine], .claim false, .finish 0, .close 0 true, .release 0,
    .accept .connected, .receive [RELAY_AUTH_PREFIX ++ [NEWLINE - 1, NEWLINE]], .accept .timedOut,
    .accept .connected, .receive [RELAY_AUTH_PREFIX ++ ascii "other" ++ [NEWLINE]], .refuse false]

theorem slot_released_served : ∃ h s, RelayRun someToken h s ∧ h.map (·.label.1) = served.reverse ∧
    s.client = none ∧ s.accepted = 4 ∧ Throughout SlotSound h s := by
  obtain ⟨h, run, hlabels⟩ := run_stepped served rfl
  refine ⟨h, _, run, hlabels, rfl, rfl, (slot_released_iff run).mpr fun e he => ?_⟩
  have hmem : e.label.1 ∈ served := List.mem_reverse.mp (hlabels ▸ List.mem_map_of_mem he)
  exact (by decide : ∀ action ∈ served, ¬ action.Leaks) _ hmem

/-- The line `OK` of the first client is not sent: the slot stays with it, and the second client, which has
the token too, is told that the relay is busy. -/
theorem slot_not_released : ¬ ∀ (token : List UInt8) (h : List RelayEvent) (s : TcpRelayServer),
    RelayRun token h s → SlotSound s := by
  intro hall
  obtain ⟨h, run, -⟩ := run_stepped [.accept .connected, .receive [someLine], .claim true, .confirm false,
    .accept .connected, .receive [someLine]] rfl
  have hfree := (hall someToken h _ run).free
  cases (hfree fun connection howns => howns.elim (nomatch ·) (nomatch ·)).1

end TcpRelayServer

end HexapodVerified.Jetson
