import HexapodVerified.App.CommitMailbox

/-!
# The answer to a commit request

A request is answered by `i2cTask` in the stages of `Progress`: it is seen, its commit runs, the
result is stored and the completion given. This order is kept when the request is posted while no
earlier commit is being served and no completion is left over. Nothing in the mailbox says which
request a completion belongs to.
-/

namespace HexapodVerified.App

open HexapodVerified.Config Transition

variable {s t : Handoff} {a : HandoffStep} {p : List UInt8} {h mid : List HandoffEvent}
  {e : HandoffEvent}

/-- What a step of `apiTask` can do. -/
inductive ApiMove : Handoff → HandoffStep → Handoff → Prop where
  | refuseLong {s : Handoff} {p : List UInt8} (hready : s.api.ready = true)
      (hlen : p.length > kConfigPayloadSize) : ApiMove s (.call p) { s with api := .refused p }
  | call {s : Handoff} {p : List UInt8} (hready : s.api.ready = true)
      (hlen : ¬ p.length > kConfigPayloadSize) : ApiMove s (.call p) { s with api := .wantMailbox p }
  | refuse {s : Handoff} {p : List UInt8} (hapi : s.api = .wantMailbox p) :
      ApiMove s (.takeMailbox false) { s with api := .refused p }
  | takeMailbox {s : Handoff} {p : List UInt8} (hapi : s.api = .wantMailbox p)
      (hfree : s.g_commitMutex = none) :
      ApiMove s (.takeMailbox true) { s with g_commitMutex := some .apiTask, api := .copy p }
  | copy {s : Handoff} {p : List UInt8} (hapi : s.api = .copy p) :
      ApiMove s .copy { s with
        g_commit.payload := Handoff.copyPayload s.g_commit.payload p, api := .publish p }
  | publish {s : Handoff} {p : List UInt8} (hapi : s.api = .publish p) :
      ApiMove s .publish { s with
        g_commit.len := p.length, g_commit.ok := false, g_commit.requested := true,
        g_commitMutex := none, api := .waitDone p }
  | takeDone {s : Handoff} {p : List UInt8} (hapi : s.api = .waitDone p)
      (hdone : s.g_commitDone = true) :
      ApiMove s (.takeDone true) { s with g_commitDone := false, api := .wantResult p }
  | timeout {s : Handoff} {p : List UInt8} (hapi : s.api = .waitDone p)
      (hdone : s.g_commitDone = false) :
      ApiMove s (.takeDone false) { s with api := .returned p false }
  | loseResult {s : Handoff} {p : List UInt8} (hapi : s.api = .wantResult p) :
      ApiMove s (.takeResult false) { s with api := .returned p false }
  | takeResult {s : Handoff} {p : List UInt8} (hapi : s.api = .wantResult p)
      (hfree : s.g_commitMutex = none) :
      ApiMove s (.takeResult true) { s with g_commitMutex := some .apiTask, api := .readResult p }
  | readResult {s : Handoff} {p : List UInt8} (hapi : s.api = .readResult p) :
      ApiMove s .readResult { s with g_commitMutex := none, api := .returned p s.g_commit.ok }

/-- What a step of `i2cTask` can do. -/
inductive I2cMove : Handoff → HandoffStep → Handoff → Prop where
  | pass {s : Handoff} (hi2c : s.i2c = .idle) : I2cMove s (.takeCheck false) s
  | takeCheck {s : Handoff} (hi2c : s.i2c = .idle) (hfree : s.g_commitMutex = none) :
      I2cMove s (.takeCheck true) { s with g_commitMutex := some .i2cTask, i2c := .check }
  | check {s : Handoff} {boot_storage_pending : Bool} (hi2c : s.i2c = .check) :
      I2cMove s (.check boot_storage_pending) { s with
        g_commitMutex := none
        i2c := if s.g_commit.requested && !boot_storage_pending then .serve else .idle }
  | commitStart {s : Handoff} (hi2c : s.i2c = .serve) :
      I2cMove s .commitStart { s with i2c := .committing s.g_commit.len }
  | commitEnd {s : Handoff} {len : Nat} {ok : Bool} (hi2c : s.i2c = .committing len) :
      I2cMove s (.commitEnd ok) { s with i2c := .committed ok }
  | loseStore {s : Handoff} {ok : Bool} (hi2c : s.i2c = .committed ok) :
      I2cMove s (.takeStore false) { s with i2c := .idle }
  | takeStore {s : Handoff} {ok : Bool} (hi2c : s.i2c = .committed ok)
      (hfree : s.g_commitMutex = none) :
      I2cMove s (.takeStore true) { s with g_commitMutex := some .i2cTask, i2c := .store ok }
  | store {s : Handoff} {ok : Bool} (hi2c : s.i2c = .store ok) :
      I2cMove s .store { s with
        g_commit.ok := ok, g_commit.requested := false, g_commitMutex := none,
        i2c := .giveDone ok }
  | giveDone {s : Handoff} {ok : Bool} (hi2c : s.i2c = .giveDone ok) :
      I2cMove s .giveDone { s with g_commitDone := true, i2c := .idle }

theorem apiMove_of_apiStep (hstep : s.apiStep a = some t) : ApiMove s a t := by
  unfold Handoff.apiStep at hstep
  split at hstep
  all_goals try split_ifs at hstep
  all_goals cases hstep
  · exact .refuseLong (by simp_all) ‹_›
  · exact .call (by simp_all) ‹_›
  · exact .refuse ‹_›
  · exact .takeMailbox ‹_› ‹_›
  · exact .copy ‹_›
  · exact .publish ‹_›
  · exact .timeout ‹_› ‹_›
  · exact .takeDone ‹_› ‹_›
  · exact .loseResult ‹_›
  · exact .takeResult ‹_› ‹_›
  · exact .readResult ‹_›

theorem i2cMove_of_i2cStep (hstep : s.i2cStep a = some t) : I2cMove s a t := by
  unfold Handoff.i2cStep at hstep
  split at hstep
  all_goals try split_ifs at hstep
  all_goals cases hstep
  · exact .pass ‹_›
  · exact .takeCheck ‹_› ‹_›
  · exact .check ‹_›
  · exact .commitStart ‹_›
  · exact .commitEnd ‹_›
  · exact .loseStore ‹_›
  · exact .takeStore ‹_› ‹_›
  · exact .store ‹_›
  · exact .giveDone ‹_›

theorem move_of_step (hstep : s.step a = some t) : ApiMove s a t ∨ I2cMove s a t := by
  unfold Handoff.step at hstep
  cases hapi : s.apiStep a with
  | some t' =>
    rw [hapi, Option.some_or] at hstep
    cases hstep
    exact .inl (apiMove_of_apiStep hapi)
  | none =>
    rw [hapi, Option.none_or] at hstep
    exact .inr (i2cMove_of_i2cStep hstep)

def sincePost : List HandoffEvent → List HandoffEvent
  | [] => []
  | e :: h => if e.label = .publish then [] else e :: sincePost h

/-- No completion is left over, and `i2cTask` is not serving an earlier request. -/
def Quiet (s : Handoff) : Prop := s.g_commitDone = false ∧ s.serving = false

instance (s : Handoff) : Decidable (Quiet s) := inferInstanceAs (Decidable (_ ∧ _))

def PostedQuiet : List HandoffEvent → Prop
  | [] => True
  | e :: h => if e.label = .publish then Quiet e.pre else PostedQuiet h

instance : (h : List HandoffEvent) → Decidable (PostedQuiet h)
  | [] => .isTrue trivial
  | e :: h =>
    haveI : Decidable (PostedQuiet h) := instDecidablePostedQuiet h
    inferInstanceAs (Decidable (if e.label = .publish then Quiet e.pre else PostedQuiet h))

/-- A commit of exactly the bytes `p` was started and returned true: the mailbox held `p` at every
step while the commit was running. -/
def Committed (p : List UInt8) (mid : List HandoffEvent) : Prop :=
  ∃ later e between s earlier, mid = later ++ e :: (between ++ s :: earlier) ∧
    s.label = .commitStart ∧ (∀ x ∈ e :: between, x.pre.committing = some p) ∧
    e.label = .commitEnd true

/-- The running commit was started, and the mailbox has held `p` since. -/
def Started (p : List UInt8) (mid : List HandoffEvent) : Prop :=
  ∃ between s earlier, mid = between ++ s :: earlier ∧ s.label = .commitStart ∧
    ∀ x ∈ between, x.pre.committing = some p

/-- The request for `p` was served successfully while `apiTask` was waiting. -/
def Served (p : List UInt8) (mid : List HandoffEvent) : Prop :=
  ∃ later e earlier, mid = later ++ e :: earlier ∧ e.label = .giveDone ∧
    e.pre.i2c = .giveDone true ∧ e.pre.api = .waitDone p ∧ Committed p earlier

/-- `apiTask` got the mutex when it came back for the result. -/
def ResultTaken (mid : List HandoffEvent) : Prop := ∀ e ∈ mid, e.label ≠ .takeResult false

theorem sincePost_publish (he : e.label = .publish) : sincePost (e :: h) = [] := if_pos he

theorem sincePost_cons (he : e.label ≠ .publish) : sincePost (e :: h) = e :: sincePost h :=
  if_neg he

theorem postedQuiet_publish (he : e.label = .publish) : PostedQuiet (e :: h) ↔ Quiet e.pre := by
  rw [PostedQuiet, if_pos he]

theorem postedQuiet_cons (he : e.label ≠ .publish) : PostedQuiet (e :: h) ↔ PostedQuiet h := by
  rw [PostedQuiet, if_neg he]

theorem Committed.cons (hc : Committed p mid) : Committed p (e :: mid) := by
  obtain ⟨later, x, between, s, earlier, rfl, hs, hbytes, hend⟩ := hc
  exact ⟨e :: later, x, between, s, earlier, rfl, hs, hbytes, hend⟩

theorem Started.start (he : e.label = .commitStart) : Started p (e :: mid) :=
  ⟨[], e, mid, rfl, he, fun _ hx => absurd hx List.not_mem_nil⟩

theorem Started.committed (hs : Started p mid) (hbytes : e.pre.committing = some p)
    (he : e.label = .commitEnd true) : Committed p (e :: mid) := by
  obtain ⟨between, s, earlier, rfl, hs, hbetween⟩ := hs
  exact ⟨[], e, between, s, earlier, rfl, hs, List.forall_mem_cons.mpr ⟨hbytes, hbetween⟩, he⟩

theorem not_served_nil : ¬ Served p [] := by
  rintro ⟨later, e, earlier, heq, -⟩
  cases later <;> cases heq

theorem Served.of_cons (hs : Served p (e :: mid)) :
    (e.label = .giveDone ∧ e.pre.i2c = .giveDone true ∧ e.pre.api = .waitDone p) ∨
      Served p mid := by
  obtain ⟨later, x, earlier, heq, hx⟩ := hs
  cases later with
  | nil =>
    cases heq
    exact .inl ⟨hx.1, hx.2.1, hx.2.2.1⟩
  | cons y later =>
    cases heq
    exact .inr ⟨later, x, earlier, rfl, hx⟩

/-- How far `i2cTask` is with the request for `p`. -/
inductive Progress (p : List UInt8) (mid : List HandoffEvent) (s : Handoff) : Prop where
  /-- Not seen, or seen and not started. -/
  | pending (hrequested : s.g_commit.requested = true) (hdone : s.g_commitDone = false)
      (hi2c : s.i2c = .idle ∨ s.i2c = .check ∨ s.i2c = .serve)
  /-- Its commit runs. -/
  | running (hrequested : s.g_commit.requested = true) (hdone : s.g_commitDone = false)
      (hcommitting : s.committing = some p) (hstarted : Started p mid)
  /-- Its commit has returned. -/
  | finished (ok : Bool) (hrequested : s.g_commit.requested = true)
      (hdone : s.g_commitDone = false) (hi2c : s.i2c = .committed ok ∨ s.i2c = .store ok)
      (hcommitted : ok = true → Committed p mid)
  /-- The result is stored. -/
  | stored (ok : Bool) (hrequested : s.g_commit.requested = false)
      (hdone : s.g_commitDone = false) (hi2c : s.i2c = .giveDone ok) (hok : s.g_commit.ok = ok)
      (hcommitted : ok = true → Committed p mid)
  /-- The completion is given. -/
  | answered (hrequested : s.g_commit.requested = false) (hdone : s.g_commitDone = true)
      (hi2c : s.i2c = .idle ∨ s.i2c = .check)
      (hcommitted : s.g_commit.ok = true → Committed p mid)

/-- The completion is taken and `i2cTask` has nothing to do. -/
structure Answered (p : List UInt8) (mid : List HandoffEvent) (s : Handoff) : Prop where
  requested : s.g_commit.requested = false
  i2c : s.i2c = .idle ∨ s.i2c = .check
  committed : s.g_commit.ok = true → Committed p mid
  served : Served p mid → s.g_commit.ok = true

/-- A step of `i2cTask` moves a request along. -/
theorem Progress.i2cMove (hprogress : Progress p mid s)
    (hpayload : s.g_commit.payload.take s.g_commit.len = p) (hmove : I2cMove s a t) :
    Progress p (⟨s, a, t⟩ :: mid) t := by
  cases hmove with
  | pass hi2c =>
    cases hprogress with
    | pending hrequested hdone => exact .pending hrequested hdone (.inl hi2c)
    | answered hrequested hdone _ hcommitted =>
      exact .answered hrequested hdone (.inl hi2c) fun hok => (hcommitted hok).cons
    | _ => simp_all [Handoff.committing]
  | takeCheck hi2c =>
    cases hprogress with
    | pending hrequested hdone => exact .pending hrequested hdone (.inr (.inl rfl))
    | answered hrequested hdone _ hcommitted =>
      exact .answered hrequested hdone (.inr rfl) fun hok => (hcommitted hok).cons
    | _ => simp_all [Handoff.committing]
  | @check boot_storage_pending hi2c =>
    cases hprogress with
    | pending hrequested hdone =>
      refine .pending hrequested hdone ?_
      cases boot_storage_pending <;> simp [hrequested]
    | answered hrequested hdone _ hcommitted =>
      refine .answered hrequested hdone (.inl ?_) fun hok => (hcommitted hok).cons
      simp [hrequested]
    | _ => simp_all [Handoff.committing]
  | commitStart hi2c =>
    cases hprogress with
    | pending hrequested hdone =>
      exact .running hrequested hdone (congrArg some hpayload) (.start rfl)
    | _ => simp_all [Handoff.committing]
  | @commitEnd len ok hi2c =>
    cases hprogress with
    | running hrequested hdone hcommitting hstarted =>
      refine .finished ok hrequested hdone (.inl rfl) fun hok => ?_
      exact hstarted.committed hcommitting (by rw [hok])
    | _ => simp_all
  | loseStore hi2c =>
    cases hprogress with
    | finished _ hrequested hdone => exact .pending hrequested hdone (.inl rfl)
    | _ => simp_all [Handoff.committing]
  | takeStore hi2c =>
    cases hprogress with
    | finished ok hrequested hdone hi2c' hcommitted =>
      refine .finished ok hrequested hdone (.inr ?_) fun hok => (hcommitted hok).cons
      simp_all
    | _ => simp_all [Handoff.committing]
  | store hi2c =>
    cases hprogress with
    | finished ok _ hdone hi2c' hcommitted =>
      obtain rfl : _ = ok := by simpa [hi2c] using hi2c'
      exact .stored _ rfl hdone rfl rfl fun hok => (hcommitted hok).cons
    | _ => simp_all [Handoff.committing]
  | giveDone hi2c =>
    cases hprogress with
    | stored ok hrequested _ _ hok hcommitted =>
      exact .answered hrequested rfl (.inl rfl) fun h => (hcommitted (hok ▸ h)).cons
    | _ => simp_all [Handoff.committing]

theorem Progress.served_i2cMove (hprogress : Progress p mid s)
    (hserved : Served p mid → s.g_commitDone = true ∧ s.g_commit.ok = true)
    (hmove : I2cMove s a t) :
    Served p (⟨s, a, t⟩ :: mid) → t.g_commitDone = true ∧ t.g_commit.ok = true := by
  intro hnow
  obtain ⟨hlabel, hi2c, -⟩ | hbefore := hnow.of_cons
  · cases hprogress with
    | stored ok _ _ hi2c' hok =>
      cases hmove with
      | giveDone => exact ⟨rfl, by simp_all⟩
      | _ => cases hlabel
    | _ => simp_all [Handoff.committing]
  · obtain ⟨hdone, hok⟩ := hserved hbefore
    cases hprogress with
    | answered _ _ hi2c => cases hmove <;> simp_all
    | _ => simp_all

/-- Once the completion is taken `i2cTask` leaves the mailbox alone. -/
theorem Answered.i2cMove (hanswered : Answered p mid s) (hapi : s.api ≠ .waitDone p)
    (hmove : I2cMove s a t) : Answered p (⟨s, a, t⟩ :: mid) t := by
  obtain ⟨hrequested, hi2c, hcommitted, hserved⟩ := hanswered
  have hserved' : Served p (⟨s, a, t⟩ :: mid) → s.g_commit.ok = true := fun hnow =>
    hnow.of_cons.elim (fun h => absurd h.2.2 hapi) hserved
  cases hmove with
  | pass h => exact ⟨hrequested, .inl h, fun hok => (hcommitted hok).cons, hserved'⟩
  | takeCheck h => exact ⟨hrequested, .inr rfl, fun hok => (hcommitted hok).cons, hserved'⟩
  | check h =>
    refine ⟨hrequested, .inl ?_, fun hok => (hcommitted hok).cons, hserved'⟩
    simp [hrequested]
  | _ => simp_all

/-- What is known about the request that was posted before `mid`. -/
def RequestInvariant (mid : List HandoffEvent) (s : Handoff) : Prop :=
  match s.api with
  | .waitDone p => Progress p mid s ∧
    (Served p mid → s.g_commitDone = true ∧ s.g_commit.ok = true)
  | .wantResult p | .readResult p => Answered p mid s
  | .returned p result => (result = true → Committed p mid) ∧
    (Served p mid → ResultTaken mid → result = true)
  | _ => True

/-- While a request is posted and waited for, the mailbox holds its payload. -/
def MailboxHolds (s : Handoff) : Prop :=
  match s.api with
  | .publish p => s.g_commit.payload.take p.length = p
  | .waitDone p => s.g_commit.payload.take s.g_commit.len = p
  | _ => True

theorem mailboxHolds_step (hholds : MailboxHolds s) (hstep : s.step a = some t) :
    MailboxHolds t := by
  obtain hmove | hmove := move_of_step hstep
  · cases hmove with
    | copy => exact List.take_left
    | publish hapi =>
      unfold MailboxHolds at hholds
      rw [hapi] at hholds
      exact hholds
    | _ => trivial
  · cases hmove <;> exact hholds

theorem mailboxHolds_run (run : HandoffRun h s) : MailboxHolds s :=
  run.invariant MailboxHolds (by trivial) fun _ _ _ hholds hstep => mailboxHolds_step hholds hstep

theorem requestInvariant_i2cMove (hinv : RequestInvariant mid s) (hholds : MailboxHolds s)
    (hmove : I2cMove s a t) : RequestInvariant (⟨s, a, t⟩ :: mid) t := by
  have hapi : t.api = s.api := by cases hmove <;> rfl
  unfold RequestInvariant at hinv ⊢
  unfold MailboxHolds at hholds
  rw [hapi]
  cases hpoint : s.api with
  | waitDone p =>
    rw [hpoint] at hinv hholds
    exact ⟨hinv.1.i2cMove hholds hmove, hinv.1.served_i2cMove hinv.2 hmove⟩
  | wantResult p =>
    rw [hpoint] at hinv
    exact Answered.i2cMove hinv (by simp [hpoint]) hmove
  | readResult p =>
    rw [hpoint] at hinv
    exact Answered.i2cMove hinv (by simp [hpoint]) hmove
  | returned p result =>
    rw [hpoint] at hinv
    refine ⟨fun hok => (hinv.1 hok).cons, fun hserved htaken => ?_⟩
    obtain ⟨-, -, hwait⟩ | hserved := hserved.of_cons
    · rw [hpoint] at hwait
      cases hwait
    · exact hinv.2 hserved fun x hx => htaken x (List.mem_cons_of_mem _ hx)
  | _ => trivial

theorem requestInvariant_apiMove (hinv : RequestInvariant mid s) (hmove : ApiMove s a t)
    (hpublish : a ≠ .publish) : RequestInvariant (⟨s, a, t⟩ :: mid) t := by
  have hbefore : ∀ p, Served p (⟨s, a, t⟩ :: mid) → Served p mid := fun p hserved => by
    obtain ⟨hlabel, -⟩ | hserved := hserved.of_cons
    · dsimp only at hlabel
      subst hlabel
      cases hmove
    · exact hserved
  unfold RequestInvariant at hinv ⊢
  cases hmove with
  | publish => exact absurd rfl hpublish
  | @takeDone p hapi hdone =>
    rw [hapi] at hinv
    obtain ⟨hprogress, hserved⟩ := hinv
    cases hprogress with
    | answered hrequested _ hi2c hcommitted =>
      exact ⟨hrequested, hi2c, fun hok => (hcommitted hok).cons,
        fun hnow => (hserved (hbefore p hnow)).2⟩
    | _ => simp_all
  | @timeout p hapi hdone =>
    rw [hapi] at hinv
    refine ⟨nofun, fun hnow _ => ?_⟩
    have hgiven := (hinv.2 (hbefore p hnow)).1
    rw [hdone] at hgiven
    exact hgiven
  | loseResult hapi =>
    refine ⟨nofun, fun _ htaken => ?_⟩
    exact absurd rfl (htaken _ List.mem_cons_self)
  | @takeResult p hapi =>
    rw [hapi] at hinv
    exact ⟨hinv.requested, hinv.i2c, fun hok => (hinv.committed hok).cons,
      fun hnow => hinv.served (hbefore p hnow)⟩
  | @readResult p hapi =>
    rw [hapi] at hinv
    exact ⟨fun hok => (hinv.committed hok).cons, fun hnow _ => hinv.served (hbefore p hnow)⟩
  | _ => trivial

theorem requestInvariant_publish (hquiet : Quiet s) (hmove : ApiMove s .publish t) :
    RequestInvariant [] t := by
  cases hmove with
  | publish hapi =>
    refine ⟨.pending rfl hquiet.1 ?_, fun hserved => absurd hserved not_served_nil⟩
    have hserving := hquiet.2
    unfold Handoff.serving at hserving
    cases hi2c : s.i2c <;> rw [hi2c] at hserving <;> simp_all

theorem requestInvariant_run (run : HandoffRun h s) :
    PostedQuiet h → RequestInvariant (sincePost h) s := by
  refine run.history_invariant (fun h s => PostedQuiet h → RequestInvariant (sincePost h) s)
    (fun _ => by trivial) ?_
  intro h s a t run ih hstep hquiet
  by_cases hpublish : a = .publish
  · subst hpublish
    rw [sincePost_publish rfl]
    rw [postedQuiet_publish rfl] at hquiet
    obtain hmove | hmove := move_of_step hstep
    · exact requestInvariant_publish hquiet hmove
    · cases hmove
  · rw [sincePost_cons hpublish]
    rw [postedQuiet_cons hpublish] at hquiet
    obtain hmove | hmove := move_of_step hstep
    · exact requestInvariant_apiMove (ih hquiet) hmove hpublish
    · exact requestInvariant_i2cMove (ih hquiet) (mailboxHolds_run run) hmove

/-- The answer to a request that was posted in a quiet state: true only if a commit of exactly its
payload was started afterwards and returned true; and true if it was served successfully in time and
the result could be fetched. -/
theorem commitPayload_answer (run : HandoffRun h s) {result : Bool}
    (hreturned : s.api = .returned p result) (hquiet : PostedQuiet h) :
    (result = true → Committed p (sincePost h)) ∧
      (Served p (sincePost h) → ResultTaken (sincePost h) → result = true) := by
  have hinv := requestInvariant_run run hquiet
  unfold RequestInvariant at hinv
  rw [hreturned] at hinv
  exact hinv

def servedRequest : List HandoffStep :=
  [.call [1], .takeMailbox true, .copy, .publish, .takeCheck true, .check false, .commitStart,
    .commitEnd true, .takeStore true, .store, .giveDone, .takeDone true, .takeResult true,
    .readResult]

/-- The state and the history after `servedRequest`. -/
def servedRun : Handoff × List HandoffEvent :=
  (replay Handoff.step {} [] servedRequest).getD ({}, [])

theorem commitPayload_answer_served : Committed [1] (sincePost servedRun.2) := by
  have run : HandoffRun servedRun.2 servedRun.1 := run_replay servedRequest .nil rfl
  exact (commitPayload_answer run rfl (by decide)).1 rfl

/-- While the commit of a first request, which timed out, is still running, another one is posted. -/
def staleRequest : List HandoffStep :=
  [.call [1], .takeMailbox true, .copy, .publish, .takeCheck true, .check false, .commitStart,
    .takeDone false, .call [2], .takeMailbox true, .copy, .publish, .commitEnd true,
    .takeStore true, .store, .giveDone, .takeDone true, .takeResult true, .readResult]

/-- The state and the history after `staleRequest`. -/
def staleRun : Handoff × List HandoffEvent :=
  (replay Handoff.step {} [] staleRequest).getD ({}, [])

/-- The completion of an earlier request can answer a later one, whose payload is never committed. -/
theorem commitPayload_confused : ¬ ∀ (h : List HandoffEvent) (s : Handoff) (p : List UInt8)
    (result : Bool), HandoffRun h s → s.api = .returned p result →
      (result = true → Committed p (sincePost h)) ∧ (Served p (sincePost h) → result = true) := by
  intro hanswer
  have run : HandoffRun staleRun.2 staleRun.1 := run_replay staleRequest .nil rfl
  obtain ⟨later, e, between, s, earlier, hmid, hstart, -⟩ := (hanswer _ _ [2] true run rfl).1 rfl
  have hnone : ∀ x ∈ sincePost staleRun.2, x.label ≠ .commitStart := by decide
  exact hnone s (by rw [hmid]; simp) hstart

end HexapodVerified.App
