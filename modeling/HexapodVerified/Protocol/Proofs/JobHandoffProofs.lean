import HexapodVerified.Protocol.DxlJobApi
import HexapodVerified.Lib.PastTime

/-!
# The hand-off of a maintenance job

What the slot holds is determined by the latest accepted job and by what has happened to it since: it
is waiting, it was claimed, or it was completed. The calls that are refused or ignored change nothing,
so every answer of the queue speaks about that one job.
-/

namespace HexapodVerified.Protocol

open Transition PastTime Dxljob

variable {q r : DxlJobQueue} {io : QueueCall × QueueAnswer} {h later : List QueueEvent}
  {e : QueueEvent} {req : DxlJobRequest} {id : UInt8}

/-- A submit of `req` was accepted and returned `id`. -/
def Accepted (req : DxlJobRequest) (id : UInt8) (e : QueueEvent) : Prop :=
  e.label = (.submit req, .submit (some id))

/-- A claim returned `req` and `id`. -/
def Claimed (req : DxlJobRequest) (id : UInt8) (e : QueueEvent) : Prop :=
  e.label = (.claim, .claim (some (req, id)))

/-- A complete for `id` had an effect. -/
def Completed (id : UInt8) (code : Code) (data : Option (List UInt8)) (len : UInt8)
    (e : QueueEvent) : Prop :=
  e.label.1 = .complete id code data len ∧ e.post ≠ e.pre

def Accepts (e : QueueEvent) : Prop := ∃ req id, Accepted req id e

def Claims (e : QueueEvent) : Prop := ∃ req id, Claimed req id e

def Completes (e : QueueEvent) : Prop := ∃ id code data len, Completed id code data len e

def Idle (e : QueueEvent) : Prop := ¬ Accepts e ∧ ¬ Claims e ∧ ¬ Completes e

/-- The result of a completion: its code, and as many bytes as fit. -/
structure ResultOf (code : Code) (data : Option (List UInt8)) (len : UInt8) (res : DxlJobResult) :
    Prop where
  code : res.code = code
  len : res.len.toNat = min len.toNat kMaxResult
  data : ∀ i, i < res.len.toNat → res.data[i]? = some (resultByte data i)

/-- A complete for `id` stored `res`. -/
def Stored (id : UInt8) (res : DxlJobResult) (e : QueueEvent) : Prop :=
  ∃ code data len, Completed id code data len e ∧ ResultOf code data len res

def LatestJob (req : DxlJobRequest) (id : UInt8) : List QueueEvent → Prop :=
  Since (fun e => ¬ Accepts e) (Accepted req id)

/-- `res` was stored for the latest accepted job, after it was accepted as `req` under `id`. -/
def ResultFor (req : DxlJobRequest) (id : UInt8) (res : DxlJobResult) (h : List QueueEvent) : Prop :=
  ∃ later d mid a before, h = later ++ d :: (mid ++ a :: before) ∧ Accepted req id a ∧
    (∀ x ∈ mid, ¬ Accepts x) ∧ Stored id res d ∧ ∀ x ∈ later, Idle x

def returnedIds (h : List QueueEvent) : List UInt8 :=
  h.filterMap fun e =>
    match e.label with
    | (.submit _, .submit job_id) => job_id
    | _ => none

theorem writeData_get (old : Vector UInt8 kMaxResult) (data : Option (List UInt8)) (len : Nat)
    (hlen : len ≤ kMaxResult) {i : Nat} (hi : i < len) :
    (writeData old data len)[i]? = some (resultByte data i) := by
  unfold writeData
  induction len with
  | zero => exact absurd hi (Nat.not_lt_zero i)
  | succ len ih =>
    rw [List.range_succ, List.foldl_append, List.foldl_cons, List.foldl_nil]
    by_cases heq : len = i
    · subst heq
      rw [Vector.getElem?_setIfInBounds, if_pos rfl, if_pos (by omega)]
    · rw [Vector.getElem?_setIfInBounds, if_neg heq]
      exact ih (by omega) (by omega)

inductive QueueMove : DxlJobQueue → QueueCall × QueueAnswer → DxlJobQueue → Prop where
  | refuse {q : DxlJobQueue} {req : DxlJobRequest} (hbusy : q.slot = .pending ∨ q.slot = .running) :
      QueueMove q (.submit req, .submit none) q
  | accept {q : DxlJobQueue} {req : DxlJobRequest} (hfree : q.slot = .empty ∨ q.slot = .done) :
      QueueMove q (.submit req, .submit (some q.nextJobId)) { q with
        req := req, next_id := q.nextJobId, job_id := q.nextJobId, slot := .pending }
  | pollStale {q : DxlJobQueue} {id : UInt8} {out : DxlJobResult} :
      QueueMove q (.poll id out, .poll .empty out) q
  | pollDone {q : DxlJobQueue} {out : DxlJobResult} (hid : q.job_id ≠ 0) (hdone : q.slot = .done) :
      QueueMove q (.poll q.job_id out, .poll .done q.result) q
  | pollBusy {q : DxlJobQueue} {out : DxlJobResult} {slot : Slot} (hslot : q.slot = slot)
      (hbusy : slot ≠ .done) : QueueMove q (.poll q.job_id out, .poll slot out) q
  | nothing {q : DxlJobQueue} : QueueMove q (.claim, .claim none) q
  | claim {q : DxlJobQueue} (hpending : q.slot = .pending) :
      QueueMove q (.claim, .claim (some (q.req, q.job_id))) { q with slot := .running }
  | ignore {q : DxlJobQueue} {id : UInt8} {code : Code} {data : Option (List UInt8)} {len : UInt8} :
      QueueMove q (.complete id code data len, .complete) q
  | complete {q : DxlJobQueue} {code : Code} {data : Option (List UInt8)} {len : UInt8}
      {res : DxlJobResult} (hrunning : q.slot = .running) (hres : ResultOf code data len res) :
      QueueMove q (.complete q.job_id code data len, .complete)
        { q with result := res, slot := .done }

theorem submit_move (q : DxlJobQueue) (req : DxlJobRequest) :
    QueueMove q (.submit req, .submit (q.submit req).2) (q.submit req).1 := by
  unfold DxlJobQueue.submit
  by_cases hbusy : q.slot ≠ .empty ∧ q.slot ≠ .done
  · rw [if_pos hbusy]
    refine .refuse ?_
    cases hslot : q.slot with
    | empty => exact absurd hslot hbusy.1
    | pending => exact .inl rfl
    | running => exact .inr rfl
    | done => exact absurd hslot hbusy.2
  · rw [if_neg hbusy]
    refine .accept ?_
    by_cases hempty : q.slot = .empty
    · exact .inl hempty
    · exact .inr (not_not.mp fun hdone => hbusy ⟨hempty, hdone⟩)

theorem poll_move (q : DxlJobQueue) (id : UInt8) (out : DxlJobResult) :
    QueueMove q (.poll id out, .poll (q.poll id out).1 (q.poll id out).2) q := by
  unfold DxlJobQueue.poll
  by_cases hstale : id = 0 ∨ id ≠ q.job_id
  · rw [if_pos hstale]
    exact .pollStale
  · rw [if_neg hstale]
    obtain ⟨hid, hsame⟩ := not_or.mp hstale
    obtain rfl := not_not.mp hsame
    by_cases hdone : q.slot = .done
    · rw [if_pos hdone, hdone]
      exact .pollDone hid hdone
    · rw [if_neg hdone]
      exact .pollBusy rfl hdone

theorem claim_move (q : DxlJobQueue) : QueueMove q (.claim, .claim q.claim.2) q.claim.1 := by
  unfold DxlJobQueue.claim
  by_cases hpending : q.slot = .pending
  · rw [if_neg (not_not.mpr hpending)]
    exact .claim hpending
  · rw [if_pos hpending]
    exact .nothing

theorem complete_move (q : DxlJobQueue) (id : UInt8) (code : Code) (data : Option (List UInt8))
    (len : UInt8) :
    QueueMove q (.complete id code data len, .complete) (q.complete id code data len) := by
  unfold DxlJobQueue.complete
  by_cases hignored : q.slot ≠ .running ∨ id ≠ q.job_id
  · rw [if_pos hignored]
    exact .ignore
  · rw [if_neg hignored]
    obtain ⟨hrunning, hsame⟩ := not_or.mp hignored
    obtain rfl := not_not.mp hsame
    have hlen : (if len.toNat > kMaxResult then UInt8.ofNat kMaxResult else len).toNat =
        min len.toNat kMaxResult := by
      by_cases hlong : len.toNat > kMaxResult
      · rw [if_pos hlong, Nat.min_eq_right (by omega)]
        rfl
      · rw [if_neg hlong, Nat.min_eq_left (by omega)]
    refine .complete (not_not.mp hrunning) ⟨rfl, hlen, fun i hi => ?_⟩
    exact writeData_get _ _ _ (hlen ▸ Nat.min_le_right _ _) hi

theorem move_of_call (hstep : WithOutput DxlJobQueue.step q io r) : QueueMove q io r := by
  obtain ⟨call, answer⟩ := io
  cases call with
  | submit req =>
    cases hstep
    exact submit_move q req
  | poll id out =>
    cases hstep
    exact poll_move q id out
  | claim =>
    cases hstep
    exact claim_move q
  | complete id code data len =>
    cases hstep
    exact complete_move q id code data len

theorem not_accepts (hlabel : ∀ id, e.label.2 ≠ .submit (some id)) : ¬ Accepts e := by
  rintro ⟨req, id, hacc⟩
  exact hlabel id (congrArg Prod.snd hacc)

theorem not_claims (hlabel : ∀ job, e.label.2 ≠ .claim (some job)) : ¬ Claims e := by
  rintro ⟨req, id, hcl⟩
  exact hlabel (req, id) (congrArg Prod.snd hcl)

theorem not_accepts_of_claimed (hcl : Claimed req id e) : ¬ Accepts e := by
  refine not_accepts fun id' heq => ?_
  rw [hcl] at heq
  cases heq

theorem not_accepts_of_stored {res : DxlJobResult} (hst : Stored id res e) : ¬ Accepts e := by
  rintro ⟨req, id', hacc⟩
  obtain ⟨code, data, len, hcomp, -⟩ := hst
  cases (congrArg Prod.fst hacc).symm.trans hcomp.1

/-- A call that changes nothing is idle when it is neither an accepted submit nor a claim. -/
theorem idle_of_unchanged (hsame : e.post = e.pre) (hsubmit : ∀ id, e.label.2 ≠ .submit (some id))
    (hclaim : ∀ job, e.label.2 ≠ .claim (some job)) : Idle e :=
  ⟨not_accepts hsubmit, not_claims hclaim, fun ⟨_, _, _, _, hcomp⟩ => hcomp.2 hsame⟩

inductive JobMove (e : QueueEvent) : Prop where
  | accept (req : DxlJobRequest) (id : UInt8) (hacc : Accepted req id e)
      (hfree : e.pre.slot = .empty ∨ e.pre.slot = .done) (hid : id = e.pre.nextJobId)
      (hpost : e.post = { e.pre with req := req, next_id := id, job_id := id, slot := .pending })
  | claim (hcl : Claimed e.pre.req e.pre.job_id e) (hpending : e.pre.slot = .pending)
      (hpost : e.post = { e.pre with slot := .running })
  | complete (res : DxlJobResult) (hst : Stored e.pre.job_id res e) (hacc : ¬ Accepts e)
      (hrunning : e.pre.slot = .running)
      (hpost : e.post = { e.pre with result := res, slot := .done })
  | idle (hidle : Idle e) (hpost : e.post = e.pre)

theorem jobMove_of_move (hmove : QueueMove q io r) : JobMove ⟨q, io, r⟩ := by
  cases hmove with
  | refuse => exact .idle (idle_of_unchanged rfl nofun nofun) rfl
  | accept hfree => exact .accept _ _ rfl hfree rfl rfl
  | pollStale => exact .idle (idle_of_unchanged rfl nofun nofun) rfl
  | pollDone => exact .idle (idle_of_unchanged rfl nofun nofun) rfl
  | pollBusy => exact .idle (idle_of_unchanged rfl nofun nofun) rfl
  | nothing => exact .idle (idle_of_unchanged rfl nofun nofun) rfl
  | claim hpending => exact .claim rfl hpending rfl
  | ignore => exact .idle (idle_of_unchanged rfl nofun nofun) rfl
  | @complete code data len res hrunning hres =>
    refine .complete res ⟨code, data, len, ⟨rfl, fun hpost => ?_⟩, hres⟩ (not_accepts nofun)
      hrunning rfl
    have hslot := congrArg DxlJobQueue.slot hpost
    rw [hrunning] at hslot
    cases hslot

theorem jobMove_of_run (run : QueueRun (e :: h) q) : JobMove e :=
  jobMove_of_move (move_of_call run.of_cons.2.1)

def Account (h : List QueueEvent) (q : DxlJobQueue) : Prop :=
  match q.slot with
  | .empty => ∀ e ∈ h, ¬ Accepts e
  | .pending => Since Idle (Accepted q.req q.job_id) h
  | .running => Since Idle (Claimed q.req q.job_id) h ∧ LatestJob q.req q.job_id h
  | .done => Since Idle (Stored q.job_id q.result) h ∧ LatestJob q.req q.job_id h

theorem Account.idle (hacc : Account h q) (hidle : Idle e) : Account (e :: h) q := by
  unfold Account at hacc ⊢
  split at hacc
  · exact List.forall_mem_cons.mpr ⟨hidle.1, hacc⟩
  · exact .keep hidle hacc
  · exact ⟨.keep hidle hacc.1, .keep hidle.1 hacc.2⟩
  · exact ⟨.keep hidle hacc.1, .keep hidle.1 hacc.2⟩

theorem latestJob_of_pending (hacc : Account h q) (hpending : q.slot = .pending) :
    LatestJob q.req q.job_id h := by
  unfold Account at hacc
  rw [hpending] at hacc
  exact hacc.imp (fun _ _ hidle => hidle.1) (fun _ _ hq => hq)

theorem latestJob_of_running (hacc : Account h q) (hrunning : q.slot = .running) :
    LatestJob q.req q.job_id h := by
  unfold Account at hacc
  rw [hrunning] at hacc
  exact hacc.2

theorem Account.step (hacc : Account h e.pre) (hmove : JobMove e) : Account (e :: h) e.post := by
  cases hmove with
  | accept req id haccepted _ _ hpost =>
    rw [hpost]
    exact .now haccepted
  | claim hcl hpending hpost =>
    have hlatest := latestJob_of_pending hacc hpending
    rw [hpost]
    exact ⟨.now hcl, .keep (not_accepts_of_claimed hcl) hlatest⟩
  | complete res hst hnot hrunning hpost =>
    have hlatest := latestJob_of_running hacc hrunning
    rw [hpost]
    exact ⟨.now hst, .keep hnot hlatest⟩
  | idle hidle hpost =>
    rw [hpost]
    exact hacc.idle hidle

theorem account_of_run (run : QueueRun h q) : Account h q := by
  have hinit : Account [] {} := fun (e : QueueEvent) he => nomatch he
  refine run.history_invariant Account hinit ?_
  intro h s io t hrun hacc hstep
  exact Account.step (e := ⟨s, io, t⟩) hacc (jobMove_of_run (hrun.step hstep))

theorem account_before (run : QueueRun (later ++ e :: h) q) : Account h e.pre ∧ JobMove e := by
  obtain ⟨m, hrun⟩ := run.of_append
  exact ⟨account_of_run hrun.of_cons.2.2, jobMove_of_run hrun⟩

theorem claimed_once (run : QueueRun (later ++ e :: h) q) (hcl : Claimed req id e) :
    Since (fun x => ¬ Accepts x ∧ ¬ Claims x) (Accepted req id) h := by
  obtain ⟨hacc, hmove⟩ := account_before run
  cases hmove with
  | accept req' id' haccepted => cases haccepted.symm.trans hcl
  | claim hcl' hpending hpost =>
    cases hcl'.symm.trans hcl
    unfold Account at hacc
    rw [hpending] at hacc
    exact hacc.imp (fun _ _ hidle => ⟨hidle.1, hidle.2.1⟩) (fun _ _ hq => hq)
  | complete res hst =>
    obtain ⟨code, data, len, hcomp, -⟩ := hst
    cases (congrArg Prod.fst hcl).symm.trans hcomp.1
  | idle hidle => exact absurd ⟨req, id, hcl⟩ hidle.2.1

/-- The job `id` is running: it was claimed, and neither completed nor replaced since. -/
def JobRunning (id : UInt8) : List QueueEvent → Prop :=
  Since (fun x => ¬ Accepts x ∧ ¬ Completes x) (fun x => ∃ req, Claimed req id x)

theorem completes_running {code : Code} {data : Option (List UInt8)} {len : UInt8}
    (run : QueueRun (later ++ e :: h) q) (hcomp : Completed id code data len e) :
    JobRunning id h := by
  obtain ⟨hacc, hmove⟩ := account_before run
  cases hmove with
  | accept req' id' haccepted =>
    cases (congrArg Prod.fst haccepted).symm.trans hcomp.1
  | claim hcl => cases (congrArg Prod.fst hcl).symm.trans hcomp.1
  | complete res hst hnot hrunning =>
    obtain ⟨code', data', len', hcomp', -⟩ := hst
    cases hcomp'.1.symm.trans hcomp.1
    unfold Account at hacc
    rw [hrunning] at hacc
    exact hacc.1.imp (fun _ _ hidle => ⟨hidle.1, hidle.2.2⟩) (fun _ _ hq => ⟨_, hq⟩)
  | idle hidle hpost => exact absurd hpost hcomp.2

theorem resultFor_of_since {res : DxlJobResult} (hst : Since Idle (Stored id res) h)
    (hlatest : LatestJob req id h) : ResultFor req id res h := by
  induction h with
  | nil => exact absurd hst since_nil
  | cons e h ih =>
    rcases since_cons.mp hst with hnow | ⟨hidle, hbefore⟩
    · have hnot : ¬ Accepted req id e := fun haccepted =>
        not_accepts_of_stored hnow ⟨req, id, haccepted⟩
      obtain ⟨mid, a, before, rfl, haccepted, hmid⟩ := since_iff.mp (hlatest.resolve_left hnot).2
      exact ⟨[], e, mid, a, before, rfl, haccepted, hmid, hnow,
        fun x hx => absurd hx List.not_mem_nil⟩
    · have hnot : ¬ Accepted req id e := fun haccepted => hidle.1 ⟨req, id, haccepted⟩
      obtain ⟨later, d, mid, a, before, rfl, hrest⟩ := ih hbefore (hlatest.resolve_left hnot).2
      obtain ⟨haccepted, hmid, hd, hlater⟩ := hrest
      exact ⟨e :: later, d, mid, a, before, rfl, haccepted, hmid, hd,
        List.forall_mem_cons.mpr ⟨hidle, hlater⟩⟩

theorem polled_latest {out res : DxlJobResult} (run : QueueRun (later ++ e :: h) q)
    (hpoll : e.label = (.poll id out, .poll .done res)) : ∃ req, ResultFor req id res h := by
  obtain ⟨m, hrun⟩ := run.of_append
  obtain ⟨-, hstep, hbefore⟩ := hrun.of_cons
  have hacc := account_of_run hbefore
  have hmove := move_of_call hstep
  rw [hpoll] at hmove
  generalize e.pre = pre at hmove hacc
  generalize e.post = post at hmove
  cases hmove with
  | pollDone hid hdone =>
    unfold Account at hacc
    rw [hdone] at hacc
    exact ⟨_, resultFor_of_since hacc.1 hacc.2⟩
  | pollBusy hslot hbusy => exact absurd rfl hbusy

theorem slot_of_accepted (hmove : JobMove e) (haccepted : Accepted req id e) :
    e.post.req = req ∧ e.post.job_id = id ∧ e.post.slot = .pending := by
  cases hmove with
  | accept req' id' haccepted' _ _ hpost =>
    cases haccepted'.symm.trans haccepted
    rw [hpost]
    exact ⟨rfl, rfl, rfl⟩
  | claim hcl => cases hcl.symm.trans haccepted
  | complete res hst hnot => exact absurd ⟨req, id, haccepted⟩ hnot
  | idle hidle => exact absurd ⟨req, id, haccepted⟩ hidle.1

theorem slot_kept (hmove : JobMove e) (hslot : e.pre.slot = .pending ∨ e.pre.slot = .running)
    (hopen : ∀ code data len, ¬ Completed e.pre.job_id code data len e) :
    e.post.req = e.pre.req ∧ e.post.job_id = e.pre.job_id ∧
      (e.post.slot = .pending ∨ e.post.slot = .running) ∧ ¬ Accepts e := by
  cases hmove with
  | accept req id _ hfree =>
    rcases hslot with hslot | hslot <;> rw [hslot] at hfree <;> rcases hfree with hf | hf <;> cases hf
  | claim hcl _ hpost =>
    rw [hpost]
    exact ⟨rfl, rfl, .inr rfl, not_accepts_of_claimed hcl⟩
  | complete res hst =>
    obtain ⟨code, data, len, hcomp, -⟩ := hst
    exact absurd hcomp (hopen code data len)
  | idle hidle hpost =>
    rw [hpost]
    exact ⟨rfl, rfl, hslot, hidle.1⟩

/-- Until it is completed, an accepted job stays in the slot and no other is accepted. -/
theorem kept_until_completed (run : QueueRun (later ++ e :: h) q) (haccepted : Accepted req id e)
    (hopen : ∀ x ∈ later, ∀ code data len, ¬ Completed id code data len x) :
    q.req = req ∧ q.job_id = id ∧ (q.slot = .pending ∨ q.slot = .running) ∧
      ∀ x ∈ later, ¬ Accepts x := by
  induction later generalizing q with
  | nil =>
    obtain ⟨hreq, hid, hslot⟩ := slot_of_accepted (jobMove_of_run run) haccepted
    rw [run.of_cons.1] at hreq hid hslot
    exact ⟨hreq, hid, .inl hslot, fun x hx => absurd hx List.not_mem_nil⟩
  | cons x later ih =>
    obtain ⟨hq, -, hbefore⟩ := run.of_cons
    obtain ⟨hopenx, hopen⟩ := List.forall_mem_cons.mp hopen
    obtain ⟨hreq, hid, hslot, hnone⟩ := ih hbefore hopen
    subst hq
    rw [← hid] at hopenx
    obtain ⟨hreq', hid', hslot', hnot⟩ := slot_kept (jobMove_of_run run) hslot hopenx
    exact ⟨hreq'.trans hreq, hid'.trans hid, hslot', List.forall_mem_cons.mpr ⟨hnot, hnone⟩⟩

/-- The id of the `n`-th accepted job. -/
def nthId (n : Nat) : UInt8 := UInt8.ofNat (n % 255 + 1)

theorem nthId_toNat (n : Nat) : (nthId n).toNat = n % 255 + 1 := by
  unfold nthId
  rw [UInt8.toNat_ofNat']
  exact Nat.mod_eq_of_lt (by omega)

/-- The ids of the first `n` jobs, latest first. -/
def firstIds : Nat → List UInt8
  | 0 => []
  | n + 1 => nthId n :: firstIds n

theorem firstIds_get {n i : Nat} {id : UInt8} (hget : (firstIds n)[i]? = some id) :
    i < n ∧ id = nthId (n - 1 - i) := by
  induction n generalizing i with
  | zero => cases hget
  | succ n ih =>
    cases i with
    | zero =>
      cases hget
      exact ⟨by omega, rfl⟩
    | succ i =>
      obtain ⟨hlt, hid⟩ := ih hget
      have hsub : n + 1 - 1 - (i + 1) = n - 1 - i := by omega
      rw [hsub]
      exact ⟨by omega, hid⟩

theorem nextJobId_eq {n : Nat} (hnext : q.next_id = (firstIds n).headD 0) :
    q.nextJobId = nthId n := by
  unfold DxlJobQueue.nextJobId
  rw [hnext]
  cases n with
  | zero => rfl
  | succ n =>
    have hval : (nthId n + 1).toNat = (n % 255 + 2) % 256 := by
      rw [UInt8.toNat_add, nthId_toNat]
      rfl
    by_cases hwrap : nthId n + 1 = 0
    · have hzero : (n % 255 + 2) % 256 = 0 := by rw [← hval, hwrap]; rfl
      rw [firstIds, List.headD_cons, if_pos hwrap]
      refine UInt8.toNat_inj.mp ?_
      rw [nthId_toNat]
      change 1 = _
      omega
    · have hne : (n % 255 + 2) % 256 ≠ 0 := fun hzero =>
        hwrap (UInt8.toNat_inj.mp (hval.trans hzero))
      rw [firstIds, List.headD_cons, if_neg hwrap]
      refine UInt8.toNat_inj.mp ?_
      rw [hval, nthId_toNat]
      omega

/-- The ids returned so far are the first ones in order, and the counter is the latest of them. -/
def IdsInOrder (h : List QueueEvent) (q : DxlJobQueue) : Prop :=
  ∃ n, returnedIds h = firstIds n ∧ q.next_id = (firstIds n).headD 0

theorem returnedIds_accepted (haccepted : Accepted req id e) :
    returnedIds (e :: h) = id :: returnedIds h := by
  refine List.filterMap_cons_some ?_
  rw [haccepted]

theorem returnedIds_of_not (hnot : ¬ Accepts e) : returnedIds (e :: h) = returnedIds h := by
  refine List.filterMap_cons_none ?_
  split
  next req job_id heq =>
    cases job_id with
    | none => rfl
    | some id => exact absurd ⟨req, id, heq⟩ hnot
  next => rfl

theorem IdsInOrder.step (hids : IdsInOrder h e.pre) (hmove : JobMove e) :
    IdsInOrder (e :: h) e.post := by
  obtain ⟨n, hret, hnext⟩ := hids
  cases hmove with
  | accept req id haccepted _ hid hpost =>
    rw [nextJobId_eq hnext] at hid
    refine ⟨n + 1, ?_, ?_⟩
    · rw [returnedIds_accepted haccepted, hret, hid]
      rfl
    · rw [hpost, hid]
      rfl
  | claim hcl _ hpost =>
    refine ⟨n, (returnedIds_of_not (not_accepts_of_claimed hcl)).trans hret, ?_⟩
    rw [hpost]
    exact hnext
  | complete res _ hnot _ hpost =>
    refine ⟨n, (returnedIds_of_not hnot).trans hret, ?_⟩
    rw [hpost]
    exact hnext
  | idle hidle hpost =>
    refine ⟨n, (returnedIds_of_not hidle.1).trans hret, ?_⟩
    rw [hpost]
    exact hnext

theorem idsInOrder_of_run (run : QueueRun h q) : IdsInOrder h q := by
  refine run.history_invariant IdsInOrder ⟨0, rfl, rfl⟩ ?_
  intro h s io t hrun hids hstep
  exact IdsInOrder.step (e := ⟨s, io, t⟩) hids (jobMove_of_run (hrun.step hstep))

theorem returnedIds_ne_zero (run : QueueRun h q) : 0 ∉ returnedIds h := by
  obtain ⟨n, hret, -⟩ := idsInOrder_of_run run
  intro hmem
  rw [hret] at hmem
  obtain ⟨i, hget⟩ := List.mem_iff_getElem?.mp hmem
  have hval := congrArg UInt8.toNat (firstIds_get hget).2
  rw [nthId_toNat] at hval
  cases hval

theorem returnedIds_apart (run : QueueRun h q) {i j : Nat} (hlt : i < j)
    (hi : (returnedIds h)[i]? = some id) (hj : (returnedIds h)[j]? = some id) : i + 255 ≤ j := by
  obtain ⟨n, hret, -⟩ := idsInOrder_of_run run
  rw [hret] at hi hj
  obtain ⟨hin, hidi⟩ := firstIds_get hi
  obtain ⟨hjn, hidj⟩ := firstIds_get hj
  have hval := congrArg UInt8.toNat (hidi.symm.trans hidj)
  rw [nthId_toNat, nthId_toNat] at hval
  omega

structure JobHandoff (h : List QueueEvent) (q : DxlJobQueue) : Prop where
  /-- A claim returns the request and the id of the latest accepted job, which was not claimed
  before. -/
  claimed : ∀ later e earlier req id, h = later ++ e :: earlier → Claimed req id e →
    Since (fun x => ¬ Accepts x ∧ ¬ Claims x) (Accepted req id) earlier
  /-- As long as an accepted job is not completed, the slot holds it and no other is accepted. -/
  kept : ∀ later e earlier req id, h = later ++ e :: earlier → Accepted req id e →
    (∀ x ∈ later, ∀ code data len, ¬ Completed id code data len x) →
    q.req = req ∧ q.job_id = id ∧ ∀ x ∈ later, ¬ Accepts x
  /-- A complete has no effect unless it names the running job. -/
  completed : ∀ later e earlier id code data len, h = later ++ e :: earlier →
    e.label.1 = .complete id code data len → ¬ JobRunning id earlier → e.post = e.pre
  /-- A poll answers done with the result stored for the latest accepted job, when it returned the id
  that is polled. -/
  polled : ∀ later e earlier id out res, h = later ++ e :: earlier →
    e.label = (.poll id out, .poll .done res) → ∃ req, ResultFor req id res earlier
  ids_ne_zero : 0 ∉ returnedIds h
  /-- Between a submit that returned an id and the next that returns it there are 254 others. -/
  ids_apart : ∀ i j id, i < j → (returnedIds h)[i]? = some id → (returnedIds h)[j]? = some id →
    i + 255 ≤ j

theorem dxl_job_handoff {h : List QueueEvent} {q : DxlJobQueue} (run : QueueRun h q) :
    JobHandoff h q where
  claimed later e earlier req id heq hcl := claimed_once (heq ▸ run) hcl
  kept later e earlier req id heq haccepted hopen := by
    obtain ⟨hreq, hid, -, hnone⟩ := kept_until_completed (heq ▸ run) haccepted hopen
    exact ⟨hreq, hid, hnone⟩
  completed later e earlier id code data len heq hlabel hrunning := by
    by_contra hpost
    exact hrunning (completes_running (heq ▸ run) ⟨hlabel, hpost⟩)
  polled later e earlier id out res heq hpoll := polled_latest (heq ▸ run) hpoll
  ids_ne_zero := returnedIds_ne_zero run
  ids_apart _ _ _ hlt hi hj := returnedIds_apart run hlt hi hj

/-- A ping that is submitted, claimed, completed twice and polled. -/
def pingCalls : List QueueCall :=
  [.submit { type := .ping, arg0 := 7 }, .claim, .complete 1 .ok (some [7]) 1,
    .complete 1 .notFound none 0, .poll 1 {}]

theorem dxl_job_handoff_ping :
    JobHandoff (record DxlJobQueue.step {} [] pingCalls).2
      (record DxlJobQueue.step {} [] pingCalls).1 :=
  dxl_job_handoff (run_record DxlJobQueue.step pingCalls .nil)

end HexapodVerified.Protocol
