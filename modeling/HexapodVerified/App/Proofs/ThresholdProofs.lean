import HexapodVerified.App.SensorService
import HexapodVerified.Sensors.Proofs.ContactFootProofs

/-!
# Which thresholds a foot has

A service step makes the thresholds of all feet those of the staged table when a command was accepted
since the last one, and else those of the configuration when that was replaced. The table is zero for a
foot that no command has named, and the configuration knows nothing of the commands; so the feet
have what they should only as far as table and configuration agree.
-/

namespace HexapodVerified.App

open HexapodVerified.Config HexapodVerified.Protocol HexapodVerified.Sensors Bytes Transition

variable {s t : SensorTasks} {h : List SensorEvent} {e : SensorEvent} {m : ContactEstimator}
  {i : Fin kNumFeet} {config : RobotConfig} {revision : UInt32} {a : SensorStep}

structure Thresholds where
  near : UInt16 := 0
  touch : UInt16 := 0
  load : UInt16 := 0
  deriving DecidableEq, Repr

def configured (cfg : RobotConfig) (i : Fin kNumFeet) : Thresholds where
  near := (cfg.feet.get i).near_thresh
  touch := (cfg.feet.get i).touch_thresh
  load := (cfg.feet.get i).load_thresh

def staged (table : ContactThresholds) (i : Fin kNumFeet) : Thresholds where
  near := table.near_thresh.get i
  touch := table.touch_thresh.get i
  load := table.load_thresh.get i

/-- The estimator works with these thresholds, and with the release threshold that belongs to them. -/
structure FootHas (m : ContactEstimator) (i : Fin kNumFeet) (th : Thresholds) : Prop where
  near : (m.feet.get i).ctx.near_thresh = th.near.toNat
  touch : (m.feet.get i).ctx.touch_thresh = th.touch.toNat
  load : (m.feet.get i).ctx.load_thresh = th.load.toNat
  release : (m.feet.get i).ctx.release_thresh = releaseThresh {} th.touch

theorem FootHas.unique {th th' : Thresholds} (hhas : FootHas m i th) (hhas' : FootHas m i th') :
    th = th' := by
  obtain ⟨near, touch, load⟩ := th
  obtain ⟨near', touch', load'⟩ := th'
  have hnear : near = near' :=
    UInt16.toNat_inj.mp (Int.ofNat_inj.mp (hhas.near.symm.trans hhas'.near))
  have htouch : touch = touch' :=
    UInt16.toNat_inj.mp (Int.ofNat_inj.mp (hhas.touch.symm.trans hhas'.touch))
  have hload : load = load' :=
    UInt16.toNat_inj.mp (Int.ofNat_inj.mp (hhas.load.symm.trans hhas'.load))
  rw [hnear, htouch, hload]

theorem configure_has (m : ContactEstimator) (cfg : RobotConfig) (i : Fin kNumFeet) :
    FootHas (m.configure cfg.feet {}) i (configured cfg i) := by
  have hget : (m.configure cfg.feet {}).feet.get i = _ := get_call m (.configure cfg.feet {}) i
  constructor
  all_goals rw [hget]; rfl

theorem get_applyRow (t : ContactThresholds) (m : ContactEstimator) (i j : Fin kNumFeet) :
    (applyRow t m j).feet.get i =
      if j = i then
        (m.feet.get i).setThresholds m.params.guarded (t.near_thresh.get i) (t.touch_thresh.get i)
          (t.load_thresh.get i)
      else m.feet.get i := by
  unfold applyRow
  rw [get_setThresholds]
  by_cases hij : j = i
  · subst hij
    rw [if_pos rfl, if_pos rfl]
  · rw [if_neg hij, if_neg fun hval => hij (Fin.ext hval)]

theorem params_applyRow (t : ContactThresholds) (m : ContactEstimator) (j : Fin kNumFeet) :
    (applyRow t m j).params = m.params.guarded :=
  (params_call m (.setThresholds j.val _ _ _)).trans (if_pos j.isLt)

/-- The loop over the table gives every foot its row. -/
theorem get_applyTable (t : ContactThresholds) (m : ContactEstimator) (i : Fin kNumFeet) :
    ((List.finRange kNumFeet).foldl (applyRow t) m).feet.get i =
      (m.feet.get i).setThresholds m.params.guarded (t.near_thresh.get i) (t.touch_thresh.get i)
        (t.load_thresh.get i) := by
  have hparams (m : ContactEstimator) (j : Fin kNumFeet) :
      (applyRow t m j).params.guarded = m.params.guarded := by
    rw [params_applyRow, guarded_guarded]
  rw [get_foldl (g := fun params i => .setThresholds params (t.near_thresh.get i)
    (t.touch_thresh.get i) (t.load_thresh.get i)) hparams (get_applyRow t) (List.nodup_finRange _),
    if_pos (List.mem_finRange i)]

theorem applyTable_has (hparams : m.params = {}) (t : ContactThresholds) (i : Fin kNumFeet) :
    FootHas ((List.finRange kNumFeet).foldl (applyRow t) m) i (staged t i) := by
  constructor
  all_goals rw [get_applyTable, hparams]; rfl

theorem applyTable_params (hparams : m.params = {}) (t : ContactThresholds) :
    ((List.finRange kNumFeet).foldl (applyRow t) m).params = {} := by
  refine List.foldlRecOn (motive := fun m : ContactEstimator => m.params = {}) _ _ hparams fun m hm j _ => ?_
  rw [params_applyRow, hm]
  rfl

def acceptedFor (req : List UInt8) : Option (Fin kNumFeet × Thresholds) :=
  if req.length < 7 then none
  else if hfoot : (req.getD 0 0).toNat < kNumFeet then
    some (⟨_, hfoot⟩,
      { near := getU16 (req.drop 1), touch := getU16 (req.drop 3), load := getU16 (req.drop 5) })
  else none

theorem handle_refused {api : SensorApi} {req : List UInt8} (hreq : acceptedFor req = none) :
    (api.handleContactSetThresholds req).1 = api := by
  unfold acceptedFor at hreq
  unfold SensorApi.handleContactSetThresholds
  by_cases hlen : req.length < 7
  · rw [if_pos hlen]
  · rw [if_neg hlen] at hreq ⊢
    by_cases hfoot : (req.getD 0 0).toNat < kNumFeet
    · rw [dif_pos hfoot] at hreq
      cases hreq
    · dsimp only
      rw [if_pos (Nat.not_lt.mp hfoot)]

theorem handle_accepted (api : SensorApi) {req : List UInt8} {foot : Fin kNumFeet} {th : Thresholds}
    (hreq : acceptedFor req = some (foot, th)) :
    (api.handleContactSetThresholds req).1.threshold_seq = api.threshold_seq + 1 ∧
      ∀ i, staged (api.handleContactSetThresholds req).1.thresholds i =
        if foot = i then th else staged api.thresholds i := by
  unfold acceptedFor at hreq
  unfold SensorApi.handleContactSetThresholds
  by_cases hlen : req.length < 7
  · rw [if_pos hlen] at hreq
    cases hreq
  · rw [if_neg hlen] at hreq ⊢
    by_cases hfoot : (req.getD 0 0).toNat < kNumFeet
    · rw [dif_pos hfoot, Option.some.injEq, Prod.mk.injEq] at hreq
      obtain ⟨rfl, rfl⟩ := hreq
      rw [if_neg (Nat.not_le.mpr hfoot)]
      refine ⟨rfl, fun i => ?_⟩
      have hself : ∀ (xs : Vector UInt16 kNumFeet) (x : UInt16),
          (xs.setIfInBounds (req.getD 0 0).toNat x).get ⟨_, hfoot⟩ = x := fun xs x =>
        Vector.getElem_setIfInBounds_self hfoot
      have hother : ∀ (xs : Vector UInt16 kNumFeet) (x : UInt16), ⟨_, hfoot⟩ ≠ i →
          (xs.setIfInBounds (req.getD 0 0).toNat x).get i = xs.get i := fun xs x hne =>
        Vector.getElem_setIfInBounds_ne i.isLt fun hval => hne (Fin.ext hval)
      by_cases heq : (⟨_, hfoot⟩ : Fin kNumFeet) = i
      · subst heq
        rw [if_pos rfl]
        simp only [staged]
        rw [hself, hself, hself]
      · rw [if_neg heq]
        simp only [staged]
        rw [hother _ _ heq, hother _ _ heq, hother _ _ heq]
    · rw [dif_neg hfoot] at hreq
      cases hreq

/-! ## What a history asks for -/

def latestFor : List SensorEvent → Fin kNumFeet → Option Thresholds
  | [], _ => none
  | e :: h, i =>
    match e.label with
    | .setThresholds req =>
      match acceptedFor req with
      | some (foot, th) => if foot = i then some th else latestFor h i
      | none => latestFor h i
    | _ => latestFor h i

/-- What the foot should have: its latest command, or else the configuration. -/
def wanted (h : List SensorEvent) (cfg : RobotConfig) (i : Fin kNumFeet) : Thresholds :=
  (latestFor h i).getD (configured cfg i)

/-- A command was accepted since the last service step. -/
def commandPending : List SensorEvent → Bool
  | [] => false
  | e :: h =>
    match e.label with
    | .setThresholds req => (acceptedFor req).isSome || commandPending h
    | .replaceConfig _ => commandPending h
    | .service => false

/-- The configuration was replaced since the last service step, or there was none yet. -/
def configPending : List SensorEvent → Bool
  | [] => true
  | e :: h =>
    match e.label with
    | .setThresholds _ => configPending h
    | .replaceConfig _ => true
    | .service => false

/-- Every service step of the history satisfies the property, given what came before it. -/
def AtServices (P : List SensorEvent → SensorEvent → Prop) : List SensorEvent → Prop
  | [] => True
  | e :: h => (e.label = .service → P h e) ∧ AtServices P h

/-- After the service step every foot has what it should. -/
def FeetRight (h : List SensorEvent) (e : SensorEvent) : Prop :=
  ∀ i, FootHas e.post.g_contact i (wanted h e.pre.config i)

/-- The counters tell that something happened: neither has wrapped around since it was looked at. -/
def CountersTell (h : List SensorEvent) (e : SensorEvent) : Prop :=
  (commandPending h = true → e.pre.g_sensorApi.threshold_seq ≠ e.pre.applied_threshold_seq) ∧
    (configPending h = true → e.pre.revision ≠ e.pre.applied_cfg_rev)

/-- Table and configuration agree where the service step takes one for the other: after a command, the
configuration is all zero for every foot that no command has named; after a mere replacement of the
configuration, it has the thresholds of the latest command for every foot that one has named. -/
def TableAgrees (h : List SensorEvent) (e : SensorEvent) : Prop :=
  if commandPending h then ∀ i, latestFor h i = none → configured e.pre.config i = {}
  else configPending h = true → ∀ i, ∀ th ∈ latestFor h i, configured e.pre.config i = th

structure SensorInv (h : List SensorEvent) (s : SensorTasks) : Prop where
  params : s.g_contact.params = {}
  table : ∀ i, staged s.g_sensorApi.thresholds i = (latestFor h i).getD {}
  seq : commandPending h = false → s.g_sensorApi.threshold_seq = s.applied_threshold_seq
  rev : configPending h = false → s.revision = s.applied_cfg_rev

theorem SensorInv.applyConfig (hinv : SensorInv h s)
    (htell : configPending h = true → s.revision ≠ s.applied_cfg_rev) :
    s.applyConfig.g_contact.params = {} ∧ s.applyConfig.applied_cfg_rev = s.revision ∧
      s.applyConfig.revision = s.revision ∧ s.applyConfig.g_sensorApi = s.g_sensorApi ∧
      s.applyConfig.applied_threshold_seq = s.applied_threshold_seq ∧
      (configPending h = true → ∀ i, FootHas s.applyConfig.g_contact i (configured s.config i)) ∧
      (configPending h = false → s.applyConfig.g_contact = s.g_contact) := by
  unfold SensorTasks.applyConfig
  by_cases hne : s.revision ≠ s.applied_cfg_rev
  · rw [if_pos hne]
    exact ⟨rfl, rfl, rfl, rfl, rfl, fun _ => configure_has s.g_contact s.config,
      fun hnone => absurd (hinv.rev hnone) hne⟩
  · rw [if_neg hne]
    exact ⟨hinv.params, (not_not.mp hne).symm, rfl, rfl, rfl,
      fun hpending => absurd (htell hpending) hne, fun _ => rfl⟩

theorem SensorInv.service (hinv : SensorInv h s) (htell : CountersTell h ⟨s, .service, t⟩) :
    SensorInv (⟨s, .service, s.step .service⟩ :: h) (s.step .service) ∧
      (commandPending h = true →
        ∀ i, FootHas (s.step .service).g_contact i (staged s.g_sensorApi.thresholds i)) ∧
      (commandPending h = false → configPending h = true →
        ∀ i, FootHas (s.step .service).g_contact i (configured s.config i)) ∧
      (commandPending h = false → configPending h = false →
        (s.step .service).g_contact = s.g_contact) := by
  obtain ⟨hseq, hrev⟩ := htell
  obtain ⟨hparams, happlied, hrevision, hapi, hbefore, hconfig, hsame⟩ := hinv.applyConfig hrev
  have hstep : s.step .service =
      { s.applyConfig with toContactTasks := s.applyConfig.applyThresholds } := rfl
  rw [hstep]
  unfold ContactTasks.applyThresholds
  rw [hapi, hbefore]
  by_cases hne : s.g_sensorApi.threshold_seq ≠ s.applied_threshold_seq
  · rw [if_pos hne]
    have hcommand : commandPending h = true :=
      Bool.eq_true_of_not_eq_false fun hnone => hne (hinv.seq hnone)
    refine ⟨⟨applyTable_params hparams _, hinv.table, fun _ => rfl, fun _ => ?_⟩,
      fun _ => applyTable_has hparams _, fun hnone => ?_, fun hnone => ?_⟩
    · show s.applyConfig.revision = s.applyConfig.applied_cfg_rev
      rw [hrevision, happlied]
    · exact nomatch hnone.symm.trans hcommand
    · exact nomatch hnone.symm.trans hcommand
  · rw [if_neg hne]
    have hcommand : commandPending h = false :=
      eq_false_of_ne_true fun hpending => hne (hseq hpending)
    refine ⟨⟨hparams, ?_, fun _ => ?_, fun _ => ?_⟩, fun hpending => ?_,
      fun _ hpending => hconfig hpending, fun _ hnone => hsame hnone⟩
    · rw [hapi]
      exact hinv.table
    · rw [hapi, hbefore]
      exact not_not.mp hne
    · rw [hrevision, happlied]
    · exact nomatch hcommand.symm.trans hpending

theorem SensorInv.request (hinv : SensorInv h s) (ha : a ≠ .service) :
    SensorInv (⟨s, a, s.step a⟩ :: h) (s.step a) := by
  cases a with
  | setThresholds req =>
    cases hreq : acceptedFor req with
    | none =>
      have hsame : s.step (.setThresholds req) = s := by
        show { s with
          g_sensorApi.toSensorApi := (s.g_sensorApi.handleContactSetThresholds req).1 } = s
        rw [handle_refused hreq]
      rw [hsame]
      refine ⟨hinv.params, fun i => ?_, fun hnone => ?_, hinv.rev⟩
      · rw [latestFor]
        dsimp only
        rw [hreq]
        exact hinv.table i
      · rw [commandPending] at hnone
        dsimp only at hnone
        rw [hreq] at hnone
        exact hinv.seq hnone
    | some accepted =>
      obtain ⟨foot, th⟩ := accepted
      obtain ⟨hseq, htable⟩ := handle_accepted s.g_sensorApi.toSensorApi hreq
      refine ⟨hinv.params, fun i => ?_, fun hnone => ?_, hinv.rev⟩
      · show staged (s.g_sensorApi.handleContactSetThresholds req).1.thresholds i = _
        rw [htable, latestFor]
        dsimp only
        rw [hreq]
        dsimp only
        by_cases heq : foot = i
        · rw [if_pos heq, if_pos heq, Option.getD_some]
        · rw [if_neg heq, if_neg heq]
          exact hinv.table i
      · rw [commandPending] at hnone
        dsimp only at hnone
        rw [hreq] at hnone
        exact nomatch hnone
  | replaceConfig cfg =>
    exact ⟨hinv.params, hinv.table, hinv.seq, nofun⟩
  | service => exact absurd rfl ha

theorem SensorInv.step (hinv : SensorInv h s)
    (htell : a = .service → CountersTell h ⟨s, a, s.step a⟩) :
    SensorInv (⟨s, a, s.step a⟩ :: h) (s.step a) := by
  by_cases ha : a = .service
  · subst ha
    exact (hinv.service (htell rfl)).1
  · exact hinv.request ha

theorem sensorInv_start (config : RobotConfig) (revision : UInt32) :
    SensorInv [] (SensorTasks.start config revision) := by
  refine ⟨rfl, fun i => ?_, fun _ => rfl, nofun⟩
  have hzero : ∀ i : Fin kNumFeet, staged {} i = {} := by decide
  exact hzero i

/-- A service step that has something to do leaves the feet right exactly if table and configuration
agree. -/
theorem SensorInv.feetRight_iff (hinv : SensorInv h s)
    (htell : CountersTell h ⟨s, .service, s.step .service⟩)
    (hpending : commandPending h = true ∨ configPending h = true) :
    FeetRight h ⟨s, .service, s.step .service⟩ ↔ TableAgrees h ⟨s, .service, s.step .service⟩ := by
  obtain ⟨-, hcommand, hconfig, -⟩ := hinv.service htell
  unfold FeetRight TableAgrees wanted
  cases hpend : commandPending h with
  | true =>
    rw [if_pos rfl]
    constructor
    · intro hright i hnone
      have hhas := (hcommand hpend i).unique (hright i)
      rw [hinv.table i, hnone] at hhas
      exact hhas.symm
    · intro hzero i
      have hhas := hcommand hpend i
      rw [hinv.table i] at hhas
      cases hlatest : latestFor h i with
      | none =>
        rw [hlatest] at hhas
        rw [Option.getD_none, hzero i hlatest]
        exact hhas
      | some th =>
        rw [hlatest] at hhas
        exact hhas
  | false =>
    rw [hpend] at hpending
    have hreplaced := hpending.resolve_left Bool.false_ne_true
    rw [if_neg Bool.false_ne_true]
    constructor
    · intro hright _ i th hth
      have hhas := (hconfig hpend hreplaced i).unique (hright i)
      rw [Option.mem_def.mp hth, Option.getD_some] at hhas
      exact hhas
    · intro hagree i
      have hhas := hconfig hpend hreplaced i
      cases hlatest : latestFor h i with
      | none =>
        rw [Option.getD_none]
        exact hhas
      | some th =>
        rw [Option.getD_some, ← hagree hreplaced i th hlatest]
        exact hhas

/-- What is known of a run besides: as long as nothing happens, the feet stay as the last service step
has left them. -/
structure SettledInv (h : List SensorEvent) (s : SensorTasks) : Prop extends SensorInv h s where
  settled : AtServices FeetRight h → commandPending h = false → configPending h = false →
    ∀ i, FootHas s.g_contact i (wanted h s.config i)

theorem service_config (s : SensorTasks) : (s.step .service).config = s.config := by
  show s.applyConfig.config = s.config
  unfold SensorTasks.applyConfig
  split_ifs <;> rfl

/-- Right after a service step nothing is pending, and the feet are as it has left them. -/
theorem SettledInv.service (hinv : SettledInv h s)
    (htell : CountersTell h ⟨s, .service, s.step .service⟩) :
    SettledInv (⟨s, .service, s.step .service⟩ :: h) (s.step .service) ∧
      (AtServices FeetRight h → (FeetRight h ⟨s, .service, s.step .service⟩ ↔
        TableAgrees h ⟨s, .service, s.step .service⟩)) := by
  refine ⟨⟨hinv.toSensorInv.step fun _ => htell, fun hright _ _ i => ?_⟩, fun hright => ?_⟩
  · rw [service_config]
    exact hright.1 rfl i
  · cases hcommand : commandPending h with
    | true => exact hinv.feetRight_iff htell (.inl hcommand)
    | false =>
      cases hconfig : configPending h with
      | true => exact hinv.feetRight_iff htell (.inr hconfig)
      | false =>
        obtain ⟨-, -, -, hsame⟩ := hinv.toSensorInv.service htell
        refine iff_of_true (fun i => ?_) ?_
        · show FootHas (s.step .service).g_contact i _
          rw [hsame hcommand hconfig]
          exact hinv.settled hright hcommand hconfig i
        · unfold TableAgrees
          rw [hcommand, if_neg Bool.false_ne_true, hconfig]
          exact nofun

theorem SettledInv.request (hinv : SettledInv h s) (ha : a ≠ .service) :
    SettledInv (⟨s, a, s.step a⟩ :: h) (s.step a) := by
  refine ⟨hinv.toSensorInv.request ha, fun hright hcommand hconfig i => ?_⟩
  cases a with
  | setThresholds req =>
    rw [commandPending, Bool.or_eq_false_iff, Option.isSome_eq_false_iff, Option.isNone_iff_eq_none]
      at hcommand
    have hlatest : latestFor (⟨s, .setThresholds req, s.step (.setThresholds req)⟩ :: h) i =
        latestFor h i := by
      rw [latestFor]
      dsimp only
      rw [hcommand.1]
    unfold wanted
    rw [hlatest]
    exact hinv.settled hright.2 hcommand.2 hconfig i
  | replaceConfig cfg => exact nomatch hconfig
  | service => exact absurd rfl ha

theorem settledInv_run (run : SensorRun config revision h s) (htell : AtServices CountersTell h) :
    SettledInv h s ∧ (AtServices FeetRight h ↔ AtServices TableAgrees h) := by
  refine run.history_invariant (fun h s => AtServices CountersTell h →
    SettledInv h s ∧ (AtServices FeetRight h ↔ AtServices TableAgrees h)) ?_ ?_ htell
  · exact fun _ => ⟨⟨sensorInv_start config revision,
      fun _ _ hnone => nomatch hnone⟩, Iff.rfl⟩
  · rintro h s a t _ ih rfl ⟨htell, hbefore⟩
    obtain ⟨hinv, hiff⟩ := ih hbefore
    by_cases ha : a = .service
    · subst ha
      obtain ⟨hinv', hservice⟩ := hinv.service (htell rfl)
      refine ⟨hinv', fun hright => ?_, fun hagree => ?_⟩
      · exact ⟨fun _ => (hservice hright.2).mp (hright.1 rfl), hiff.mp hright.2⟩
      · have hright := hiff.mpr hagree.2
        exact ⟨fun _ => (hservice hright).mpr (hagree.1 rfl), hright⟩
    · refine ⟨hinv.request ha, fun hright => ?_, fun hagree => ?_⟩
      · exact ⟨fun hlabel => absurd hlabel ha, hiff.mp hright.2⟩
      · exact ⟨fun hlabel => absurd hlabel ha, hiff.mpr hagree.2⟩

/-- As long as the counters tell that something happened, every service step leaves the feet right
exactly if table and configuration agree at every service step. -/
theorem thresholds_right_iff (run : SensorRun config revision h s)
    (htell : AtServices CountersTell h) :
    AtServices FeetRight h ↔ AtServices TableAgrees h := (settledInv_run run htell).2

def calibratedConfig : RobotConfig :=
  { defaultRobotConfig with
    feet := defaultRobotConfig.feet.setIfInBounds 1
      { near_thresh := 10, touch_thresh := 20, load_thresh := 30, enabled := 1 } }

/-- The state and the history after a service step, a command for one foot, and another service step. -/
def commandRun (foot : UInt8) : SensorTasks × List SensorEvent :=
  let start := SensorTasks.start calibratedConfig 1
  let is : List SensorStep := [.service, .setThresholds [foot, 10, 0, 25, 0, 30, 0], .service]
  (execute SensorTasks.step start is, executeHistory SensorTasks.step start [] is)

theorem commandRun_run (foot : UInt8) :
    SensorRun calibratedConfig 1 (commandRun foot).2 (commandRun foot).1 := run_execute _ _ .nil

theorem thresholds_right_iff_calibrated : AtServices FeetRight (commandRun 1).2 := by
  have htell : AtServices CountersTell (commandRun 1).2 :=
    ⟨fun _ => ⟨fun _ => by decide, nofun⟩,
      ⟨fun hlabel => (nomatch hlabel),
        ⟨fun _ => ⟨nofun, fun _ => by decide⟩, trivial⟩⟩⟩
  refine (thresholds_right_iff (commandRun_run 1) htell).mpr
    ⟨fun _ => ?_, ⟨fun hlabel => (nomatch hlabel), ⟨fun _ => ?_, trivial⟩⟩⟩
  · unfold TableAgrees
    decide
  · unfold TableAgrees
    decide

/-- A command for the first foot takes the thresholds of the second one away. -/
theorem thresholds_of_other_foot_lost : ¬ ∀ (config : RobotConfig) (revision : UInt32)
    (h : List SensorEvent) (s : SensorTasks), SensorRun config revision h s →
    AtServices FeetRight h := by
  intro hright
  have hfeet := (hright _ _ _ _ (commandRun_run 0)).1 rfl
  exact absurd (hfeet 1).near (by decide +kernel)

end HexapodVerified.App
