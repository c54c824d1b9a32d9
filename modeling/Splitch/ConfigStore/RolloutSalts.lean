/-
# Salts through one write

A salt is carried from the row that a write has READ to the row that it makes of it.  That is what each of
the operations does, written or previewed alike (`Fits`): the update and the conclusion of a Run carry the
salt of the baseline, a replacement carries those of the rules by their ids, and a Promotion takes nothing
of its source's baseline but the percentage.  A Promotion of the rules moves them whole, so of these
nothing is claimed.  A write that reads and lands in one section of the Environment's queue therefore keeps
the salts of the Configuration it lands in.

An approved Request reads at one time and lands at another.  It carries the salts of the row that its
preview has read, and nothing ties that row to the one it lands in: the version that is recorded is the one
at the creation, behind the preview, and the one that is compared is read before the application.  So where
a baseline has been set meanwhile, the Request brings the mint of a preview that saw none, and the salt of
the baseline changes.  It does not where every salt that the Configuration has by then was in the row of
the preview already (`UpToDate`), and then the application keeps the salts like any other write
(`touched_keepsBaseline`, `touched_keepsRules`).

Where the salt of a rule comes from is the easier half: whatever is written under an id was stored under it
somewhere, or has been minted for a rule of that id (`Written.salt`).
-/
import Splitch.ConfigStore.FlagApprovals

namespace Splitch

namespace FlagWrites

open Evaluator (PercentageRollout)

/-! ## 1. One operation -/

/-- The baseline has the salt that it had. -/
def KeepsBaseline (before after : FlagConfigResult) : Prop :=
  ∀ old ∈ before.rollout, ∀ new ∈ after.rollout, new.salt = old.salt

/-- The rollout of a rule has the salt that the rule of its id had. -/
def KeepsRules (before after : FlagConfigResult) : Prop :=
  ∀ id old new, persistedSalt before.targetingRules id = some old →
    persistedSalt after.targetingRules id = some new → new = old

/-- A Promotion moves the rules whole. -/
def Operation.movesRules : Operation → Bool
  | .flags_promote input => input.select.targeting
  | _ => false

/-- What an operation leaves of the salts. -/
structure Fits (operation : Operation) (before after : FlagConfigResult) : Prop where
  baseline : KeepsBaseline before after
  rules : operation.movesRules = false → KeepsRules before after

section

variable {surroundings : Surroundings} {configs : FlagConfigs} {environmentId : String}
  {current row : FlagConfigRow} {operation : Operation}

theorem buildSnapshotFromD1_some
    (h : buildSnapshotFromD1 surroundings configs environmentId = .ok (some row)) :
    configs environmentId = some row := by
  unfold buildSnapshotFromD1 at h
  split at h
  · cases h
  · next found hfound =>
    obtain ⟨_, -, h⟩ := Checks.bind_eq_ok.mp h
    rw [hfound, Option.some.inj (Checks.pure_eq_ok.mp h)]

theorem requireConfig_eq_ok {found : Option FlagConfigRow} (h : requireConfig found = .ok row) :
    found = some row := by
  unfold requireConfig at h
  split at h
  · cases h
  · rw [Checks.pure_eq_ok.mp h]

theorem replaceRows_eq_ok {result : FlagConfigResult}
    (h : replaceRows surroundings result = .ok row) : row.toFlagConfigResult = result := by
  unfold replaceRows at h
  obtain ⟨_, -, h⟩ := Checks.bind_eq_ok.mp h
  split at h
  · rw [← Checks.pure_eq_ok.mp h]
  · cases h

theorem keepsBaseline_of_same {before after : FlagConfigResult} (h : after.rollout = before.rollout) :
    KeepsBaseline before after := by
  intro old hold new hnew
  rw [Option.mem_def] at hold hnew
  rw [Option.some.inj (hnew.symm.trans (h.trans hold))]

theorem keepsRules_of_same {before after : FlagConfigResult}
    (h : after.targetingRules = before.targetingRules) : KeepsRules before after := by
  intro id old new hold hnew
  rw [h, hold] at hnew
  exact (Option.some.inj hnew).symm

/-- **The update** sets the percentage of the baseline, or clears it. A baseline that is there hands
its salt on, and the fresh one is used where there is none; the rules are not touched. -/
theorem patched_fits {input : PatchFlagConfigInput} {rollout : Option (Option PercentageRollout)}
    (h : nextBaselineRollout current.rollout input.rollout surroundings.freshSalt = .ok rollout) :
    Fits (.flag_config_update input) current.toFlagConfigResult (patched current input rollout) := by
  refine ⟨fun old hold new hnew => ?_, fun _ => keepsRules_of_same rfl⟩
  rw [Option.mem_def] at hold hnew
  unfold patched at hnew
  cases rollout with
  | none => rw [← Option.some.inj (hold.symm.trans hnew)]
  | some rollout =>
    cases rollout with
    | none => cases hnew
    | some rollout =>
      cases Option.some.inj hnew
      rw [hold] at h
      exact nextBaselineRollout_salt h

theorem normalizedRules_eq_ok {input : ReplaceTargetingRulesInput} {rules : List TargetingRule}
    (h : normalizedRules surroundings current input = .ok rules) :
    normalizeTargetingRuleRollouts current.targetingRules input.targetingRules
      surroundings.freshRuleSalt = .ok rules := by
  unfold normalizedRules at h
  obtain ⟨normalized, hnormalized, h⟩ := Checks.bind_eq_ok.mp h
  obtain ⟨_, -, h⟩ := Checks.bind_eq_ok.mp h
  obtain ⟨_, -, h⟩ := Checks.bind_eq_ok.mp h
  rw [← Checks.pure_eq_ok.mp h]
  exact hnormalized

/-- **The replacement of the rules** leaves the baseline. -/
theorem withRules_fits {input : ReplaceTargetingRulesInput} {rules : List TargetingRule}
    (h : normalizedRules surroundings current input = .ok rules) :
    Fits (.flag_targeting_rules_replace input) current.toFlagConfigResult (withRules current rules) := by
  refine ⟨keepsBaseline_of_same rfl, fun _ id old new hold hnew => ?_⟩
  exact persistedSalt_normalized (normalizedRules_eq_ok h) hold hnew

/-- What a Promotion prepares. -/
theorem preparePromotion_eq_ok {select : PromotionSelect} {source : FlagConfigRow}
    {prepared : PreparedPromotion}
    (h : preparePromotion surroundings select source current = .ok prepared) :
    prepared.targetingRules = promotedRules select source current ∧
      ∀ rollout ∈ prepared.rollout, rollout =
        promotedBaselineRollout source.rollout current.rollout surroundings.freshSalt := by
  unfold preparePromotion at h
  obtain ⟨_, -, h⟩ := Checks.bind_eq_ok.mp h
  obtain ⟨_, -, h⟩ := Checks.bind_eq_ok.mp h
  obtain ⟨_, -, h⟩ := Checks.bind_eq_ok.mp h
  rw [← Checks.pure_eq_ok.mp h]
  refine ⟨rfl, fun rollout hrollout => ?_⟩
  dsimp only at hrollout
  split at hrollout
  · exact (Option.some.inj hrollout).symm
  · cases hrollout

/-- **The Promotion** takes the percentage of the source, and no salt for the baseline: where the
target has a baseline its own salt is merged in. The rules of the source come whole, with their salts,
where they are selected. -/
theorem promoted_fits {input : PromoteFlagConfigInput} {source : FlagConfigRow}
    {prepared : PreparedPromotion}
    (h : preparePromotion surroundings input.select source current = .ok prepared) :
    Fits (.flags_promote input) current.toFlagConfigResult
      (promoted input.select current prepared) := by
  obtain ⟨hrules, hrollout⟩ := preparePromotion_eq_ok h
  refine ⟨fun old hold new hnew => ?_, fun hmoves => keepsRules_of_same ?_⟩
  · rw [Option.mem_def] at hold hnew
    unfold promoted at hnew
    cases hprepared : prepared.rollout with
    | none =>
      rw [hprepared] at hnew
      rw [← Option.some.inj (hold.symm.trans hnew)]
    | some rollout =>
      rw [hprepared] at hnew
      cases hrollout rollout hprepared
      obtain ⟨given, -, rfl⟩ := Option.map_eq_some_iff.mp hnew
      rw [hold]
      rfl
  · exact hrules.trans (if_neg fun hselect => Bool.false_ne_true (hmoves.symm.trans hselect))

theorem loadPromotion_eq_ok {input : PromoteFlagConfigInput} {source : FlagConfigRow}
    {prepared : PreparedPromotion}
    (h : loadPromotion surroundings configs input = .ok (source, current, prepared)) :
    configs input.fromEnvironmentId = some source ∧ configs input.targetEnvironmentId = some current ∧
      preparePromotion surroundings input.select source current = .ok prepared := by
  unfold loadPromotion at h
  obtain ⟨_, -, h⟩ := Checks.bind_eq_ok.mp h
  obtain ⟨foundSource, hsource, h⟩ := Checks.bind_eq_ok.mp h
  obtain ⟨foundTarget, htarget, h⟩ := Checks.bind_eq_ok.mp h
  obtain ⟨_, hsourceRow, h⟩ := Checks.bind_eq_ok.mp h
  obtain ⟨_, htargetRow, h⟩ := Checks.bind_eq_ok.mp h
  obtain ⟨_, hprepared, h⟩ := Checks.bind_eq_ok.mp h
  cases Checks.pure_eq_ok.mp h
  rw [requireConfig_eq_ok hsourceRow] at hsource
  rw [requireConfig_eq_ok htargetRow] at htarget
  exact ⟨buildSnapshotFromD1_some hsource, buildSnapshotFromD1_some htarget, hprepared⟩

theorem normalizedWinnerRules_eq_ok {body : ConcludeRunRequest} {rules : List TargetingRule}
    (h : normalizedWinnerRules surroundings current body = .ok rules) :
    normalizeTargetingRuleRollouts current.targetingRules body.targetingRules
      surroundings.freshRuleSalt = .ok rules := by
  unfold normalizedWinnerRules at h
  obtain ⟨_, -, h⟩ := Checks.bind_eq_ok.mp h
  obtain ⟨normalized, hnormalized, h⟩ := Checks.bind_eq_ok.mp h
  obtain ⟨_, -, h⟩ := Checks.bind_eq_ok.mp h
  obtain ⟨_, -, h⟩ := Checks.bind_eq_ok.mp h
  obtain ⟨_, -, h⟩ := Checks.bind_eq_ok.mp h
  rw [← Checks.pure_eq_ok.mp h]
  exact hnormalized

theorem winnerRollout_eq_ok {body : ConcludeRunRequest} {baseline : Option PercentageRollout}
    (h : winnerRollout surroundings current body = .ok baseline) :
    ∃ rollout, nextBaselineRollout current.rollout (some body.rollout) surroundings.freshSalt =
      .ok rollout ∧ rollout.getD none = baseline := by
  unfold winnerRollout at h
  obtain ⟨rollout, hrollout, h⟩ := Checks.bind_eq_ok.mp h
  obtain ⟨_, -, h⟩ := Checks.bind_eq_ok.mp h
  exact ⟨rollout, hrollout, Checks.pure_eq_ok.mp h⟩

/-- **The Promotion of a winner** states all of the Configuration, and no salt of it. The baseline and
each rule of an id that is stored get the salt that is stored, like in an update. -/
theorem winnerConfig_fits {body : ConcludeRunRequest} {rules : List TargetingRule}
    {baseline : Option PercentageRollout}
    (hrules : normalizedWinnerRules surroundings current body = .ok rules)
    (hbaseline : winnerRollout surroundings current body = .ok baseline) :
    Fits (.experiment_winner_promote body) current.toFlagConfigResult
      (winnerConfig current body rules baseline) := by
  refine ⟨fun old hold new hnew => ?_, fun _ id old new hold hnew => ?_⟩
  · obtain ⟨rollout, hrollout, hsame⟩ := winnerRollout_eq_ok hbaseline
    rw [Option.mem_def] at hold hnew
    change baseline = some new at hnew
    rw [hold] at hrollout
    cases rollout with
    | none =>
      rw [← hsame] at hnew
      cases hnew
    | some rollout =>
      change rollout = baseline at hsame
      rw [hsame, hnew] at hrollout
      exact nextBaselineRollout_salt hrollout
  · exact persistedSalt_normalized (normalizedWinnerRules_eq_ok hrules) hold hnew

/-- **What an operation makes** of the Configuration that it finds, up to the version. -/
inductive Written (surroundings : Surroundings) (configs : FlagConfigs) :
    Operation → FlagConfigRow → FlagConfigResult → Prop
  | update {input : PatchFlagConfigInput} {current : FlagConfigRow}
      {rollout : Option (Option PercentageRollout)}
      (hcurrent : configs input.environmentId = some current)
      (hrollout : nextBaselineRollout current.rollout input.rollout surroundings.freshSalt =
        .ok rollout) :
      Written surroundings configs (.flag_config_update input) current (patched current input rollout)
  | replace {input : ReplaceTargetingRulesInput} {current : FlagConfigRow} {rules : List TargetingRule}
      (hcurrent : configs input.environmentId = some current)
      (hrules : normalizedRules surroundings current input = .ok rules) :
      Written surroundings configs (.flag_targeting_rules_replace input) current
        (withRules current rules)
  | promote {input : PromoteFlagConfigInput} {source current : FlagConfigRow}
      {prepared : PreparedPromotion}
      (hsource : configs input.fromEnvironmentId = some source)
      (hcurrent : configs input.targetEnvironmentId = some current)
      (hprepared : preparePromotion surroundings input.select source current = .ok prepared)
      (version : Nat) :
      Written surroundings configs (.flags_promote input) current
        { promoted input.select current prepared with version }
  | nothing {input : PromoteFlagConfigInput} {current : FlagConfigRow}
      (hcurrent : configs input.targetEnvironmentId = some current) :
      Written surroundings configs (.flags_promote input) current current.toFlagConfigResult
  | conclude {body : ConcludeRunRequest} {current : FlagConfigRow} {rules : List TargetingRule}
      {baseline : Option PercentageRollout}
      (hcurrent : configs body.environmentId = some current)
      (hrules : normalizedWinnerRules surroundings current body = .ok rules)
      (hbaseline : winnerRollout surroundings current body = .ok baseline) :
      Written surroundings configs (.experiment_winner_promote body) current
        (winnerConfig current body rules baseline)

/-- A row whose version tells whether it is another. -/
def Advances (before after : FlagConfigRow) : Prop :=
  after = before ∨ after.version = before.version + 1

/-! ## 2. What is proposed, and what is written -/

theorem Written.found {result : FlagConfigResult}
    (h : Written surroundings configs operation current result) :
    configs operation.environmentId = some current := by
  cases h with
  | update hcurrent => exact hcurrent
  | replace hcurrent => exact hcurrent
  | promote _ hcurrent => exact hcurrent
  | nothing hcurrent => exact hcurrent
  | conclude hcurrent => exact hcurrent

theorem preview_written {proposed : FlagConfigResult}
    (h : previewOperation surroundings configs operation = .ok (current, proposed)) :
    Written surroundings configs operation current proposed := by
  cases operation with
  | flag_config_update input =>
    change previewFlagConfig surroundings configs input = _ at h
    unfold previewFlagConfig at h
    obtain ⟨_, -, h⟩ := Checks.bind_eq_ok.mp h
    obtain ⟨found, hfound, h⟩ := Checks.bind_eq_ok.mp h
    obtain ⟨_, hcurrent, h⟩ := Checks.bind_eq_ok.mp h
    obtain ⟨_, -, h⟩ := Checks.bind_eq_ok.mp h
    obtain ⟨_, hrollout, h⟩ := Checks.bind_eq_ok.mp h
    cases Checks.pure_eq_ok.mp h
    rw [requireConfig_eq_ok hcurrent] at hfound
    exact .update (buildSnapshotFromD1_some hfound) hrollout
  | flag_targeting_rules_replace input =>
    change previewTargetingRules surroundings configs input = _ at h
    unfold previewTargetingRules at h
    obtain ⟨_, -, h⟩ := Checks.bind_eq_ok.mp h
    obtain ⟨found, hfound, h⟩ := Checks.bind_eq_ok.mp h
    obtain ⟨_, hcurrent, h⟩ := Checks.bind_eq_ok.mp h
    obtain ⟨_, hrules, h⟩ := Checks.bind_eq_ok.mp h
    cases Checks.pure_eq_ok.mp h
    rw [requireConfig_eq_ok hcurrent] at hfound
    exact .replace (buildSnapshotFromD1_some hfound) hrules
  | flags_promote input =>
    change previewPromotion surroundings configs input = _ at h
    unfold previewPromotion at h
    obtain ⟨⟨source, target, prepared⟩, hload, h⟩ := Checks.bind_eq_ok.mp h
    cases Checks.pure_eq_ok.mp h
    obtain ⟨hsource, htarget, hprepared⟩ := loadPromotion_eq_ok hload
    exact .promote hsource htarget hprepared _
  | experiment_winner_promote body =>
    change prepareWinnerProposal surroundings configs body = _ at h
    unfold prepareWinnerProposal at h
    obtain ⟨_, -, h⟩ := Checks.bind_eq_ok.mp h
    obtain ⟨found, hfound, h⟩ := Checks.bind_eq_ok.mp h
    obtain ⟨_, hcurrent, h⟩ := Checks.bind_eq_ok.mp h
    obtain ⟨_, -, h⟩ := Checks.bind_eq_ok.mp h
    obtain ⟨_, -, h⟩ := Checks.bind_eq_ok.mp h
    obtain ⟨_, hrules, h⟩ := Checks.bind_eq_ok.mp h
    obtain ⟨_, hbaseline, h⟩ := Checks.bind_eq_ok.mp h
    obtain ⟨_, -, h⟩ := Checks.bind_eq_ok.mp h
    obtain ⟨_, -, h⟩ := Checks.bind_eq_ok.mp h
    cases Checks.pure_eq_ok.mp h
    rw [requireConfig_eq_ok hcurrent] at hfound
    exact .conclude (buildSnapshotFromD1_some hfound) hrules hbaseline

theorem write_written (h : writeOperation surroundings configs operation = .ok row) :
    ∃ current, Written surroundings configs operation current row.toFlagConfigResult ∧
      Advances current row := by
  cases operation with
  | flag_config_update input =>
    change writeFlagConfig surroundings configs input = _ at h
    unfold writeFlagConfig at h
    obtain ⟨_, -, h⟩ := Checks.bind_eq_ok.mp h
    obtain ⟨found, hfound, h⟩ := Checks.bind_eq_ok.mp h
    obtain ⟨current, hcurrent, h⟩ := Checks.bind_eq_ok.mp h
    obtain ⟨_, -, h⟩ := Checks.bind_eq_ok.mp h
    obtain ⟨_, hrollout, h⟩ := Checks.bind_eq_ok.mp h
    obtain ⟨_, -, h⟩ := Checks.bind_eq_ok.mp h
    cases Checks.pure_eq_ok.mp h
    rw [requireConfig_eq_ok hcurrent] at hfound
    exact ⟨current, .update (buildSnapshotFromD1_some hfound) hrollout, .inr rfl⟩
  | flag_targeting_rules_replace input =>
    change replaceTargetingRules surroundings configs input = _ at h
    unfold replaceTargetingRules at h
    obtain ⟨_, -, h⟩ := Checks.bind_eq_ok.mp h
    obtain ⟨current, hcurrent, h⟩ := Checks.bind_eq_ok.mp h
    obtain ⟨_, hrules, h⟩ := Checks.bind_eq_ok.mp h
    obtain ⟨_, -, h⟩ := Checks.bind_eq_ok.mp h
    have hrow := replaceRows_eq_ok h
    refine ⟨current, ?_, .inr (congrArg FlagConfigResult.version hrow)⟩
    rw [hrow]
    exact .replace (requireConfig_eq_ok hcurrent) hrules
  | flags_promote input =>
    change promoteFlagConfig surroundings configs input = _ at h
    unfold promoteFlagConfig at h
    obtain ⟨⟨source, target, prepared⟩, hload, h⟩ := Checks.bind_eq_ok.mp h
    obtain ⟨hsource, htarget, hprepared⟩ := loadPromotion_eq_ok hload
    have hpromote := Written.promote hsource htarget hprepared (target.version + 1)
    refine ⟨target, ?_⟩
    dsimp only at h
    split at h
    · cases Checks.pure_eq_ok.mp h
      exact ⟨.nothing htarget, .inl rfl⟩
    obtain ⟨_, -, h⟩ := Checks.bind_eq_ok.mp h
    split at h
    · have hrow := replaceRows_eq_ok h
      refine ⟨?_, .inr (congrArg FlagConfigResult.version hrow)⟩
      rw [hrow]
      exact hpromote
    · next hselect =>
      cases Checks.pure_eq_ok.mp h
      refine ⟨?_, .inr rfl⟩
      -- the rules are not selected: those of the target
      have hrules : prepared.targetingRules = target.targetingRules :=
        (preparePromotion_eq_ok hprepared).1.trans (if_neg hselect)
      dsimp only
      rw [← hrules]
      exact hpromote
  | experiment_winner_promote body => cases h

/-- **What an operation makes fits** the Configuration that it finds. -/
theorem Written.fits {result : FlagConfigResult}
    (h : Written surroundings configs operation current result) :
    Fits operation current.toFlagConfigResult result := by
  cases h with
  | update _ hrollout => exact patched_fits hrollout
  | replace _ hrules => exact withRules_fits hrules
  | promote _ _ hprepared => exact ⟨(promoted_fits hprepared).baseline, (promoted_fits hprepared).rules⟩
  | nothing => exact ⟨keepsBaseline_of_same rfl, fun _ => keepsRules_of_same rfl⟩
  | conclude _ hrules hbaseline => exact winnerConfig_fits hrules hbaseline

/-- A rollout of a rule of that id has that salt. -/
def HoldsSalt (config : FlagConfigResult) (id salt : String) : Prop :=
  ∃ rule ∈ config.targetingRules, rule.id = id ∧ ∃ rollout ∈ rule.percentageRollout, rollout.salt = salt

/-- The salt that is minted for a rule of the list that the caller states. -/
def Operation.Mints (surroundings : Surroundings) (id salt : String) (operation : Operation) : Prop :=
  ∃ (index : Nat) (rule : TargetingRuleInput), operation.callerRules[index]? = some rule ∧
    rule.id = id ∧ surroundings.freshRuleSalt index = salt

/-- The salt of a rule that is written over a list: a stored one of its id, or the mint. -/
theorem salt_of_normalized {rules stored : List TargetingRule} {proposed : List TargetingRuleInput}
    {freshSalt : Nat → String} {id salt : String} {rule : TargetingRule} {rollout : PercentageRollout}
    (h : normalizeTargetingRuleRollouts stored proposed freshSalt = .ok rules) (hrule : rule ∈ rules)
    (hid : rule.id = id) (hrollout : rollout ∈ rule.percentageRollout) (hsalt : rollout.salt = salt) :
    persistedSalt stored id = some salt ∨ ∃ (index : Nat) (input : TargetingRuleInput),
      proposed[index]? = some input ∧ input.id = id ∧ freshSalt index = salt := by
  rw [(normalizeTargetingRuleRollouts_eq_ok h).2] at hrule
  obtain ⟨index, input, hinput, rfl⟩ := exists_normalized hrule
  rw [normalized_salt hrollout] at hsalt
  have hinputId : input.id = id := hid
  rw [hinputId] at hsalt
  cases hpersisted : persistedSalt stored id with
  | none =>
    rw [hpersisted] at hsalt
    exact .inr ⟨index, input, hinput, hinputId, hsalt⟩
  | some found =>
    rw [hpersisted] at hsalt
    exact .inl (congrArg some hsalt)

/-- **The salt of a rule** is one that a rule of its id has had, or a mint. -/
theorem Written.salt {result : FlagConfigResult} {id salt : String}
    (h : Written surroundings configs operation current result) (hholds : HoldsSalt result id salt) :
    (∃ environmentId row, configs environmentId = some row ∧
      HoldsSalt row.toFlagConfigResult id salt) ∨ operation.Mints surroundings id salt := by
  cases h with
  | update hcurrent => exact .inl ⟨_, _, hcurrent, hholds⟩
  | nothing hcurrent => exact .inl ⟨_, _, hcurrent, hholds⟩
  | promote hsource hcurrent hprepared =>
    obtain ⟨rule, hrule, hrest⟩ := hholds
    change rule ∈ PreparedPromotion.targetingRules _ at hrule
    rw [(preparePromotion_eq_ok hprepared).1] at hrule
    unfold promotedRules at hrule
    split at hrule
    · exact .inl ⟨_, _, hsource, rule, hrule, hrest⟩
    · exact .inl ⟨_, _, hcurrent, rule, hrule, hrest⟩
  | replace hcurrent hrules =>
    obtain ⟨rule, hrule, hid, rollout, hrollout, hsalt⟩ := hholds
    refine (salt_of_normalized (normalizedRules_eq_ok hrules) hrule hid hrollout hsalt).imp_left ?_
    exact fun hstored => ⟨_, _, hcurrent, mem_of_persistedSalt hstored⟩
  | conclude hcurrent hrules =>
    obtain ⟨rule, hrule, hid, rollout, hrollout, hsalt⟩ := hholds
    refine (salt_of_normalized (normalizedWinnerRules_eq_ok hrules) hrule hid hrollout hsalt).imp_left ?_
    exact fun hstored => ⟨_, _, hcurrent, mem_of_persistedSalt hstored⟩

/-! ## 3. What an approved Request lands -/

/-- **Up to date**: every salt that the Configuration has where the diff touches it was in the row that the
preview has read.  A Promotion moves the rules whole. -/
structure Proposal.UpToDate (proposal : Proposal) (current : FlagConfigRow) : Prop where
  baseline : proposal.Touches (·.rollout) → proposal.proposed.rollout ≠ none →
    ∀ now ∈ current.rollout, ∃ seen ∈ proposal.before.rollout, seen.salt = now.salt
  rules : proposal.Touches (·.targetingRules) → proposal.operation.movesRules = false →
    ∀ id salt, persistedSalt proposal.proposed.targetingRules id ≠ none →
      persistedSalt current.targetingRules id = some salt →
        persistedSalt proposal.before.targetingRules id = some salt

variable {request : ApprovalRequest} {proposal : Proposal}

theorem require_eq_ok {condition : Prop} [Decidable condition] {failure : WriteFailure} {answer : Unit}
    (h : require condition failure = .ok answer) : condition := by
  unfold require at h
  split at h
  · assumption
  · cases h

/-- What an application leaves: the fields that the diff touches, over the row that it finds. -/
theorem applyApprovedFlagConfig_eq_ok
    (h : applyApprovedFlagConfig surroundings configs request = .ok row) :
    ∃ current, configs request.operation.environmentId = some current ∧ request.status = .pending ∧
      row.rollout = touched request.toProposal current (·.rollout) ∧
      row.targetingRules = touched request.toProposal current (·.targetingRules) ∧
      row.version = current.version + 1 := by
  unfold applyApprovedFlagConfig at h
  obtain ⟨found, hfound, h⟩ := Checks.bind_eq_ok.mp h
  obtain ⟨current, hcurrent, h⟩ := Checks.bind_eq_ok.mp h
  obtain ⟨_, -, h⟩ := Checks.bind_eq_ok.mp h
  obtain ⟨_, -, h⟩ := Checks.bind_eq_ok.mp h
  obtain ⟨_, -, h⟩ := Checks.bind_eq_ok.mp h
  obtain ⟨_, -, h⟩ := Checks.bind_eq_ok.mp h
  obtain ⟨_, -, h⟩ := Checks.bind_eq_ok.mp h
  obtain ⟨_, hpending, h⟩ := Checks.bind_eq_ok.mp h
  obtain ⟨_, -, h⟩ := Checks.bind_eq_ok.mp h
  rw [requireConfig_eq_ok hcurrent] at hfound
  refine ⟨current, buildSnapshotFromD1_some hfound, require_eq_ok hpending, ?_⟩
  split at h
  · rw [replaceRows_eq_ok h]
    exact ⟨rfl, rfl, rfl⟩
  · next hsame =>
    cases Checks.pure_eq_ok.mp h
    exact ⟨rfl, (if_neg hsame).symm, rfl⟩

/-- **Up to date, an application keeps the baseline's salt.** The proposal fits the row it was
previewed on, and that row has the salt of the current one: the first is a fact about the preview, the
second is what being up to date says. -/
theorem touched_keepsBaseline (hfits : Fits proposal.operation proposal.before.toFlagConfigResult
      proposal.proposed) (hupToDate : proposal.UpToDate current)
    (hrow : row.rollout = touched proposal current (·.rollout)) :
    KeepsBaseline current.toFlagConfigResult row.toFlagConfigResult := by
  unfold touched at hrow
  split at hrow
  · next htouches =>
    intro old hold new hnew
    rw [hrow] at hnew
    have hproposed : proposal.proposed.rollout ≠ none := Option.ne_none_iff_exists'.mpr ⟨new, hnew⟩
    obtain ⟨seen, hseen, hsalt⟩ := hupToDate.baseline htouches hproposed old hold
    rw [hfits.baseline seen hseen new hnew, hsalt]
  · exact keepsBaseline_of_same hrow

/-- And those of the rules, where it is no Promotion that moves them. -/
theorem touched_keepsRules (hfits : Fits proposal.operation proposal.before.toFlagConfigResult
      proposal.proposed) (hupToDate : proposal.UpToDate current)
    (hmoves : proposal.operation.movesRules = false)
    (hrow : row.targetingRules = touched proposal current (·.targetingRules)) :
    KeepsRules current.toFlagConfigResult row.toFlagConfigResult := by
  unfold touched at hrow
  split at hrow
  · next htouches =>
    intro id old new hold hnew
    rw [hrow] at hnew
    have hproposed : persistedSalt proposal.proposed.targetingRules id ≠ none :=
      Option.ne_none_iff_exists'.mpr ⟨new, hnew⟩
    exact hfits.rules hmoves id old new (hupToDate.rules htouches hmoves id old hproposed hold) hnew
  · exact keepsRules_of_same hrow

end

end FlagWrites

end Splitch
