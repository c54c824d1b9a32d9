/-
# Idempotent evaluations and sticky Exposures

The calls of the runtime without its alarms (`evaluations`), in any order of their turns.

**Idempotency.**  An idempotency key is claimed by the first evaluation that commits under it, and every
answer under the key is the one that was committed; the key has at most one Exposure (`Claimed`).  A turn
keeps this by what it may do to the tables: it replays a claim that is there, or commits where there is none
and inserts the claim in the same transaction (`Claimed.next`).

**Stickiness.**  An Exposure carries the Variant that the evaluation has decided on what it READ, while the
table of Assignments keeps what it finds when the commit comes.  The two agree as long as nobody else has
inserted an Assignment for the Entity in between, that is, as long as the commit is not overtaken.  One step
is exact (`sticky_next_iff`): an Exposure that is written is sticky just when its commit is not overtaken; so
the condition on runs is exact as well (`sticky_exposures_iff`).

The last section runs two evaluations of one Entity around a change of the configuration, and both are
exposed, under two Variants (`exposed_under_two_variants`).
-/
import Splitch.Library.Sha256
import Splitch.Cloudflare.EvaluationTurns

namespace Splitch

namespace Cloudflare

open SplitchWorld SplitchStorage

/-- The runtime between two alarms, from its first start. -/
def evaluations (env : SplitchEnv) : Machine SplitchWorld RpcEvent (Option SplitchAnswer) where
  init := SplitchWorld.empty
  step := SplitchWorld.stepRpc env

/-! ## 1. What is said of a world -/

/-- The key of a commit. -/
def committedKey : SplitchEntry → Option String
  | .committed call _ => some call.request.idempotencyKey
  | _ => none

/-- Whatever is answered under one key is one result, of one request; it was committed once and
exposed at most once. -/
structure Idempotent (env : SplitchEnv) (world : SplitchWorld) : Prop where
  answers : ∀ request details request' details', .answered request details ∈ world.log →
    .answered request' details' ∈ world.log → request.idempotencyKey = request'.idempotencyKey →
      details = details' ∧ fingerprintOf env request = fingerprintOf env request'
  commits : (world.log.filterMap committedKey).Nodup
  exposures : (world.storage.exposureOutbox.map (·.idempotencyKey)).Nodup

/-- The Assignment of the Experiment, idType and Entity of an Exposure. -/
def SplitchStorage.assignmentOf (storage : SplitchStorage) (row : ExposureRow) :
    Option AssignmentEntry :=
  storage.assignments row.experimentId row.idType row.targetingKeyHash

/-- Every Exposure carries the stored Assignment. -/
def Sticky (world : SplitchWorld) : Prop :=
  ∀ row ∈ world.storage.exposureOutbox,
    world.storage.assignmentOf row = some { runId := row.runId, variant := row.variantName }

instance (world : SplitchWorld) : Decidable (Sticky world) :=
  inferInstanceAs (Decidable (∀ row ∈ world.storage.exposureOutbox, _))

/-- The event is the turn in which a call commits an evaluation that exposes. -/
structure Exposes (env : SplitchEnv) (world : SplitchWorld) (event : RpcEvent)
    (call : EvaluationCall) (input : CommitInput) (exposure : ExposureDecision) : Prop where
  resumed : ∃ id now written, event = .resume id now ∧ world.calls id = some call ∧
    writeExposure env call input now world.storage = .ok written
  stage : call.stage = .committing input
  free : world.storage.claim call.request.idempotencyKey = none
  exposure : input.result.exposure = some exposure

/-- **No commit is overtaken**: where an evaluation found no Assignment and goes on to expose, the
Entity still has none, or the same one. -/
def NotOvertaken (env : SplitchEnv) (world : SplitchWorld) (event : RpcEvent) : Prop :=
  ∀ call input exposure, Exposes env world event call input exposure →
    input.held exposure.experimentId = none →
      ∀ entry, world.storage.assignments exposure.experimentId call.request.context.idType
        input.targetingKeyHash = some entry →
          entry = { runId := exposure.liveRunId, variant := exposure.variant }

/-! ## 2. Claims -/

/-- What is answered, committed or exposed is claimed. -/
structure Claimed (env : SplitchEnv) (world : SplitchWorld) : Prop where
  calls : CallsConsistent env world
  answered : ∀ request details, .answered request details ∈ world.log →
    ∃ claim, world.storage.claim request.idempotencyKey = some claim ∧ claim.result = details ∧
      claim.fingerprint = fingerprintOf env request
  committed : ∀ idempotencyKey ∈ world.log.filterMap committedKey,
    world.storage.claim idempotencyKey ≠ none
  exposed : ∀ row ∈ world.storage.exposureOutbox, world.storage.claim row.idempotencyKey ≠ none
  commitsOnce : (world.log.filterMap committedKey).Nodup
  exposesOnce : (world.storage.exposureOutbox.map (·.idempotencyKey)).Nodup

variable {env : SplitchEnv} {world after : SplitchWorld}

theorem Claimed.idempotent (h : Claimed env world) : Idempotent env world := by
  refine ⟨fun request details request' details' hone hother hkey => ?_, h.commitsOnce,
    h.exposesOnce⟩
  obtain ⟨claim, hclaim, rfl, hrequest⟩ := h.answered request details hone
  obtain ⟨claim', hclaim', rfl, hrequest'⟩ := h.answered request' details' hother
  rw [hkey, hclaim'] at hclaim
  cases hclaim
  exact ⟨rfl, hrequest.symm.trans hrequest'⟩

theorem claim_of_tables {storage storage' : SplitchStorage}
    (h : storage'.tables = storage.tables) (idempotencyKey : String) :
    storage'.claim idempotencyKey = storage.claim idempotencyKey := by
  have hclaims : storage'.evaluationClaims = storage.evaluationClaims :=
    congrArg (fun tables => tables.2.1) h
  unfold SplitchStorage.claim
  rw [hclaims]

theorem claim_insertClaim (storage : SplitchStorage) (claim : EvaluationClaim)
    (idempotencyKey : String) :
    (storage.insertClaim claim).claim idempotencyKey =
      (storage.claim idempotencyKey).or
        (if claim.idempotencyKey = idempotencyKey then some claim else none) := by
  unfold SplitchStorage.claim insertClaim
  rw [List.find?_append]
  congr 1
  by_cases h : claim.idempotencyKey = idempotencyKey <;> simp [h]

/-- A key that is claimed stays so. -/
theorem claim_insertClaim_of_some {storage : SplitchStorage} {claim found : EvaluationClaim}
    {idempotencyKey : String} (h : storage.claim idempotencyKey = some found) :
    (storage.insertClaim claim).claim idempotencyKey = some found := by
  rw [claim_insertClaim, h]
  rfl

theorem claim_insertClaim_self {storage : SplitchStorage} {claim : EvaluationClaim}
    (h : storage.claim claim.idempotencyKey = none) :
    (storage.insertClaim claim).claim claim.idempotencyKey = some claim := by
  rw [claim_insertClaim, h, if_pos rfl]
  rfl

/-- Where the tables are the same, only answers of a claim may be new. -/
theorem Claimed.of_tables (h : Claimed env world)
    (htables : after.storage.tables = world.storage.tables)
    (hcalls : CallsConsistent env after)
    (hcommitted : after.log.filterMap committedKey = world.log.filterMap committedKey)
    (hanswered : ∀ request details, .answered request details ∈ after.log →
      .answered request details ∈ world.log ∨
        ∃ claim, world.storage.claim request.idempotencyKey = some claim ∧
          claim.result = details ∧ claim.fingerprint = fingerprintOf env request) :
    Claimed env after := by
  have hclaim := claim_of_tables htables
  have houtbox : after.storage.exposureOutbox = world.storage.exposureOutbox :=
    congrArg (fun tables => tables.2.2) htables
  refine ⟨hcalls, fun request details hmem => ?_, fun idempotencyKey hmem => ?_,
    fun row hrow => ?_, ?_, ?_⟩
  · rw [hclaim]
    rcases hanswered request details hmem with hold | hnew
    · exact h.answered request details hold
    · exact hnew
  · rw [hclaim]
    exact h.committed idempotencyKey (hcommitted ▸ hmem)
  · rw [hclaim]
    exact h.exposed row (houtbox ▸ hrow)
  · rw [hcommitted]
    exact h.commitsOnce
  · rw [houtbox]
    exact h.exposesOnce

/-- **A turn keeps the claims.** A quiet turn writes none, a replay answers with one that is stored,
and a commit adds the one of its own key, which was free: so the answers of a key come from one claim,
and Exposures of a key have one. -/
theorem Claimed.next (h : Claimed env world) (event : RpcEvent) :
    Claimed env ((evaluations env).next world event) := by
  have hmove : RpcMove env world ((evaluations env).next world event) event := stepRpc_move event
  generalize (evaluations env).next world event = after at hmove ⊢
  cases hmove with
  | quiet htables hlog hcalls =>
    refine h.of_tables htables (hcalls h.calls) (by rw [hlog]) fun request details hmem => ?_
    exact .inl (hlog ▸ hmem)
  | replayed request claim hfound hfingerprint htables hlog hcalls =>
    refine h.of_tables htables (hcalls h.calls) ?_ fun request' details hmem => ?_
    · rw [hlog, List.filterMap_append]
      exact List.append_nil _
    · rw [hlog] at hmem
      rcases List.mem_append.mp hmem with hold | hnew
      · exact .inl hold
      · cases List.mem_singleton.mp hnew
        exact .inr ⟨claim, hfound, rfl, hfingerprint h.calls⟩
  | committed id now call input written _ hrunning hstage hfree hwrites htables hlog hcalls =>
    let claim : EvaluationClaim :=
      { idempotencyKey := call.request.idempotencyKey
        fingerprint := input.fingerprint
        result := input.details
        createdAt := now }
    -- The write leaves the claims, and adds at most an Exposure of this key.
    have hwritten : written.evaluationClaims = world.storage.evaluationClaims ∧
        (written.exposureOutbox = world.storage.exposureOutbox ∨
          ∃ row : ExposureRow, row.idempotencyKey = call.request.idempotencyKey ∧
            written.exposureOutbox = world.storage.exposureOutbox ++ [row]) := by
      rcases writeExposure_ok hwrites with
        ⟨-, rfl⟩ | ⟨_, row, -, hkey, -, -, -, -, -, -, -, -, hclaims, houtbox⟩
      · exact ⟨rfl, .inl rfl⟩
      · exact ⟨hclaims, .inr ⟨row, hkey, houtbox⟩⟩
    have hwrittenClaim : ∀ key, written.claim key = world.storage.claim key := by
      intro key
      unfold SplitchStorage.claim
      rw [hwritten.1]
    have hclaim : ∀ key, after.storage.claim key = (written.insertClaim claim).claim key :=
      claim_of_tables htables
    have hkept : ∀ key found, world.storage.claim key = some found →
        after.storage.claim key = some found := by
      intro key found hfound
      rw [hclaim]
      exact claim_insertClaim_of_some ((hwrittenClaim key).trans hfound)
    have hkept' : ∀ key, world.storage.claim key ≠ none → after.storage.claim key ≠ none := by
      intro key hsome
      obtain ⟨found, hfound⟩ := Option.ne_none_iff_exists'.mp hsome
      rw [hkept key found hfound]
      exact nofun
    have hnew : after.storage.claim call.request.idempotencyKey = some claim := by
      rw [hclaim]
      exact claim_insertClaim_self ((hwrittenClaim _).trans hfree)
    have hnew' : after.storage.claim call.request.idempotencyKey ≠ none := by
      rw [hnew]
      exact nofun
    have hkeys : after.log.filterMap committedKey =
        world.log.filterMap committedKey ++ [call.request.idempotencyKey] := by
      rw [hlog, List.filterMap_append]
      rfl
    have houtbox : after.storage.exposureOutbox = written.exposureOutbox :=
      congrArg (fun tables => tables.2.2) htables
    refine ⟨hcalls h.calls, fun request details hmem => ?_, fun key hmem => ?_,
      fun row hrow => ?_, ?_, ?_⟩
    · rw [hlog] at hmem
      rcases List.mem_append.mp hmem with hold | hmem
      · obtain ⟨found, hfound, hrest⟩ := h.answered request details hold
        exact ⟨found, hkept _ _ hfound, hrest⟩
      · rcases List.mem_pair.mp hmem with hmem | hmem
        · cases hmem
        · cases hmem
          exact ⟨claim, hnew, rfl, (h.calls id call hrunning).committing input hstage⟩
    · rw [hkeys] at hmem
      rcases List.mem_append.mp hmem with hold | hmem
      · exact hkept' key (h.committed key hold)
      · rw [List.mem_singleton.mp hmem]
        exact hnew'
    · rw [houtbox] at hrow
      rcases hwritten.2 with hsame | ⟨added, hkey, hadded⟩
      · exact hkept' _ (h.exposed row (hsame ▸ hrow))
      · rw [hadded] at hrow
        rcases List.mem_append.mp hrow with hold | hrow
        · exact hkept' _ (h.exposed row hold)
        · rw [List.mem_singleton.mp hrow, hkey]
          exact hnew'
    · rw [hkeys]
      refine List.nodup_append.mpr ⟨h.commitsOnce, List.nodup_singleton _, ?_⟩
      rintro key hold other hother rfl
      rw [List.mem_singleton.mp hother] at hold
      exact h.committed _ hold hfree
    · rw [houtbox]
      rcases hwritten.2 with hsame | ⟨added, hkey, hadded⟩
      · rw [hsame]
        exact h.exposesOnce
      · rw [hadded, List.map_append]
        refine List.nodup_append.mpr ⟨h.exposesOnce, List.nodup_singleton _, ?_⟩
        rintro key hold other hother rfl
        obtain ⟨row, hrow, rfl⟩ := List.mem_map.mp hold
        have hrowKey : row.idempotencyKey = call.request.idempotencyKey :=
          (List.mem_singleton.mp hother).trans hkey
        exact h.exposed row hrow (hrowKey ▸ hfree)

theorem claimed_empty : Claimed env SplitchWorld.empty := by
  refine ⟨fun id call hcall => ?_, fun request details hmem => ?_, fun key hmem => ?_,
    fun row hrow => ?_, List.nodup_nil, List.nodup_nil⟩
  · cases hcall
  · cases hmem
  · cases hmem
  · cases hrow

/-! ## 3. Assignments -/

/-- What is kept is what was there, or the entry. -/
theorem assignments_keepAssignment (storage : SplitchStorage)
    (experimentId idType targetingKeyHash : String) (entry : AssignmentEntry)
    (experiment type hash : String) :
    (keepAssignment storage experimentId idType targetingKeyHash entry).assignments
        experiment type hash =
      (storage.assignments experiment type hash).or
        (if experiment = experimentId ∧ type = idType ∧ hash = targetingKeyHash then some entry
          else none) := by
  unfold keepAssignment
  split
  · rename_i hsome
    obtain ⟨held, hheld⟩ := Option.isSome_iff_exists.mp hsome
    split
    · rename_i heq
      obtain ⟨rfl, rfl, rfl⟩ := heq
      rw [hheld]
      rfl
    · exact (Option.or_none).symm
  · rename_i hnone
    dsimp only
    split
    · rename_i heq
      obtain ⟨rfl, rfl, rfl⟩ := heq
      rw [Option.not_isSome_iff_eq_none.mp hnone]
      rfl
    · exact (Option.or_none).symm

/-- The turn that exposes leaves what it writes. -/
theorem tables_of_writes {id : Nat} {now : Int} {call : EvaluationCall} {input : CommitInput}
    {written : SplitchStorage} (hrunning : world.calls id = some call)
    (hstage : call.stage = .committing input)
    (hfree : world.storage.claim call.request.idempotencyKey = none)
    (hwrites : writeExposure env call input now world.storage = .ok written) :
    ((evaluations env).next world (.resume id now)).storage.tables =
      (written.insertClaim
        { idempotencyKey := call.request.idempotencyKey
          fingerprint := input.fingerprint
          result := input.details
          createdAt := now }).tables := by
  change (world.resume env id now).2.storage.tables = _
  unfold resume
  rw [hrunning]
  dsimp only
  rw [hstage]
  dsimp only
  unfold commitEvaluation
  dsimp only
  rw [hfree]
  dsimp only
  rw [hwrites]
  exact tables_ensureAlarm ..

/-- A turn that does not expose keeps Assignments and Exposures. -/
theorem tables_of_not_exposes {event : RpcEvent}
    (hnot : ∀ call input exposure, ¬ Exposes env world event call input exposure) :
    ((evaluations env).next world event).storage.assignments = world.storage.assignments ∧
      ((evaluations env).next world event).storage.exposureOutbox =
        world.storage.exposureOutbox := by
  have hmove : RpcMove env world ((evaluations env).next world event) event := stepRpc_move event
  cases hmove with
  | quiet htables =>
    exact ⟨congrArg Prod.fst htables, congrArg (fun tables => tables.2.2) htables⟩
  | replayed request claim _ _ htables =>
    exact ⟨congrArg Prod.fst htables, congrArg (fun tables => tables.2.2) htables⟩
  | committed id now call input written hresumed hrunning hstage hfree hwrites htables =>
    rcases writeExposure_ok hwrites with ⟨-, rfl⟩ | ⟨exposure, _, hexposure, -⟩
    · exact ⟨congrArg Prod.fst htables, congrArg (fun tables => tables.2.2) htables⟩
    · exact absurd ⟨⟨id, now, written, hresumed, hrunning, hwrites⟩, hstage, hfree, hexposure⟩
        (hnot call input exposure)

/-- What is exposed is sticky just where the Entity had no other Assignment. -/
theorem sticky_of_exposes_iff {event : RpcEvent} {call : EvaluationCall} {input : CommitInput}
    {exposure : ExposureDecision} (h : Exposes env world event call input exposure)
    (hsticky : Sticky world) :
    Sticky ((evaluations env).next world event) ↔
      ∀ entry, world.storage.assignments exposure.experimentId call.request.context.idType
        input.targetingKeyHash = some entry →
          entry = { runId := exposure.liveRunId, variant := exposure.variant } := by
  obtain ⟨⟨id, now, written, rfl, hrunning, hwrites⟩, hstage, hfree, hexposure⟩ := h
  have htables := tables_of_writes hrunning hstage hfree hwrites
  obtain ⟨hnone, -⟩ | ⟨exposure', row, hexposure', -, htype, hhash, -, hexperiment, hrun, hvariant,
    -, hassignments, -, houtbox⟩ := writeExposure_ok hwrites
  · rw [hnone] at hexposure
    cases hexposure
  cases hexposure.symm.trans hexposure'
  let entry : AssignmentEntry := { runId := exposure.liveRunId, variant := exposure.variant }
  have hafter : ∀ experiment type hash,
      ((evaluations env).next world (.resume id now)).storage.assignments experiment type hash =
        (world.storage.assignments experiment type hash).or
          (if experiment = exposure.experimentId ∧ type = call.request.context.idType ∧
            hash = input.targetingKeyHash then some entry else none) := by
    intro experiment type hash
    have hsame : ((evaluations env).next world (.resume id now)).storage.assignments =
        written.assignments := congrArg Prod.fst htables
    rw [hsame, hassignments]
    exact assignments_keepAssignment ..
  have hrows : ((evaluations env).next world (.resume id now)).storage.exposureOutbox =
      world.storage.exposureOutbox ++ [row] :=
    (congrArg (fun tables => tables.2.2) htables).trans houtbox
  have hentry : ({ runId := row.runId, variant := row.variantName } : AssignmentEntry) = entry := by
    rw [hrun, hvariant]
  have hrowAfter : ((evaluations env).next world (.resume id now)).storage.assignmentOf row =
      (world.storage.assignments exposure.experimentId call.request.context.idType
        input.targetingKeyHash).or (some entry) := by
    unfold SplitchStorage.assignmentOf
    rw [hafter, hexperiment, htype, hhash, if_pos ⟨rfl, rfl, rfl⟩]
  constructor
  · intro hnext held hheld
    have hrow := hnext row (hrows ▸ List.mem_append_right _ (List.mem_singleton_self row))
    rw [hrowAfter, hheld, hentry] at hrow
    exact Option.some.inj hrow
  · intro hsame other hother
    rw [hrows] at hother
    rcases List.mem_append.mp hother with hold | hnew
    · have hheld := hsticky other hold
      unfold SplitchStorage.assignmentOf at hheld ⊢
      rw [hafter, hheld]
      rfl
    · rw [List.mem_singleton.mp hnew, hrowAfter, hentry]
      cases hheld : world.storage.assignments exposure.experimentId
          call.request.context.idType input.targetingKeyHash with
      | none => rfl
      | some held => exact congrArg some (hsame held hheld)

/-- **A turn keeps Exposures sticky just when its commit is not overtaken.** Only a commit that
exposes changes assignments or the outbox. It inserts the assignment where none is held, and adds the
row with the Variant it has computed; the two agree unless a commit of the same Entity came between
its reads and its writes. -/
theorem sticky_next_iff (h : Claimed env world) (hsticky : Sticky world) (event : RpcEvent) :
    NotOvertaken env world event ↔ Sticky ((evaluations env).next world event) := by
  by_cases hexposes : ∃ call input exposure, Exposes env world event call input exposure
  · obtain ⟨call, input, exposure, hexposes⟩ := hexposes
    obtain ⟨⟨id, now, written, hevent, hrunning, hwrites⟩, hstage, hfree, hexposure⟩ := hexposes
    rw [sticky_of_exposes_iff ⟨⟨id, now, written, hevent, hrunning, hwrites⟩, hstage, hfree,
      hexposure⟩ hsticky]
    constructor
    · intro hguard
      exact hguard call input exposure
        ⟨⟨id, now, written, hevent, hrunning, hwrites⟩, hstage, hfree, hexposure⟩
        ((h.calls id call hrunning).unheld input hstage exposure hexposure)
    · -- The event determines call, input and Exposure.
      rintro hsame call' input' exposure' ⟨⟨id', now', _, hevent', hrunning', -⟩, hstage', -,
        hexposure'⟩ -
      cases hevent.symm.trans hevent'
      cases hrunning.symm.trans hrunning'
      cases hstage.symm.trans hstage'
      cases hexposure.symm.trans hexposure'
      exact hsame
  · have hnot : ∀ call input exposure, ¬ Exposes env world event call input exposure :=
      fun call input exposure h => hexposes ⟨call, input, exposure, h⟩
    obtain ⟨hassignments, houtbox⟩ := tables_of_not_exposes hnot
    refine ⟨fun _ row hrow => ?_, fun _ call input exposure h => absurd h (hnot _ _ _)⟩
    unfold SplitchStorage.assignmentOf
    rw [hassignments]
    exact hsticky row (houtbox ▸ hrow)

/-! ## 4. Runs -/

/-- **Evaluations are idempotent, and their Exposures sticky just as long as no commit is overtaken.**
The first is an invariant of every run. The second is decided turn by turn (`sticky_next_iff`), so
that the first commit that is overtaken is where it ends. -/
theorem sticky_exposures_iff (env : SplitchEnv) (events : List RpcEvent) :
    (∀ before, before <+: events →
      Idempotent env ((evaluations env).run before) ∧ Sticky ((evaluations env).run before)) ↔
      (evaluations env).Guarded (NotOvertaken env) SplitchWorld.empty events := by
  have hclaimed : ∀ before, Claimed env ((evaluations env).run before) := fun before =>
    (evaluations env).exec_invariant (fun _ event h => h.next event) claimed_empty before
  have hempty : Sticky SplitchWorld.empty := fun row hrow => by cases hrow
  rw [Machine.guarded_iff_forall_prefix (evaluations env) (I := Claimed env)
    (fun _ event h => h.next event) (fun _ event h hsticky => sticky_next_iff h hsticky event)
    claimed_empty hempty]
  constructor
  · intro h before hbefore
    exact (h before hbefore).2
  · intro h before hbefore
    exact ⟨(hclaimed before).idempotent, h before hbefore⟩

/-! ## 5. A commit that is overtaken -/

/-- The Experiment of `checkout` on its `n`-th Run, which allocates one Variant to all. -/
def restartedSnapshot (version : Nat) (variant : String) : ConfigSnapshot where
  environmentVersion := version
  appId := "app_1"
  environmentId := "env_1"
  flags :=
    [{ key := "checkout"
       environmentId := "env_1"
       experimentId := some "exp_1"
       enabled := true
       defaultVariantId := "var_1"
       variants :=
        [{ id := "var_1", name := "control", value := "false" },
         { id := "var_2", name := "treatment", value := "true" }]
       availableVariantNames := ["control", "treatment"]
       targetingRules := []
       rollout := none }]
  experiments :=
    [{ id := "exp_1"
       environmentId := "env_1"
       targetingKeyType := "user"
       liveRunId := some ("run_" ++ toString version) }]
  runs :=
    [{ id := "run_" ++ toString version
       experimentId := "exp_1"
       salt := "salt_" ++ toString version
       allocation := [(variant, 100)]
       targetingRules := []
       configHash := "hash_" ++ toString version }]

def restartedPayload (version : Nat) (variant : String) : String :=
  "\x7b\"schemaVersion\":1,\"environmentVersion\":" ++ toString version ++
  ",\"appId\":\"app_1\",\"environmentId\":\"env_1\",\"flags\":[\x7b\"id\":\"flag_1\"," ++
  "\"key\":\"checkout\",\"environmentId\":\"env_1\",\"experimentId\":\"exp_1\"," ++
  "\"enabled\":true,\"defaultVariantId\":\"var_1\",\"variants\":[\x7b\"id\":\"var_1\"," ++
  "\"name\":\"control\",\"value\":false\x7d,\x7b\"id\":\"var_2\",\"name\":\"treatment\"," ++
  "\"value\":true\x7d],\"availableVariantNames\":[\"control\",\"treatment\"]," ++
  "\"targetingRules\":[],\"rollout\":null,\"updatedAt\":\"2026-01-01T00:00:00.000Z\"\x7d]," ++
  "\"experiments\":[\x7b\"id\":\"exp_1\",\"environmentId\":\"env_1\"," ++
  "\"flagId\":\"flag_1\",\"targetingKey\":\"targetingKey\"," ++
  "\"targetingKeyType\":\"user\",\"status\":\"running\",\"liveRunId\":\"run_" ++
  toString version ++ "\"\x7d],\"runs\":[\x7b\"id\":\"run_" ++ toString version ++
  "\",\"experimentId\":\"exp_1\",\"salt\":\"salt_" ++ toString version ++
  "\",\"allocation\":\x7b\"" ++ variant ++ "\":100\x7d,\"variantSet\":[]," ++
  "\"targetingRules\":[],\"configHash\":\"hash_" ++ toString version ++
  "\",\"startedAt\":\"2026-01-01T00:00:00.000Z\"\x7d]\x7d"

def restartedEnv : SplitchEnv where
  core :=
    { configSnapshotSchema := fun payload =>
        if payload = restartedPayload 1 "control" then some (restartedSnapshot 1 "control")
        else if payload = restartedPayload 2 "treatment" then
          some (restartedSnapshot 2 "treatment")
        else none
      matchesCondition := fun _ _ => .ok false
      fractionalEval := fun _ _ weights => (weights.headD ("", 0)).1 }
  installationId := "installation_1"
  sha256Hex := Sha256.hex
  hmacHex := fun _ text =>
    if text = "user:user_1" then
      "6fdc485f12746b6e354eb8da1afa1b6755e63dcab8da62c31d192e9609e36c76"
    else "c53dedb7a11836555c63b86250b100fdd057b8e7c75dada959b957cf94c2c751"
  canonicalJson := fun flagKey context defaultValue =>
    "\x7b\"context\":\x7b\"attributes\":" ++ context.attributes ++ ",\"idType\":\"" ++
      context.idType ++ "\",\"targetingKey\":\"" ++ context.targetingKey ++
      "\"\x7d,\"defaultValue\":" ++ defaultValue ++ ",\"flagKey\":\"" ++ flagKey ++ "\"\x7d"

/-- A first evaluation waits for its commit while the Experiment is restarted and the same Entity
is evaluated again. -/
def overtakenRun : List RpcEvent :=
  let request (idempotencyKey : String) : CloudflareEvaluationContext :=
    { targetingKey := "user_1", idempotencyKey }
  [.applySnapshot (restartedPayload 1 "control") "delivery_1"
      "c3BsaXRjaC1pZGVudGl0eS1rZXktZm9yLXRoZS1ydW4" 1000,
    .evaluateDetails 0 "checkout" (request "request_1"), .resume 0 2000, .resume 0 2001,
    .applySnapshot (restartedPayload 2 "treatment") "delivery_2" "" 2002,
    .evaluateDetails 1 "checkout" (request "request_2"), .resume 1 2003, .resume 1 2004,
    .resume 1 2005, .resume 0 2006]

/-- **One Entity is exposed under two Variants**: the first evaluation reports the Variant of the
old Run, while the Entity holds that of the new one. -/
theorem exposed_under_two_variants :
    let world := (evaluations restartedEnv).run overtakenRun
    ¬ Sticky world ∧
      world.storage.exposureOutbox.map (fun row => (row.runId, row.variantName)) =
        [("run_2", "treatment"), ("run_1", "control")] := by
  decide +kernel

end Cloudflare

end Splitch
