/-
# The changes of a Flag over the payloads of a client

A client exposes a Flag once, and once more for each change of it.  What a change is must not be told in
the client's own terms: what it HOLDS is merged from older payloads (`mergeEvaluations` keeps the old value
where the new one is equal), while a change is a matter of the payloads as they CAME from the server.  This
module brings the two together.

What is held mirrors the payload that came last, with equal values in place of the very same ones.  Being
the same resolution is an equivalence (`SameResolution.trans`), so a newer payload differs from what is held
exactly where it differs from the payload before it (`Mirrors.mem_diffFlags_iff`), and the Flags that a swap
reports are those that the two payloads resolve differently.

Reports are counted: how often a Flag was reported equals how often a payload of the run resolves it
otherwise than the one before (`Counted`).  One step at a time, a payload that comes reports its changes
(`onPayload_counted`), the first one reports nothing, as nothing was held, and every other step neither
brings a payload nor reports one (`Unreported`).  By induction the equation holds of every run
(`run_counted`).

With the client's own invariant, by which a Flag is exposed once for each time it is armed, this bounds its
Exposures and the logs of its faults by the changes in what the server has sent (`exposed_once`).
-/
import Splitch.Sdk.ClientInvariants

namespace Splitch

namespace Browser

open EvaluateAll JsonText

variable {N : Type} [DecidableEq N]

/-! ## 1. One resolution -/

omit [DecidableEq N] in
theorem mem_of_get {key : String} {members : List (String × Json N)} {value : Json N}
    (h : Json.get key (.obj members) = some value) : (key, value) ∈ members := by
  obtain ⟨member, hfind, rfl⟩ := Option.map_eq_some_iff.mp h
  have hkey : member.1 = key := by simpa using List.find?_some hfind
  subst hkey
  exact List.mem_reverse.mp (List.mem_of_find?_eq_some hfind)

theorem canonicalEqual_trans {left middle right : Json N} (h : canonicalEqual left middle = true)
    (h' : canonicalEqual middle right = true) : canonicalEqual left right = true := by
  induction left using Json.induction generalizing middle right with
  | null =>
    cases middle <;> simp only [canonicalEqual, Bool.false_eq_true] at h
    exact h'
  | bool value =>
    cases middle <;> simp only [canonicalEqual, Bool.false_eq_true, decide_eq_true_eq] at h
    exact h ▸ h'
  | num value =>
    cases middle <;> simp only [canonicalEqual, Bool.false_eq_true, decide_eq_true_eq] at h
    exact h ▸ h'
  | str value =>
    cases middle <;> simp only [canonicalEqual, Bool.false_eq_true, decide_eq_true_eq] at h
    exact h ▸ h'
  | arr items ih =>
    cases middle <;> simp only [canonicalEqual, Bool.false_eq_true] at h
    next items' =>
      cases right <;> simp only [canonicalEqual, Bool.false_eq_true] at h'
      next items'' =>
        rw [Bool.and_eq_true, decide_eq_true_eq, everyItem_iff] at h h'
        rw [canonicalEqual, Bool.and_eq_true, decide_eq_true_eq, everyItem_iff]
        refine ⟨h.1.trans h'.1, fun pair hpair => ?_⟩
        obtain ⟨i, hi, rfl⟩ := List.mem_iff_getElem.mp hpair
        rw [List.length_zip] at hi
        have hleft := h.2 _ (List.getElem_mem (by rw [List.length_zip]; omega : i < (items.zip items').length))
        have hright := h'.2 _ (List.getElem_mem (by rw [List.length_zip]; omega : i < (items'.zip items'').length))
        rw [List.getElem_zip] at hleft hright ⊢
        exact ih _ (List.getElem_mem _) hleft hright
  | obj members ih =>
    cases middle <;> simp only [canonicalEqual, Bool.false_eq_true] at h
    next members' =>
      cases right <;> simp only [canonicalEqual, Bool.false_eq_true] at h'
      next members'' =>
        rw [Bool.and_eq_true, decide_eq_true_eq, everyMember_iff] at h h'
        rw [canonicalEqual, Bool.and_eq_true, decide_eq_true_eq, everyMember_iff]
        refine ⟨h.1.trans h'.1, fun member hmember => ?_⟩
        obtain ⟨value, hget, hequal⟩ := h.2 member hmember
        obtain ⟨value', hget', hequal'⟩ := h'.2 _ (mem_of_get hget)
        exact ⟨value', hget', ih _ hmember hequal hequal'⟩

theorem canonicalEqual_symm {left right : Json N} (hleft : left.Distinct) (hright : right.Distinct)
    (h : canonicalEqual left right = true) : canonicalEqual right left = true := by
  induction left using Json.induction generalizing right with
  | null => cases right <;> simp_all [canonicalEqual]
  | bool value => cases right <;> simp_all [canonicalEqual]
  | num value => cases right <;> simp_all [canonicalEqual]
  | str value => cases right <;> simp_all [canonicalEqual]
  | arr items ih =>
    cases hleft with
    | arr hitems =>
    cases hright with
    | @arr items' hitems' =>
      rw [canonicalEqual, Bool.and_eq_true, decide_eq_true_eq, everyItem_iff] at h ⊢
      refine ⟨h.1.symm, fun pair hpair => ?_⟩
      obtain ⟨i, hi, rfl⟩ := List.mem_iff_getElem.mp hpair
      rw [List.length_zip] at hi
      have hequal := h.2 _ (List.getElem_mem (by rw [List.length_zip]; omega : i < (items.zip items').length))
      rw [List.getElem_zip] at hequal ⊢
      exact ih _ (List.getElem_mem _) (hitems _ (List.getElem_mem _)) (hitems' _ (List.getElem_mem _)) hequal
    | _ => simp [canonicalEqual] at h
  | obj members ih =>
    cases hleft with
    | obj hkeys hmembers =>
    cases hright with
    | @obj members' hkeys' hmembers' =>
      rw [canonicalEqual, Bool.and_eq_true, decide_eq_true_eq, everyMember_iff] at h ⊢
      refine ⟨h.1.symm, fun member' hmember' => ?_⟩
      have hkey : member'.1 ∈ members.map (·.1) :=
        ((sortedKeys_eq_iff hkeys).mp h.1).mem_iff.mpr (List.mem_map_of_mem hmember')
      obtain ⟨member, hmember, heq⟩ := List.mem_map.mp hkey
      obtain ⟨value, hget, hequal⟩ := h.2 member hmember
      rw [heq, Json.get_of_mem hkeys' hmember'] at hget
      cases hget
      rw [← heq]
      exact ⟨member.2, Json.get_of_mem hkeys hmember,
        ih _ hmember (hmembers _ hmember) (hmembers' _ hmember') hequal⟩
    | _ => simp [canonicalEqual] at h

theorem SameResolution.symm {before after : EvaluateAllEntry N} (hbefore : before.variant.Distinct)
    (hafter : after.variant.Distinct) (h : SameResolution before after) : SameResolution after before where
  variant := by
    rw [← canonicalEqual_iff hafter hbefore]
    exact canonicalEqual_symm hbefore hafter ((canonicalEqual_iff hbefore hafter).mpr h.variant)
  variantName := h.variantName.symm
  reason := h.reason.symm
  errorCode := h.errorCode.symm
  exposureIdentity := h.exposureIdentity.symm

theorem SameResolution.trans {before middle after : EvaluateAllEntry N} (hbefore : before.variant.Distinct)
    (hmiddle : middle.variant.Distinct) (hafter : after.variant.Distinct) (h : SameResolution before middle)
    (h' : SameResolution middle after) : SameResolution before after where
  variant := by
    rw [← canonicalEqual_iff hbefore hafter]
    exact canonicalEqual_trans ((canonicalEqual_iff hbefore hmiddle).mpr h.variant)
      ((canonicalEqual_iff hmiddle hafter).mpr h'.variant)
  variantName := h.variantName.trans h'.variantName
  reason := h.reason.trans h'.reason
  errorCode := h.errorCode.trans h'.errorCode
  exposureIdentity := h.exposureIdentity.trans h'.exposureIdentity

/-! ## 2. What is held, and what came -/

/-- A newer payload differs from what is held where it differs from the payload before it. -/
theorem Mirrors.mem_diffFlags_iff {held payload next : HeldPayload N} (h : Mirrors held payload)
    {flagKey : String} : flagKey ∈ diffFlags held.evaluations next.evaluations ↔
      flagKey ∈ diffFlags payload.evaluations next.evaluations := by
  rw [mem_diffFlags, mem_diffFlags, not_iff_not]
  have hfollows := h.entryOf flagKey
  revert hfollows
  cases hheld : held.evaluations.entryOf flagKey with
  | none =>
    cases hpayload : payload.evaluations.entryOf flagKey with
    | none => exact fun _ => Iff.rfl
    | some incoming => rintro ⟨⟩
  | some entry =>
    cases hpayload : payload.evaluations.entryOf flagKey with
    | none => rintro ⟨⟩
    | some incoming =>
      intro hfollows
      have hsame : SameResolution entry incoming := (Option.rel_some_some.mp hfollows).toSameResolution
      have hentry := Evaluations.distinct_of_entryOf hheld
      have hincoming := Evaluations.distinct_of_entryOf hpayload
      cases hnext : next.evaluations.entryOf flagKey with
      | none => exact ⟨fun hrel => (by cases hrel), fun hrel => (by cases hrel)⟩
      | some after =>
        have hafter := Evaluations.distinct_of_entryOf hnext
        rw [Option.rel_some_some, Option.rel_some_some]
        exact ⟨fun hrel => (hsame.symm hentry hincoming).trans hincoming hentry hafter hrel,
          fun hrel => hsame.trans hentry hincoming hafter hrel⟩

theorem diffFlags_nodup (previous next : Evaluations N) : (diffFlags previous next).Nodup := by
  refine List.Nodup.filter _ (List.nodup_append.mpr ⟨previous.keys_nodup, next.keys_nodup.filter _, ?_⟩)
  rintro flagKey hprevious other hnext rfl
  simp only [List.mem_filter, decide_eq_true_eq] at hnext
  exact hnext.2 hprevious

/-- How often a Flag is resolved otherwise than by the payload before. -/
def changes (flagKey : String) : List (HeldPayload N) → Nat
  | previous :: next :: rest =>
    (if flagKey ∈ diffFlags previous.evaluations next.evaluations then 1 else 0) + changes flagKey (next :: rest)
  | _ => 0

theorem changes_concat (flagKey : String) (payload next : HeldPayload N) (received : List (HeldPayload N)) :
    changes flagKey (received ++ [payload] ++ [next]) = changes flagKey (received ++ [payload]) +
      if flagKey ∈ diffFlags payload.evaluations next.evaluations then 1 else 0 := by
  induction received with
  | nil => simp [changes]
  | cons first received ih =>
    cases received with
    | nil => simp [changes]
    | cons second received =>
      simp only [List.cons_append, changes] at ih ⊢
      omega

namespace BrowserClient

variable {deps : BrowserClientDeps N} {client : BrowserClient N}

/-- The Flags that were reported, in terms of the payloads that came. -/
def Counted (client : BrowserClient N) : Prop :=
  ∀ flagKey, client.history.changed.count flagKey = changes flagKey client.history.received

/-- Neither a payload nor a report. -/
structure Unreported (client client' : BrowserClient N) : Prop where
  received : client'.history.received = client.history.received
  changed : client'.history.changed = client.history.changed

theorem Counted.of_unreported {client' : BrowserClient N} (h : Counted client) (hsame : Unreported client client') :
    Counted client' := by
  intro flagKey
  rw [hsame.changed, hsame.received]
  exact h flagKey

theorem unreported_expire (error : SplitchSdkError) : Unreported client (client.expire error) := by
  rw [BrowserClient.expire]
  split_ifs <;> exact ⟨rfl, rfl⟩

variable (client) in
theorem unreported_expireOn (error : Option SplitchSdkError) : Unreported client (client.expireOn error) := by
  unfold expireOn
  split
  · exact ⟨rfl, rfl⟩
  · split_ifs
    · exact unreported_expire _
    · exact ⟨rfl, rfl⟩

theorem unreported_fail (error : SplitchSdkError) : Unreported client (client.fail error) := by
  obtain ⟨hreceived, hchanged⟩ := unreported_expireOn (client.loudly error) (some error)
  rw [BrowserClient.fail]
  split_ifs <;> exact ⟨hreceived, hchanged⟩

theorem onPayload_counted (h : Inv client) (hcounted : Counted client) (hheld : client.store.held ≠ none)
    (hexpiry : client.expiryError = none) (payload : HeldPayload N) : Counted (client.onPayload payload) := by
  have hmirrors := h.mirrors hexpiry
  obtain ⟨held, hsome⟩ := Option.ne_none_iff_exists'.mp hheld
  rw [hsome] at hmirrors
  cases hlast : client.history.received.getLast? with
  | none =>
    rw [hlast] at hmirrors
    cases hmirrors
  | some last =>
    rw [hlast] at hmirrors
    have hmirrors := Option.rel_some_some.mp hmirrors
    obtain ⟨received, hreceived⟩ := List.getLast?_eq_some_iff.mp hlast
    intro flagKey
    have hbefore := hcounted flagKey
    have hchanged : (client.store.swap payload).2 = diffFlags held.evaluations payload.evaluations := by
      simp [BrowserPayloadStore.swap, hsome]
    change (client.history.changed ++ (client.store.swap payload).2).count flagKey =
      changes flagKey (client.history.received ++ [payload])
    rw [List.count_append, hbefore, hchanged, hreceived, changes_concat, Nat.add_left_cancel_iff]
    split_ifs with hmem
    · exact List.count_eq_one_of_mem (diffFlags_nodup _ _) (hmirrors.mem_diffFlags_iff.mpr hmem)
    · exact List.count_eq_zero.mpr fun hmem' => hmem (hmirrors.mem_diffFlags_iff.mp hmem')

variable (client) in
omit [DecidableEq N] in
theorem unreported_logHeldResolution (flagKey : String) (resolution : HeldResolution N) :
    Unreported client (client.logHeldResolution flagKey resolution) := by
  unfold logHeldResolution
  dsimp only
  split_ifs <;> exact ⟨rfl, rfl⟩

omit [DecidableEq N] in
theorem unreported_readDetails (flagKey : String) (defaultValue : Json N) (minted : Option String)
    (clientTimestamp : String) :
    Unreported client (client.readDetails deps flagKey defaultValue minted clientTimestamp).2 := by
  unfold readDetails
  split
  · exact ⟨rfl, rfl⟩
  · split
    · exact ⟨rfl, rfl⟩
    · next held _ =>
      obtain ⟨hreceived, hchanged⟩ := unreported_logHeldResolution client flagKey
        (deriveHeldResolution flagKey (held.evaluations.entryOf flagKey) defaultValue)
      dsimp only
      split_ifs
      · exact ⟨hreceived, hchanged⟩
      · unfold expose
        split <;> exact ⟨hreceived, hchanged⟩

theorem initialized_counted (h : Inv client) (hcounted : Counted client) (reply : Reply N) :
    Counted (client.initialized deps reply) := by
  unfold initialized
  split_ifs with hpromise
  · exact hcounted
  · split
    · exact hcounted.of_unreported ⟨(unreported_expireOn _ _).received, (unreported_expireOn _ _).changed⟩
    · split
      · exact hcounted.of_unreported ⟨(unreported_expireOn _ _).received, (unreported_expireOn _ _).changed⟩
      · next result _ payload _ =>
        obtain ⟨hheld, -⟩ := h.pending (not_not.mp hpromise)
        have hnone : client.history.received = [] := by
          have hetag := h.etag
          rw [hheld, Option.map_none, eq_comm, Option.map_eq_none_iff, List.getLast?_eq_none_iff] at hetag
          exact hetag
        intro flagKey
        have hbefore := hcounted flagKey
        rw [hnone] at hbefore
        change client.history.changed.count flagKey = changes flagKey (client.history.received ++ [payload])
        rw [hbefore, hnone]
        rfl

theorem revalidate_unreported (minted : Option String) : Unreported client (client.revalidate minted) := by
  unfold revalidate
  split_ifs
  · exact ⟨rfl, rfl⟩
  · dsimp only
    split
    · exact ⟨rfl, rfl⟩
    · split
      · exact ⟨(unreported_fail _).received, (unreported_fail _).changed⟩
      · exact ⟨rfl, rfl⟩

theorem revalidated_counted (h : Inv client) (hcounted : Counted client) (reply : Reply N) :
    Counted (client.revalidated reply) := by
  unfold revalidated
  split
  · next etag hphase =>
    have hheld : client.store.held ≠ none := h.started (by rw [hphase]; simp)
    have hticked : Inv (client.setPhase .ticked) := ⟨h.toCore.ticked hheld, h.expiry⟩
    have hsame : Counted (client.setPhase .ticked) := hcounted
    dsimp only
    split_ifs with hstopped
    · exact hsame
    · have hexpiry : client.expiryError = none := by
        by_contra hsome
        exact hstopped (h.stopped (Option.isSome_iff_ne_none.mpr hsome))
      split
      · exact hsame.of_unreported (unreported_fail _)
      · split_ifs
        · exact hsame
        · split
          · exact onPayload_counted hticked hsame hheld hexpiry _
          · exact hsame.of_unreported (unreported_fail _)
  · exact hcounted

theorem step_counted (h : Inv client) (hcounted : Counted client) (event : Event N) :
    Counted ((browserClient deps).next client event) := by
  cases event with
  | init minted =>
    refine hcounted.of_unreported ?_
    change Unreported client (client.init deps minted)
    unfold init
    split_ifs
    · exact ⟨rfl, rfl⟩
    · exact ⟨rfl, rfl⟩
    · exact ⟨rfl, rfl⟩
    · cases minted <;> exact ⟨rfl, rfl⟩
  | initialized reply => exact initialized_counted h hcounted reply
  | read flagKey defaultValue minted clientTimestamp =>
    exact hcounted.of_unreported (unreported_readDetails flagKey defaultValue minted clientTimestamp)
  | subscribe flagKey listener => exact hcounted
  | unsubscribe flagKey listener id => exact hcounted
  | flush => exact hcounted
  | close => exact hcounted
  | revalidate minted => exact hcounted.of_unreported (revalidate_unreported minted)
  | revalidated reply => exact revalidated_counted h hcounted reply
  | reschedule =>
    refine hcounted.of_unreported ?_
    change Unreported client client.reschedule
    rw [reschedule]
    split_ifs <;> exact ⟨rfl, rfl⟩
  | queue event =>
    refine hcounted.of_unreported ?_
    change Unreported client (client.withQueue (client.queue.step deps.queue event.event))
    unfold withQueue
    split
    · exact ⟨rfl, rfl⟩
    · exact ⟨(unreported_expire _).received, (unreported_expire _).changed⟩

variable (deps) in
/-- **The Flags that are reported** are those that a payload, as it came, resolves otherwise than the one
before it. -/
theorem run_counted (events : List (Event N)) : Counted ((browserClient deps).run events) := by
  have hnew : Inv (new deps) ∧ Counted (new deps) := by
    refine ⟨new_inv, fun flagKey => ?_⟩
    change 0 = changes flagKey deps.bootstrap.toList
    cases deps.bootstrap <;> rfl
  exact ((browserClient deps).exec_invariant (I := fun client => Inv client ∧ Counted client)
    (fun _ event h => ⟨step_inv h.1 event, step_counted h.1 h.2 event⟩) hnew events).2

variable (deps) in
/-- **A Flag is exposed once**, and once more for each payload that resolves it otherwise than the one before
and for each of its Exposures that was dropped; with a ticket that a payload issued for a Variant of it.
A fault of it is logged as seldom. -/
theorem exposed_once (events : List (Event N)) (flagKey : String) :
    let client := (browserClient deps).run events
    let history := client.queue.history
    let often := changes flagKey client.history.received
    exposures flagKey history.admitted ≤ 1 + often + exposures flagKey history.dropped ∧
      (∀ item ∈ history.admitted, ∃ payload ∈ client.history.received, Issues payload item) ∧
      ∀ kind ∈ LOGGED_RESOLUTION_KINDS, faults flagKey kind client.history.faults ≤ 1 + often := by
  intro client history often
  have h : Inv client := run_inv deps events
  have hcounted : client.history.changed.count flagKey = often := run_counted deps events flagKey
  refine ⟨?_, h.tickets, fun kind hkind => ?_⟩
  · have hexposed : exposures flagKey history.admitted ≤ client.history.changed.count flagKey +
        exposures flagKey history.dropped + if flagKey ∈ client.queue.enqueuedFlags then 1 else 0 :=
      h.exposed flagKey
    rw [hcounted] at hexposed
    split_ifs at hexposed <;> omega
  · have hlogged := h.logged flagKey kind hkind
    rw [hcounted] at hlogged
    split_ifs at hlogged <;> omega

end BrowserClient

end Browser

end Splitch
