/-
# What the seen-set answers

A run of the seen-set is a list of lookups and writes, and its state is a list of entries, the one used last
at the end.  Two invariants go through the run.

The first is about HOW MUCH is stored and in which order (`Kept`): the keys are distinct, neither the
entries nor the resolutions in one exceed their limits, and the entries stand in the order of their last use.
A lookup that hits moves its entry to the end and a write puts it there, so when a write evicts the first
entry, everything that stays was used later (`evicted_first`).

The second is about WHAT is stored (`Stored`): under each key and each fingerprint, the latest resolution
that was written there since the entry was made, and the entry's time is that of the write that made it.  An
entry that is still fresh takes one more resolution and keeps its time; one that is not is replaced, and
forgets the others.  So a hit replays the latest write, and that write is no older than the entry, which is
fresh (`seen_set_answers`).

Both are about keys and fingerprints.  What they say about evaluations needs the two to tell evaluations
apart: no NUL in a Flag key or an idType, as the key is joined with NUL, and no `__proto__` member in the
attributes, as the fingerprint loses it (`Asked.Clear`).  It also needs a clock that does not go back.
-/
import Splitch.Sdk.SeenSet

namespace Splitch

namespace Seen

open JsonText

variable {N : Type} [NumberFormat N] {limits : SeenSetLimits} {entries : Entries N} {asked : Asked N}

/-! ## 1. How much is stored, and in which order -/

structure Kept (limits : SeenSetLimits) (used : List String) (entries : Entries N) : Prop where
  recent : LruMap.Recent used entries
  size : (entries.length : Int) ≤ limits.maxSize
  values : ∀ entry ∈ entries, (entry.2.values.length : Int) ≤ limits.maxValuesPerEntry

omit [NumberFormat N] in
theorem length_putValue_le (values : List (String × SeenResolution N)) (fingerprint : String)
    (resolution : SeenResolution N) :
    ((putValue limits values fingerprint resolution).length : Int) ≤ limits.maxValuesPerEntry :=
  LruMap.length_evict_le (zero_le_one.trans limits.maxValuesPerEntry_pos) _

theorem length_nextEntry_le (runId : String) (resolution : SeenResolution N) (now : Int) :
    ((nextEntry limits entries asked runId resolution now).values.length : Int) ≤
      limits.maxValuesPerEntry := by
  rw [nextEntry]
  split
  · split <;> exact length_putValue_le _ _ _
  · exact length_putValue_le _ _ _

theorem set_eq {used : List String} (h : Kept limits used entries) (runId : String)
    (resolution : SeenResolution N) (now : Int) :
    SeenSet.set limits entries asked runId resolution now =
      if ((written limits entries asked runId resolution now).length : Int) > limits.maxSize then
        (written limits entries asked runId resolution now).tail
      else written limits entries asked runId resolution now := by
  rw [SeenSet.set, LruMap.deleteOldest_eq]
  exact (h.recent.touch asked.id (nextEntry limits entries asked runId resolution now)).nodup

theorem set_suffix {used : List String} (h : Kept limits used entries) (runId : String)
    (resolution : SeenResolution N) (now : Int) :
    SeenSet.set limits entries asked runId resolution now <:+
      written limits entries asked runId resolution now := by
  rw [set_eq h]
  split
  · exact List.tail_suffix _
  · exact List.suffix_refl _

theorem kept_set {used : List String} (h : Kept limits used entries) (runId : String)
    (resolution : SeenResolution N) (now : Int) :
    Kept limits (used ++ [asked.id]) (SeenSet.set limits entries asked runId resolution now) := by
  have hsuffix : SeenSet.set limits entries asked runId resolution now <:+ _ :=
    set_suffix h runId resolution now
  refine ⟨(h.recent.touch asked.id _).sublist hsuffix.sublist, ?_, fun entry hentry => ?_⟩
  · have hsize := h.size
    have hlength : (written limits entries asked runId resolution now).length ≤ entries.length + 1 :=
      LruMap.length_set_delete_le_succ _
    rw [set_eq h]
    split
    · rw [List.length_tail]
      omega
    · next hle => exact not_lt.mp hle
  · rcases LruMap.mem_set_delete.mp (hsuffix.subset hentry) with hold | rfl
    · exact h.values entry hold.1
    · exact length_nextEntry_le runId resolution now

/-- The three ways a lookup goes. -/
theorem get_cases (limits : SeenSetLimits) (entries : Entries N) (asked : Asked N) (now : Int) :
    (∃ entry resolution, LruMap.get entries asked.id = some entry ∧
      now - entry.storedAt < limits.ttlMs ∧
      LruMap.get entry.values asked.fingerprint = some resolution ∧
      SeenSet.get limits entries asked now =
        (.hit { resolution with runId := entry.runId, storedAt := entry.storedAt },
          LruMap.set (LruMap.delete entries asked.id) asked.id
            (touchValue entry asked.fingerprint resolution))) ∨
    (∃ result, (∀ entry, result ≠ .hit entry) ∧
      (SeenSet.get limits entries asked now = (result, entries) ∨
        SeenSet.get limits entries asked now = (result, LruMap.delete entries asked.id))) := by
  cases hentry : LruMap.get entries asked.id with
  | none =>
    refine .inr ⟨.miss, fun entry h => (by cases h), .inl ?_⟩
    simp only [SeenSet.get, hentry]
  | some entry =>
    by_cases hstale : now - entry.storedAt ≥ limits.ttlMs
    · refine .inr ⟨.miss, fun entry h => (by cases h), .inr ?_⟩
      simp only [SeenSet.get, hentry, if_pos hstale]
    · cases hvalue : LruMap.get entry.values asked.fingerprint with
      | none =>
        refine .inr ⟨.contextMiss entry.runId, fun entry h => (by cases h), .inl ?_⟩
        simp only [SeenSet.get, hentry, if_neg hstale, hvalue]
      | some resolution =>
        refine .inl ⟨entry, resolution, rfl, not_le.mp hstale, hvalue, ?_⟩
        simp only [SeenSet.get, hentry, if_neg hstale, hvalue]

/-- A hit replays a resolution of an entry that is fresh. -/
theorem get_hit {now : Int} {entry : SeenEntry N}
    (h : (SeenSet.get limits entries asked now).1 = .hit entry) :
    ∃ found, LruMap.get entries asked.id = some found ∧ now - found.storedAt < limits.ttlMs ∧
      entry.runId = found.runId ∧
      LruMap.get found.values asked.fingerprint = some entry.toSeenResolution := by
  rcases get_cases limits entries asked now with
    ⟨found, resolution, hfound, hfresh, hvalue, hget⟩ | ⟨result, hmiss, hget⟩
  · rw [hget] at h
    cases h
    exact ⟨found, hfound, hfresh, rfl, hvalue⟩
  · rcases hget with hget | hget <;> rw [hget] at h <;> exact absurd h (hmiss entry)

/-- A lookup that misses the context finds an entry that is fresh. -/
theorem get_contextMiss {now : Int} {runId : String}
    (h : (SeenSet.get limits entries asked now).1 = .contextMiss runId) :
    ∃ found, LruMap.get entries asked.id = some found ∧ now - found.storedAt < limits.ttlMs ∧
      runId = found.runId := by
  cases hfound : LruMap.get entries asked.id with
  | none =>
    simp only [SeenSet.get, hfound] at h
    cases h
  | some found =>
    by_cases hstale : now - found.storedAt ≥ limits.ttlMs
    · simp only [SeenSet.get, hfound, if_pos hstale] at h
      cases h
    · refine ⟨found, rfl, not_le.mp hstale, ?_⟩
      cases hvalue : LruMap.get found.values asked.fingerprint with
      | none =>
        simp only [SeenSet.get, hfound, if_neg hstale, hvalue] at h
        cases h
        rfl
      | some resolution =>
        simp only [SeenSet.get, hfound, if_neg hstale, hvalue] at h
        cases h

omit [NumberFormat N] in
theorem Kept.sublist {used : List String} (h : Kept limits used entries) {entries' : Entries N}
    (hsub : entries'.Sublist entries) : Kept limits used entries' :=
  ⟨h.recent.sublist hsub, (Int.ofNat_le.mpr hsub.length_le).trans h.size,
    fun entry hentry => h.values entry (hsub.subset hentry)⟩

/-- A hit uses its entry. -/
theorem used_hit {now : Int} {entry : SeenEntry N}
    (h : (SeenSet.get limits entries asked now).1 = .hit entry) :
    used limits entries (.get asked now) = [asked.id] := by
  have hout : (seenSet limits).out entries (.get asked now) =
      some (SeenSet.get limits entries asked now).1 := rfl
  rw [used, hout, h]
  rfl

theorem used_miss {now : Int} (h : ∀ entry, (SeenSet.get limits entries asked now).1 ≠ .hit entry) :
    used limits entries (.get asked now) = [] := by
  have hout : (seenSet limits).out entries (.get asked now) =
      some (SeenSet.get limits entries asked now).1 := rfl
  rw [used, hout]
  cases hresult : (SeenSet.get limits entries asked now).1 with
  | hit entry => exact absurd hresult (h entry)
  | _ => rfl

/-- **Every call** keeps the entries in the order of use, and within the limits. A hit moves its entry
to the end, which makes the list no longer; a miss may have dropped one that has expired; and a write
makes room before it appends. -/
theorem kept_next {before : List String} (h : Kept limits before entries) (call : Call N) :
    Kept limits (before ++ used limits entries call) ((seenSet limits).next entries call) := by
  cases call with
  | set asked runId resolution now => exact kept_set h runId resolution now
  | get asked now =>
    change Kept limits _ (SeenSet.get limits entries asked now).2
    rcases get_cases limits entries asked now with
      ⟨entry, resolution, hentry, -, hvalue, hget⟩ | ⟨result, hmiss, hget⟩
    · rw [used_hit (by rw [hget]), hget]
      refine ⟨h.recent.touch asked.id _, ?_, fun other hother => ?_⟩
      · exact (Int.ofNat_le.mpr (LruMap.length_set_delete_le hentry _)).trans h.size
      · rcases LruMap.mem_set_delete.mp hother with hold | rfl
        · exact h.values other hold.1
        · exact (Int.ofNat_le.mpr (LruMap.length_set_delete_le hvalue _)).trans
            (h.values _ (LruMap.mem_of_get hentry))
    · have hno : ∀ entry, (SeenSet.get limits entries asked now).1 ≠ .hit entry := by
        intro entry heq
        rcases hget with hget | hget <;> rw [hget] at heq <;> exact hmiss entry heq
      rw [used_miss hno, List.append_nil]
      rcases hget with hget | hget <;> rw [hget]
      · exact h
      · exact h.sublist LruMap.delete_sublist

theorem kept_run (limits : SeenSetLimits) (calls : List (Call N)) :
    Kept limits (uses limits [] calls) ((seenSet limits).run calls) := by
  induction calls using List.reverseRecOn with
  | nil =>
    exact ⟨LruMap.Recent.nil _, zero_le_one.trans limits.maxSize_pos,
      fun entry h => absurd h List.not_mem_nil⟩
  | append_singleton calls call ih =>
    rw [uses_append, Machine.run_concat]
    have hnext := kept_next ih call
    rwa [uses, uses, List.append_nil]

/-- **What is evicted** was used last before everything that stays. -/
theorem evicted_first {before : List String} (h : Kept limits before entries) (runId : String)
    (resolution : SeenResolution N) (now : Int) {id other : String} (hne : id ≠ asked.id)
    (hstored : id ∈ entries.map (·.1))
    (hevicted : id ∉ (SeenSet.set limits entries asked runId resolution now).map (·.1))
    (hother : other ∈ (SeenSet.set limits entries asked runId resolution now).map (·.1)) :
    LruMap.UsedSince (before ++ [asked.id]) id other := by
  refine (h.recent.touch asked.id _).shed (set_suffix h runId resolution now) ?_ hevicted hother
  obtain ⟨entry, hentry, rfl⟩ := List.mem_map.mp hstored
  exact List.mem_map_of_mem (LruMap.mem_set_delete.mpr (.inl ⟨hentry, hne⟩))

/-! ## 2. What is stored -/

/-- A lookup makes no entry, and gives none a resolution. -/
theorem mem_get {now : Int} {id : String} {entry : StoredEntry N}
    (hmem : (id, entry) ∈ (SeenSet.get limits entries asked now).2) :
    ∃ old, (id, old) ∈ entries ∧ entry.runId = old.runId ∧ entry.storedAt = old.storedAt ∧
      ∀ value ∈ entry.values, value ∈ old.values := by
  rcases get_cases limits entries asked now with
    ⟨found, resolution, hfound, -, hvalue, hget⟩ | ⟨result, -, hget⟩
  · rw [hget] at hmem
    rcases LruMap.mem_set_delete.mp hmem with ⟨hold, -⟩ | heq
    · exact ⟨entry, hold, rfl, rfl, fun _ h => h⟩
    · obtain ⟨rfl, rfl⟩ := Prod.mk.inj heq
      refine ⟨found, LruMap.mem_of_get hfound, rfl, rfl, fun value hreplayed => ?_⟩
      rcases LruMap.mem_set_delete.mp hreplayed with ⟨hold, -⟩ | rfl
      · exact hold
      · exact LruMap.mem_of_get hvalue
  · refine ⟨entry, ?_, rfl, rfl, fun _ h => h⟩
    rcases hget with hget | hget <;> rw [hget] at hmem
    · exact hmem
    · exact (LruMap.mem_delete.mp hmem).1

/-- A write makes one entry, and leaves the others. -/
theorem mem_set {runId : String} {resolution : SeenResolution N} {now : Int} {id : String}
    {entry : StoredEntry N} (hmem : (id, entry) ∈ SeenSet.set limits entries asked runId resolution now) :
    (id, entry) ∈ entries ∧ id ≠ asked.id ∨
      id = asked.id ∧ entry = nextEntry limits entries asked runId resolution now := by
  have hwritten : (id, entry) ∈ written limits entries asked runId resolution now := by
    rw [SeenSet.set] at hmem
    split at hmem
    · exact LruMap.deleteOldest_sublist.subset hmem
    · exact hmem
  exact (LruMap.mem_set_delete.mp hwritten).imp_right Prod.mk.inj

omit [NumberFormat N] in
theorem mem_putValue {values : List (String × SeenResolution N)} {fingerprint stored : String}
    {resolution replayed : SeenResolution N}
    (hmem : (stored, replayed) ∈ putValue limits values fingerprint resolution) :
    (stored, replayed) ∈ values ∧ stored ≠ fingerprint ∨
      stored = fingerprint ∧ replayed = resolution :=
  (LruMap.mem_set_delete.mp ((LruMap.evict_suffix _ _).subset hmem)).imp_right Prod.mk.inj

/-- A write goes into an entry that is still fresh, or makes a new one. -/
theorem nextEntry_cases (limits : SeenSetLimits) (entries : Entries N) (asked : Asked N)
    (runId : String) (resolution : SeenResolution N) (now : Int) :
    (∃ existing, LruMap.get entries asked.id = some existing ∧
      now - existing.storedAt < limits.ttlMs ∧
      nextEntry limits entries asked runId resolution now =
        ⟨existing.runId, existing.storedAt,
          putValue limits existing.values asked.fingerprint resolution⟩) ∨
    (∀ existing, LruMap.get entries asked.id = some existing →
      ¬ now - existing.storedAt < limits.ttlMs) ∧
      nextEntry limits entries asked runId resolution now =
        ⟨runId, now, putValue limits [] asked.fingerprint resolution⟩ := by
  cases hexisting : LruMap.get entries asked.id with
  | none =>
    refine .inr ⟨fun existing h => (by cases h), ?_⟩
    simp only [nextEntry, hexisting]
  | some existing =>
    by_cases hfresh : now - existing.storedAt < limits.ttlMs
    · refine .inl ⟨existing, rfl, hfresh, ?_⟩
      simp only [nextEntry, hexisting, if_pos hfresh]
    · refine .inr ⟨fun other h => (by cases h; exact hfresh), ?_⟩
      simp only [nextEntry, hexisting, if_neg hfresh]

/-- The call writes a resolution under this entry and this fingerprint. -/
def Call.Writes (id fingerprint : String) : Call N → Prop
  | .set asked _ _ _ => asked.id = id ∧ asked.fingerprint = fingerprint
  | .get _ _ => False

/-- The latest write under an entry and a fingerprint. -/
def Latest (calls : List (Call N)) (id fingerprint : String) (resolution : SeenResolution N)
    (now : Int) : Prop :=
  ∃ before asked runId after, calls = before ++ .set asked runId resolution now :: after ∧
    asked.id = id ∧ asked.fingerprint = fingerprint ∧
    ∀ call ∈ after, ¬ call.Writes id fingerprint

theorem Latest.append {calls : List (Call N)} {id fingerprint : String}
    {resolution : SeenResolution N} {now : Int} (h : Latest calls id fingerprint resolution now)
    {call : Call N} (hcall : ¬ call.Writes id fingerprint) :
    Latest (calls ++ [call]) id fingerprint resolution now := by
  obtain ⟨before, asked, runId, after, rfl, hid, hfingerprint, hafter⟩ := h
  refine ⟨before, asked, runId, after ++ [call], by simp, hid, hfingerprint, fun other hother => ?_⟩
  rcases List.mem_append.mp hother with hother | hother
  · exact hafter other hother
  · rw [List.mem_singleton.mp hother]
    exact hcall

theorem latest_set (calls : List (Call N)) (asked : Asked N) (runId : String)
    (resolution : SeenResolution N) (now : Int) :
    Latest (calls ++ [.set asked runId resolution now]) asked.id asked.fingerprint resolution now :=
  ⟨calls, asked, runId, [], rfl, rfl, rfl, fun _ h => absurd h List.not_mem_nil⟩

/-- An entry holds the latest writes since it was made. -/
def Holds (calls : List (Call N)) (id : String) (entry : StoredEntry N) : Prop :=
  (∃ call ∈ calls, call.now = entry.storedAt) ∧
    ∀ fingerprint resolution, (fingerprint, resolution) ∈ entry.values →
      ∃ now, Latest calls id fingerprint resolution now ∧ entry.storedAt ≤ now

def Stored (calls : List (Call N)) (entries : Entries N) : Prop :=
  ∀ id entry, (id, entry) ∈ entries → Holds calls id entry

theorem Holds.append {calls : List (Call N)} {id : String} {entry : StoredEntry N}
    (h : Holds calls id entry) {call : Call N}
    (hcall : ∀ fingerprint resolution, (fingerprint, resolution) ∈ entry.values →
      ¬ call.Writes id fingerprint) : Holds (calls ++ [call]) id entry := by
  obtain ⟨⟨made, hmade, hnow⟩, hvalues⟩ := h
  refine ⟨⟨made, List.mem_append_left _ hmade, hnow⟩, fun fingerprint resolution hmem => ?_⟩
  obtain ⟨now, hlatest, hle⟩ := hvalues fingerprint resolution hmem
  exact ⟨now, hlatest.append (hcall fingerprint resolution hmem), hle⟩

/-- The entry of a write: its resolution, and the others of an entry that is still fresh. -/
theorem holds_nextEntry {calls : List (Call N)}
    (hstored : Stored calls entries) {runId : String} {resolution : SeenResolution N} {now : Int}
    (hclock : ∀ call ∈ calls, call.now ≤ now) :
    Holds (calls ++ [.set asked runId resolution now]) asked.id
      (nextEntry limits entries asked runId resolution now) := by
  rcases nextEntry_cases limits entries asked runId resolution now with
    ⟨existing, hexisting, -, hnext⟩ | ⟨-, hnext⟩ <;> rw [hnext]
  · obtain ⟨⟨made, hmade, hat⟩, hvalues⟩ := hstored _ _ (LruMap.mem_of_get hexisting)
    refine ⟨⟨made, List.mem_append_left _ hmade, hat⟩, fun fingerprint replayed hmem => ?_⟩
    rcases mem_putValue hmem with ⟨hold, hne⟩ | ⟨rfl, rfl⟩
    · obtain ⟨written, hlatest, hle⟩ := hvalues fingerprint replayed hold
      exact ⟨written, hlatest.append fun hwrites => hne hwrites.2.symm, hle⟩
    · exact ⟨now, latest_set calls asked runId _ now, hat ▸ hclock made hmade⟩
  · refine ⟨⟨_, List.mem_append_right _ (List.mem_singleton_self _), rfl⟩, ?_⟩
    intro fingerprint replayed hmem
    rcases mem_putValue hmem with ⟨hnil, -⟩ | ⟨rfl, rfl⟩
    · exact absurd hnil List.not_mem_nil
    · exact ⟨now, latest_set calls asked runId _ now, le_refl _⟩

/-- **Every call** leaves in the entries the latest writes. A write replaces the value of its
fingerprint, and keeps the others of its entry as long as the entry has not expired; a read changes
none. -/
theorem stored_next {calls : List (Call N)} (hstored : Stored calls entries) {call : Call N}
    (hclock : ∀ other ∈ calls, other.now ≤ call.now) :
    Stored (calls ++ [call]) ((seenSet limits).next entries call) := by
  intro id entry hmem
  cases call with
  | set asked runId resolution now =>
    rcases mem_set hmem with ⟨hold, hne⟩ | ⟨rfl, rfl⟩
    · exact (hstored id entry hold).append fun _ _ _ hwrites => hne hwrites.1.symm
    · exact holds_nextEntry hstored hclock
  | get asked now =>
    obtain ⟨old, hold, -, hat, hvalues⟩ := mem_get hmem
    obtain ⟨hmade, hlatest⟩ := (hstored id old hold).append
      (show ∀ _ _, _ → ¬ (Call.get asked now).Writes _ _ from fun _ _ _ hwrites => hwrites)
    exact ⟨hat ▸ hmade, fun fingerprint resolution h => hat ▸ hlatest _ _ (hvalues _ h)⟩

theorem stored_run (limits : SeenSetLimits) {calls : List (Call N)}
    (hclock : Machine.Timed Call.now calls) : Stored calls ((seenSet limits).run calls) := by
  induction calls using List.reverseRecOn with
  | nil => exact fun id entry h => absurd h List.not_mem_nil
  | append_singleton calls call ih =>
    obtain ⟨hcalls, hlast⟩ := (Machine.timed_concat Call.now).mp hclock
    rw [Machine.run_concat]
    exact stored_next (ih hcalls) hlast

/-! ## 3. The answers -/

/-- The key of the entry tells this Flag and Entity from others. -/
structure Asked.Named (asked : Asked N) : Prop where
  flagKey : '\x00' ∉ asked.flagKey.toList
  idType : '\x00' ∉ asked.idType.toList

/-- The key and the fingerprint tell this evaluation from others. -/
structure Asked.Clear (asked : Asked N) : Prop extends asked.Named where
  plain : Plain asked.attributes.json

/-- The same Flag, for the same Entity. -/
def Asked.SameEntity (asked asked' : Asked N) : Prop :=
  asked.flagKey = asked'.flagKey ∧ asked.idType = asked'.idType ∧
    asked.targetingKey = asked'.targetingKey

/-- The same Flag and Entity, and attributes that are equal as JSON values. -/
structure Asked.Same (asked asked' : Asked N) : Prop where
  flagKey : asked.flagKey = asked'.flagKey
  idType : asked.idType = asked'.idType
  targetingKey : asked.targetingKey = asked'.targetingKey
  attributes : asked.attributes.json.Same asked'.attributes.json

omit [NumberFormat N] in
theorem Asked.Named.id_eq_iff {asked asked' : Asked N} (h : asked.Named) (h' : asked'.Named) :
    asked.id = asked'.id ↔ asked.SameEntity asked' := by
  have hsplit : ∀ {a b s t : List Char}, '\x00' ∉ a → '\x00' ∉ b →
      (a ++ '\x00' :: s = b ++ '\x00' :: t ↔ a = b ∧ s = t) := by
    intro a b s t ha hb
    induction a generalizing b with
    | nil =>
      cases b with
      | nil => simp
      | cons c b =>
        simp only [List.nil_append, List.cons_append, List.cons.injEq, reduceCtorEq, false_and, iff_false]
        exact fun heq => hb (heq.1 ▸ List.mem_cons_self)
    | cons c a ih =>
      cases b with
      | nil =>
        simp only [List.nil_append, List.cons_append, List.cons.injEq, reduceCtorEq, false_and, iff_false]
        exact fun heq => ha (heq.1 ▸ List.mem_cons_self)
      | cons d b =>
        simp only [List.cons_append, List.cons.injEq, and_assoc]
        rw [ih (fun hmem => ha (List.mem_cons_of_mem _ hmem))
          (fun hmem => hb (List.mem_cons_of_mem _ hmem))]
  have hlist : ∀ asked : Asked N, asked.id.toList = asked.flagKey.toList ++
      '\x00' :: (asked.idType.toList ++ '\x00' :: asked.targetingKey.toList) := by
    intro asked
    simp [Asked.id, entryId, String.toList_append]
  rw [← String.toList_inj, hlist, hlist, hsplit h.flagKey h'.flagKey, hsplit h.idType h'.idType,
    String.toList_inj, String.toList_inj, String.toList_inj]
  rfl

theorem Asked.Clear.same_iff {asked asked' : Asked N} (h : asked.Clear) (h' : asked'.Clear) :
    asked.Same asked' ↔ asked.id = asked'.id ∧ asked.fingerprint = asked'.fingerprint := by
  rw [h.toNamed.id_eq_iff h'.toNamed, Asked.fingerprint, Asked.fingerprint, fingerprint_eq_iff h.plain h'.plain]
  exact ⟨fun hsame => ⟨⟨hsame.1, hsame.2, hsame.3⟩, hsame.4⟩,
    fun ⟨⟨hflag, htype, hkey⟩, hattributes⟩ => ⟨hflag, htype, hkey, hattributes⟩⟩

/-- The call writes a resolution for the same evaluation. -/
def Call.Stores (asked : Asked N) : Call N → Prop
  | .set asked' _ _ _ => asked'.Same asked
  | .get _ _ => False

/-- **A hit** replays the latest resolution that was written for the same Flag and Entity and for equal
attributes, and less than `ttlMs` ago. -/
theorem seen_set_answers (limits : SeenSetLimits) {calls : List (Call N)}
    (hclear : ∀ call ∈ calls, call.asked.Clear) (hclock : Machine.Timed Call.now calls)
    {before after : List (Call N)} {asked : Asked N} {now : Int}
    (hcalls : calls = before ++ .get asked now :: after) {entry : SeenEntry N}
    (hhit : (SeenSet.get limits ((seenSet limits).run before) asked now).1 = .hit entry) :
    ∃ first asked' runId written rest,
      before = first ++ .set asked' runId entry.toSeenResolution written :: rest ∧
      asked'.Same asked ∧ now - written < limits.ttlMs ∧ ∀ call ∈ rest, ¬ call.Stores asked := by
  have hbefore : Machine.Timed Call.now before := Machine.Timed.of_prefix Call.now hclock
    ⟨_, hcalls.symm⟩
  have hasked : asked.Clear := hclear (.get asked now) (by rw [hcalls]; simp)
  have hothers : ∀ call ∈ before, call.asked.Clear := fun call hcall =>
    hclear call (by rw [hcalls]; exact List.mem_append_left _ hcall)
  obtain ⟨found, hfound, hfresh, -, hvalue⟩ := get_hit hhit
  obtain ⟨-, hvalues⟩ := stored_run limits hbefore _ _ (LruMap.mem_of_get hfound)
  obtain ⟨written, hlatest, hle⟩ := hvalues _ _ (LruMap.mem_of_get hvalue)
  obtain ⟨first, asked', runId, rest, rfl, hid, hfingerprint, hrest⟩ := hlatest
  have hasked' : asked'.Clear := hothers (.set asked' runId entry.toSeenResolution written) (by simp)
  refine ⟨first, asked', runId, written, rest, rfl, (hasked'.same_iff hasked).mpr ⟨hid, hfingerprint⟩,
    by omega, fun call hcall hstores => hrest call hcall ?_⟩
  cases call with
  | get _ _ => exact hstores
  | set other _ _ _ =>
    have hmem := List.mem_append_right first (List.mem_cons_of_mem
      (.set asked' runId entry.toSeenResolution written) hcall)
    exact ((hothers _ hmem).same_iff hasked).mp hstores

/-- A Flag that is asked for with one attribute. -/
def proPlan : Asked Nat where
  flagKey := "checkout"
  idType := "user"
  targetingKey := "u-1"
  attributes := ⟨[("plan", .str "pro")], .obj (List.nodup_singleton _) fun member h => by
    rw [List.mem_singleton.mp h]
    exact .str _⟩

theorem clear_proPlan : proPlan.Clear := by
  refine ⟨⟨by decide, by decide⟩, .obj (by decide) fun member h => ?_⟩
  rw [List.mem_singleton.mp h]
  exact .str _

/-- The same Flag, for another Entity. -/
def otherEntity : Asked Nat := { proPlan with targetingKey := "u-2" }

theorem clear_otherEntity : otherEntity.Clear :=
  ⟨⟨clear_proPlan.flagKey, clear_proPlan.idType⟩, clear_proPlan.plain⟩

def tenEntries : SeenSetLimits := ⟨10, 60000, 64, by decide, by decide, by decide⟩

/-- One Entity is written, and another one twice. -/
def twoEntities : List (Call Nat) :=
  [.set otherEntity "run-1" ⟨some (.bool false), some "off"⟩ 0,
    .set proPlan "run-1" ⟨some (.bool false), some "off"⟩ 100,
    .set proPlan "run-1" ⟨some (.bool true), some "on"⟩ 500]

theorem seen_set_answers_proPlan :
    ∃ first asked' runId written rest,
      twoEntities = first ++ .set asked' runId ⟨some (.bool true), some "on"⟩ written :: rest ∧
      asked'.Same proPlan ∧ 59999 - written < tenEntries.ttlMs ∧
        ∀ call ∈ rest, ¬ call.Stores proPlan := by
  have hclear : ∀ call ∈ twoEntities ++ [.get proPlan 59999], call.asked.Clear := by
    intro call hcall
    simp only [twoEntities, List.cons_append, List.nil_append, List.mem_cons, List.not_mem_nil,
      or_false] at hcall
    rcases hcall with rfl | rfl | rfl | rfl
    · exact clear_otherEntity
    all_goals exact clear_proPlan
  have hclock : Machine.Timed Call.now (twoEntities ++ [.get proPlan 59999]) := by
    simp [twoEntities, Machine.Timed, Call.now]
  have hhit : (SeenSet.get tenEntries ((seenSet tenEntries).run twoEntities) proPlan 59999).1 =
      .hit ⟨⟨some (.bool true), some "on"⟩, "run-1", 100⟩ := rfl
  exact seen_set_answers tenEntries hclear hclock rfl hhit

/-- **The entries** stay within the limits, and the one that makes room was used last before all
others. The list is in the order of use, so the entry in front of it is the one to go. -/
theorem seen_set_evicts_oldest (limits : SeenSetLimits) (calls : List (Call N)) :
    (((seenSet limits).run calls).length : Int) ≤ limits.maxSize ∧
    (∀ entry ∈ (seenSet limits).run calls,
      (entry.2.values.length : Int) ≤ limits.maxValuesPerEntry) ∧
    ∀ before asked runId resolution now, calls = before ++ [.set asked runId resolution now] →
      ∀ id ∈ ((seenSet limits).run before).map (·.1), id ≠ asked.id →
        id ∉ ((seenSet limits).run calls).map (·.1) →
        ∀ other ∈ ((seenSet limits).run calls).map (·.1),
          LruMap.UsedSince (uses limits [] calls) id other := by
  have hkept := kept_run limits calls
  refine ⟨hkept.size, hkept.values, ?_⟩
  rintro before asked runId resolution now rfl id hstored hne hevicted other hother
  rw [Machine.run_concat] at hevicted hother
  rw [uses_append]
  exact evicted_first (kept_run limits before) runId resolution now hne hstored hevicted hother

end Seen

end Splitch
