/-
# The seen-set

The Exposure suppression cache of the SDK (`seen-set.ts`): an entry for each Exposure identity, with the
resolutions of its attributes, both in the order of use.  Time is in milliseconds.

There are two levels.  The outer map is keyed by who is exposed, and its entries expire; the inner one is
keyed by the fingerprint of the attributes, and goes with its entry.  The Run and the time of an entry are
those of its first write: a later one, before the entry has expired, adds its resolution and leaves both.
A read is a hit only on both levels.  It is a use of both and moves them last, and so counts for what is
evicted; the time of the entry it does not change, so that no entry lives longer for being read.
-/
import Splitch.Library.LruMap
import Splitch.Library.Runs
import Splitch.Sdk.AttributeFingerprint
import Splitch.Sdk.SdkErrors

namespace Splitch

namespace Seen

open JsonText

/-! ## 1. Entries -/

structure SeenResolution (N : Type) where
  variant : Option (Json N)
  variantName : Option String

structure SeenEntry (N : Type) extends SeenResolution N where
  runId : String
  storedAt : Int

inductive SeenLookupResult (N : Type)
  | hit (entry : SeenEntry N)
  | contextMiss (runId : String)
  | miss

structure StoredEntry (N : Type) where
  runId : String
  storedAt : Int
  values : List (String × SeenResolution N)

abbrev Entries (N : Type) := List (String × StoredEntry N)

/-- What the constructor lets pass. -/
structure SeenSetLimits where
  maxSize : Int
  ttlMs : Int
  maxValuesPerEntry : Int
  maxSize_pos : 1 ≤ maxSize
  ttlMs_nonneg : 0 ≤ ttlMs
  maxValuesPerEntry_pos : 1 ≤ maxValuesPerEntry

def DEFAULT_SEEN_SET_MAX_SIZE : Int := 10000

def DEFAULT_VALUES_PER_ENTRY : Int := 64

def DEFAULT_REVALIDATE_MS : Int := 60000

/-- `new SeenSet(maxSize, ttlMs, maxValuesPerEntry)`. -/
def SeenSetLimits.new (maxSize ttlMs maxValuesPerEntry : Option Int) :
    Except SplitchSdkError SeenSetLimits :=
  let maxSize := maxSize.getD DEFAULT_SEEN_SET_MAX_SIZE
  let ttlMs := ttlMs.getD DEFAULT_REVALIDATE_MS
  let maxValuesPerEntry := maxValuesPerEntry.getD DEFAULT_VALUES_PER_ENTRY
  if hsize : maxSize < 1 then
    .error (.new "SDK_SEEN_SET_MAX_SIZE_INVALID"
      s!"The seen-set maxSize must be at least 1 but received {maxSize}"
      "Set seenSetMaxSize to a positive integer" none)
  else if httl : ttlMs < 0 then
    .error (.new "SDK_SEEN_SET_TTL_INVALID"
      s!"The seen-set ttlMs must be at least 0 but received {ttlMs}"
      "Set revalidateMs to 0 or a positive duration in milliseconds" none)
  else if hvalues : maxValuesPerEntry < 1 then
    .error (.new "SDK_SEEN_SET_MAX_SIZE_INVALID"
      s!"The seen-set maxValuesPerEntry must be at least 1 but received {maxValuesPerEntry}"
      "Set maxValuesPerEntry to a positive integer" none)
  else .ok ⟨maxSize, ttlMs, maxValuesPerEntry, not_lt.mp hsize, not_lt.mp httl, not_lt.mp hvalues⟩

/-! ## 2. Lookups and writes -/

/-- What is evaluated. -/
structure Asked (N : Type) where
  flagKey : String
  idType : String
  targetingKey : String
  attributes : Attributes N

/-- Joined with NUL. -/
def entryId (flagKey idType targetingKey : String) : String :=
  flagKey ++ "\x00" ++ idType ++ "\x00" ++ targetingKey

variable {N : Type}

/-- The resolution that is replayed moves to the tail. -/
def touchValue (entry : StoredEntry N) (fingerprint : String) (resolution : SeenResolution N) :
    StoredEntry N :=
  let values := LruMap.set (LruMap.delete entry.values fingerprint) fingerprint resolution
  { entry with values }

variable [NumberFormat N]

def Asked.id (asked : Asked N) : String := entryId asked.flagKey asked.idType asked.targetingKey

def Asked.fingerprint (asked : Asked N) : String := fingerprintAttributes asked.attributes

section

variable (limits : SeenSetLimits) (entries : Entries N) (asked : Asked N)

def SeenSet.get (now : Int) : SeenLookupResult N × Entries N :=
  match LruMap.get entries asked.id with
  | none => (.miss, entries)
  | some entry =>
    if now - entry.storedAt ≥ limits.ttlMs then (.miss, LruMap.delete entries asked.id)
    else
      match LruMap.get entry.values asked.fingerprint with
      | none => (.contextMiss entry.runId, entries)
      | some resolution =>
        (.hit { resolution with runId := entry.runId, storedAt := entry.storedAt },
          LruMap.set (LruMap.delete entries asked.id) asked.id
            (touchValue entry asked.fingerprint resolution))

/-- The least recently used resolutions are evicted. -/
def putValue (values : List (String × SeenResolution N)) (fingerprint : String)
    (resolution : SeenResolution N) : List (String × SeenResolution N) :=
  LruMap.evict limits.maxValuesPerEntry
    (LruMap.set (LruMap.delete values fingerprint) fingerprint resolution)

/-- A fresh entry takes one more resolution, and keeps its Run and its time. -/
def nextEntry (runId : String) (resolution : SeenResolution N) (now : Int) : StoredEntry N :=
  match LruMap.get entries asked.id with
  | some existing =>
    if now - existing.storedAt < limits.ttlMs then
      { existing with values := putValue limits existing.values asked.fingerprint resolution }
    else ⟨runId, now, putValue limits [] asked.fingerprint resolution⟩
  | none => ⟨runId, now, putValue limits [] asked.fingerprint resolution⟩

/-- The entries before the oldest one is dropped. -/
def written (runId : String) (resolution : SeenResolution N) (now : Int) : Entries N :=
  LruMap.set (LruMap.delete entries asked.id) asked.id
    (nextEntry limits entries asked runId resolution now)

def SeenSet.set (runId : String) (resolution : SeenResolution N) (now : Int) : Entries N :=
  if ((written limits entries asked runId resolution now).length : Int) > limits.maxSize then
    LruMap.deleteOldest (written limits entries asked runId resolution now)
  else written limits entries asked runId resolution now

end

/-! ## 3. Calls -/

inductive Call (N : Type)
  | get (asked : Asked N) (now : Int)
  | set (asked : Asked N) (runId : String) (resolution : SeenResolution N) (now : Int)

def Call.asked : Call N → Asked N
  | .get asked _ => asked
  | .set asked _ _ _ => asked

def Call.now : Call N → Int
  | .get _ now => now
  | .set _ _ _ now => now

variable (limits : SeenSetLimits)

def seenSet : Machine (Entries N) (Call N) (Option (SeenLookupResult N)) where
  init := []
  step
    | entries, .get asked now =>
      let (result, entries) := SeenSet.get limits entries asked now
      (some result, entries)
    | entries, .set asked runId resolution now =>
      (none, SeenSet.set limits entries asked runId resolution now)

/-- The entry that a call uses: a write, or a lookup that hits. -/
def used (entries : Entries N) (call : Call N) : List String :=
  match (seenSet limits).out entries call with
  | none | some (.hit _) => [call.asked.id]
  | _ => []

/-- The entries that were used, the latest use last. -/
def uses : Entries N → List (Call N) → List String
  | _, [] => []
  | entries, call :: calls => used limits entries call ++ uses ((seenSet limits).next entries call) calls

theorem uses_append (entries : Entries N) (calls calls' : List (Call N)) :
    uses limits entries (calls ++ calls') =
      uses limits entries calls ++ uses limits ((seenSet limits).exec entries calls) calls' := by
  induction calls generalizing entries with
  | nil => rfl
  | cons call calls ih =>
    rw [List.cons_append, uses, uses, ih, List.append_assoc, Machine.exec_cons]

end Seen

end Splitch
