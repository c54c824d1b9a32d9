/-
# NDJSON bodies

The cut of rows into bounded NDJSON bodies (`ndjsonBatches`, `tinybird-microbatch.ts`).  The line of a
row is what `JSON.stringify` writes of it, and lines are joined by newlines.

The loop is greedy: a row goes into the current batch if the body stays within the bound, and else starts
the next one.  Its invariant has both halves of the result (`Holds`).  What was cut so far is a partition, in
order, with bodies within the bound unless one row alone is beyond it.  And it is MAXIMAL: no batch could
have taken the first row of the next one.  The running body and its length are what a body of the current
rows is, which is how the loop can do without building it anew.

One turn keeps this (`Holds.next`): a row that fits extends the current batch, and one that does not starts
another, which is just what makes the batch before it maximal.  At the end the last body is put to the
others.

That a maximal cut has the fewest parts is a fact about cuts of any kind in which a part of what fits does
(`fits_infix`), and comes from the library: no other cut is ever ahead.  So the bodies are the fewest
(`ndjson_batches`).
-/
import Splitch.Library.Segments

namespace Splitch

namespace Ingest

variable {T Row : Type}

def NDJSON_MAX_BYTES : Nat := 5 * 1024 * 1024

/-- `new TextEncoder().encode(value).length`. -/
def byteLength (value : String) : Nat := value.utf8ByteSize

structure NdjsonBatch (T : Type) where
  body : String
  items : List T

/-- The variables of the loop. -/
structure Batching (T : Type) where
  batches : List (NdjsonBatch T)
  body : String
  bodyBytes : Nat
  current : List T

section

variable (stringify : Row → String) (toRow : T → Row)

/-- One turn of the loop. -/
def Batching.next (state : Batching T) (item : T) : Batching T :=
  let line := stringify (toRow item)
  let addition := if state.current.length = 0 then line else "\n" ++ line
  let additionBytes := byteLength addition
  if state.current.length > 0 ∧ state.bodyBytes + additionBytes > NDJSON_MAX_BYTES then
    { batches := state.batches ++ [⟨state.body, state.current⟩]
      body := line
      bodyBytes := byteLength line
      current := [item] }
  else
    { state with
      body := state.body ++ addition
      bodyBytes := state.bodyBytes + additionBytes
      current := state.current ++ [item] }

def ndjsonBatches (items : List T) : List (NdjsonBatch T) :=
  let state := items.foldl (Batching.next stringify toRow) ⟨[], "", 0, []⟩
  if state.current.length > 0 then state.batches ++ [⟨state.body, state.current⟩] else state.batches

/-! ## 1. Bodies -/

/-- The lines of the items, joined by newlines. -/
def bodyOf (items : List T) : String :=
  "\n".intercalate (items.map fun item => stringify (toRow item))

/-- Within the bound, or one item. -/
def Fits (items : List T) : Prop :=
  byteLength (bodyOf stringify toRow items) ≤ NDJSON_MAX_BYTES ∨ items.length ≤ 1

variable {stringify toRow}

theorem bodyOf_snoc {items : List T} (h : items ≠ []) (item : T) :
    bodyOf stringify toRow (items ++ [item]) =
      bodyOf stringify toRow items ++ ("\n" ++ stringify (toRow item)) := by
  rw [bodyOf, bodyOf, List.map_append, String.intercalate_append_of_ne_nil (by simpa using h) (by simp),
    List.map_singleton, String.intercalate_singleton, String.append_assoc]

theorem byteLength_append_ge (l m : List T) :
    byteLength (bodyOf stringify toRow l) ≤ byteLength (bodyOf stringify toRow (l ++ m)) ∧
    byteLength (bodyOf stringify toRow m) ≤ byteLength (bodyOf stringify toRow (l ++ m)) := by
  by_cases hl : l = []
  · subst hl
    exact ⟨by simp [bodyOf, byteLength], le_refl _⟩
  · by_cases hm : m = []
    · subst hm
      rw [List.append_nil]
      exact ⟨le_refl _, by simp [bodyOf, byteLength]⟩
    · rw [bodyOf, bodyOf, bodyOf, List.map_append,
        String.intercalate_append_of_ne_nil (by simpa using hl) (by simpa using hm)]
      simp only [byteLength, String.utf8ByteSize_append]
      omega

/-- A part of what fits does. -/
theorem fits_infix (l m : List T) (h : m <:+: l) (hfits : Fits stringify toRow l) :
    Fits stringify toRow m := by
  obtain ⟨s, t, rfl⟩ := h
  rcases hfits with hbytes | hlen
  · exact .inl ((byteLength_append_ge s m).2.trans ((byteLength_append_ge (s ++ m) t).1.trans hbytes))
  · refine .inr (le_trans ?_ hlen)
    simp only [List.length_append]
    omega

/-! ## 2. The loop -/

/-- What holds after the items that were `seen`. -/
structure Holds (stringify : Row → String) (toRow : T → Row) (seen : List T) (state : Batching T) :
    Prop where
  join : (state.batches.map (·.items) ++ [state.current]).flatten = seen
  body : state.body = bodyOf stringify toRow state.current
  bodyBytes : state.bodyBytes = byteLength state.body
  fits : Fits stringify toRow state.current
  batches : ∀ batch ∈ state.batches, batch.body = bodyOf stringify toRow batch.items ∧
    Fits stringify toRow batch.items ∧ batch.items ≠ []
  maximal : Segments.Maximal (Fits stringify toRow) (state.batches.map (·.items) ++ [state.current])
  started : state.current = [] → state.batches = []

variable {seen : List T} {state : Batching T}

theorem Holds.push (h : Holds stringify toRow seen state) (item : T) (hne : state.current ≠ [])
    (hover : ¬ Fits stringify toRow (state.current ++ [item])) :
    Holds stringify toRow (seen ++ [item])
      { batches := state.batches ++ [⟨state.body, state.current⟩]
        body := stringify (toRow item)
        bodyBytes := byteLength (stringify (toRow item))
        current := [item] } where
  join := by
    rw [← h.join]
    simp
  body := by rw [bodyOf, List.map_singleton, String.intercalate_singleton]
  bodyBytes := rfl
  fits := .inr (le_refl 1)
  batches := by
    intro batch hbatch
    rcases List.mem_append.mp hbatch with hbatch | hbatch
    · exact h.batches batch hbatch
    · rw [List.mem_singleton.mp hbatch]
      exact ⟨h.body, h.fits, hne⟩
  maximal := by
    rw [List.map_append, List.map_singleton]
    refine h.maximal.snoc fun p hp a ha => ?_
    rw [List.getLast?_append, List.getLast?_singleton, Option.some_or, Option.mem_some_iff] at hp
    rw [List.head?_singleton, Option.mem_some_iff] at ha
    exact hp ▸ ha ▸ hover
  started hnil := by cases hnil

theorem Holds.extend (h : Holds stringify toRow seen state) (item : T) {body : String}
    (hbody : body = bodyOf stringify toRow (state.current ++ [item]))
    (hfits : Fits stringify toRow (state.current ++ [item])) :
    Holds stringify toRow (seen ++ [item])
      { state with
        body := body
        bodyBytes := byteLength body
        current := state.current ++ [item] } where
  join := by
    rw [← h.join]
    simp
  body := hbody
  bodyBytes := rfl
  fits := hfits
  batches := h.batches
  maximal := by
    refine h.maximal.init.snoc fun p hp a ha => ?_
    cases hcurrent : state.current with
    | nil =>
      rw [h.started hcurrent] at hp
      cases hp
    | cons first rest =>
      rw [hcurrent] at ha
      exact h.maximal.last p hp a (by rw [hcurrent]; exact ha)
  started hnil := by simp at hnil

/-- **One turn** of the loop. The bytes that are counted are those of the joined body, since a line
that is added brings its newline along; so the test of the turn is the test of the body, and the batch
is pushed only where the item would not fit. -/
theorem Holds.next (h : Holds stringify toRow seen state) (item : T) :
    Holds stringify toRow (seen ++ [item]) (state.next stringify toRow item) := by
  by_cases hcurrent : state.current = []
  · have hempty : state.body = "" := by rw [h.body, hcurrent]; simp [bodyOf]
    have hbytes : state.bodyBytes = 0 := by rw [h.bodyBytes, hempty]; rfl
    have hbody : stringify (toRow item) = bodyOf stringify toRow (state.current ++ [item]) := by
      rw [hcurrent, List.nil_append, bodyOf, List.map_singleton, String.intercalate_singleton]
    have hnext := h.extend item hbody (.inr (by rw [hcurrent]; exact le_refl 1))
    simpa [Batching.next, hcurrent, hempty, hbytes] using hnext
  · have hlen : state.current.length ≠ 0 := by simpa using hcurrent
    have hsum : state.bodyBytes + byteLength ("\n" ++ stringify (toRow item)) =
        byteLength (bodyOf stringify toRow (state.current ++ [item])) := by
      rw [bodyOf_snoc hcurrent, h.bodyBytes, h.body]
      exact String.utf8ByteSize_append.symm
    rw [Batching.next, if_neg hlen]
    split
    · next hover =>
      refine h.push item hcurrent fun hfits => ?_
      rcases hfits with hbytes | hone
      · exact absurd (hsum ▸ hbytes) (not_le.mpr hover.2)
      · rw [List.length_append, List.length_singleton] at hone
        omega
    · next hroom =>
      have hbytes : state.bodyBytes + byteLength ("\n" ++ stringify (toRow item)) ≤ NDJSON_MAX_BYTES :=
        not_lt.mp fun hover => hroom ⟨Nat.pos_of_ne_zero hlen, hover⟩
      have hbody : state.body ++ ("\n" ++ stringify (toRow item)) =
          bodyOf stringify toRow (state.current ++ [item]) := by rw [bodyOf_snoc hcurrent, h.body]
      have hnext := h.extend item hbody (.inl (hsum ▸ hbytes))
      rwa [hbody, ← hsum, ← hbody] at hnext

/-- **The loop** keeps what `Holds` says, item by item. -/
theorem Holds.foldl (items : List T) : ∀ {seen : List T} {state : Batching T},
    Holds stringify toRow seen state →
      Holds stringify toRow (seen ++ items) (items.foldl (Batching.next stringify toRow) state) := by
  induction items with
  | nil =>
    intro seen state h
    rwa [List.append_nil]
  | cons item items ih =>
    intro seen state h
    rw [List.append_cons]
    exact ih (h.next item)

theorem holds_start : Holds stringify toRow [] ⟨[], "", 0, []⟩ where
  join := rfl
  body := by simp [bodyOf]
  bodyBytes := rfl
  fits := .inr (Nat.zero_le 1)
  batches batch hbatch := by cases hbatch
  maximal := List.isChain_singleton _
  started _ := rfl

/-- What the loop leaves, once the last body is closed. -/
structure Batched (stringify : Row → String) (toRow : T → Row) (items : List T)
    (batches : List (NdjsonBatch T)) : Prop where
  join : (batches.map (·.items)).flatten = items
  maximal : Segments.Maximal (Fits stringify toRow) (batches.map (·.items))
  each : ∀ batch ∈ batches, batch.body = bodyOf stringify toRow batch.items ∧
    Fits stringify toRow batch.items ∧ batch.items ≠ []

variable (stringify toRow) in
theorem batched_ndjsonBatches (items : List T) :
    Batched stringify toRow items (ndjsonBatches stringify toRow items) := by
  have h := (holds_start : Holds stringify toRow [] _).foldl items
  rw [List.nil_append] at h
  rw [ndjsonBatches]
  generalize items.foldl (Batching.next stringify toRow) ⟨[], "", 0, []⟩ = state at h
  split
  · next hopen =>
    refine ⟨?_, ?_, fun batch hbatch => ?_⟩
    · rw [List.map_append]
      exact h.join
    · rw [List.map_append]
      exact h.maximal
    · rcases List.mem_append.mp hbatch with hbatch | hbatch
      · exact h.batches batch hbatch
      · rw [List.mem_singleton.mp hbatch]
        exact ⟨h.body, h.fits, List.length_pos_iff.mp hopen⟩
  · next hclosed =>
    have hnil : state.current = [] := List.length_eq_zero_iff.mp (Nat.eq_zero_of_not_pos hclosed)
    have hjoin := h.join
    rw [hnil, h.started hnil] at hjoin
    rw [h.started hnil]
    exact ⟨hjoin, List.isChain_nil, fun batch hbatch => (by cases hbatch)⟩

/-- **A faithful minimal partition.**  The batches hold the items, each once and in order; the body of
a batch is its lines joined by newlines, within the bound unless one item alone is beyond it; and every
other cut of the items with these properties has at least as many parts. -/
theorem ndjson_batches (stringify : Row → String) (toRow : T → Row) (items : List T) :
    ((ndjsonBatches stringify toRow items).map (·.items)).flatten = items ∧
    (∀ batch ∈ ndjsonBatches stringify toRow items, batch.items ≠ [] ∧
      batch.body = "\n".intercalate (batch.items.map fun item => stringify (toRow item)) ∧
      (byteLength batch.body ≤ NDJSON_MAX_BYTES ∨
        ∃ item, batch.items = [item] ∧ NDJSON_MAX_BYTES < byteLength (stringify (toRow item)))) ∧
    ∀ parts : List (List T), parts.flatten = items →
      (∀ part ∈ parts,
        byteLength ("\n".intercalate (part.map fun item => stringify (toRow item))) ≤
          NDJSON_MAX_BYTES ∨ ∃ item, part = [item]) →
      (ndjsonBatches stringify toRow items).length ≤ parts.length := by
  have h := batched_ndjsonBatches stringify toRow items
  refine ⟨h.join, fun batch hbatch => ?_, fun parts hjoin hparts => ?_⟩
  · obtain ⟨hbody, hfits, hne⟩ := h.each batch hbatch
    refine ⟨hne, hbody, ?_⟩
    by_cases hbytes : byteLength batch.body ≤ NDJSON_MAX_BYTES
    · exact .inl hbytes
    · rw [hbody] at hbytes
      have hone := hfits.resolve_left hbytes
      obtain ⟨item, hitem⟩ := List.length_eq_one_iff.mp
        (le_antisymm hone (List.length_pos_iff.mpr hne))
      rw [hitem, bodyOf, List.map_singleton, String.intercalate_singleton] at hbytes
      exact .inr ⟨item, hitem, not_le.mp hbytes⟩
  · have hcut : Segments.Cut (Fits stringify toRow) items parts := by
      refine ⟨hjoin, fun part hpart => (hparts part hpart).imp_right ?_⟩
      rintro ⟨item, rfl⟩
      exact le_refl 1
    have hne : ∀ part ∈ (ndjsonBatches stringify toRow items).map (·.items), part ≠ [] := by
      intro part hpart
      obtain ⟨batch, hbatch, rfl⟩ := List.mem_map.mp hpart
      exact (h.each batch hbatch).2.2
    have hlen := h.maximal.length_le (fun l m => fits_infix l m) hne h.join hcut
    rwa [List.length_map] at hlen

end

end Ingest

end Splitch
