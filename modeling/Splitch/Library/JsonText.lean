/-
# JSON texts

JSON values, what `JSON.stringify` makes of them without blanks, and `JSON.parse`.  The members of an object
are in their order; of two with one key the later one counts (`Json.get`).  A number is known by what is
written of it, and by how that is read (`NumberFormat`).

What is written is read back (`parse_stringify`), and so different values have different texts
(`stringify_injective`).  The parser works on characters, with fuel, and the proof goes along the value:
each of its parts is read off the front of the text and leaves what stands behind it.  A part must not run
on into what follows, which is a condition on the next character; behind a value that is a comma, a
bracket or a brace, and none of them goes on a number or a word.  Twice the length of the text is fuel
enough, since of two nested calls one takes a character.
-/
import Mathlib

namespace JsonText

/-! ## 1. Values -/

def isNumberChar (c : Char) : Bool := c.isDigit || c ∈ ['-', '+', '.', 'e', 'E']

/-- Numbers as they are written and read. -/
class NumberFormat (N : Type) where
  write : N → List Char
  read : List Char → Option N
  read_write : ∀ n, read (write n) = some n
  write_ne_nil : ∀ n, write n ≠ []
  isNumberChar_of_mem : ∀ n, ∀ c ∈ write n, isNumberChar c = true

/-- Natural numbers, in decimal digits. -/
instance natFormat : NumberFormat Nat where
  write := Nat.toDigits 10
  read text :=
    if text ≠ [] ∧ ∀ c ∈ text, c.isDigit = true then some (Nat.ofDigitChars 10 text 0) else none
  read_write n := by
    rw [if_pos ⟨Nat.toDigits_ne_nil, fun c hc => Nat.isDigit_of_mem_toDigits (by decide) (by decide) hc⟩,
      Nat.ofDigitChars_toDigits (by decide) (by decide)]
  write_ne_nil _ := Nat.toDigits_ne_nil
  isNumberChar_of_mem n c hc := by
    rw [isNumberChar, Nat.isDigit_of_mem_toDigits (by decide) (by decide) hc, Bool.true_or]

def readInt : List Char → Option Int
  | '-' :: digits => (natFormat.read digits).map fun n : Nat => -(n : Int)
  | digits => (natFormat.read digits).map fun n : Nat => (n : Int)

theorem readInt_digits (n : Nat) : readInt (natFormat.write n) = some (n : Int) := by
  obtain ⟨c, rest, hwrite⟩ := List.exists_cons_of_ne_nil (natFormat.write_ne_nil n)
  have hc : c.isDigit = true := Nat.isDigit_of_mem_toDigits (by decide) (by decide)
    (show c ∈ natFormat.write n from hwrite ▸ List.mem_cons_self)
  rw [readInt.eq_2, natFormat.read_write, Option.map_some]
  intro digits heq
  rw [hwrite] at heq
  rw [(List.cons.inj heq).1] at hc
  exact absurd hc (by decide)

/-- Integers, with their sign. -/
instance intFormat : NumberFormat Int where
  write n := if n < 0 then '-' :: natFormat.write n.natAbs else natFormat.write n.natAbs
  read := readInt
  read_write n := by
    split
    · rw [readInt, natFormat.read_write, Option.map_some]
      exact congrArg some (by omega)
    · rw [readInt_digits]
      exact congrArg some (by omega)
  write_ne_nil n := by
    split
    · exact List.cons_ne_nil _ _
    · exact natFormat.write_ne_nil _
  isNumberChar_of_mem n c hc := by
    split at hc
    · rcases List.mem_cons.mp hc with rfl | hc
      · decide
      · exact natFormat.isNumberChar_of_mem _ c hc
    · exact natFormat.isNumberChar_of_mem _ c hc

inductive Json (N : Type)
  | null
  | bool (value : Bool)
  | num (value : N)
  | str (value : String)
  | arr (items : List (Json N))
  | obj (members : List (String × Json N))

variable {N : Type}

/-- The member of an object. -/
def Json.get (key : String) : Json N → Option (Json N)
  | .obj members => (members.reverse.find? (·.1 = key)).map (·.2)
  | _ => none

def Json.text? : Json N → Option String
  | .str value => some value
  | _ => none

/-- The member of an object that has no key twice. -/
theorem Json.get_of_mem {members : List (String × Json N)} {key : String} {value : Json N}
    (hkeys : (members.map (·.1)).Nodup) (h : (key, value) ∈ members) :
    Json.get key (.obj members) = some value := by
  have hsome : (members.reverse.find? (·.1 = key)).isSome := by
    rw [List.find?_isSome]
    exact ⟨_, List.mem_reverse.mpr h, by simp⟩
  obtain ⟨member, hfind⟩ := Option.isSome_iff_exists.mp hsome
  have hkey : member.1 = key := by simpa using List.find?_some hfind
  have hmem : member ∈ members := List.mem_reverse.mp (List.mem_of_find?_eq_some hfind)
  rw [Json.get, hfind, Option.map_some, List.inj_on_of_nodup_map hkeys hmem h hkey]

/-- Induction on a value, with the items and the members as lists. -/
theorem Json.induction {motive : Json N → Prop} (null : motive .null)
    (bool : ∀ value, motive (.bool value)) (num : ∀ value, motive (.num value))
    (str : ∀ value, motive (.str value))
    (arr : ∀ items, (∀ item ∈ items, motive item) → motive (.arr items))
    (obj : ∀ members : List (String × Json N), (∀ member ∈ members, motive member.2) →
      motive (.obj members)) (value : Json N) : motive value := by
  refine @Json.rec N motive (fun items => ∀ item ∈ items, motive item)
    (fun members => ∀ member ∈ members, motive member.2) (fun member => motive member.2)
    null bool num str arr obj ?_ ?_ ?_ ?_ ?_ value
  · exact fun item h => absurd h List.not_mem_nil
  · intro item items hitem hitems other h
    rcases List.mem_cons.mp h with rfl | h
    · exact hitem
    · exact hitems other h
  · exact fun member h => absurd h List.not_mem_nil
  · intro member members hmember hmembers other h
    rcases List.mem_cons.mp h with rfl | h
    · exact hmember
    · exact hmembers other h
  · exact fun key value hvalue => hvalue

/-! ## 2. `JSON.stringify` -/

def hexDigit (n : Nat) : Char := Nat.digitChar n

/-- A character of a string, with its escape where it needs one. -/
def quoteChar (c : Char) : List Char :=
  if c = '"' then ['\\', '"']
  else if c = '\\' then ['\\', '\\']
  else if c = '\x08' then ['\\', 'b']
  else if c = '\x0c' then ['\\', 'f']
  else if c = '\n' then ['\\', 'n']
  else if c = '\r' then ['\\', 'r']
  else if c = '\t' then ['\\', 't']
  else if c.toNat < 0x20 then
    ['\\', 'u', '0', '0', hexDigit (c.toNat / 16), hexDigit (c.toNat % 16)]
  else [c]

def quote (value : String) : List Char := '"' :: value.toList.flatMap quoteChar ++ ['"']

section Stringify

variable [NumberFormat N]

mutual

def stringify : Json N → List Char
  | .null => "null".toList
  | .bool true => "true".toList
  | .bool false => "false".toList
  | .num value => NumberFormat.write value
  | .str value => quote value
  | .arr items => '[' :: stringifyItems items ++ [']']
  | .obj members => '{' :: stringifyMembers members ++ ['}']

def stringifyItems : List (Json N) → List Char
  | [] => []
  | [item] => stringify item
  | item :: items => stringify item ++ ',' :: stringifyItems items

def stringifyMembers : List (String × Json N) → List Char
  | [] => []
  | [(key, value)] => quote key ++ ':' :: stringify value
  | (key, value) :: members => quote key ++ ':' :: stringify value ++ ',' :: stringifyMembers members

end

end Stringify

/-! ## 3. `JSON.parse` -/

def isBlank (c : Char) : Bool := c ∈ [' ', '\t', '\n', '\r']

def skipBlank (text : List Char) : List Char := text.dropWhile isBlank

def hexValue (c : Char) : Option Nat :=
  if c.isDigit then some (c.toNat - 48)
  else if 'a' ≤ c ∧ c ≤ 'f' then some (c.toNat - 87)
  else if 'A' ≤ c ∧ c ≤ 'F' then some (c.toNat - 55)
  else none

/-- The code unit of four hexadecimal digits. -/
def parseUnit : List Char → Option (Nat × List Char)
  | a :: b :: c :: d :: rest => do
    return (((← hexValue a) * 16 + (← hexValue b)) * 256 + (← hexValue c) * 16 + (← hexValue d), rest)
  | _ => none

/-- An escape after its backslash.  A surrogate without its other half is no character. -/
def parseEscape : List Char → Option (Char × List Char)
  | '"' :: rest => some ('"', rest)
  | '\\' :: rest => some ('\\', rest)
  | '/' :: rest => some ('/', rest)
  | 'b' :: rest => some ('\x08', rest)
  | 'f' :: rest => some ('\x0c', rest)
  | 'n' :: rest => some ('\n', rest)
  | 'r' :: rest => some ('\r', rest)
  | 't' :: rest => some ('\t', rest)
  | 'u' :: rest => do
    let (unit, rest) ← parseUnit rest
    if 0xD800 ≤ unit ∧ unit < 0xDC00 then
      match rest with
      | '\\' :: 'u' :: rest =>
        let (low, rest) ← parseUnit rest
        if 0xDC00 ≤ low ∧ low < 0xE000 then
          return (Char.ofNat (0x10000 + (unit - 0xD800) * 0x400 + (low - 0xDC00)), rest)
        else none
      | _ => none
    else if 0xDC00 ≤ unit ∧ unit < 0xE000 then none
    else return (Char.ofNat unit, rest)
  | _ => none

/-- The rest of a string, after its first quote. -/
def parseString : Nat → List Char → Option (List Char × List Char)
  | 0, _ => none
  | fuel + 1, text =>
    match text with
    | [] => none
    | '"' :: rest => some ([], rest)
    | '\\' :: rest => do
      let (c, rest) ← parseEscape rest
      let (value, rest) ← parseString fuel rest
      return (c :: value, rest)
    | c :: rest =>
      if c.toNat < 0x20 then none
      else (parseString fuel rest).map fun (value, rest) => (c :: value, rest)

section Parse

variable [NumberFormat N]

def parseScalar : List Char → Option (Json N × List Char)
  | 'n' :: 'u' :: 'l' :: 'l' :: rest => some (.null, rest)
  | 't' :: 'r' :: 'u' :: 'e' :: rest => some (.bool true, rest)
  | 'f' :: 'a' :: 'l' :: 's' :: 'e' :: rest => some (.bool false, rest)
  | text => (NumberFormat.read (text.takeWhile isNumberChar)).map fun value =>
      (.num value, text.dropWhile isNumberChar)

mutual

def parseValue : Nat → List Char → Option (Json N × List Char)
  | 0, _ => none
  | fuel + 1, text =>
    match skipBlank text with
    | '"' :: rest => (parseString (rest.length + 1) rest).map fun (value, rest) =>
        (.str (String.ofList value), rest)
    | '[' :: rest =>
      match skipBlank rest with
      | ']' :: rest => some (.arr [], rest)
      | rest => (parseItems fuel rest).map fun (items, rest) => (.arr items, rest)
    | '{' :: rest =>
      match skipBlank rest with
      | '}' :: rest => some (.obj [], rest)
      | rest => (parseMembers fuel rest).map fun (members, rest) => (.obj members, rest)
    | text => parseScalar text

def parseItems : Nat → List Char → Option (List (Json N) × List Char)
  | 0, _ => none
  | fuel + 1, text =>
    match parseValue fuel text with
    | none => none
    | some (item, rest) =>
      match skipBlank rest with
      | ']' :: rest => some ([item], rest)
      | ',' :: rest => (parseItems fuel rest).map fun (items, rest) => (item :: items, rest)
      | _ => none

def parseMembers : Nat → List Char → Option (List (String × Json N) × List Char)
  | 0, _ => none
  | fuel + 1, text =>
    match skipBlank text with
    | '"' :: rest =>
      match parseString (rest.length + 1) rest with
      | none => none
      | some (key, rest) =>
        match skipBlank rest with
        | ':' :: rest =>
          match parseValue fuel rest with
          | none => none
          | some (value, rest) =>
            match skipBlank rest with
            | '}' :: rest => some ([(String.ofList key, value)], rest)
            | ',' :: rest => (parseMembers fuel rest).map fun (members, rest) =>
                ((String.ofList key, value) :: members, rest)
            | _ => none
        | _ => none
    | _ => none

end

/-- The value of a text, with nothing after it. -/
def parse (text : List Char) : Option (Json N) :=
  match parseValue (2 * text.length + 1) text with
  | some (value, rest) => if skipBlank rest = [] then some value else none
  | none => none

end Parse

/-! ## 4. What is written is read back -/

theorem hexValue_hexDigit : ∀ n < 16, hexValue (hexDigit n) = some n := by decide

/-- A control character is read from its digits. -/
theorem parseEscape_control (c : Char) (h : c.toNat < 0x20) (rest : List Char) :
    parseEscape ('u' :: '0' :: '0' :: hexDigit (c.toNat / 16) :: hexDigit (c.toNat % 16) :: rest) =
      some (c, rest) := by
  have hhigh := hexValue_hexDigit (c.toNat / 16) (by omega)
  have hlow := hexValue_hexDigit (c.toNat % 16) (by omega)
  have hzero : hexValue '0' = some 0 := by decide
  have hnat : c.toNat / 16 * 16 + c.toNat % 16 = c.toNat := by omega
  simp only [parseEscape, parseUnit, hhigh, hlow, hzero, Option.bind_eq_bind, Option.bind_some,
    Option.pure_def, zero_mul, zero_add, hnat, Char.ofNat_toNat]
  rw [if_neg (by omega), if_neg (by omega)]

theorem parseString_quoteChar (c : Char) (fuel : Nat) (rest : List Char) :
    parseString (fuel + 1) (quoteChar c ++ rest) =
      (parseString fuel rest).map fun (value, rest) => (c :: value, rest) := by
  have hescape : ∀ {escaped}, parseEscape (escaped ++ rest) = some (c, rest) →
      parseString (fuel + 1) ('\\' :: escaped ++ rest) =
        (parseString fuel rest).map fun (value, rest) => (c :: value, rest) := by
    intro escaped hparse
    simp only [List.cons_append, parseString, hparse, Option.bind_eq_bind, Option.bind_some]
    cases parseString fuel rest <;> rfl
  rw [quoteChar]
  split_ifs with hquote hslash hb hf hn hr ht hcontrol
  · exact hescape (by rw [hquote]; rfl)
  · exact hescape (by rw [hslash]; rfl)
  · exact hescape (by rw [hb]; rfl)
  · exact hescape (by rw [hf]; rfl)
  · exact hescape (by rw [hn]; rfl)
  · exact hescape (by rw [hr]; rfl)
  · exact hescape (by rw [ht]; rfl)
  · exact hescape (parseEscape_control c hcontrol rest)
  · rw [List.singleton_append, parseString, if_neg hcontrol]
    · exact hquote
    · exact hslash

theorem parseString_quote (value rest : List Char) (fuel : Nat) (h : value.length < fuel) :
    parseString fuel (value.flatMap quoteChar ++ '"' :: rest) = some (value, rest) := by
  induction value generalizing fuel with
  | nil =>
    obtain ⟨fuel, rfl⟩ := Nat.exists_eq_succ_of_ne_zero (Nat.ne_of_gt h)
    rfl
  | cons c value ih =>
    obtain ⟨fuel, rfl⟩ := Nat.exists_eq_succ_of_ne_zero (Nat.ne_of_gt (Nat.zero_lt_of_lt h))
    rw [List.flatMap_cons, List.append_assoc, parseString_quoteChar,
      ih fuel (Nat.lt_of_succ_lt_succ h)]
    rfl

theorem quoteChar_ne_nil (c : Char) : quoteChar c ≠ [] := by
  rw [quoteChar]
  split_ifs <;> exact List.cons_ne_nil _ _

theorem length_le_flatMap_quoteChar (value : List Char) :
    value.length ≤ (value.flatMap quoteChar).length := by
  induction value with
  | nil => exact Nat.zero_le _
  | cons c value ih =>
    rw [List.flatMap_cons, List.length_append, List.length_cons]
    have hpos := List.length_pos_of_ne_nil (quoteChar_ne_nil c)
    omega

/-- What follows a number is no part of it. -/
def Delimited (rest : List Char) : Prop := ∀ c ∈ rest.head?, isNumberChar c = false

theorem delimited_cons {c : Char} {rest : List Char} (h : isNumberChar c = false) :
    Delimited (c :: rest) := by
  rintro _ ⟨⟩
  exact h

section RoundTrip

variable [NumberFormat N]

theorem parseScalar_write (n : N) {rest : List Char} (hrest : Delimited rest) :
    parseScalar (NumberFormat.write n ++ rest) = some (.num n, rest) := by
  have hchars := NumberFormat.isNumberChar_of_mem n
  have htake : (NumberFormat.write n ++ rest).takeWhile isNumberChar = NumberFormat.write n := by
    rw [List.takeWhile_append_of_pos hchars]
    cases rest with
    | nil => simp
    | cons c rest => simp [hrest c rfl]
  have hdrop : (NumberFormat.write n ++ rest).dropWhile isNumberChar = rest := by
    rw [List.dropWhile_append_of_pos hchars]
    cases rest with
    | nil => rfl
    | cons c rest => simp [hrest c rfl]
  obtain ⟨c, tail, hwrite⟩ := List.exists_cons_of_ne_nil (NumberFormat.write_ne_nil n)
  have hc : isNumberChar c = true := hchars c (by rw [hwrite]; exact List.mem_cons_self)
  rw [parseScalar.eq_4]
  · rw [htake, hdrop, NumberFormat.read_write]
    rfl
  all_goals
    intro rest' heq
    rw [hwrite] at heq
    rw [(List.cons.inj heq).1] at hc
    exact absurd hc (by decide)

/-- The first character of a value. -/
theorem stringify_cons (value : Json N) : ∃ c tail, stringify value = c :: tail ∧
    isBlank c = false ∧ c ≠ ']' ∧ c ≠ '}' := by
  cases value with
  | null => exact ⟨_, _, rfl, by decide⟩
  | bool value => cases value <;> exact ⟨_, _, rfl, by decide⟩
  | num n =>
    obtain ⟨c, tail, hwrite⟩ := List.exists_cons_of_ne_nil (NumberFormat.write_ne_nil n)
    have hc : isNumberChar c = true :=
      NumberFormat.isNumberChar_of_mem n c (by rw [hwrite]; exact List.mem_cons_self)
    refine ⟨c, tail, by rw [stringify, hwrite], ?_, ?_, ?_⟩
    · rw [← Bool.not_eq_true]
      intro hblank
      rcases List.mem_cons.mp (of_decide_eq_true hblank) with rfl | hblank
      · exact absurd hc (by decide)
      rcases List.mem_cons.mp hblank with rfl | hblank
      · exact absurd hc (by decide)
      rcases List.mem_cons.mp hblank with rfl | hblank
      · exact absurd hc (by decide)
      rw [List.mem_singleton.mp hblank] at hc
      exact absurd hc (by decide)
    · rintro rfl
      exact absurd hc (by decide)
    · rintro rfl
      exact absurd hc (by decide)
  | str value => exact ⟨_, _, rfl, by decide⟩
  | arr items => exact ⟨_, _, rfl, by decide⟩
  | obj members => exact ⟨_, _, rfl, by decide⟩

theorem skipBlank_cons {c : Char} (h : isBlank c = false) (rest : List Char) :
    skipBlank (c :: rest) = c :: rest := by
  rw [skipBlank, List.dropWhile_cons_of_neg (by rw [h]; exact Bool.false_ne_true)]

/-- The text of a value is read, whatever is after it. -/
def Reads (value : Json N) : Prop := ∀ fuel rest, 2 * (stringify value).length < fuel →
  Delimited rest → parseValue fuel (stringify value ++ rest) = some (value, rest)

theorem stringifyItems_cons_cons (item other : Json N) (items : List (Json N)) :
    stringifyItems (item :: other :: items) =
      stringify item ++ ',' :: stringifyItems (other :: items) := by
  rw [stringifyItems]
  exact List.cons_ne_nil _ _

theorem stringifyMembers_cons_cons (key : String) (value : Json N) (other : String × Json N)
    (members : List (String × Json N)) :
    stringifyMembers ((key, value) :: other :: members) =
      quote key ++ ':' :: stringify value ++ ',' :: stringifyMembers (other :: members) := by
  rw [stringifyMembers]
  exact List.cons_ne_nil _ _

theorem parseItems_stringify {items : List (Json N)} (hitems : ∀ item ∈ items, Reads item)
    (hne : items ≠ []) (fuel : Nat) (rest : List Char)
    (hfuel : 2 * (stringifyItems items).length + 1 < fuel) :
    parseItems fuel (stringifyItems items ++ ']' :: rest) = some (items, rest) := by
  induction items generalizing fuel with
  | nil => exact absurd rfl hne
  | cons item items ih =>
    obtain ⟨fuel, rfl⟩ := Nat.exists_eq_succ_of_ne_zero (Nat.ne_of_gt (Nat.zero_lt_of_lt hfuel))
    have hitem := hitems item List.mem_cons_self
    cases items with
    | nil =>
      have hread := hitem fuel (']' :: rest) (Nat.lt_of_succ_lt_succ hfuel) (delimited_cons (by decide))
      rw [stringifyItems, parseItems, hread]
      rfl
    | cons other items =>
      rw [stringifyItems_cons_cons, List.length_append, List.length_cons] at hfuel
      have hread := hitem fuel (',' :: (stringifyItems (other :: items) ++ ']' :: rest)) (by omega)
        (delimited_cons (by decide))
      have hrest := ih (fun item h => hitems item (List.mem_cons_of_mem _ h)) (List.cons_ne_nil _ _)
        fuel (by omega)
      rw [stringifyItems_cons_cons, List.append_assoc, List.cons_append, parseItems, hread]
      simp only [skipBlank_cons (c := ',') (by decide), hrest, Option.map_some]

/-- A key and its value, and what is after them. -/
theorem parseMember {key : String} {value : Json N} (hvalue : Reads value) (fuel : Nat)
    {c : Char} (rest : List Char) (hfuel : 2 * (stringify value).length < fuel)
    (hc : isNumberChar c = false) (hblank : isBlank c = false) :
    parseMembers (fuel + 1) (quote key ++ ':' :: stringify value ++ c :: rest) =
      match c :: rest with
      | '}' :: rest => some ([(key, value)], rest)
      | ',' :: rest => (parseMembers fuel rest).map fun (members, rest) =>
          ((key, value) :: members, rest)
      | _ => none := by
  have hkey : ∀ after : List Char,
      parseString ((key.toList.flatMap quoteChar ++ '"' :: after).length + 1)
        (key.toList.flatMap quoteChar ++ '"' :: after) = some (key.toList, after) := by
    intro after
    refine parseString_quote _ _ _ ?_
    have hle := length_le_flatMap_quoteChar key.toList
    rw [List.length_append]
    omega
  have htext : quote key ++ ':' :: stringify value ++ c :: rest =
      '"' :: (key.toList.flatMap quoteChar ++ '"' :: ':' :: (stringify value ++ c :: rest)) := by
    simp [quote]
  rw [htext, parseMembers, skipBlank_cons (by decide)]
  simp only [hkey, skipBlank_cons (c := ':') (by decide),
    hvalue fuel (c :: rest) hfuel (delimited_cons hc), skipBlank_cons hblank, String.ofList_toList]

theorem parseMembers_stringify {members : List (String × Json N)}
    (hmembers : ∀ member ∈ members, Reads member.2) (hne : members ≠ []) (fuel : Nat)
    (rest : List Char) (hfuel : 2 * (stringifyMembers members).length + 1 < fuel) :
    parseMembers fuel (stringifyMembers members ++ '}' :: rest) = some (members, rest) := by
  induction members generalizing fuel with
  | nil => exact absurd rfl hne
  | cons member members ih =>
    obtain ⟨key, value⟩ := member
    obtain ⟨fuel, rfl⟩ := Nat.exists_eq_succ_of_ne_zero (Nat.ne_of_gt (Nat.zero_lt_of_lt hfuel))
    have hvalue : Reads value := hmembers (key, value) List.mem_cons_self
    cases members with
    | nil =>
      rw [stringifyMembers, List.length_append, List.length_cons] at hfuel
      rw [stringifyMembers, parseMember hvalue fuel rest (by omega) (by decide) (by decide)]
      rfl
    | cons other members =>
      rw [stringifyMembers_cons_cons, List.length_append, List.length_append, List.length_cons,
        List.length_cons] at hfuel
      have hrest := ih (fun member h => hmembers member (List.mem_cons_of_mem _ h))
        (List.cons_ne_nil _ _) fuel (by omega)
      rw [stringifyMembers_cons_cons, List.append_assoc, List.cons_append,
        parseMember hvalue fuel _ (by omega) (by decide) (by decide)]
      simp only [hrest, Option.map_some]

/-- A value that begins no string, no array and no object is a word or a number. -/
theorem parseValue_scalar (fuel : Nat) {c : Char} {rest : List Char} (hblank : isBlank c = false)
    (hc : c ≠ '"' ∧ c ≠ '[' ∧ c ≠ '{') :
    parseValue (N := N) (fuel + 1) (c :: rest) = parseScalar (c :: rest) := by
  rw [parseValue, skipBlank_cons hblank]
  split
  · next heq => exact absurd (List.cons.inj heq).1 hc.1
  · next heq => exact absurd (List.cons.inj heq).1 hc.2.1
  · next heq => exact absurd (List.cons.inj heq).1 hc.2.2
  · rfl

theorem reads (value : Json N) : Reads value := by
  induction value using Json.induction with
  | null =>
    intro fuel rest hfuel _
    obtain ⟨fuel, rfl⟩ := Nat.exists_eq_succ_of_ne_zero (Nat.ne_of_gt (Nat.zero_lt_of_lt hfuel))
    rfl
  | bool value =>
    intro fuel rest hfuel _
    obtain ⟨fuel, rfl⟩ := Nat.exists_eq_succ_of_ne_zero (Nat.ne_of_gt (Nat.zero_lt_of_lt hfuel))
    cases value <;> rfl
  | num n =>
    intro fuel rest hfuel hrest
    obtain ⟨fuel, rfl⟩ := Nat.exists_eq_succ_of_ne_zero (Nat.ne_of_gt (Nat.zero_lt_of_lt hfuel))
    obtain ⟨c, tail, htext, hblank, -⟩ := stringify_cons (.num n)
    have hc : isNumberChar c = true := by
      refine NumberFormat.isNumberChar_of_mem n c ?_
      rw [stringify] at htext
      rw [htext]
      exact List.mem_cons_self
    have hother : c ≠ '"' ∧ c ≠ '[' ∧ c ≠ '{' := by
      refine ⟨?_, ?_, ?_⟩ <;>
      · rintro rfl
        exact absurd hc (by decide)
    rw [htext, List.cons_append, parseValue_scalar fuel hblank hother, ← List.cons_append, ← htext,
      stringify, parseScalar_write n hrest]
  | str value =>
    intro fuel rest hfuel _
    obtain ⟨fuel, rfl⟩ := Nat.exists_eq_succ_of_ne_zero (Nat.ne_of_gt (Nat.zero_lt_of_lt hfuel))
    have htext : stringify (.str value : Json N) ++ rest =
        '"' :: (value.toList.flatMap quoteChar ++ '"' :: rest) := by simp [stringify, quote]
    have hstring : parseString ((value.toList.flatMap quoteChar ++ '"' :: rest).length + 1)
        (value.toList.flatMap quoteChar ++ '"' :: rest) = some (value.toList, rest) := by
      refine parseString_quote _ _ _ ?_
      have hle := length_le_flatMap_quoteChar value.toList
      rw [List.length_append]
      omega
    rw [htext, parseValue, skipBlank_cons (by decide)]
    simp only [hstring, Option.map_some, String.ofList_toList]
  | arr items ih =>
    intro fuel rest hfuel _
    obtain ⟨fuel, rfl⟩ := Nat.exists_eq_succ_of_ne_zero (Nat.ne_of_gt (Nat.zero_lt_of_lt hfuel))
    rw [stringify, List.length_append, List.length_cons, List.length_singleton] at hfuel
    have htext : stringify (.arr items) ++ rest = '[' :: (stringifyItems items ++ ']' :: rest) := by
      simp [stringify]
    rw [htext, parseValue, skipBlank_cons (by decide)]
    cases items with
    | nil => rfl
    | cons item items =>
      have hitems := parseItems_stringify ih (List.cons_ne_nil _ _) fuel rest (by omega)
      obtain ⟨c, tail, hhead, hblank, hclose, -⟩ := stringify_cons item
      have hfirst : ∃ after, stringifyItems (item :: items) ++ ']' :: rest = c :: after := by
        cases items with
        | nil => exact ⟨_, by rw [stringifyItems, hhead, List.cons_append]⟩
        | cons other items =>
          exact ⟨_, by rw [stringifyItems_cons_cons, hhead, List.append_assoc, List.cons_append]⟩
      obtain ⟨after, hfirst⟩ := hfirst
      rw [hfirst] at hitems ⊢
      simp only [skipBlank_cons hblank]
      split
      · next heq => exact absurd (List.cons.inj heq).1 hclose
      · rw [hitems]
        rfl
  | obj members ih =>
    intro fuel rest hfuel _
    obtain ⟨fuel, rfl⟩ := Nat.exists_eq_succ_of_ne_zero (Nat.ne_of_gt (Nat.zero_lt_of_lt hfuel))
    rw [stringify, List.length_append, List.length_cons, List.length_singleton] at hfuel
    have htext : stringify (.obj members) ++ rest =
        '{' :: (stringifyMembers members ++ '}' :: rest) := by simp [stringify]
    rw [htext, parseValue, skipBlank_cons (by decide)]
    cases members with
    | nil => rfl
    | cons member members =>
      have hmembers := parseMembers_stringify ih (List.cons_ne_nil _ _) fuel rest (by omega)
      have hfirst : ∃ after, stringifyMembers (member :: members) ++ '}' :: rest = '"' :: after := by
        obtain ⟨key, value⟩ := member
        cases members with
        | nil => exact ⟨_, by rw [stringifyMembers, quote]; rfl⟩
        | cons other members => exact ⟨_, by rw [stringifyMembers_cons_cons, quote]; rfl⟩
      obtain ⟨after, hfirst⟩ := hfirst
      rw [hfirst] at hmembers ⊢
      simp only [skipBlank_cons (c := '"') (by decide)]
      split
      · next heq => exact absurd (List.cons.inj heq).1 (by decide)
      · rw [hmembers]
        rfl

/-- **What is written is read back.** -/
theorem parse_stringify (value : Json N) : parse (stringify value) = some value := by
  have hread := reads value (2 * (stringify value).length + 1) [] (Nat.lt_succ_self _)
    (fun c hc => by cases hc)
  rw [List.append_nil] at hread
  rw [parse, hread]
  rfl

/-- **Different values** have different texts. -/
theorem stringify_injective : Function.Injective (stringify : Json N → List Char) := by
  intro value value' h
  have hparse := parse_stringify value
  rw [h, parse_stringify] at hparse
  exact (Option.some_inj.mp hparse).symm

end RoundTrip

/-! ## 5. Equal values -/

/-- No object has a key twice. -/
inductive Json.Distinct : Json N → Prop
  | null : Distinct .null
  | bool (value : Bool) : Distinct (.bool value)
  | num (value : N) : Distinct (.num value)
  | str (value : String) : Distinct (.str value)
  | arr {items : List (Json N)} (hitems : ∀ item ∈ items, Distinct item) : Distinct (.arr items)
  | obj {members : List (String × Json N)} (hkeys : (members.map (·.1)).Nodup)
      (hmembers : ∀ member ∈ members, Distinct member.2) : Distinct (.obj members)

/-- Equal as JSON values: the order of the members of an object does not count. -/
inductive Json.Same : Json N → Json N → Prop
  | null : Same .null .null
  | bool (value : Bool) : Same (.bool value) (.bool value)
  | num (value : N) : Same (.num value) (.num value)
  | str (value : String) : Same (.str value) (.str value)
  | arr {items items' : List (Json N)} (hlength : items.length = items'.length)
      (hitems : ∀ pair ∈ items.zip items', Same pair.1 pair.2) : Same (.arr items) (.arr items')
  | obj {members members' reordered : List (String × Json N)} (hperm : reordered.Perm members')
      (hkeys : members.map (·.1) = reordered.map (·.1))
      (hvalues : ∀ pair ∈ members.zip reordered, Same pair.1.2 pair.2.2) :
      Same (.obj members) (.obj members')

/-- Two lists have the same images just when they do so place by place. -/
theorem map_eq_map_iff_zip {α β γ : Type*} {f : α → γ} {g : β → γ} {l : List α} {l' : List β} :
    l.map f = l'.map g ↔ l.length = l'.length ∧ ∀ pair ∈ l.zip l', f pair.1 = g pair.2 := by
  induction l generalizing l' with
  | nil => cases l' <;> simp
  | cons a l ih =>
    cases l' with
    | nil => simp
    | cons b l' =>
      rw [List.map_cons, List.map_cons, List.cons.injEq, ih, List.zip_cons_cons, List.length_cons,
        List.length_cons, Nat.succ_inj, List.forall_mem_cons]
      exact and_left_comm

end JsonText
