/-
# Trimmed text

What `String.prototype.trim` leaves of a text, on lists of characters.  A trimmed text neither begins nor
ends with a character that is trimmed (`head_trimmed`, `last_trimmed`), and of such a text nothing is
trimmed (`trimmed_eq_self`).
-/
import Mathlib

namespace TrimmedText

variable {text : List Char} {c : Char}

/-- The white space and the line terminators. -/
def isTrimmed (c : Char) : Bool :=
  let code := c.toNat
  (9 ≤ code && code ≤ 13) || code == 0x20 || code == 0xa0 || code == 0x1680 ||
    (0x2000 ≤ code && code ≤ 0x200a) || code == 0x2028 || code == 0x2029 || code == 0x202f ||
    code == 0x205f || code == 0x3000 || code == 0xfeff

def trimmed (text : List Char) : List Char := (text.dropWhile isTrimmed).rdropWhile isTrimmed

theorem trimmed_eq_self (hhead : ∀ c ∈ text.head?, isTrimmed c = false)
    (hlast : ∀ c ∈ text.getLast?, isTrimmed c = false) : trimmed text = text := by
  have hfront : text.dropWhile isTrimmed = text := by
    rw [List.dropWhile_eq_self_iff]
    intro hlength
    rw [hhead _ (List.head?_eq_getElem?.trans (List.getElem?_eq_getElem hlength))]
    exact Bool.false_ne_true
  rw [trimmed, hfront, List.rdropWhile_eq_self_iff]
  intro hne
  rw [hlast _ (List.getLast?_eq_some_getLast hne)]
  exact Bool.false_ne_true

theorem head_dropWhile (h : c ∈ (text.dropWhile isTrimmed).head?) : isTrimmed c = false := by
  have hnot := List.head?_dropWhile_not isTrimmed text
  rw [Option.mem_def.mp h] at hnot
  exact hnot

theorem last_trimmed (h : c ∈ (trimmed text).getLast?) : isTrimmed c = false := by
  rw [trimmed, List.rdropWhile, List.getLast?_reverse] at h
  exact head_dropWhile h

theorem head_trimmed (h : c ∈ (trimmed text).head?) : isTrimmed c = false := by
  have hprefix := List.rdropWhile_prefix isTrimmed (text.dropWhile isTrimmed)
  -- what is left at the back begins like what it is left of
  obtain ⟨dropped, hdropped⟩ := hprefix
  have hfront : c ∈ (text.dropWhile isTrimmed).head? := by
    change (List.rdropWhile isTrimmed _).head? = some c at h
    rw [← hdropped, List.head?_append, h]
    rfl
  exact head_dropWhile hfront

end TrimmedText
