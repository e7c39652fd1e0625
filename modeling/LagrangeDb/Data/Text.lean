import Mathlib.Data.List.Dedup
import Mathlib.Data.List.Infix
import Mathlib.Data.List.Sort
import Mathlib.Data.Nat.Digits.Defs

namespace LagrangeDb.Data.Text

/-! Strings as a JavaScript host compares and joins them.  Order is by UTF-16
code unit, not by code point. -/

def utf16Units (character : Char) : List Nat :=
  let code := character.toNat
  if code < 0x10000 then [code]
  else [0xD800 + (code - 0x10000) / 0x400, 0xDC00 + (code - 0x10000) % 0x400]

def utf16 (text : String) : List Nat := text.toList.flatMap utf16Units

def less (left right : String) : Bool := decide (utf16 left < utf16 right)

def sort (texts : List String) : List String :=
  texts.insertionSort fun left right => less right left = false

@[simp] theorem mem_sort : text ∈ sort texts ↔ text ∈ texts :=
  List.mem_insertionSort _

def beginsProperly (head text : String) : Bool :=
  head.toList.isPrefixOf text.toList &&
    decide (head.toList.length < text.toList.length)

variable {left right : String}

theorem list_split_last {α : Type} {separator : α} : ∀ {left right front back : List α},
      separator ∉ front -> separator ∉ back ->
      left ++ separator :: front = right ++ separator :: back -> left = right ∧ front = back
  | [], [], _, _, _, _, h => ⟨rfl, by simpa using h⟩
  | [], _ :: _, _, _, hfront, _, h => by
    obtain ⟨-, htail⟩ := List.cons.inj h
    exact absurd (by simp [htail]) hfront
  | _ :: _, [], _, _, _, hback, h => by
    obtain ⟨-, htail⟩ := List.cons.inj h
    exact absurd (by simp [← htail]) hback
  | _ :: left, _ :: right, _, _, hfront, hback, h => by
    obtain ⟨hhead, htail⟩ := List.cons.inj h
    obtain ⟨hleft, hrest⟩ := list_split_last hfront hback htail
    exact ⟨by rw [hhead, hleft], hrest⟩

theorem split_first {α : Type} {separator : α} {front back left right : List α}
    (absent : separator ∉ front) (absentBack : separator ∉ back)
    (equal : front ++ separator :: left = back ++ separator :: right) :
    front = back ∧ left = right := by
  have reversed := congrArg List.reverse equal
  simp only [List.reverse_append, List.reverse_cons, List.append_assoc,
    List.singleton_append] at reversed
  obtain ⟨lefts, fronts⟩ := list_split_last (by simpa using absent)
    (by simpa using absentBack) reversed
  exact ⟨List.reverse_injective fronts, List.reverse_injective lefts⟩

theorem colon_not_mem_toDigits (number : Nat) : ':' ∉ (toString number).toList := by
  intro hmem
  have hdigit : ':'.isDigit = true := by
    rw [Nat.toString_eq_ofList_toDigits, String.toList_ofList] at hmem
    exact Nat.isDigit_of_mem_toDigits (by decide) (by decide) hmem
  exact absurd hdigit (by decide)

theorem join_ordinal_injective {first second : Nat}
    (h : left ++ ":" ++ toString first = right ++ ":" ++ toString second) :
    left = right ∧ first = second := by
  have hlists := congrArg String.toList h
  simp only [String.toList_append, List.append_assoc] at hlists
  obtain ⟨hleft, hordinal⟩ := list_split_last
    (colon_not_mem_toDigits first) (colon_not_mem_toDigits second) hlists
  refine ⟨String.toList_injective hleft, ?_⟩
  have hnumbers := congrArg (fun digits => Nat.ofDigitChars 10 digits 0) hordinal
  simpa [Nat.toString_eq_ofList_toDigits] using hnumbers

end LagrangeDb.Data.Text
