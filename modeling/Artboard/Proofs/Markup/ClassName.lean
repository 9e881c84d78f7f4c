import Artboard.Markup.Text

/-!
# Class names

A class name is the word `node`, a decimal number and a sanitised name, with
hyphens between.  Because no digit is a hyphen, the number can be read off a class
name although the name behind it may begin with digits.
-/

namespace Artboard
namespace Markup

/-- The form of a class name. -/
def IsClassName (text : String) : Prop :=
  ∃ digits rest : List Char,
    text.toList = "node-".toList ++ digits ++ '-' :: rest ∧ digits ≠ [] ∧
      (∀ c ∈ digits, c.isDigit = true) ∧ ∀ c ∈ rest, c.isAlphanum = true ∨ c = '-'

def classRest (name : String) : List Char :=
  name.toList.map fun c => if isClassChar c then c else '-'

theorem toList_className (counter : Nat) (name : String) :
    (className counter name).toList =
      "node-".toList ++ (Nat.toDigits 10 counter ++ '-' :: classRest name) := by
  have hyphen : "-".toList = ['-'] := String.toList_ofList
  simp only [className, classRest, String.toList_append, String.toList_ofList,
    Nat.toString_eq_ofList_toDigits, hyphen, List.append_assoc, List.singleton_append]

theorem isDigit_of_mem_decimal {counter : Nat} {c : Char}
    (member : c ∈ Nat.toDigits 10 counter) : c.isDigit = true :=
  Nat.isDigit_of_mem_toDigits (by decide) (Nat.le_refl 10) member

theorem classRest_clean (name : String) :
    ∀ c ∈ classRest name, c.isAlphanum = true ∨ c = '-' := by
  intro c member
  rcases List.mem_map.mp member with ⟨original, -, same⟩
  split at same
  · next clean =>
      subst same
      exact Or.inl clean
  · exact Or.inr same.symm

theorem isClassName_className (counter : Nat) (name : String) :
    IsClassName (className counter name) := by
  refine ⟨Nat.toDigits 10 counter, classRest name, ?_, Nat.toDigits_ne_nil, ?_, ?_⟩
  · rw [toList_className, List.append_assoc]
  · intro c member
    exact isDigit_of_mem_decimal member
  · exact classRest_clean name

theorem takeWhile_decimal (counter : Nat) (rest : List Char) :
    (Nat.toDigits 10 counter ++ '-' :: rest).takeWhile Char.isDigit = Nat.toDigits 10 counter := by
  have digits : ∀ c ∈ Nat.toDigits 10 counter, c.isDigit = true := fun c member =>
    isDigit_of_mem_decimal member
  rw [List.takeWhile_append_of_pos digits, List.takeWhile_cons_of_neg (by decide),
    List.append_nil]

/-- Layers with different numbers have different class names, whatever their names
are. -/
theorem counter_eq_of_className_eq {counter other : Nat} {name otherName : String}
    (same : className counter name = className other otherName) : counter = other := by
  have written := congrArg String.toList same
  rw [toList_className, toList_className] at written
  have behind := List.append_cancel_left written
  have digits := congrArg (List.takeWhile Char.isDigit) behind
  rw [takeWhile_decimal, takeWhile_decimal] at digits
  have values := congrArg (fun read => Nat.ofDigitChars 10 read 0) digits
  simpa only [Nat.ofDigitChars_ten_toDigits] using values

/-- A name that begins like the rest of a longer number does not make the class
names equal. -/
example : className 1 "1-x" ≠ className 11 "x" := by decide

end Markup
end Artboard
