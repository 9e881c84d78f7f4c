import Artboard.Json.Codec

/-!
# Attempts

What a reader makes of a text, without the fault when it stops.  The operations that
readers are built from have one equation each, so that an attempt opens into a
computation on options.  The equations for reading a token take a text that begins with
blanks and then with another character.
-/

namespace Artboard
namespace Json

/-- The value read and what is left of the text, if reading does not stop. -/
def attempt (reader : Reader α) (text : List Char) : Option (α × List Char) :=
  (reader text).toOption

@[simp] theorem attempt_pure (value : α) (text : List Char) :
    attempt (pure value) text = some (value, text) := rfl

@[simp] theorem attempt_bind (reader : Reader α) (next : α → Reader β) (text : List Char) :
    attempt (reader >>= next) text =
      (attempt reader text).bind fun read => attempt (next read.1) read.2 := by
  change (reader text >>= fun read => next read.1 read.2).toOption = _
  rw [attempt]
  cases reader text <;> rfl

@[simp] theorem attempt_map (change : α → β) (reader : Reader α) (text : List Char) :
    attempt (change <$> reader) text =
      (attempt reader text).map fun read => (change read.1, read.2) := by
  change (reader text >>= fun read => pure (change read.1, read.2)).toOption = _
  rw [attempt]
  cases reader text <;> rfl

@[simp] theorem attempt_failHere (cause : Cause) (text : List Char) :
    attempt (failHere cause : Reader α) text = none := rfl

@[simp] theorem attempt_failAhead (cause : Cause) (text : List Char) :
    attempt (failAhead cause : Reader α) text = none := rfl

@[simp] theorem attempt_get (text : List Char) :
    attempt (get : Reader (List Char)) text = some (text, text) := rfl

@[simp] theorem attempt_set (rest text : List Char) :
    attempt (set rest : Reader PUnit) text = some (⟨⟩, rest) := rfl

@[simp] theorem attempt_modify (change : List Char → List Char) (text : List Char) :
    attempt (modify change : Reader PUnit) text = some (⟨⟩, change text) := rfl

@[simp] theorem attempt_advance (text : List Char) :
    attempt advance text = some ((), text.tail) := rfl

/-- Blanks in front of a token make no difference to what is seen. -/
@[simp] theorem attempt_peekToken (text : List Char) :
    attempt peekToken text = some ((text.dropWhile isGap).head?, text.dropWhile isGap) := rfl

@[simp] theorem attempt_literal_nil (text : List Char) :
    attempt (literal []) text = some ((), text) := rfl

@[simp] theorem attempt_literal_cons (letter : Char) (letters rest : List Char) :
    attempt (literal (letter :: letters)) (letter :: rest) = attempt (literal letters) rest := by
  simp [attempt, literal]

/-- A value of the wrong kind is never read. -/
@[simp] theorem attempt_refuse (expected : String) (text : List Char) :
    attempt (refuse expected : Reader α) text = none := by
  rw [refuse, attempt_bind, attempt_peekToken, Option.bind_some]
  dsimp only
  split
  case h_8 => split <;> simp
  all_goals simp

/-- A text is accepted as a whole when nothing but blanks are left of it. -/
theorem toOption_readAll (reader : Reader α) (text : List Char) :
    (readAll reader text).toOption =
      (attempt reader text).bind fun read =>
        if read.2.dropWhile isGap = [] then some read.1 else none := by
  let whole : Reader α := do
    let value ← reader
    endOfInput
    return value
  have result : (readAll reader text).toOption = (attempt whole text).map Prod.fst := by
    change (Prod.fst <$> whole text).toOption = (whole text).toOption.map Prod.fst
    cases whole text <;> rfl
  rw [result, attempt_bind]
  cases attempt reader text with
  | none => rfl
  | some read =>
      rw [Option.bind_some, Option.bind_some, attempt_bind, endOfInput, attempt_bind,
        attempt_peekToken, Option.bind_some]
      cases read.2.dropWhile isGap <;> rfl

theorem eq_ok_iff_toOption {result : Except ε α} {value : α} :
    result = .ok value ↔ result.toOption = some value := by
  cases result <;> simp [Except.toOption]

end Json
end Artboard
