import Concord.Python.Text

/-!
# Matches in a text

`re.finditer` and `re.sub`: a text is cut, from its start on, into what a pattern matches and the
characters between. A pattern is given by what it matches at the start of a text, and how many
characters that takes; the pieces put together are the text (`flatMap_source_pieces`).
-/

namespace Concord.Python

universe u

/-- A character, or a match with the characters it takes. -/
inductive Piece (α : Type u)
  | char (c : Char)
  | found (a : α) (source : Text)

namespace Piece

variable {α : Type u}

def source : Piece α → Text
  | .char c => [c]
  | .found _ s => s

def match? : Piece α → Option α
  | .char _ => none
  | .found a _ => some a

end Piece

section

variable {α : Type u} (matchAt : Text → Option (α × Nat))

/-- The pieces of a text of at most the given length. -/
def piecesUpTo : Nat → Text → List (Piece α)
  | 0, _ => []
  | _ + 1, [] => []
  | k + 1, c :: s =>
    match matchAt (c :: s) with
    | some (a, n) => .found a ((c :: s).take n) :: piecesUpTo k ((c :: s).drop n)
    | none => .char c :: piecesUpTo k s

/-- The matches of a pattern, which takes a character at least, and what is between. -/
def pieces (s : Text) : List (Piece α) := piecesUpTo matchAt s.length s

/-- `re.finditer`. -/
def finditer (s : Text) : List α := (pieces matchAt s).filterMap Piece.match?

variable {matchAt}

theorem flatMap_source_piecesUpTo (hpos : ∀ s a n, matchAt s = some (a, n) → 0 < n) {k : Nat}
    {s : Text} (hk : s.length ≤ k) : (piecesUpTo matchAt k s).flatMap Piece.source = s := by
  induction k generalizing s with
  | zero =>
    obtain rfl := List.length_eq_zero_iff.mp (Nat.le_zero.mp hk)
    rfl
  | succ k ih =>
    cases s with
    | nil => rfl
    | cons c s =>
      rw [List.length_cons] at hk
      rw [piecesUpTo]
      cases hmatch : matchAt (c :: s) with
      | none =>
        dsimp only
        rw [List.flatMap_cons, ih (by omega)]
        rfl
      | some found =>
        obtain ⟨a, n⟩ := found
        have hn := hpos _ _ _ hmatch
        dsimp only
        rw [List.flatMap_cons, ih (by rw [List.length_drop, List.length_cons]; omega)]
        exact List.take_append_drop n (c :: s)

/-- **Nothing is lost between the matches.** -/
theorem flatMap_source_pieces (hpos : ∀ s a n, matchAt s = some (a, n) → 0 < n) (s : Text) :
    (pieces matchAt s).flatMap Piece.source = s :=
  flatMap_source_piecesUpTo hpos (Nat.le_refl _)

end

/-! ## Ignoring case -/

/-- A character that matches a lower-case ASCII one under `re.IGNORECASE`: beside the two cases of a
letter there are the long s, the Kelvin sign, and the Turkish two. -/
def matchesIgnoringCase (w c : Char) : Bool :=
  c.toLower = w || (w = 's' && c = 'ſ') || (w = 'k' && c = '\u212a') ||
    (w = 'i' && (c = 'İ' || c = 'ı'))

/-- What is behind a word, if the text starts with it. -/
def dropWord : Text → Text → Option Text
  | [], s => some s
  | _ :: _, [] => none
  | w :: word, c :: s => if matchesIgnoringCase w c then dropWord word s else none

end Concord.Python
