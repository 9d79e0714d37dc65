import Tether.Control.Error
import Tether.Text.Blank

/-!
Network keys: the credentials that let one session join. A key holds at least one character that
is not blank, is kept as it was given, and shows nothing of itself in diagnostics.
-/

namespace Tether.Control

open Tether.Text

/-- A key that lets one session join the network. -/
structure Key where
  text : String
  notBlank : isBlank text = false
  deriving DecidableEq, Repr

namespace Key

/-- The text as a key, if it is not blank. -/
def ofText (s : String) : Except Error Key :=
  if h : isBlank s = false then .ok ⟨s, h⟩
  else .error (.invalidResponse "network key is empty")

/-- The text of a key for diagnostics. -/
def debugText (_ : Key) : String := "NetworkKey(<redacted>)"

theorem ofText_eq_ok_iff {s : String} {k : Key} : ofText s = .ok k ↔ k.text = s := by
  constructor
  · intro h
    unfold ofText at h
    split at h
    · cases h; rfl
    · cases h
  · rintro rfl
    simp [ofText, k.notBlank]

theorem ofText_eq_error_iff {s : String} :
    (∃ e, ofText s = .error e) ↔ isBlank s = true := by
  unfold ofText
  split <;> simp_all

end Key

end Tether.Control
