import SecurityLint.Config.Sections
import SecurityLint.Error
import SecurityLint.Policy
import SecurityLint.Text.Blank

/-!
A configuration: the policy of the host and the settings of the rules.
-/
namespace SecurityLint

structure Config where
  policy : Policy := {}
  rules : RuleSettings := {}
  deriving DecidableEq, Repr

namespace RuleSettings

/-- For each rule, whether it is enabled without the setting at its core, and that setting. -/
def gaps (s : RuleSettings) : List (Bool × String) := [
  (s.massAssignment.enabled && s.massAssignment.persistenceMethods.isEmpty,
    "rules.mass_assignment.persistence_methods"),
  (s.plaintextSecret.enabled && Text.isBlankText s.plaintextSecret.secretPattern,
    "rules.plaintext_secret.secret_pattern"),
  (s.unsafeMarkup.enabled && Text.isBlankText s.unsafeMarkup.svgPattern,
    "rules.unsafe_markup.svg_pattern"),
  (s.insecureRecovery.enabled && Text.isBlankText s.insecureRecovery.recoveryPattern,
    "rules.insecure_recovery.recovery_pattern")]

/-- Refuses settings that leave an enabled rule without its core. -/
def validate (s : RuleSettings) : Except Error Unit :=
  match s.gaps.find? (·.1) with
  | some (_, key) => .error (.emptySetting key)
  | none => .ok ()

end RuleSettings

end SecurityLint
