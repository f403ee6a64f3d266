import SecurityLint.Config.Fields
import SecurityLint.Data.Toml

/-!
Configuration files.
-/
namespace SecurityLint.Config

/-- Reads a configuration and checks that no enabled rule is left without its core. -/
def ofToml (text : String) : Except Error Config := do
  let some config := (Data.Toml.parse? text).bind (ofValue? .toml) | throw .badToml
  config.rules.validate
  return config

/-- A configuration from the content of its file; without a file, all is default. -/
def load (content : Option ByteArray) : Except Error Config :=
  match content with
  | none => .ok {}
  | some bytes =>
    match String.fromUTF8? bytes with
    | some text => ofToml text
    | none => .error .unreadable

/-- A file to start from. -/
def starter : String :=
  String.join [
    "# lintshield configuration\n",
    "\n",
    "[policy]\n",
    "# Minimum severity to fail the scan (info, low, medium, high, critical).\n",
    "fail_on = \"high\"\n",
    "\n",
    "# Rule keys to ignore entirely.\n",
    "# ignore_rules = [\"unsafe-markup\"]\n",
    "\n",
    "# Drop potential findings below this confidence (low, medium, high).\n",
    "# min_confidence = \"medium\"\n",
    "\n",
    "# Per-rule severity overrides.\n",
    "# [policy.overrides]\n",
    "# \"insecure-recovery\" = \"low\"\n",
    "\n",
    "# Every name list below replaces the built-in default when set.\n",
    "\n",
    "[rules.mass_assignment]\n",
    "enabled = true\n",
    "# persistence_methods = [\"create\", \"fill\", \"update\"]\n",
    "\n",
    "[rules.plaintext_secret]\n",
    "enabled = true\n",
    "# secret_pattern = '\\botp\\b|one[-_\\s]?time[-_\\s]?password|verification[-_\\s]?code'\n",
    "# storage_functions = [\"setcookie\", \"file_put_contents\"]\n",
    "# cookie_targets = [\"document.cookie\"]\n",
    "\n",
    "[rules.unsafe_markup]\n",
    "enabled = true\n",
    "# sanitizers = [\"sanitize\", \"DOMPurify\", \"htmlspecialchars\"]\n",
    "\n",
    "[rules.insecure_recovery]\n",
    "enabled = true\n",
    "# secure_libraries = [\"totp\", \"googleauthenticator\", \"webauthn\"]\n"]

end SecurityLint.Config
