/-!
The settings of the rules. Every list and pattern can be replaced by the host.
-/
namespace SecurityLint

structure MassAssignmentSettings where
  enabled : Bool := true
  /-- Methods of a model that bind an array of attributes. -/
  persistenceMethods : List String := ["create", "fill", "update"]
  /-- Methods of a request that return all of its input. -/
  bulkInputMethods : List String := ["all", "input"]
  /-- Parts of variable names that suggest unfiltered input. -/
  inputVariableHints : List String := ["request", "input"]
  deriving DecidableEq, Repr

structure PlaintextSecretSettings where
  enabled : Bool := true
  /-- Keys and variable names of secrets. -/
  secretPattern : String :=
    "\\botp\\b|one[-_\\s]?time[-_\\s]?password|verification[-_\\s]?code|auth[-_\\s]?code"
  ormMethods : List String := ["create", "insert", "save", "update", "execute"]
  storageMethods : List String :=
    ["put", "set", "add", "remember", "forever", "store", "setItem"]
  /-- Parts of receivers that name a store. -/
  sensitiveReceivers : List String :=
    ["db", "database", "session", "cache", "redis", "cookie", "storage", "log"]
  /-- Plain functions that keep their arguments. -/
  storageFunctions : List String := ["setcookie", "file_put_contents"]
  /-- Targets of assignments that keep the value. -/
  cookieTargets : List String := ["document.cookie"]
  logMethods : List String := ["log", "info", "error", "debug", "warning", "error_log"]
  /-- Parts of an indexed write to a session. -/
  sessionIndicators : List String := ["_session", "session"]
  /-- Parts of callees that run a raw query. -/
  queryCallees : List String := ["query", "exec", "execute"]
  /-- Parts of a query that writes. -/
  sqlWriteMarkers : List String := ["insert into", "update"]
  /-- Parts of callees that protect a value. -/
  hashFunctions : List String := ["hash", "bcrypt", "password_hash", "encrypt", "make"]
  /-- Parts of a query that hashes the stored value. -/
  sqlHashFunctions : List String := ["hash", "bcrypt", "crypt"]
  /-- Whether arrays are checked that are not passed to a storage call. -/
  checkStandaloneArrays : Bool := true
  deriving DecidableEq, Repr

structure UnsafeMarkupSettings where
  enabled : Bool := true
  svgPattern : String := "<\\s*svg|\\bsvg\\b|image/svg\\+xml|\\.svg\\b"
  dangerousSvgPattern : String :=
    "<\\s*script|<\\s*foreignObject|<\\s*use\\s+xlink:href|<\\s*handler|<\\s*event"
  /-- Methods that output their argument without escaping. -/
  unsafeOutputMethods : List String :=
    ["html", "rawSvg", "raw", "unescape", "dangerouslySetInnerHTML", "innerHTML"]
  /-- Methods that render a template. -/
  renderMethods : List String := ["render"]
  sanitizers : List String :=
    ["sanitize", "DOMPurify", "purify", "clean", "escape", "htmlspecialchars", "strip_tags"]
  /-- Parts of values that a user controls. -/
  userInputHints : List String :=
    ["$_", "request", "input", "props", "param", "event.target"]
  /-- Parts of the targets of assignments that render markup. -/
  markupTargets : List String := ["innerhtml", "html", "svg"]
  /-- Signs of dynamic content in raw markup. -/
  dynamicContentMarkers : List String := ["<?php", "<?=", "\x7b"]
  deriving DecidableEq, Repr

structure InsecureRecoverySettings where
  enabled : Bool := true
  recoveryPattern : String :=
    "reset[\\s_]*password|forgot[\\s_]*password|recover[\\s_]*password|password[\\s_]*recovery"
  /-- Parts of names of classes and methods about recovery. -/
  recoveryNames : List String :=
    ["forgotpassword", "resetpassword", "passwordreset", "accountrecovery"]
  /-- Further parts of names of methods about recovery. -/
  recoveryMethodNames : List String := ["sendrecovery"]
  securityQuestionPattern : String :=
    "security[\\s_]*question|secret[\\s_]*question|mother[\\s_]*maiden|" ++
    "birth[\\s_]*place|first[\\s_]*pet"
  /-- Matched against identifier words. -/
  secureMechanismPattern : String :=
    "\\b(?:two\\s?factor|2\\s?fa|mfa|multi\\s?factor|otp|totp|hotp|authenticator|time\\s?based?)"
  secureLibraries : List String := [
    "totp", "googleauthenticator", "totputils", "otputil", "twofactorauthentication", "webauthn",
    "pushnotification", "timebased", "speakeasy"]
  /-- Parts of names of methods that just send a link. -/
  simpleEmailResetIndicators : List String := [
    "sendpasswordresetemail", "forgotpasswordemail", "resetlink", "passwordresettoken",
    "generateresettoken"]
  deriving DecidableEq, Repr

structure RuleSettings where
  massAssignment : MassAssignmentSettings := {}
  plaintextSecret : PlaintextSecretSettings := {}
  unsafeMarkup : UnsafeMarkupSettings := {}
  insecureRecovery : InsecureRecoverySettings := {}
  deriving DecidableEq, Repr

end SecurityLint
