import SecurityLint.Call
import SecurityLint.Config.Sections
import SecurityLint.Engine
import SecurityLint.Error
import SecurityLint.NamePattern

/-!
Plaintext secrets: a one-time password is stored or logged without being hashed. Storage calls are
checked for pairs of a secret key and an unprotected value, in an array of attributes or by
position; log calls for any mention of a secret; assignments for writes to sessions and cookies;
queries for writes of a secret column. Arrays that are not passed to a storage call are checked
like those that are, if the settings ask for it.
-/
namespace SecurityLint

structure PlaintextSecret where
  secret : NamePattern
  ormMethods : Keywords
  storageMethods : Keywords
  sensitiveReceivers : Keywords
  storageFunctions : Keywords
  cookieTargets : Keywords
  logMethods : Keywords
  sessionIndicators : Keywords
  queryCallees : Keywords
  sqlWriteMarkers : Keywords
  hashFunctions : Keywords
  sqlHashFunctions : Keywords
  checkStandaloneArrays : Bool

/-- A secret key whose value does not look protected. -/
structure PlainPair (t : SyntaxTree) where
  /-- The node to report. -/
  anchor : Cursor t
  key : String
  /-- Whether the value is a literal or a variable. -/
  isRaw : Bool

namespace PlaintextSecret

def ofSettings (s : PlaintextSecretSettings) : Except Error PlaintextSecret := do
  let some secret := NamePattern.compile? s.secretPattern
    | throw (.badPattern "plaintext_secret.secret_pattern")
  return {
    secret
    ormMethods := .ofList s.ormMethods
    storageMethods := .ofList s.storageMethods
    sensitiveReceivers := .ofList s.sensitiveReceivers
    storageFunctions := .ofList s.storageFunctions
    cookieTargets := .ofList s.cookieTargets
    logMethods := .ofList s.logMethods
    sessionIndicators := .ofList s.sessionIndicators
    queryCallees := .ofList s.queryCallees
    sqlWriteMarkers := .ofList s.sqlWriteMarkers
    hashFunctions := .ofList s.hashFunctions
    sqlHashFunctions := .ofList s.sqlHashFunctions
    checkStandaloneArrays := s.checkStandaloneArrays }

def info : RuleInfo where
  id := "plaintext-secret"
  name := "Plaintext One-Time Password"
  description := "Stores or logs one-time passwords without hashing"
  severity := .high
  category := .sensitiveDataExposure
  cwe := some "CWE-312"

def kinds : List Kind := [.functionCall, .assignment, .arrayLiteral]

def hashRemediation : String :=
  "Store only a salted hash of the code (Hash::make / password_hash) " ++
  "and compare with Hash::check."

def logRemediation : String :=
  "Remove the code from the log statement or log a masked marker instead."

variable {t : SyntaxTree}

/-- The name of the method or function if a call stores its arguments somewhere sensitive. -/
def storageMethod? (r : PlaintextSecret) (c : Cursor t) : Option String :=
  match c.memberCall? with
  | none => c.calleeName?.filter r.storageFunctions.containsName
  | some call =>
    if r.ormMethods.containsName call.method
        || (r.storageMethods.containsName call.method
          && r.sensitiveReceivers.occursIn call.receiver.text) then
      some call.method
    else none

/-- The pair of a key and a value, if the key names a secret and the value is raw or not hashed. -/
def plainPair? (r : PlaintextSecret) (anchor : Cursor t) (key : String) (value : Cursor t) :
    Option (PlainPair t) :=
  let isRaw := value.origin != .other
  if r.secret.matchesIn key && (isRaw || !value.callsOneOf r.hashFunctions) then
    some { anchor, key, isRaw }
  else none

/-- The pair that a key-value node stands for, if its key is a string. -/
def offendingPair? (r : PlaintextSecret) (pair : Cursor t) : Option (PlainPair t) := do
  if !pair.is .keyValuePair then none
  let keyNode ← pair.child? 0
  let value ← pair.child? 1
  r.plainPair? pair (← keyNode.stringValue?) value

/-- The offending pairs of an array. -/
def plainPairs (r : PlaintextSecret) (array : Cursor t) : List (PlainPair t) :=
  array.children.filterMap r.offendingPair?

/-- The first variable among some arguments that is named like a secret. -/
def secretVariable? (r : PlaintextSecret) (args : List (Cursor t)) : Option (PlainPair t) :=
  (args.find? fun c => c.is .identifier && r.secret.matchesIn c.nameOrText).map fun c =>
    { anchor := c, key := c.nameOrText, isRaw := true }

/-- A secret stored by position: as the value behind a secret key, or as a variable named like a
secret behind any first argument. -/
def positionalPair? (r : PlaintextSecret) (c : Cursor t) : Option (PlainPair t) :=
  match c.arguments with
  | [] => none
  | first :: rest =>
    match first.stringValue?.filter r.secret.matchesIn with
    | some key => rest.head?.bind fun value => r.plainPair? value key value
    | none => r.secretVariable? rest

/-- One finding for all the pairs of a node, about the first of them. -/
def reportPairs (pairs : List (PlainPair t)) (place : String) : Option Finding :=
  match pairs with
  | [] => none
  | first :: more =>
    let keys := ", ".intercalate (pairs.map fun p => s!"'{p.key}'")
    let isCertain := pairs.any (·.isRaw)
    let message :=
      if isCertain then
        s!"OTP should not be stored in plaintext {place} (key {keys}). " ++
          "Use a secure hashing function with a salt."
      else
        s!"Potential plaintext OTP detected {place} (key {keys}). Use a secure hashing function."
    let finding := (Finding.new info first.anchor message)
      |>.withConfidence (if isCertain then .high else .medium)
      |>.withRemediation hashRemediation
    some <| more.foldl (fun f p => f.withEvidence s!"Plaintext key '{p.key}'" p.anchor) finding

def checkStorageCall (r : PlaintextSecret) (c : Cursor t) : Option Finding := do
  let method ← r.storageMethod? c
  let first ← c.firstArgument?
  let pairs :=
    if first.is .arrayLiteral then r.plainPairs first else (r.positionalPair? c).toList
  reportPairs pairs s!"when using {method}()"

def checkLogCall (r : PlaintextSecret) (c : Cursor t) : Option Finding := do
  let name ← c.calleeName?
  if !r.logMethods.containsName name then none
  let arg ← c.arguments.find? fun a => r.secret.matchesIn a.text
  let text := Text.trim arg.text
  let message := s!"OTP values should never be logged; {name}() receives '{text}'. " ++
    "Logs expose authentication codes."
  return (Finding.new info arg message).withRemediation logRemediation

/-- Whether an argument is the text of a query that writes a secret without hashing it. -/
def isPlainQuery (r : PlaintextSecret) (arg : Cursor t) : Bool :=
  (arg.stringValue?.isSome || arg.is .concatenation)
    && r.sqlWriteMarkers.occursIn arg.text
    && r.secret.matchesIn arg.text
    && !r.sqlHashFunctions.occursIn arg.text

def checkQuery (r : PlaintextSecret) (c : Cursor t) : Option Finding := do
  let callee ← c.callee?
  if !r.queryCallees.occursIn callee.text then none
  let arg ← c.arguments.find? r.isPlainQuery
  let message := "SQL query appears to store OTP in plaintext. " ++
    "OTP values should be securely hashed before storage."
  return (Finding.new info arg message)
    |>.withConfidence .medium
    |>.withRemediation hashRemediation

def checkSessionWrite (r : PlaintextSecret) (c : Cursor t) : Option Finding := do
  let target ← c.child? 0
  if !target.is .arrayAccess then none
  if !r.sessionIndicators.occursIn target.text || !r.secret.matchesIn target.text then none
  let message := "OTP should not be stored in plaintext in session variables. " ++
    "Use hashing with a salt."
  return (Finding.new info target message).withRemediation hashRemediation

def checkCookieWrite (r : PlaintextSecret) (c : Cursor t) : Option Finding := do
  let target ← c.child? 0
  let value ← c.child? 1
  if !r.cookieTargets.occursIn target.text || !r.secret.matchesIn value.text then none
  let name := Text.trim target.text
  let message := s!"OTP should not be stored in plaintext in {name}. " ++
    "Cookies are readable by the client."
  return (Finding.new info value message).withRemediation hashRemediation

/-- Whether an array is the first argument of a storage call, which is checked with the call. -/
def isStored (r : PlaintextSecret) (array : Cursor t) : Bool :=
  array.parent?.any fun parent =>
    parent.firstArgument?.any (·.id == array.id) && (r.storageMethod? parent).isSome

def checkArray (r : PlaintextSecret) (array : Cursor t) : Option Finding :=
  if !r.checkStandaloneArrays || r.isStored array then none
  else reportPairs (r.plainPairs array) "in array literal"

def visit (r : PlaintextSecret) (c : Cursor t) : List Finding :=
  match c.kind with
  | .functionCall => [r.checkStorageCall c, r.checkLogCall c, r.checkQuery c].filterMap id
  | .assignment => [r.checkSessionWrite c, r.checkCookieWrite c].filterMap id
  | .arrayLiteral => (r.checkArray c).toList
  | _ => []

def rule (r : PlaintextSecret) : Rule where
  info := info
  kinds := kinds
  visit _ c := return r.visit c

end PlaintextSecret

end SecurityLint
