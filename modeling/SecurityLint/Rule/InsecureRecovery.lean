import SecurityLint.Call
import SecurityLint.Config.Sections
import SecurityLint.Engine
import SecurityLint.Error
import SecurityLint.NamePattern
import SecurityLint.Text.IdentifierWords

/-!
Insecure recovery: a password can be recovered by knowing answers or by receiving a link alone.
Classes are checked for fields with security questions, methods and calls by their names. What
stands in a class that mentions a secure mechanism is left alone.
-/
namespace SecurityLint

structure InsecureRecovery where
  recovery : NamePattern
  recoveryNames : Keywords
  recoveryMethodNames : Keywords
  securityQuestion : NamePattern
  secure : NamePattern
  secureLibraries : Keywords
  emailReset : Keywords

namespace InsecureRecovery

def ofSettings (s : InsecureRecoverySettings) : Except Error InsecureRecovery := do
  let some recovery := NamePattern.compile? s.recoveryPattern
    | throw (.badPattern "recovery_pattern")
  let some securityQuestion := NamePattern.compile? s.securityQuestionPattern
    | throw (.badPattern "security_question_pattern")
  let some secure := NamePattern.compile? s.secureMechanismPattern
    | throw (.badPattern "secure_mechanism_pattern")
  return {
    recovery
    recoveryNames := .ofList s.recoveryNames
    recoveryMethodNames := .ofList s.recoveryMethodNames
    securityQuestion
    secure
    secureLibraries := .ofList s.secureLibraries
    emailReset := .ofList s.simpleEmailResetIndicators }

def info : RuleInfo where
  id := "insecure-recovery"
  name := "Weak Password Recovery"
  description := "Password recovery relies on security questions or an emailed link alone"
  severity := .high
  category := .weakAuthentication
  cwe := some "CWE-640"

def kinds : List Kind := [.classDecl, .methodDecl, .functionCall]

def requirement : String :=
  "OWASP ASVS v2.5.6 requires a secure recovery mechanism such as TOTP, " ++
  "a soft token, mobile push, or another offline factor."

def remediation : String :=
  "Require a second factor (TOTP, authenticator app, WebAuthn or push " ++
  "approval) before allowing the password to be reset."

def isRecoveryClass (r : InsecureRecovery) (name : String) : Bool :=
  r.recovery.matchesIn name || r.recoveryNames.occursIn name

def isRecoveryMethod (r : InsecureRecovery) (name : String) : Bool :=
  let lower := Text.lower name
  r.isRecoveryClass name
    || r.recoveryMethodNames.occursIn name
    || (Text.contains lower "generatetoken"
      && (Text.contains lower "reset" || Text.contains lower "recovery"))

/-- Whether the identifier words of a name match the pattern of secure mechanisms. -/
def namesMechanism (r : InsecureRecovery) (name : String) : Bool :=
  r.secure.matchesIn (Text.splitWords name)

/-- Whether a text mentions a secure mechanism, by pattern or by library. -/
def mentionsMechanism (r : InsecureRecovery) (text : String) : Bool :=
  r.namesMechanism text || r.secureLibraries.occursIn text

variable {t : SyntaxTree}

/-- Whether the name of a class or one of its members mentions a secure mechanism. -/
def isSecureClass (r : InsecureRecovery) (decl : Cursor t) : Bool :=
  decl.name?.any r.namesMechanism || decl.children.any fun m => r.mentionsMechanism m.text

def hasSecureStatement (r : InsecureRecovery) (method : Cursor t) : Bool :=
  method.statements.any fun s => r.mentionsMechanism s.text

/-- Whether the class around a node is secure. -/
def inSecureClass (r : InsecureRecovery) (c : Cursor t) : Inquiry t Bool := do
  return (← Inquiry.enclosing .ofClass c).any r.isSecureClass

/-- Whether the method around a node has a secure statement. -/
def inSecureMethod (r : InsecureRecovery) (c : Cursor t) : Inquiry t Bool := do
  return (← Inquiry.enclosing .ofMethod c).any r.hasSecureStatement

def checkClass (r : InsecureRecovery) (c : Cursor t) : Option Finding := do
  let name ← c.name?
  if !r.isRecoveryClass name then none
  let fields := c.children.filter (·.is .fieldDecl)
  let question ← fields.find? fun f => r.securityQuestion.matchesIn f.nameOrText
  if fields.any fun f => r.namesMechanism f.nameOrText then none
  let message := s!"Password recovery in '{name}' appears to rely on security questions " ++
    s!"(knowledge-based verification). {requirement}"
  return (Finding.new info c message)
    |>.withEvidence s!"Security question field '{question.nameOrText}'" question
    |>.withRemediation remediation

/-- A finding about a method without a secure mechanism. -/
def methodFinding (r : InsecureRecovery) (c : Cursor t) (name : String) : Finding :=
  let message :=
    if r.emailReset.occursIn name then
      s!"Password reset method '{name}' appears to only send an email with a reset link " ++
        s!"without additional verification. {requirement}"
    else
      s!"Password recovery method '{name}' does not appear to implement a secure " ++
        s!"recovery mechanism. {requirement}"
  (Finding.new info c message)
    |>.withSeverity .medium
    |>.withConfidence .medium
    |>.withRemediation remediation

def checkMethod (r : InsecureRecovery) (c : Cursor t) : Inquiry t (Option Finding) := do
  let some name := c.name? | return none
  if !r.isRecoveryMethod name || r.hasSecureStatement c then return none
  if ← r.inSecureClass c then return none
  return some (r.methodFinding c name)

/-- Whether a call is about recovery: by its method, or because something with `email` in its name
is told to send or reset. -/
def isRecoveryCall (r : InsecureRecovery) (call : MemberCall t) : Bool :=
  let method := Text.lower call.method
  r.isRecoveryMethod method
    || (Text.contains (Text.lower call.receiver.text) "email"
      && (Text.contains method "send" || Text.contains method "reset"))

/-- A finding about a call outside all secure contexts. -/
def callFinding (call : MemberCall t) : Finding :=
  let message := s!"Password recovery call '{call.method}' appears to use an email-only reset " ++
    s!"without additional security factors. {requirement}"
  (Finding.new info call.call message)
    |>.withSeverity .medium
    |>.withConfidence .low
    |>.withRemediation remediation

def checkCall (r : InsecureRecovery) (c : Cursor t) : Inquiry t (Option Finding) := do
  let some call := c.memberCall? | return none
  if !r.isRecoveryCall call then return none
  if c.arguments.any fun a => r.mentionsMechanism a.text then return none
  if ← r.inSecureMethod c then return none
  if ← r.inSecureClass c then return none
  return some (callFinding call)

def visit (r : InsecureRecovery) (c : Cursor t) : Inquiry t (Option Finding) :=
  match c.kind with
  | .classDecl => return r.checkClass c
  | .methodDecl => r.checkMethod c
  | .functionCall => r.checkCall c
  | _ => return none

def rule (r : InsecureRecovery) : Rule where
  info := info
  kinds := kinds
  visit _ c := do return (← r.visit c).toList

end InsecureRecovery

end SecurityLint
