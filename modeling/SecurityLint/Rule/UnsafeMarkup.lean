import SecurityLint.Call
import SecurityLint.Config.Sections
import SecurityLint.Engine
import SecurityLint.Error
import SecurityLint.NamePattern
import SecurityLint.SanitizerSet

/-!
Unsafe markup: SVG content or user input is rendered without being sanitized. Both are reported on
their own, and either is enough. A node whose text calls on a sanitizer is passed over.
-/
namespace SecurityLint

structure UnsafeMarkup where
  svg : NamePattern
  dangerous : NamePattern
  outputMethods : Keywords
  sanitizers : SanitizerSet
  userInput : Keywords
  markupTargets : Keywords
  dynamicMarkers : Keywords

namespace UnsafeMarkup

def ofSettings (s : UnsafeMarkupSettings) : Except Error UnsafeMarkup := do
  let some svg := NamePattern.compile? s.svgPattern
    | throw (.badPattern "unsafe_markup.svg_pattern")
  let some dangerous := NamePattern.compile? s.dangerousSvgPattern
    | throw (.badPattern "unsafe_markup.dangerous_svg_pattern")
  let some sanitizers := SanitizerSet.compile? s.sanitizers
    | throw (.badPattern "sanitizers")
  return {
    svg
    dangerous
    outputMethods := .ofList (s.unsafeOutputMethods ++ s.renderMethods)
    sanitizers
    userInput := .ofList s.userInputHints
    markupTargets := .ofList s.markupTargets
    dynamicMarkers := .ofList s.dynamicContentMarkers }

def info : RuleInfo where
  id := "unsafe-markup"
  name := "Unsanitized SVG Rendering"
  description := "Renders user-supplied SVG markup without sanitization"
  severity := .medium
  category := .crossSiteScripting
  cwe := some "CWE-79"

def kinds : List Kind := [.functionCall, .assignment, .inlineMarkup, .echoTag]

def remediation : String :=
  "Run the SVG through a sanitizer (DOMPurify.sanitize, enshrined/svg-sanitize) " ++
  "or serve it as <img src>."

variable {t : SyntaxTree}

/-- A finding about SVG content, which is worse if the content is dangerous. -/
def svgFinding (r : UnsafeMarkup) (anchor : Cursor t) (content dangerous plain : String) :
    Finding :=
  let finding :=
    if r.dangerous.matchesIn content then (Finding.new info anchor dangerous).withSeverity .high
    else Finding.new info anchor plain
  finding.withRemediation remediation

def inputFinding (anchor : Cursor t) (message : String) : Finding :=
  (Finding.new info anchor message).withRemediation remediation

/-- The findings about an argument of the output method `name`. -/
def checkArgument (r : UnsafeMarkup) (name : String) (arg : Cursor t) : List Finding :=
  let svg :=
    if r.svg.matchesIn arg.text then
      [r.svgFinding arg arg.text
        (s!"Potentially unsafe SVG content with script/foreignObject elements passed to {name}(). "
          ++ "Sanitize SVG before rendering.")
        (s!"SVG content passed to {name}() should be sanitized before rendering "
          ++ "to prevent XSS attacks.")]
    else []
  let input :=
    if r.userInput.occursIn arg.text then
      [inputFinding arg
        (s!"User input passed to {name}() could contain unsafe SVG content. "
          ++ "Use an SVG sanitizer library.")]
    else []
  svg ++ input

def checkCall (r : UnsafeMarkup) (c : Cursor t) : List Finding :=
  match c.calleeName?.filter r.outputMethods.containsName with
  | some name => c.arguments.flatMap (r.checkArgument name)
  | none => []

/-- The findings about an assignment of `value` to a target of this name. -/
def checkValue (r : UnsafeMarkup) (c : Cursor t) (target : String) (value : Cursor t) :
    List Finding :=
  let svg :=
    if r.svg.matchesIn value.text then
      [r.svgFinding c value.text
        (s!"Assignment to {target} contains SVG with script/foreignObject elements. "
          ++ "Sanitize before rendering.")
        (s!"Assignment to {target} contains SVG content without proper sanitization. "
          ++ "Use a sanitizer library.")]
    else []
  let input :=
    if r.userInput.occursIn value.text then
      [inputFinding c
        (s!"Assignment to {target} with user input could contain unsafe SVG. "
          ++ "Use DOMPurify or another sanitizer.")]
    else []
  svg ++ input

def checkAssignment (r : UnsafeMarkup) (c : Cursor t) : List Finding :=
  match c.child? 0, c.child? 1 with
  | some target, some value =>
    let name := Text.trim target.text
    if r.markupTargets.occursIn name then r.checkValue c name value else []
  | _, _ => []

def checkInlineMarkup (r : UnsafeMarkup) (c : Cursor t) : List Finding :=
  if r.svg.matchesIn c.text && r.dynamicMarkers.occursIn c.text then
    [r.svgFinding c c.text
      ("Inline SVG with dynamic content contains potentially dangerous elements "
        ++ "(script/foreignObject). Sanitize user input.")
      "Dynamic content in inline SVG should be properly sanitized to prevent XSS attacks."]
  else []

def checkEcho (r : UnsafeMarkup) (c : Cursor t) : List Finding :=
  if r.svg.matchesIn c.text then
    [r.svgFinding c c.text
      ("Unescaped output emits SVG with script/foreignObject elements. "
        ++ "Sanitize before output.")
      ("Echo statement may output unsanitized SVG content. "
        ++ "Use htmlspecialchars() or a dedicated SVG sanitizer.")]
  else []

def visit (r : UnsafeMarkup) (c : Cursor t) : List Finding :=
  if r.sanitizers.isCalledIn c.text then []
  else
    match c.kind with
    | .functionCall => r.checkCall c
    | .assignment => r.checkAssignment c
    | .inlineMarkup => r.checkInlineMarkup c
    | .echoTag => r.checkEcho c
    | _ => []

def rule (r : UnsafeMarkup) : Rule where
  info := info
  kinds := kinds
  visit _ c := return r.visit c

end UnsafeMarkup

end SecurityLint
