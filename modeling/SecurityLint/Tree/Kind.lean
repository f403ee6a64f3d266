/-!
What a node of a syntax tree is, and the language that a tree was parsed from. The operators of
the language are used to render the text of composite nodes.
-/
namespace SecurityLint

/-- Node kinds that rules can subscribe to. -/
inductive Kind where
  | file
  | classDecl
  | methodDecl
  | fieldDecl
  | block
  | statement
  | functionCall
  | memberAccess
  | assignment
  | arrayLiteral
  | keyValuePair
  | arrayAccess
  | concatenation
  | literal
  | identifier
  /-- Raw markup outside code. -/
  | inlineMarkup
  /-- Templated output without escaping. -/
  | echoTag
  | other
  deriving DecidableEq, Repr

namespace Kind

def all : List Kind := [
  file, classDecl, methodDecl, fieldDecl, block, statement, functionCall, memberAccess,
  assignment, arrayLiteral, keyValuePair, arrayAccess, concatenation, literal, identifier,
  inlineMarkup, echoTag, other]

def name : Kind → String
  | file => "file"
  | classDecl => "class_decl"
  | methodDecl => "method_decl"
  | fieldDecl => "field_decl"
  | block => "block"
  | statement => "statement"
  | functionCall => "function_call"
  | memberAccess => "member_access"
  | assignment => "assignment"
  | arrayLiteral => "array_literal"
  | keyValuePair => "key_value_pair"
  | arrayAccess => "array_access"
  | concatenation => "concatenation"
  | literal => "literal"
  | identifier => "identifier"
  | inlineMarkup => "inline_markup"
  | echoTag => "echo_tag"
  | other => "other"

end Kind

/-- The class of a literal node. -/
inductive LiteralClass where
  | string
  | number
  | boolean
  | null
  deriving DecidableEq, Repr

namespace LiteralClass

def all : List LiteralClass := [string, number, boolean, null]

def name : LiteralClass → String
  | string => "string"
  | number => "number"
  | boolean => "boolean"
  | null => "null"

end LiteralClass

inductive Language where
  | php
  | blade
  | java
  | javaScript
  | typeScript
  | unknown
  deriving DecidableEq, Repr

namespace Language

def all : List Language := [php, blade, java, javaScript, typeScript, unknown]

def name : Language → String
  | php => "php"
  | blade => "blade"
  | java => "java"
  | javaScript => "javascript"
  | typeScript => "typescript"
  | unknown => "unknown"

/-- PHP and its template language share their operators; all others use those of Java. -/
def isPhp : Language → Bool
  | php | blade => true
  | _ => false

/-- Between a receiver and its member. -/
def memberSeparator (l : Language) : String :=
  if l.isPhp then "->" else "."

/-- Between the key and the value of a pair. -/
def pairSeparator (l : Language) : String :=
  if l.isPhp then " => " else ": "

/-- Between the parts of a concatenation. -/
def concatOperator (l : Language) : String :=
  if l.isPhp then " . " else " + "

/-- Around a string literal. -/
def quote (l : Language) : Char :=
  if l.isPhp then '\'' else '"'

end Language

end SecurityLint
