import ScriptTypings.Grammar.Automaton
import ScriptTypings.Script.Token

/-! # The grammar of scripts

Simple statements share a line, divided by semicolons, and end with the line or with the body they
stand in. Compound statements carry bodies. Annotations alone on their line are statements of their
own; on the line of a variable or a function they belong to it. -/

namespace ScriptTypings.Script

open Grammar Grammar.Rule

instance : Coe String (Rule Token) := ⟨fun text => token (.literal text)⟩

def define (name : String) (rule : Rule Token) : Definition Token := { name, rule }

def run (name : String) (rule : Rule Token) : Definition Token := { name, isRun := true, rule }

/-- One or more parts with commas between them; a comma may stand at the end. The run `more` holds
the parts from the second on. -/
def listOf (part more : Rule Token) : Rule Token :=
  seq [part, optional more, optional ","]

/-! ## Ranks, from the loosest binding to the tightest -/

namespace Level

def loosest : Int := -1
def grouped : Int := 1
def disjunction : Int := 3
def conjunction : Int := 4
def membership : Int := 5
def comparison : Int := 6
def bitOr : Int := 7
def bitAnd : Int := 8
def bitXor : Int := 9
def shift : Int := 10
def sum : Int := 11
def product : Int := 12
def sign : Int := 14
def typeTest : Int := 15
def typeCast : Int := 16
def call : Int := 17
def access : Int := 18
def accessed : Int := 19
def typeName : Int := 20

end Level

def leveled (level : Int) (part : Rule Token) : Rule Token := ranked { level } part

def leftward (level : Int) (part : Rule Token) : Rule Token :=
  ranked { level, side := some .left } part

/-! ## Statements -/

/-- The grammar name of a whole script. -/
def wholeName : String := "source"

def simpleStatement : Rule Token :=
  choice (["_annotations", "tool_statement", "signal_statement", "class_name_statement",
    "extends_statement", "expression_statement", "export_variable_statement",
    "onready_variable_statement", "variable_statement", "const_statement", "return_statement",
    "pass_statement", "break_statement", "breakpoint_statement", "continue_statement"].map ref)

def compoundStatement : Rule Token :=
  choice (["if_statement", "for_statement", "while_statement", "function_definition",
    "constructor_definition", "class_definition", "enum_definition", "match_statement"].map ref)

def lineEnd : Rule Token := choice [token .newline, token .bodyEnd]

def statements : Grammar Token := [
  define wholeName (optional (ref "_statements")),
  run "_statements" (ref "_statement"),
  define "_statement" (choice [ref "_simple_statements", compoundStatement]),
  define "_simple_statements"
    (seq [simpleStatement, optional (ref "_more_statements"), optional ";", lineEnd]),
  run "_more_statements" (seq [";", simpleStatement]),
  define "body" (choice [
    ref "_simple_statements",
    seq [token .indent, optional (ref "_statements"), choice [token .bodyEnd, token .dedent]],
    lineEnd]),
  define "expression_statement"
    (choice [ref "_expression", ref "assignment", ref "augmented_assignment"]),
  define "assignment"
    (seq [field "left" (ref "_expression"), "=", field "right" (ref "_rhs_expression")]),
  define "augmented_assignment" (seq [
    field "left" (ref "_expression"),
    choice ["+=", "-=", "*=", "/=", "**=", "%=", ">>=", "<<=", "&=", "^=", "|="],
    field "right" (ref "_rhs_expression")]),
  define "annotation" (seq ["@", ref "identifier", optional (ref "arguments")]),
  run "_annotations" (ref "annotation"),
  define "annotations" (ref "_annotations"),
  define "return_statement" (seq ["return", optional (ref "_rhs_expression")]),
  define "pass_statement" (leftward 0 "pass"),
  define "break_statement" (leftward 0 "break"),
  define "continue_statement" (leftward 0 "continue"),
  define "breakpoint_statement" "breakpoint",
  define "tool_statement" "tool",
  define "signal_statement" (seq ["signal", ref "name", optional (ref "parameters")]),
  define "class_name_statement"
    (seq ["class_name", ref "name", optional (seq [",", field "icon_path" (ref "string")])]),
  define "extends_statement" (seq ["extends", choice [ref "string", ref "type"]]),
  define "if_statement" (seq [
    "if", field "condition" (ref "_expression"), ":", field "body" (ref "body"),
    optional (ref "_elif_clauses"), optional (field "alternative" (ref "else_clause"))]),
  run "_elif_clauses" (field "alternative" (ref "elif_clause")),
  define "elif_clause"
    (seq ["elif", field "condition" (ref "_expression"), ":", field "body" (ref "body")]),
  define "else_clause" (seq ["else", ":", field "body" (ref "body")]),
  define "for_statement" (seq [
    "for", field "left" (ref "identifier"), optional (seq [":", field "type" (ref "type")]), "in",
    field "right" (ref "_expression"), ":", field "body" (ref "body")]),
  define "while_statement"
    (seq ["while", field "condition" (ref "_expression"), ":", field "body" (ref "body")]),
  define "class_definition" (seq [
    "class", field "name" (ref "name"), optional (field "extends" (ref "extends_statement")), ":",
    field "body" (ref "body")])]

/-! ## Variables -/

def variableStatements : Grammar Token := [
  define "inferred_type" (choice [":=", seq [":", "="]]),
  define "_variable_assignment" (seq ["=", field "value" (ref "_rhs_expression")]),
  define "_variable_inferred_type_assignment"
    (seq [field "type" (ref "inferred_type"), field "value" (ref "_rhs_expression")]),
  define "_variable_typed_assignment"
    (seq [":", field "type" (ref "type"), "=", field "value" (ref "_rhs_expression")]),
  define "_variable_typed_definition"
    (choice [seq [":", field "type" (ref "type")], ref "_variable_typed_assignment"]),
  define "set_body" (seq ["set", ref "parameters", ":", unnamed (ref "body")]),
  define "get_body"
    (seq ["get", optional (unnamed (ref "parameters")), ":", unnamed (ref "body")]),
  define "_set_assign" (seq ["set", "=", field "set" (ref "setter")]),
  define "_get_assign" (seq ["get", "=", field "get" (ref "getter")]),
  define "_setget_body" (seq [
    ":", token .indent,
    choice [
      seq [field "set" (ref "set_body"), optional (field "get" (ref "get_body"))],
      seq [field "get" (ref "get_body"), optional (field "set" (ref "set_body"))],
      seq [ref "_set_assign", optional (seq [",", ref "_get_assign"])],
      seq [ref "_get_assign", optional (seq [",", ref "_set_assign"])]],
    token .dedent]),
  define "setter" (token .word),
  define "getter" (token .word),
  define "setget" (choice [
    ref "_setget_body",
    seq ["setget",
      choice [ref "setter", seq [ref "setter", ",", ref "getter"], seq [",", ref "getter"]]]]),
  define "_variable_statement" (seq [
    optional (ref "annotations"), optional (field "static" (ref "static_keyword")), "var",
    field "name" (ref "name"),
    optional (choice [ref "_variable_typed_definition", ref "_variable_inferred_type_assignment",
      ref "_variable_assignment"]),
    optional (field "setget" (ref "setget"))]),
  define "variable_statement" (seq [optional (ref "remote_keyword"), ref "_variable_statement"]),
  define "export_variable_statement" (seq [
    "export", optional (field "export_arguments" (ref "arguments")),
    optional (choice ["onready", ref "remote_keyword"]), ref "_variable_statement"]),
  define "onready_variable_statement" (seq ["onready", ref "_variable_statement"]),
  define "const_statement" (seq [
    "const", field "name" (ref "name"),
    choice [ref "_variable_inferred_type_assignment", ref "_variable_typed_assignment",
      ref "_variable_assignment"]])]

/-! ## Enumerations and matches -/

def caseStatements : Grammar Token := [
  define "enum_definition"
    (seq ["enum", optional (field "name" (ref "name")), field "body" (ref "enumerator_list")]),
  define "enumerator_list"
    (seq ["\x7b", listOf (ref "enumerator") (ref "_more_enumerators"), "\x7d"]),
  run "_more_enumerators" (seq [",", ref "enumerator"]),
  define "_enumerator_expression" (choice [
    token .integer, ref "binary_operator", ref "identifier", ref "unary_operator", ref "attribute",
    ref "subscript", ref "call", ref "parenthesized_expression"]),
  define "enumerator" (seq [
    field "left" (ref "identifier"),
    optional (seq ["=", field "right" (ref "_enumerator_expression")])]),
  define "match_statement"
    (seq ["match", field "value" (ref "_expression"), ":", field "body" (ref "match_body")]),
  define "match_body" (seq [token .indent, ref "_pattern_sections", token .dedent]),
  run "_pattern_sections" (ref "pattern_section"),
  define "pattern_guard" (seq ["when", ref "_expression"]),
  define "pattern_section" (seq [
    ref "_pattern", optional (ref "_more_patterns"), optional (ref "pattern_guard"), ":",
    field "body" (ref "body")]),
  run "_more_patterns" (seq [",", ref "_pattern"]),
  define "_pattern" (choice [ref "_primary_expression", ref "pattern_binding"]),
  define "pattern_binding" (seq ["var", ref "identifier"]),
  define "pattern_open_ending" ".."]

/-! ## Functions -/

def functions : Grammar Token := [
  define "typed_parameter"
    (leveled Level.loosest (seq [ref "identifier", ":", field "type" (ref "type")])),
  define "default_parameter"
    (seq [ref "identifier", "=", field "value" (ref "_rhs_expression")]),
  define "typed_default_parameter" (leveled Level.loosest
    (seq [ref "identifier", ":", field "type" (ref "type"), "=",
      field "value" (ref "_rhs_expression")])),
  define "_parameters" (choice [
    ref "identifier", ref "typed_parameter", ref "default_parameter",
    ref "typed_default_parameter"]),
  define "parameters"
    (seq ["(", optional (listOf (ref "_parameters") (ref "_more_parameters")), ")"]),
  run "_more_parameters" (seq [",", ref "_parameters"]),
  define "_return_type" (seq ["->", field "return_type" (ref "type")]),
  define "function_definition" (seq [
    optional (choice [ref "static_keyword", ref "remote_keyword"]), optional (ref "annotations"),
    "func", optional (field "name" (ref "name")), field "parameters" (ref "parameters"),
    optional (ref "_return_type"), ":", field "body" (ref "body")]),
  define "lambda" (seq [
    "func", optional (ref "name"), ref "parameters", optional (ref "_return_type"), ":",
    ref "body"]),
  define "constructor_definition" (seq [
    "func", "_init", field "parameters" (ref "parameters"),
    optional (seq [".", field "constructor_arguments" (ref "arguments")]),
    optional (seq ["->", field "return_type" (ref "type")]), ":", field "body" (ref "body")]),
  define "static_keyword" "static",
  define "remote_keyword"
    (choice ["remote", "master", "puppet", "remotesync", "mastersync", "puppetsync"])]

/-! ## Expressions -/

/-- Binary operators and how tightly they bind. -/
def binaryOperators : List (Rule Token × Int) := [
  ("in", Level.membership), ("and", Level.conjunction), ("&&", Level.conjunction),
  ("or", Level.disjunction), ("||", Level.disjunction), ("+", Level.sum), ("-", Level.sum),
  ("*", Level.product), ("/", Level.product), ("**", Level.product), ("%", Level.product),
  ("|", Level.bitOr), ("&", Level.bitAnd), ("^", Level.bitXor), ("<<", Level.shift),
  (">>", Level.shift), ("<", Level.comparison), ("<=", Level.comparison),
  ("==", Level.comparison), ("!=", Level.comparison), (">=", Level.comparison),
  (">", Level.comparison), ("as", Level.typeCast),
  (seq ["is", optional "not"], Level.typeTest)]

/-- What members can be taken of. -/
def accessible : List (Rule Token) := [
  ref "binary_operator", ref "identifier", ref "string", token .integer, token .float, ref "true",
  ref "false", ref "null", ref "unary_operator", token .nodePath, token .nodeGetter,
  ref "subscript", ref "base_call", ref "call", ref "array", ref "dictionary",
  ref "parenthesized_expression"]

def expressions : Grammar Token := [
  define "identifier" (token .word),
  define "name" (token .word),
  define "true" "true",
  define "false" "false",
  define "null" "null",
  define "string" (seq [
    unnamed (token .stringStart), optional (ref "_string_parts"), unnamed (token .stringEnd)]),
  run "_string_parts" (choice [token .escape, token .stringText]),
  define "string_name" (seq ["&", unnamed (ref "string")]),
  define "type" (leveled Level.typeName
    (choice [ref "attribute", ref "identifier", ref "subscript"])),
  define "_expression" (choice [
    ref "_primary_expression", ref "conditional_expression", ref "await_expression"]),
  define "_primary_expression" (choice (accessible ++ [ref "string_name", ref "attribute"])),
  define "_rhs_expression" (choice [ref "_expression", ref "lambda"]),
  define "_attribute_expression" (leveled Level.accessed (choice accessible)),
  define "binary_operator" (choice (binaryOperators.map fun (operator, level) =>
    leftward level (seq [field "left" (ref "_primary_expression"), field "op" operator,
      field "right" (ref "_primary_expression")]))),
  define "unary_operator" (leveled Level.sign
    (seq [choice ["not", "!", "-", "+", "~"], ref "_primary_expression"])),
  define "subscript" (seq [ref "_primary_expression", "[", ref "_expression", "]"]),
  define "attribute_call" (leveled Level.access (seq [ref "identifier", ref "arguments"])),
  define "attribute_subscript" (leveled Level.access
    (seq [ref "identifier", "[", ref "_primary_expression", "]"])),
  define "attribute" (leveled Level.access
    (seq [ref "_attribute_expression", ref "_attribute_steps"])),
  run "_attribute_steps" (seq [".",
    choice [ref "attribute_subscript", ref "attribute_call", ref "identifier"]]),
  define "conditional_expression" (ranked { level := Level.loosest, side := some .right }
    (seq [ref "_expression", "if", ref "_expression", "else", ref "_expression"])),
  define "parenthesized_expression"
    (leveled Level.grouped (seq ["(", ref "_rhs_expression", ")"])),
  define "await_expression" (seq ["await", ref "_expression"]),
  define "pair" (seq [
    choice [seq [field "key" (ref "_rhs_expression"), ":"],
      seq [field "key" (ref "identifier"), "="]],
    field "value" (choice [ref "_rhs_expression", ref "pattern_binding"])]),
  define "dictionary" (seq [
    "\x7b", optional (listOf (ref "pair") (ref "_more_pairs")),
    optional (ref "pattern_open_ending"), "\x7d"]),
  run "_more_pairs" (seq [",", ref "pair"]),
  define "array" (seq [
    "[", optional (listOf element (ref "_more_elements")), optional (ref "pattern_open_ending"),
    "]"]),
  run "_more_elements" (seq [",", element]),
  define "arguments"
    (seq ["(", optional (listOf (ref "_rhs_expression") (ref "_more_arguments")), ")"]),
  run "_more_arguments" (seq [",", ref "_rhs_expression"]),
  define "base_call" (leveled Level.call (seq [".", ref "identifier", ref "arguments"])),
  define "call" (leveled Level.call (seq [ref "_primary_expression", ref "arguments"]))]
where
  element : Rule Token := choice [ref "_rhs_expression", ref "pattern_binding"]

def grammar : Grammar Token :=
  statements ++ variableStatements ++ caseStatements ++ functions ++ expressions

end ScriptTypings.Script
