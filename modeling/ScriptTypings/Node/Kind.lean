/-! # Kinds of nodes

A syntax tree has many kinds of node; reading a class record off it tells apart those that
declare something, those that open a scope and those that hold names and types. All others are
alike. -/

namespace ScriptTypings

inductive Kind where
  | classNameStatement
  | extendsStatement
  | variableStatement
  | functionDefinition
  | constructorDefinition
  | lambda
  | setBody
  | getBody
  | classDefinition
  | parameters
  | identifier
  | typedParameter
  | defaultParameter
  | typedDefaultParameter
  | type
  | name
  | annotationGroup
  | annotationNode
  | other
  deriving DecidableEq, Repr, Inhabited

/-- The kind that a grammar name stands for; a name outside the table is `other`. -/
def Kind.ofName : String → Kind
  | "class_name_statement" => .classNameStatement
  | "extends_statement" => .extendsStatement
  | "variable_statement" => .variableStatement
  | "function_definition" => .functionDefinition
  | "constructor_definition" => .constructorDefinition
  | "lambda" => .lambda
  | "set_body" => .setBody
  | "get_body" => .getBody
  | "class_definition" => .classDefinition
  | "parameters" => .parameters
  | "identifier" => .identifier
  | "typed_parameter" => .typedParameter
  | "default_parameter" => .defaultParameter
  | "typed_default_parameter" => .typedDefaultParameter
  | "type" => .type
  | "name" => .name
  | "annotations" => .annotationGroup
  | "annotation" => .annotationNode
  | _ => .other

end ScriptTypings
