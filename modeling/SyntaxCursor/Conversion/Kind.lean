/-!
# Kinds of abstract nodes

Which abstract kind a parsed node gets, and which parsed nodes get none: transparent ones
hand their children to the node above, dropped ones disappear, and string nodes are folded
into a scalar where that is possible.
-/
namespace SyntaxCursor.Conversion

/-- The kind of a tree's root, and of every list of statements. -/
def statementList : String := "AST_STMT_LIST"

def classKind : String := "AST_CLASS"

/-- The abstract kinds that do not depend on the target version. -/
def kindNames : List (String × String) :=
  [("program", statementList),
   ("compound_statement", statementList),
   ("declaration_list", statementList),
   ("variable_name", "AST_VAR"),
   ("member_access_expression", "AST_PROP"),
   ("member_call_expression", "AST_METHOD_CALL"),
   ("scoped_call_expression", "AST_STATIC_CALL"),
   ("scoped_property_access_expression", "AST_STATIC_PROP"),
   ("class_constant_access_expression", "AST_CLASS_CONST"),
   ("function_call_expression", "AST_CALL"),
   ("object_creation_expression", "AST_NEW"),
   ("assignment_expression", "AST_ASSIGN"),
   ("binary_expression", "AST_BINARY_OP"),
   ("unary_op_expression", "AST_UNARY_OP"),
   ("class_declaration", classKind),
   ("interface_declaration", classKind),
   ("trait_declaration", classKind),
   ("enum_declaration", classKind),
   ("method_declaration", "AST_METHOD"),
   ("function_definition", "AST_FUNC_DECL"),
   ("anonymous_function", "AST_CLOSURE"),
   ("anonymous_function_creation_expression", "AST_CLOSURE"),
   ("arrow_function", "AST_ARROW_FUNC"),
   ("formal_parameters", "AST_PARAM_LIST"),
   ("simple_parameter", "AST_PARAM"),
   ("arguments", "AST_ARG_LIST"),
   ("echo_statement", "AST_ECHO"),
   ("return_statement", "AST_RETURN"),
   ("if_statement", "AST_IF"),
   ("while_statement", "AST_WHILE"),
   ("for_statement", "AST_FOR"),
   ("foreach_statement", "AST_FOREACH"),
   ("array_creation_expression", "AST_ARRAY"),
   ("array_element_initializer", "AST_ARRAY_ELEM"),
   ("subscript_expression", "AST_DIM"),
   ("const_declaration", "AST_CONST_DECL"),
   ("const_element", "AST_CONST_ELEM"),
   ("property_declaration", "AST_PROP_GROUP"),
   ("property_element", "AST_PROP_ELEM"),
   ("qualified_name", "AST_NAME"),
   ("named_type", "AST_TYPE"),
   ("encapsed_string", "AST_ENCAPS_LIST"),
   ("string", "AST_ENCAPS_LIST")]

/-- The first target version with kinds of its own for null-safe accesses. -/
def nullsafeVersion : Int := 80

/-- The kinds of null-safe accesses: before `nullsafeVersion`, and from it on. -/
def nullsafeKindNames : List (String × String × String) :=
  [("nullsafe_member_access_expression", "AST_PROP", "AST_NULLSAFE_PROP"),
   ("nullsafe_member_call_expression", "AST_METHOD_CALL", "AST_NULLSAFE_METHOD_CALL")]

/-- The abstract kind for a parsed kind. A kind without a name of its own keeps its name. -/
def kindName (version : Int) (kind : String) : String :=
  match nullsafeKindNames.lookup kind with
  | some (before, since) => if nullsafeVersion ≤ version then since else before
  | none => (kindNames.lookup kind).getD kind

/-- Kinds that hand their children to the node above. -/
def isTransparent (kind : String) : Bool :=
  ["expression_statement", "parenthesized_expression", "argument"].contains kind

/-- Kinds of named tokens that disappear. -/
def isDropped (kind : String) : Bool :=
  ["comment", "php_tag", "php_end_tag"].contains kind

def isString (kind : String) : Bool :=
  ["string", "encapsed_string"].contains kind

end SyntaxCursor.Conversion
