/-!
# Kinds of syntax nodes

Every node of a syntax tree that has a name of its own, from whole files down to identifiers and
literals. Operators, delimiters and keywords are no nodes of this kind, and comments are kept apart.
-/

namespace GoSurvey.Go

/-- The kind of a named node. -/
inductive Kind where
  | sourceFile
  | packageClause
  | importDeclaration
  | importSpec
  | importSpecList
  | dot
  | blankIdentifier
  | packageIdentifier
  | constDeclaration
  | constSpec
  | varDeclaration
  | varSpec
  | varSpecList
  | functionDeclaration
  | methodDeclaration
  | typeParameterList
  | typeParameterDeclaration
  | typeConstraint
  | parameterList
  | parameterDeclaration
  | variadicParameterDeclaration
  | typeDeclaration
  | typeSpec
  | typeAlias
  | typeIdentifier
  | qualifiedType
  | genericType
  | typeArguments
  | typeElem
  | negatedType
  | pointerType
  | arrayType
  | implicitLengthArrayType
  | sliceType
  | mapType
  | channelType
  | functionType
  | parenthesizedType
  | structType
  | fieldDeclarationList
  | fieldDeclaration
  | fieldIdentifier
  | interfaceType
  | methodElem
  | block
  | expressionStatement
  | sendStatement
  | receiveStatement
  | incStatement
  | decStatement
  | assignmentStatement
  | shortVarDeclaration
  | labeledStatement
  | labelName
  | emptyStatement
  | fallthroughStatement
  | breakStatement
  | continueStatement
  | gotoStatement
  | returnStatement
  | goStatement
  | deferStatement
  | ifStatement
  | forStatement
  | forClause
  | rangeClause
  | expressionSwitchStatement
  | expressionCase
  | defaultCase
  | typeSwitchStatement
  | typeCase
  | selectStatement
  | communicationCase
  | expressionList
  | parenthesizedExpression
  | unaryExpression
  | binaryExpression
  | selectorExpression
  | indexExpression
  | sliceExpression
  | callExpression
  | argumentList
  | variadicArgument
  | typeAssertionExpression
  | typeConversionExpression
  | typeInstantiationExpression
  | compositeLiteral
  | literalValue
  | literalElement
  | keyedElement
  | funcLiteral
  | identifier
  | intLiteral
  | floatLiteral
  | imaginaryLiteral
  | runeLiteral
  | interpretedStringLiteral
  | rawStringLiteral
  | nilValue
  | trueValue
  | falseValue
  | iotaValue
  | error
deriving DecidableEq, Repr, Inhabited

namespace Kind

/-- The name of a kind, as it is shown. -/
def name : Kind → String
  | .sourceFile => "source_file"
  | .packageClause => "package_clause"
  | .importDeclaration => "import_declaration"
  | .importSpec => "import_spec"
  | .importSpecList => "import_spec_list"
  | .dot => "dot"
  | .blankIdentifier => "blank_identifier"
  | .packageIdentifier => "package_identifier"
  | .constDeclaration => "const_declaration"
  | .constSpec => "const_spec"
  | .varDeclaration => "var_declaration"
  | .varSpec => "var_spec"
  | .varSpecList => "var_spec_list"
  | .functionDeclaration => "function_declaration"
  | .methodDeclaration => "method_declaration"
  | .typeParameterList => "type_parameter_list"
  | .typeParameterDeclaration => "type_parameter_declaration"
  | .typeConstraint => "type_constraint"
  | .parameterList => "parameter_list"
  | .parameterDeclaration => "parameter_declaration"
  | .variadicParameterDeclaration => "variadic_parameter_declaration"
  | .typeDeclaration => "type_declaration"
  | .typeSpec => "type_spec"
  | .typeAlias => "type_alias"
  | .typeIdentifier => "type_identifier"
  | .qualifiedType => "qualified_type"
  | .genericType => "generic_type"
  | .typeArguments => "type_arguments"
  | .typeElem => "type_elem"
  | .negatedType => "negated_type"
  | .pointerType => "pointer_type"
  | .arrayType => "array_type"
  | .implicitLengthArrayType => "implicit_length_array_type"
  | .sliceType => "slice_type"
  | .mapType => "map_type"
  | .channelType => "channel_type"
  | .functionType => "function_type"
  | .parenthesizedType => "parenthesized_type"
  | .structType => "struct_type"
  | .fieldDeclarationList => "field_declaration_list"
  | .fieldDeclaration => "field_declaration"
  | .fieldIdentifier => "field_identifier"
  | .interfaceType => "interface_type"
  | .methodElem => "method_elem"
  | .block => "block"
  | .expressionStatement => "expression_statement"
  | .sendStatement => "send_statement"
  | .receiveStatement => "receive_statement"
  | .incStatement => "inc_statement"
  | .decStatement => "dec_statement"
  | .assignmentStatement => "assignment_statement"
  | .shortVarDeclaration => "short_var_declaration"
  | .labeledStatement => "labeled_statement"
  | .labelName => "label_name"
  | .emptyStatement => "empty_statement"
  | .fallthroughStatement => "fallthrough_statement"
  | .breakStatement => "break_statement"
  | .continueStatement => "continue_statement"
  | .gotoStatement => "goto_statement"
  | .returnStatement => "return_statement"
  | .goStatement => "go_statement"
  | .deferStatement => "defer_statement"
  | .ifStatement => "if_statement"
  | .forStatement => "for_statement"
  | .forClause => "for_clause"
  | .rangeClause => "range_clause"
  | .expressionSwitchStatement => "expression_switch_statement"
  | .expressionCase => "expression_case"
  | .defaultCase => "default_case"
  | .typeSwitchStatement => "type_switch_statement"
  | .typeCase => "type_case"
  | .selectStatement => "select_statement"
  | .communicationCase => "communication_case"
  | .expressionList => "expression_list"
  | .parenthesizedExpression => "parenthesized_expression"
  | .unaryExpression => "unary_expression"
  | .binaryExpression => "binary_expression"
  | .selectorExpression => "selector_expression"
  | .indexExpression => "index_expression"
  | .sliceExpression => "slice_expression"
  | .callExpression => "call_expression"
  | .argumentList => "argument_list"
  | .variadicArgument => "variadic_argument"
  | .typeAssertionExpression => "type_assertion_expression"
  | .typeConversionExpression => "type_conversion_expression"
  | .typeInstantiationExpression => "type_instantiation_expression"
  | .compositeLiteral => "composite_literal"
  | .literalValue => "literal_value"
  | .literalElement => "literal_element"
  | .keyedElement => "keyed_element"
  | .funcLiteral => "func_literal"
  | .identifier => "identifier"
  | .intLiteral => "int_literal"
  | .floatLiteral => "float_literal"
  | .imaginaryLiteral => "imaginary_literal"
  | .runeLiteral => "rune_literal"
  | .interpretedStringLiteral => "interpreted_string_literal"
  | .rawStringLiteral => "raw_string_literal"
  | .nilValue => "nil"
  | .trueValue => "true"
  | .falseValue => "false"
  | .iotaValue => "iota"
  | .error => "ERROR"

/-- Whether a node of this kind stands for a name. -/
def isName : Kind → Bool
  | .identifier | .fieldIdentifier | .packageIdentifier | .labelName | .blankIdentifier
  | .trueValue | .falseValue | .nilValue | .iotaValue => true
  | _ => false

/-- Whether a node of this kind is a literal. -/
def isLiteral : Kind → Bool
  | .intLiteral | .floatLiteral | .imaginaryLiteral | .runeLiteral | .interpretedStringLiteral
  | .rawStringLiteral => true
  | _ => false

/-- Whether a node of this kind is a type wherever it stands. -/
def isType : Kind → Bool
  | .typeIdentifier | .qualifiedType | .pointerType | .arrayType | .implicitLengthArrayType
  | .sliceType | .mapType | .channelType | .functionType | .interfaceType | .structType
  | .genericType | .parenthesizedType => true
  | _ => false

end Kind

/-- What a part is to the node it belongs to. -/
inductive Label where
  | name
  | path
  | package
  | receiver
  | parameters
  | result
  | body
  | type
  | typeArguments
  | key
  | value
  | element
  | operand
  | operator
  | left
  | right
  | field
  | function
  | arguments
  | initializer
  | condition
  | consequence
  | alternative
  | update
  | communication
deriving DecidableEq, Repr, Inhabited

end GoSurvey.Go
