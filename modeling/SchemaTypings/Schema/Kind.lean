/-
Kinds of nodes of a GraphQL document, with their names as messages and logs print them. A kind is one of the three record
kinds, the enum kind, or one of the kinds that have no declaration of their own.
-/

namespace SchemaTypings.Schema

/-- kinds of definitions that list named members -/
inductive RecordKind where
  | object
  | interface
  | inputObject
  deriving DecidableEq, Repr

/-- kinds of nodes that are neither record nor enum definitions -/
inductive OtherKind where
  | name
  | document
  | operationDefinition
  | variableDefinition
  | selectionSet
  | field
  | argument
  | fragmentSpread
  | inlineFragment
  | fragmentDefinition
  | variable
  | intValue
  | floatValue
  | stringValue
  | booleanValue
  | nullValue
  | enumValue
  | listValue
  | objectValue
  | objectField
  | directive
  | namedType
  | listType
  | nonNullType
  | schemaDefinition
  | operationTypeDefinition
  | scalarTypeDefinition
  | fieldDefinition
  | inputValueDefinition
  | unionTypeDefinition
  | enumValueDefinition
  | directiveDefinition
  | schemaExtension
  | scalarTypeExtension
  | objectTypeExtension
  | interfaceTypeExtension
  | unionTypeExtension
  | enumTypeExtension
  | inputObjectTypeExtension
  | directiveExtension
  deriving DecidableEq, Repr

inductive Kind where
  | record (kind : RecordKind)
  | enum
  | other (kind : OtherKind)
  deriving DecidableEq, Repr

def RecordKind.text : RecordKind → String
  | .object => "object_type_definition"
  | .interface => "interface_type_definition"
  | .inputObject => "input_object_type_definition"

def OtherKind.text : OtherKind → String
  | .name => "name"
  | .document => "document"
  | .operationDefinition => "operation_definition"
  | .variableDefinition => "variable_definition"
  | .selectionSet => "selection_set"
  | .field => "field"
  | .argument => "argument"
  | .fragmentSpread => "fragment_spread"
  | .inlineFragment => "inline_fragment"
  | .fragmentDefinition => "fragment_definition"
  | .variable => "variable"
  | .intValue => "int_value"
  | .floatValue => "float_value"
  | .stringValue => "string_value"
  | .booleanValue => "boolean_value"
  | .nullValue => "null_value"
  | .enumValue => "enum_value"
  | .listValue => "list_value"
  | .objectValue => "object_value"
  | .objectField => "object_field"
  | .directive => "directive"
  | .namedType => "named_type"
  | .listType => "list_type"
  | .nonNullType => "non_null_type"
  | .schemaDefinition => "schema_definition"
  | .operationTypeDefinition => "operation_type_definition"
  | .scalarTypeDefinition => "scalar_type_definition"
  | .fieldDefinition => "field_definition"
  | .inputValueDefinition => "input_value_definition"
  | .unionTypeDefinition => "union_type_definition"
  | .enumValueDefinition => "enum_value_definition"
  | .directiveDefinition => "directive_definition"
  | .schemaExtension => "schema_extension"
  | .scalarTypeExtension => "scalar_type_extension"
  | .objectTypeExtension => "object_type_extension"
  | .interfaceTypeExtension => "interface_type_extension"
  | .unionTypeExtension => "union_type_extension"
  | .enumTypeExtension => "enum_type_extension"
  | .inputObjectTypeExtension => "input_object_type_extension"
  | .directiveExtension => "directive_extension"

def OtherKind.all : List OtherKind :=
  [.name, .document, .operationDefinition, .variableDefinition, .selectionSet, .field, .argument, .fragmentSpread,
   .inlineFragment, .fragmentDefinition, .variable, .intValue, .floatValue, .stringValue, .booleanValue, .nullValue,
   .enumValue, .listValue, .objectValue, .objectField, .directive, .namedType, .listType, .nonNullType,
   .schemaDefinition, .operationTypeDefinition, .scalarTypeDefinition, .fieldDefinition, .inputValueDefinition,
   .unionTypeDefinition, .enumValueDefinition, .directiveDefinition, .schemaExtension, .scalarTypeExtension,
   .objectTypeExtension, .interfaceTypeExtension, .unionTypeExtension, .enumTypeExtension,
   .inputObjectTypeExtension, .directiveExtension]

theorem OtherKind.mem_all (k : OtherKind) : k ∈ OtherKind.all := by cases k <;> decide

namespace Kind

/-- name of a kind, in lower case with underscores -/
def text : Kind → String
  | .record k => k.text
  | .enum => "enum_type_definition"
  | .other k => k.text

def all : List Kind :=
  [.record .object, .record .interface, .record .inputObject, .enum] ++ OtherKind.all.map .other

theorem mem_all (k : Kind) : k ∈ all := by
  cases k with
  | record k => cases k <;> decide
  | enum => decide
  | other k => exact List.mem_append_right _ (List.mem_map_of_mem (OtherKind.mem_all k))

def ofText? (s : String) : Option Kind := all.find? (·.text = s)

/-- words joined by underscores, written together with capitals; `up` says that a word starts here -/
def camel (up : Bool) : List Char → List Char
  | [] => []
  | c :: cs => if c = '_' then camel true cs else (if up then c.toUpper else c) :: camel false cs

/-- what a message calls a node of the kind: its words with capitals, and `Node` -/
def label (k : Kind) : String := String.ofList (camel true k.text.toList) ++ "Node"

end Kind

end SchemaTypings.Schema
