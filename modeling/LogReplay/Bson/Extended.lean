/-
Module: LogReplay.Bson.Extended
Purpose: What becomes of documents that stand for other values, at every depth, when a
  document is read and when it is written.
Main exports:
  Value.read, Value.written, Document.written, Value.isLiteral, Document.isLiteral
-/
import LogReplay.Bson.Tag
import LogReplay.Bson.Text

/-!
Reading goes through the fields of a document in order.  The first tag among the names
decides what the document is read as, whatever stood before it and whatever follows; a
document without tags is read as one, field by field.

Writing goes from the inside out.  A document whose fields have been written is taken for
the value that it stands for then, if it stands for one.  Code with a scope is written as
a document of the two, and so becomes a mere document where its scope has become
something else.

Both put the option letters of regular expressions in order, and writing gives decimals
their normal bits.  Where no name is a tag, nothing else happens: such a value is literal.
-/

namespace LogReplay.Bson

/-! ## Reading -/

/-- A text as the content of a tag. -/
def readText (tag : Tag) (content : Value) : Except String String :=
  match content.characters? with
  | some text => .ok text
  | none => .error (tag.refusal content)

/-- What was read, if it is a document. -/
def asDocument : Value → Except String Document
  | .document fields => .ok fields
  | other =>
      .error ("invalid type: map, expected expected document, " ++
        "found extended JSON data type: " ++ other.text)

/-- Puts a field in front.  What has turned out to be no document has no fields. -/
def Value.withField (record : Value) (name : String) (value : Value) : Value :=
  match record with
  | .document fields => .document ((name, value) :: fields)
  | other => other

def unknownField (name wanted : String) : String :=
  "unknown field `" ++ name ++ "`, expected `" ++ wanted ++ "`"

mutual

/-- Reads a value: with its option letters in order, and documents that stand for other
values as these. -/
def Value.read : Value → Except String Value
  | .document fields => readFields fields
  | .array items => do
      let items ← readItems items
      .ok (.array items)
  | .javaScriptWithScope code scope => do
      let scope ← readFields scope
      let scope ← asDocument scope
      .ok (.javaScriptWithScope code scope)
  | .regex pattern options => .ok (.regex pattern (sortLetters options))
  | value => .ok value

/-- Reads the document of these fields. -/
def readFields : List (String × Value) → Except String Value
  | [] => .ok (.document [])
  | (name, value) :: rest =>
      match Tag.ofName? name with
      | none => do
          let value ← value.read
          let record ← readFields rest
          .ok (record.withField name value)
      | some .code => do
          let code ← readText .code value
          match rest with
          | [] => .ok (.javaScript code)
          | (next, scope) :: _ =>
              if next = "$scope" then do
                let scope ← scope.read
                let scope ← asDocument scope
                .ok (.javaScriptWithScope code scope)
              else .error (unknownField next "$scope")
      | some .scope => do
          let scope ← value.read
          let scope ← asDocument scope
          match rest with
          | [] => .error "missing field `$code`"
          | (next, code) :: _ =>
              if next = "$code" then do
                let code ← readText .code code
                .ok (.javaScriptWithScope code scope)
              else .error (unknownField next "$code")
      | some tag => tag.read value

def readItems : List Value → Except String (List Value)
  | [] => .ok []
  | item :: rest => do
      let item ← item.read
      let items ← readItems rest
      .ok (item :: items)

end

/-! ## Writing -/

/-- The code with a scope that a document of the two stands for. -/
def codeWithScope? (fields : Document) : Option Value :=
  match fields.text? "$code", (fields.field? "$scope").bind Value.document? with
  | some code, some scope => some (.javaScriptWithScope code scope)
  | _, _ => none

/-- The value that a document stands for when it is written: itself, unless its names are
those of a tag or of code with a scope. -/
def Value.ofRecord (fields : Document) : Value :=
  match fields with
  | [(name, content)] =>
      ((Tag.ofName? name).bind fun tag => tag.written? content).getD (.document fields)
  | [_, _] => (codeWithScope? fields).getD (.document fields)
  | _ => .document fields

mutual

/-- What a value is written as. -/
def Value.written : Value → Value
  | .document fields => .ofRecord (writtenFields fields)
  | .array items => .array (writtenItems items)
  | .javaScriptWithScope code scope =>
      .ofRecord [("$code", .string code), ("$scope", .ofRecord (writtenFields scope))]
  | .regex pattern options => .regex pattern (sortLetters options)
  | .decimal128 bytes => .decimal128 (Number.Decimal.ofBytes bytes).toBytes
  | value => value

def writtenFields : List (String × Value) → List (String × Value)
  | [] => []
  | (name, value) :: rest => (name, value.written) :: writtenFields rest

def writtenItems : List Value → List Value
  | [] => []
  | item :: rest => item.written :: writtenItems rest

end

/-- What a document is written as, as a value in another document. -/
def Document.written (d : Document) : Value :=
  (Value.document d).written

/-! ## Literal values -/

mutual

/-- No name is a tag, at any depth. -/
def Value.isLiteral : Value → Bool
  | .document fields => areLiteral fields
  | .array items => areLiteralItems items
  | .javaScriptWithScope _ scope => areLiteral scope
  | _ => true

def areLiteral : List (String × Value) → Bool
  | [] => true
  | (name, value) :: rest =>
      (Tag.ofName? name).isNone && value.isLiteral && areLiteral rest

def areLiteralItems : List Value → Bool
  | [] => true
  | item :: rest => item.isLiteral && areLiteralItems rest

end

def Document.isLiteral (d : Document) : Bool :=
  areLiteral d

end LogReplay.Bson
