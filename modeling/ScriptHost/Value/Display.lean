import ScriptHost.Number.Decimal
import ScriptHost.Text.Quoted
import ScriptHost.Value.Basic

/-! The text of values, as messages show them and, in full structure, as diagnostics do. -/
namespace ScriptHost.Value

private def braced (s : String) : String := "\x7b" ++ s ++ "\x7d"

private def commas (parts : List String) : String := ", ".intercalate parts

mutual
/-- The text of a value in messages: a list in brackets, a map in braces, strings quoted. -/
def display : Value → String
  | .null => "null"
  | .bool b => if b then "true" else "false"
  | .int n => toString n.toInt
  | .bigInt n => toString n
  | .float x => x.write .plain
  | .string s => Text.quote s
  | .list items => "[" ++ commas (displayItems items) ++ "]"
  | .map entries => braced (commas (displayMap entries))
  | .host o => "<host " ++ o.typeName ++ ">"
  | .handle id => "<handle " ++ toString id ++ ">"
termination_by structural v => v
def displayItems : List Value → List String
  | [] => []
  | item :: items => display item :: displayItems items
termination_by structural items => items
def displayMap : Keyed Value → List String
  | ⟨entries, _, _⟩ => displayArray entries
termination_by structural m => m
def displayArray : Array (Value × Value) → List String
  | ⟨entries⟩ => displayEntries entries
termination_by structural entries => entries
def displayEntries : List (Value × Value) → List String
  | [] => []
  | entry :: entries => displayPair entry :: displayEntries entries
termination_by structural entries => entries
def displayPair : Value × Value → String
  | (key, value) => display key ++ ": " ++ display value
termination_by structural entry => entry
end

private def positions (ps : Array Nat) : String := "[" ++ commas (ps.toList.map toString) ++ "]"

private def inspectIndex (index : Std.HashMap UInt64 (Array Nat)) : String :=
  braced (commas (index.toList.map fun (hash, ps) => toString hash.toNat ++ ": " ++ positions ps))

mutual
/-- The text of a value in diagnostics: every part under the name of its shape, a map with
the tables that file its keys. -/
def inspect : Value → String
  | .null => "Null"
  | .bool b => "Bool(" ++ (if b then "true" else "false") ++ ")"
  | .int n => "Int(" ++ toString n.toInt ++ ")"
  | .bigInt n => "BigInt(" ++ toString n ++ ")"
  | .float x => "Float(" ++ x.write .exact ++ ")"
  | .string s => "String(" ++ Text.quote s ++ ")"
  | .list items => "List([" ++ commas (inspectItems items) ++ "])"
  | .map entries => "Map(" ++ inspectMap entries ++ ")"
  | .host o => "Host(HostObject \x7b type_name: " ++ Text.quote o.typeName ++ ", .. \x7d)"
  | .handle id => "Handle(Handle \x7b id: HandleId(" ++ toString id ++ ") \x7d)"
termination_by structural v => v
def inspectItems : List Value → List String
  | [] => []
  | item :: items => inspect item :: inspectItems items
termination_by structural items => items
def inspectMap : Keyed Value → String
  | ⟨entries, index, unhashed⟩ =>
    "ValueMap \x7b entries: [" ++ commas (inspectArray entries) ++ "], index: " ++
      inspectIndex index ++ ", unhashed: " ++ positions unhashed ++ " \x7d"
termination_by structural m => m
def inspectArray : Array (Value × Value) → List String
  | ⟨entries⟩ => inspectEntries entries
termination_by structural entries => entries
def inspectEntries : List (Value × Value) → List String
  | [] => []
  | entry :: entries => inspectPair entry :: inspectEntries entries
termination_by structural entries => entries
def inspectPair : Value × Value → String
  | (key, value) => "(" ++ inspect key ++ ", " ++ inspect value ++ ")"
termination_by structural entry => entry
end

end ScriptHost.Value
