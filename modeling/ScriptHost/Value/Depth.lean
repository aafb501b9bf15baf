import ScriptHost.Value.Basic

/-! How deeply lists and maps nest in a value. -/
namespace ScriptHost.Value

mutual
/-- The number of levels of a value; a value without parts has one. -/
def depth : Value → Nat
  | .list items => itemsDepth items + 1
  | .map entries => mapDepth entries + 1
  | _ => 1
termination_by structural v => v
def itemsDepth : List Value → Nat
  | [] => 0
  | item :: items => max (depth item) (itemsDepth items)
termination_by structural items => items
def mapDepth : Keyed Value → Nat
  | ⟨entries, _, _⟩ => arrayDepth entries
termination_by structural m => m
def arrayDepth : Array (Value × Value) → Nat
  | ⟨entries⟩ => entriesDepth entries
termination_by structural entries => entries
def entriesDepth : List (Value × Value) → Nat
  | [] => 0
  | entry :: entries => max (entryDepth entry) (entriesDepth entries)
termination_by structural entries => entries
def entryDepth : Value × Value → Nat
  | (key, value) => max (depth key) (depth value)
termination_by structural entry => entry
end

end ScriptHost.Value
