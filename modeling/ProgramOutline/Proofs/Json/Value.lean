import Mathlib.Tactic
import ProgramOutline.Config
import ProgramOutline.Outline

/-!
# The values that JSON documents hold

`IsJson` are the values without dates and fractions whose tables hold a key at most once. Symbols,
configurations and outlines are written as such values.

Results:
* `FunctionSymbol.isJson_toData`, `Config.isJson_toData`: so are symbols and configurations.
* `Outline.isJson_toData`: so are outlines.
-/

namespace ProgramOutline

/-- A value of which all parts are kept by a JSON document. -/
inductive IsJson : Data → Prop
  | null : IsJson .null
  | bool (value : Bool) : IsJson (.bool value)
  | int (value : Int) : IsJson (.int value)
  | str (value : String) : IsJson (.str value)
  | list (items : List Data) (hitems : ∀ item ∈ items, IsJson item) : IsJson (.list items)
  | table (entries : List (String × Data)) (hkeys : (entries.map Prod.fst).Nodup)
      (hvalues : ∀ entry ∈ entries, IsJson entry.2) : IsJson (.table entries)

namespace IsJson

theorem list_map {α : Type} {toData : α → Data} {items : List α}
    (h : ∀ item ∈ items, IsJson (toData item)) : IsJson (.list (items.map toData)) := by
  refine .list _ (fun value hvalue => ?_)
  obtain ⟨item, hitem, rfl⟩ := List.mem_map.mp hvalue
  exact h item hitem

theorem ofOption (text : Option String) : IsJson (Data.ofOption text) := by
  cases text with
  | none => exact .null
  | some text => exact .str text

end IsJson

/-! ## Symbols -/

theorem Parameter.isJson_toData (p : Parameter) : IsJson p.toData := by
  have htype : IsJson ((p.type.map ParamType.toData).getD .null) := by
    cases p.type with
    | none => exact .null
    | some t => exact .str t.name
  refine .table _ (show ["name", "type"].Nodup by decide) ?_
  simp only [List.forall_mem_cons]
  exact ⟨.str p.name, htype, List.forall_mem_nil _⟩

theorem Variable.isJson_toData (v : Variable) : IsJson v.toData := by
  refine .table _ (show ["scope", "name"].Nodup by decide) ?_
  simp only [List.forall_mem_cons]
  exact ⟨.str v.scope, .str v.name, List.forall_mem_nil _⟩

theorem FunctionSymbol.isJson_toData (f : FunctionSymbol) : IsJson f.toData := by
  refine .table _ (show keys.Nodup by decide) ?_
  simp only [List.forall_mem_cons]
  exact ⟨.str f.id, .str f.kind.name, .str f.name, .ofOption f.qualifier, .str f.rule.name,
    .list_map (fun p _ => p.isJson_toData), .list_map (fun v _ => v.isJson_toData), .int _,
    .int _, List.forall_mem_nil _⟩

/-! ## Configurations -/

theorem TypingOptions.isJson_toData (o : TypingOptions) : IsJson o.toData := by
  refine .table _ (show ["fallback", "as_separator"].Nodup by decide) ?_
  simp only [List.forall_mem_cons]
  exact ⟨.str o.fallback.name, .str o.separator.name, List.forall_mem_nil _⟩

theorem RuleTexts.keys_toData (texts : RuleTexts) :
    (texts.entries.map (fun entry => (entry.1, Data.ofOption entry.2))).map Prod.fst =
      RuleSlot.all.map RuleSlot.key := by
  rw [entries, List.map_map, List.map_map]
  rfl

theorem RuleTexts.isJson_toData (texts : RuleTexts) : IsJson texts.toData := by
  refine .table _ (texts.keys_toData.symm ▸ by decide) (fun entry hentry => ?_)
  obtain ⟨⟨key, text⟩, -, rfl⟩ := List.mem_map.mp hentry
  exact .ofOption text

theorem Config.isJson_toData (c : Config) : IsJson c.toData := by
  refine .table _ (show keys.Nodup by decide) ?_
  simp only [List.forall_mem_cons]
  exact ⟨.bool c.announce, c.rules.isJson_toData, c.typing.isJson_toData, List.forall_mem_nil _⟩

/-! ## Outlines -/

namespace Outline

theorem isJson_leafData (leaf : OutlineLeaf) : IsJson (leafData leaf) := by
  refine .table _ (show ["label", "kind", "icon", "collapsible"].Nodup by decide) ?_
  simp only [List.forall_mem_cons]
  exact ⟨.str leaf.label, .str leaf.kind.name, .str leaf.kind.icon, .bool false,
    List.forall_mem_nil _⟩

/-- The keys of a node without children. -/
def nodeKeys : List String := ["label", "kind", "icon", "lineNumber", "collapsible"]

theorem isJson_nodeData (n : OutlineNode) : IsJson (nodeData n) := by
  have hfields : ∀ entry ∈ [("label", Data.str n.label), ("kind", SymbolKind.function.toData),
      ("icon", .str SymbolKind.function.icon), ("lineNumber", .int n.line.toNat),
      ("collapsible", .bool true)], IsJson entry.2 := by
    simp only [List.forall_mem_cons]
    exact ⟨.str n.label, .str _, .str _, .int _, .bool true, List.forall_mem_nil _⟩
  rw [nodeData]
  split
  · exact .table _ (show nodeKeys.Nodup by decide) hfields
  · refine .table _ (show (nodeKeys ++ ["children"]).Nodup by decide) (List.forall_mem_append.mpr ⟨hfields, ?_⟩)
    rw [List.forall_mem_singleton]
    exact .list_map (fun leaf _ => isJson_leafData leaf)

theorem isJson_toData (nodes : List OutlineNode) : IsJson (toData nodes) :=
  .list_map (fun n _ => isJson_nodeData n)

end Outline

end ProgramOutline
