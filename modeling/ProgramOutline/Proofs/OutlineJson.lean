import ProgramOutline.Proofs.Json.Reading

/-!
# Outlines go through JSON

An outline as JSON is a list with an object for each function. The object of a function has a line
and is collapsible, and its children are the objects of the parameters and then of the variables;
these have no line. The key for the children is left out if there are none. What the objects show
determines the outline, so different outlines are different texts.

Results:
* `showsLeaf_leafData`, `showsFunction_nodeData`: what the objects of an outline show.
* `ShowsFunction.node_eq`: an object shows one function only, as far as its outline goes.
* `renderJson_lossless`: the objects of a rendered outline.
-/

namespace ProgramOutline

theorem SymbolKind.name_inj {a b : SymbolKind} (h : a.name = b.name) : a = b := by
  revert h
  cases a <;> cases b <;> decide

/-- The value of a key of an object. -/
def Data.field? (key : String) : Data → Option Data
  | .table entries => lookup key entries
  | _ => none

namespace Outline

/-- The children of an object. Without the key there are none. -/
def children? (d : Data) : Option (List Data) :=
  match d.field? "children" with
  | none => some []
  | some (.list items) => some items
  | some _ => none

/-- An object that shows a leaf: it has no line and no children. -/
structure ShowsLeaf (leaf : OutlineLeaf) (d : Data) : Prop where
  label : d.field? "label" = some (.str leaf.label)
  kind : d.field? "kind" = some (.str leaf.kind.name)
  icon : d.field? "icon" = some (.str leaf.kind.icon)
  line : d.field? "lineNumber" = none
  collapsible : d.field? "collapsible" = some (.bool false)
  children : children? d = some []

/-- An object that shows a function, with a child for each parameter and then for each variable. -/
structure ShowsFunction (f : FunctionSymbol) (d : Data) : Prop where
  label : d.field? "label" = some (.str f.name)
  kind : d.field? "kind" = some (.str "function")
  icon : d.field? "icon" = some (.str "symbol-function")
  line : d.field? "lineNumber" = some (.int f.line.toNat)
  collapsible : d.field? "collapsible" = some (.bool true)
  children : ∃ items, children? d = some items ∧
    List.Forall₂ ShowsLeaf
      (f.parameters.map (fun p => ⟨p.label, .parameter⟩) ++ f.vars.map (fun v => ⟨v.label, .var⟩))
      items

theorem showsLeaf_leafData (leaf : OutlineLeaf) : ShowsLeaf leaf (leafData leaf) where
  label := rfl
  kind := rfl
  icon := rfl
  line := rfl
  collapsible := rfl
  children := rfl

theorem children?_nodeData (n : OutlineNode) :
    children? (nodeData n) = some (n.leaves.map leafData) := by
  obtain ⟨label, line, leaves⟩ := n
  cases leaves <;> rfl

theorem showsFunction_nodeData (f : FunctionSymbol) : ShowsFunction f (nodeData (node f)) where
  label := rfl
  kind := rfl
  icon := rfl
  line := rfl
  collapsible := rfl
  children := by
    refine ⟨_, children?_nodeData (node f), ?_⟩
    rw [List.forall₂_map_right_iff]
    exact List.forall₂_same.mpr (fun leaf _ => showsLeaf_leafData leaf)

/-! ## What an object shows determines the outline -/

theorem ShowsLeaf.unique {a b : OutlineLeaf} {d : Data} (ha : ShowsLeaf a d)
    (hb : ShowsLeaf b d) : a = b := by
  have hlabel : a.label = b.label := Data.str.inj (Option.some.inj (ha.label.symm.trans hb.label))
  have hkind : a.kind.name = b.kind.name :=
    Data.str.inj (Option.some.inj (ha.kind.symm.trans hb.kind))
  obtain ⟨label, kind⟩ := a
  exact congrArg₂ OutlineLeaf.mk hlabel (SymbolKind.name_inj hkind)

/-- The outlines of functions that one object shows are the same. -/
theorem ShowsFunction.node_eq {f g : FunctionSymbol} {d : Data} (hf : ShowsFunction f d)
    (hg : ShowsFunction g d) : node f = node g := by
  have hname : f.name = g.name := Data.str.inj (Option.some.inj (hf.label.symm.trans hg.label))
  have hnumber : (f.line.toNat : Int) = g.line.toNat :=
    Data.int.inj (Option.some.inj (hf.line.symm.trans hg.line))
  have hline : f.line = g.line := UInt32.toNat_inj.mp (Int.ofNat_inj.mp hnumber)
  obtain ⟨items, hitems, hf⟩ := hf.children
  obtain ⟨items', hitems', hg⟩ := hg.children
  obtain rfl := Option.some.inj (hitems.symm.trans hitems')
  have hunique : Relator.LeftUnique ShowsLeaf := fun _ _ _ => ShowsLeaf.unique
  have hleaves := hunique.forall₂ hf hg
  rw [node, node, hname, hline, hleaves]

theorem ofFunctions_eq_of_shows {fs gs : List FunctionSymbol} {items : List Data}
    (hf : List.Forall₂ ShowsFunction fs items) (hg : List.Forall₂ ShowsFunction gs items) :
    ofFunctions fs = ofFunctions gs := by
  induction hf generalizing gs with
  | nil =>
    cases hg
    rfl
  | cons hfirst _ ih =>
    cases hg with
    | cons hother hothers => exact congrArg₂ List.cons (hfirst.node_eq hother) (ih hothers)

/-! ## Rendered outlines -/

theorem parse?_renderJson (functions : List FunctionSymbol) :
    ∃ items, Json.parse? (renderJson (ofFunctions functions)).toList = some (.list items) ∧
      List.Forall₂ ShowsFunction functions items := by
  refine ⟨(ofFunctions functions).map nodeData, ?_, ?_⟩
  · rw [renderJson, String.toList_ofList]
    exact Json.parse?_pretty (isJson_toData (ofFunctions functions))
  · rw [ofFunctions, List.map_map, List.forall₂_map_right_iff]
    exact List.forall₂_same.mpr (fun f _ => showsFunction_nodeData f)

/-- **Outlines go through JSON.** The outline of any functions is rendered as a JSON document: a
    list with an object for each function, in their order, that shows its name and its line and has
    a child for each parameter and then for each variable. Two lists of functions are rendered alike
    only if they have the same outline. -/
theorem renderJson_lossless (functions : List FunctionSymbol) :
    (∃ items, Json.parse? (renderJson (ofFunctions functions)).toList = some (.list items) ∧
        List.Forall₂ ShowsFunction functions items) ∧
      ∀ others, renderJson (ofFunctions others) = renderJson (ofFunctions functions) ↔
        ofFunctions others = ofFunctions functions := by
  refine ⟨parse?_renderJson functions, fun others => ⟨fun h => ?_, congrArg renderJson⟩⟩
  obtain ⟨items, hparse, hshows⟩ := parse?_renderJson functions
  obtain ⟨items', hparse', hshows'⟩ := parse?_renderJson others
  rw [h, hparse] at hparse'
  obtain rfl := Data.list.inj (Option.some.inj hparse')
  exact ofFunctions_eq_of_shows hshows' hshows

end Outline

end ProgramOutline
