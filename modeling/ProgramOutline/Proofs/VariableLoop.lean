import ProgramOutline.Proofs.Excerpts
import ProgramOutline.Proofs.Regex.Iteration

/-!
# The loop over the variables

The variables of a body come from a loop that searches for one match of the rule after another. It
does not treat empty matches like an iteration over all matches does: it keeps one that touches the
match before it, and goes on one character later. An empty match declares nothing, so the variables
are the same.

Results:
* `Variable.ofMatch?_of_isEmpty`: an empty match declares nothing.
* `scanVariables_eq_iterate`: the loop moves on at every turn, and its variables are those of the
  iteration.
-/

namespace ProgramOutline

open Regex

/-- An empty match declares nothing. -/
theorem Variable.ofMatch?_of_isEmpty {text : List Char} {m : Match} (hlies : m.Lies 0 text)
    (h : m.isEmpty = true) : Variable.ofMatch? text m = none := by
  have hspan : m.span.start = m.span.stop := by simpa [Match.isEmpty] using h
  refine Option.eq_none_iff_forall_ne_some.mpr (fun v hv => ?_)
  have hlt := nonempty_of_ofMatch? hlies hv
  omega

/-- The loop over the matches of a rule moves on at every turn. The variables that it collects are
    those of an iteration over the successive matches of the rule from the end of the header on, in
    the text up to the end of the body. -/
theorem scanVariables_eq_iterate {source : String} {rule : Pattern}
    (hrule : compile? source = some rule) (text : List Char) (bodyStart stop : Nat) :
    (∀ position m, rule.tree.findFrom (Text.takeBytes stop text) position = some m →
      position < resumeAt (Text.takeBytes stop text) m) ∧
    scanVariables rule text bodyStart stop =
      (rule.tree.loop (Text.takeBytes stop text) bodyStart).filterMap
        (Variable.ofMatch? (Text.takeBytes stop text)) ∧
    scanVariables rule text bodyStart stop =
      (rule.tree.iterate (Text.takeBytes stop text) bodyStart none).filterMap
        (Variable.ofMatch? (Text.takeBytes stop text)) := by
  have hloop : scanVariables rule text bodyStart stop =
      (rule.tree.loop (Text.takeBytes stop text) bodyStart).filterMap
        (Variable.ofMatch? (Text.takeBytes stop text)) := by
    rw [scanVariables, Pattern.declarations_eq_loop hrule]
  obtain ⟨chart, hexplored⟩ := exists_explored hrule (Text.takeBytes stop text)
  refine ⟨fun position m hm => Tree.lt_resumeAt hm, hloop, hloop.trans ?_⟩
  exact Tree.filterMap_loop hexplored _
    (fun m hlies hempty => Variable.ofMatch?_of_isEmpty hlies hempty) bodyStart none

/-- A rule that matches the empty string at the start of each line, also where a match has ended. -/
theorem scanVariables_eq_iterate_ofEmptyMatches :
    ∃ rule, compile? "(?m)^(x*)(y*\n|)" = some rule ∧ rule.groups = 2 ∧
      scanVariables rule "xy\né\ny\nz".toList 0 8 = [⟨"x", "y"⟩, ⟨"", "y"⟩] ∧
      (rule.tree.iterate (Text.takeBytes 8 "xy\né\ny\nz".toList) 0 none).filterMap
        (Variable.ofMatch? (Text.takeBytes 8 "xy\né\ny\nz".toList)) =
          [⟨"x", "y"⟩, ⟨"", "y"⟩] := by
  have hcompile : (compile? "(?m)^(x*)(y*\n|)").any (fun rule => decide (rule.groups = 2 ∧
      scanVariables rule "xy\né\ny\nz".toList 0 8 = [⟨"x", "y"⟩, ⟨"", "y"⟩])) = true := by
    decide
  obtain ⟨rule, hrule, hfound⟩ := (Option.any_eq_true _ _).mp hcompile
  obtain ⟨hgroups, hvariables⟩ := of_decide_eq_true hfound
  obtain ⟨-, -, hiterate⟩ := scanVariables_eq_iterate hrule "xy\né\ny\nz".toList 0 8
  exact ⟨rule, hrule, hgroups, hvariables, hiterate ▸ hvariables⟩

end ProgramOutline
