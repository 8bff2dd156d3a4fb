import ProgramOutline.Header
import ProgramOutline.Proofs.Regex.Reach
import ProgramOutline.Proofs.Text.Offset
import ProgramOutline.Proofs.Text.Trim

/-!
# Headers of any rule follow one another

A rule may match blank lines before a header, match nothing at all, or leave its groups out. A match
is kept only if it has a name, so it holds a character that is not blank, and the header is placed
at the first such character, before the end of the match.

Results:
* `Header.ofMatch?_bounds`: a header starts in its match and ends with it.
* `header_lt_stop`, `header_bounds`: a header is not empty and lies in the text.
* `pairwise_scanHeaders`: each header ends before the next one starts.
-/

namespace ProgramOutline

open Regex

/-! ## From a match to a header -/

theorem Regex.Match.slice_group {m : Match} {taken : List Char} {span : Span} {index : Nat}
    (hgroups : ∀ g ∈ m.groups, g.2.Lies m.span.start taken) (h : m.group? index = some span)
    (before after : List Char) (hstart : m.span.start = Text.byteLength before) :
    ∃ a text b, taken = a ++ text ++ b ∧
      Text.slice (before ++ taken ++ after) span.start span.stop = text := by
  obtain ⟨g, hg, rfl⟩ := Option.map_eq_some_iff.mp h
  obtain ⟨a, text, b, htaken, hfirst, hlast⟩ := hgroups g (List.mem_of_find?_eq_some hg)
  refine ⟨a, text, b, htaken, ?_⟩
  have hassoc : before ++ taken ++ after = (before ++ a) ++ text ++ (b ++ after) := by
    rw [htaken]
    simp only [List.append_assoc]
  rw [hassoc]
  exact Text.slice_append _ _ _ (by rw [Text.byteLength_append]; omega) hlast

/-- The name of a header is not blank, so the header starts before the match ends. -/
theorem Header.ofMatch?_bounds {text : List Char} {m : Match} {header : Header}
    (hlies : m.Lies 0 text) (h : Header.ofMatch? text m = some header) :
    m.span.start ≤ header.offset ∧ header.offset < header.stop ∧ header.stop = m.span.stop := by
  obtain ⟨before, taken, after, htext, hstart, hstop, hgroups⟩ := hlies
  have hmatched : Text.slice text m.span.start m.span.stop = taken := by
    rw [htext]
    exact Text.slice_append before taken after (by omega) hstop
  simp only [Header.ofMatch?, Option.bind_eq_bind, Option.bind_eq_some_iff,
    Option.ite_none_left_eq_some, Option.pure_def, Option.some.injEq, Option.map_eq_some_iff] at h
  obtain ⟨name, ⟨named, hnamed, rfl⟩, hname, rfl⟩ := h
  obtain ⟨span, hspan, rfl⟩ := Option.map_eq_some_iff.mp hnamed
  obtain ⟨a, inner, b, htaken, hinner⟩ :=
    Match.slice_group hgroups hspan before after (by omega)
  rw [htext, hinner] at hname
  obtain ⟨c, hc, hink⟩ : ∃ c ∈ inner, Text.isBlank c = false :=
    Text.exists_of_trim_ne_nil (by simpa using hname)
  have hmem : c ∈ taken := by
    rw [htaken]
    simp [hc]
  have hblanks := Text.byteLength_takeWhile_lt hmem hink
  dsimp only
  rw [hmatched]
  omega

/-- A header is not empty. -/
theorem header_lt_stop {pattern : Pattern} {text : List Char} {header : Header}
    (h : header ∈ scanHeaders pattern text) : header.offset < header.stop := by
  obtain ⟨m, hm, hheader⟩ := List.mem_filterMap.mp h
  exact (Header.ofMatch?_bounds (Pattern.mem_findAll hm) hheader).2.1

theorem header_bounds {pattern : Pattern} {text : List Char} {header : Header}
    (h : header ∈ scanHeaders pattern text) :
    header.offset ≤ header.stop ∧ header.stop ≤ Text.byteLength text := by
  refine ⟨(header_lt_stop h).le, ?_⟩
  obtain ⟨m, hm, hheader⟩ := List.mem_filterMap.mp h
  obtain ⟨-, -, hstop⟩ := Header.ofMatch?_bounds (Pattern.mem_findAll hm) hheader
  obtain ⟨before, taken, after, htext, hstart, hspan, -⟩ := Pattern.mem_findAll hm
  have hlength : Text.byteLength text =
      Text.byteLength before + Text.byteLength taken + Text.byteLength after := by
    rw [htext, Text.byteLength_append, Text.byteLength_append]
  omega

/-- The headers of a rule in the order of the text, none inside of another. -/
theorem pairwise_scanHeaders (pattern : Pattern) (text : List Char) :
    (scanHeaders pattern text).Pairwise (fun a b => a.stop ≤ b.offset) := by
  refine List.pairwise_filterMap.mpr ((pattern.pairwise_findAll text).imp_of_mem ?_)
  intro m n hm hn hle a ha b hb
  obtain ⟨-, -, hstop⟩ := Header.ofMatch?_bounds (Pattern.mem_findAll hm) ha
  obtain ⟨hstart, -⟩ := Header.ofMatch?_bounds (Pattern.mem_findAll hn) hb
  omega

end ProgramOutline
