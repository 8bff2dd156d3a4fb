import ProgramOutline.Body
import ProgramOutline.Proofs.Regex.Reach
import ProgramOutline.Proofs.Text.Checked

/-!
# Where the next search starts

After a match for a variable the search goes on from the end of that match, or one character later
if it is empty. The matches come from one walk over the text; each of them starts where the search
for it does or later, so it is what such a search can find.

Results:
* `Tree.lies_of_findFrom`: the first match is a stretch of the text.
* `resumeAt`: where the search goes on after a match.
* `Pattern.declarations_inSuccession`: each match lies in the text, not before the place where the
  search goes on after the one before it.
* `InSuccession.pairwise`: such matches do not overlap.
-/

namespace ProgramOutline.Regex

/-! ## The place of a match -/

theorem Match.Lies.append {m : Match} {offset : Nat} {before rest : List Char}
    (h : m.Lies (offset + Text.byteLength before) rest) : m.Lies offset (before ++ rest) := by
  obtain ⟨skipped, taken, after, rfl, hstart, hstop, hgroups⟩ := h
  refine ⟨before ++ skipped, taken, after, by simp, ?_, hstop, hgroups⟩
  rw [hstart, Text.byteLength_append, Nat.add_assoc]

theorem Match.Lies.span {m : Match} {offset : Nat} {text : List Char} (h : m.Lies offset text) :
    m.span.Lies offset text := by
  obtain ⟨before, taken, after, htext, hstart, hstop, -⟩ := h
  exact ⟨before, taken, after, htext, hstart, hstop⟩

/-- A stretch of a text starts and ends between characters. -/
theorem Span.Lies.boundary {span : Span} {text : List Char} (h : span.Lies 0 text) :
    Text.isBoundary span.start text = true ∧ Text.isBoundary span.stop text = true := by
  obtain ⟨before, taken, after, rfl, hstart, hstop⟩ := h
  rw [Nat.zero_add] at hstart
  rw [hstop, hstart, ← Text.byteLength_append]
  exact ⟨List.append_assoc before taken after ▸ Text.isBoundary_byteLength ..,
    Text.isBoundary_byteLength ..⟩

/-- A group of a match is a stretch of the text. -/
theorem Match.Lies.group {m : Match} {text : List Char} (h : m.Lies 0 text) {index : Nat}
    {span : Span} (hspan : m.group? index = some span) : span.Lies 0 text := by
  obtain ⟨before, taken, after, rfl, hstart, -, hgroups⟩ := h
  obtain ⟨g, hg, rfl⟩ := Option.map_eq_some_iff.mp hspan
  obtain ⟨a, inner, b, rfl, hfirst, hlast⟩ := hgroups g (List.mem_of_find?_eq_some hg)
  refine ⟨before ++ a, inner, b ++ after, by simp, ?_, hlast⟩
  rw [hfirst, hstart, Text.byteLength_append, Nat.add_assoc]

/-- A match starts at the position where it is looked for. -/
theorem Tree.start_of_matchFrom {t : Tree} {size : Nat} {window : Window} {tried tried' : Tried}
    {cur : Cursor} {m : Match} (h : t.matchFrom size window tried cur = (some m, tried')) :
    m.span.start = cur.offset := by
  unfold matchFrom at h
  split at h
  · cases h
  · unfold matchAt at h
    split at h
    · obtain rfl := Option.some.inj (Prod.mk.inj h).1
      rfl
    · cases h

theorem Tree.lies_of_findAlong {t : Tree} {size : Nat} {window : Window} {tried : Tried}
    {before : Option Char} {offset : Nat} {text : List Char} {m : Match}
    (h : t.findAlong size window tried before offset text = some m) : m.Lies offset text := by
  induction text generalizing before offset tried with
  | nil => exact lies_of_matchFrom (Prod.ext h rfl)
  | cons c rest ih =>
    rw [findAlong] at h
    split at h
    · rename_i found tried' hfound
      obtain rfl := Option.some.inj h
      exact lies_of_matchFrom hfound
    · exact (ih h).cons

/-- The first match is a stretch of the text. -/
theorem Tree.lies_of_findFrom {t : Tree} {text : List Char} {start : Nat} {m : Match}
    (h : t.findFrom text start = some m) : m.Lies 0 text := lies_of_findAlong h

/-! ## Going on -/

/-- Where the search goes on after a match: at its end, after an empty match one character later,
    and after an empty match at the end of the text nowhere. -/
def resumeAt (text : List Char) (m : Match) : Nat :=
  if m.span.start < m.span.stop then m.span.stop
  else
    match Text.dropBytes m.span.stop text with
    | [] => Text.byteLength text + 1
    | c :: _ => m.span.stop + c.utf8Size

/-- Each match lies in the text, not before the place where the search for it starts. -/
def InSuccession (text : List Char) : Nat → List Match → Prop
  | _, [] => True
  | start, m :: rest =>
    start ≤ m.span.start ∧ m.Lies 0 text ∧ InSuccession text (resumeAt text m) rest

/-- After a match at a position before the character `c` the search goes on at its end, or after
    this character. -/
theorem resumeAt_le {before : List Char} (c : Char) (rest : List Char) {m : Match}
    (hstart : m.span.start = Text.byteLength before) (hle : m.span.start ≤ m.span.stop) :
    resumeAt (before ++ c :: rest) m ≤ m.span.stop ∨
      resumeAt (before ++ c :: rest) m ≤ Text.byteLength before + c.utf8Size := by
  unfold resumeAt
  split
  · exact .inl le_rfl
  · have hstop : m.span.stop = Text.byteLength before := by omega
    rw [hstop, Text.dropBytes_byteLength]
    exact .inr le_rfl

/-- A match at the position after `before` is one that a search from `start` on can find, if the
    window or the position is not before `start`. -/
theorem Tree.lies_after_of_matchFrom {t : Tree} {size : Nat} {window : Window}
    {tried tried' : Tried} {last : Option Char} {before rest : List Char} {start : Nat} {m : Match}
    (hstart : start ≤ window.first ∨ start ≤ Text.byteLength before)
    (hm : t.matchFrom size window tried ⟨last, rest, Text.byteLength before⟩ = (some m, tried')) :
    start ≤ m.span.start ∧ m.Lies 0 (before ++ rest) := by
  have hplace : m.span.start = Text.byteLength before := start_of_matchFrom hm
  have hfirst := first_le_of_matchFrom hm
  have hlies : m.Lies (0 + Text.byteLength before) rest := by
    rw [Nat.zero_add]
    exact lies_of_matchFrom hm
  exact ⟨by omega, hlies.append⟩

/-- The walk for variables finds matches in succession. It is about to look at the character after
    `before`, and nothing before `start` is of interest any more. -/
theorem Tree.declarationsAlong_inSuccession {t : Tree} {size : Nat} {text : List Char}
    (rest : List Char) :
    ∀ {window : Window} {tried : Tried} {last : Option Char} {before : List Char} {start : Nat},
      text = before ++ rest → start ≤ window.first ∨ start ≤ Text.byteLength before →
      InSuccession text start
        (t.declarationsAlong size window tried last (Text.byteLength before) rest) := by
  induction rest with
  | nil =>
    intro window tried last before start htext hstart
    rw [declarationsAlong]
    rcases hm : t.matchFrom size window tried ⟨last, [], Text.byteLength before⟩ with
      ⟨_ | m, tried'⟩
    · trivial
    · obtain ⟨hle, hlies⟩ := lies_after_of_matchFrom hstart hm
      exact ⟨hle, htext ▸ hlies, trivial⟩
  | cons c rest ih =>
    intro window tried last before start htext hstart
    have hnext : text = (before ++ [c]) ++ rest := by
      rw [htext, List.append_assoc]
      rfl
    have hlength : Text.byteLength (before ++ [c]) = Text.byteLength before + c.utf8Size := by
      simp
    rw [declarationsAlong]
    split
    · rename_i m tried' hm
      obtain ⟨hle, hlies⟩ := lies_after_of_matchFrom hstart hm
      refine ⟨hle, htext ▸ hlies, ?_⟩
      have hplace : m.span.start ≤ m.span.stop := by
        obtain ⟨_, _, _, -, -, hstop, -⟩ := hlies
        omega
      have hresume := resumeAt_le c rest (start_of_matchFrom hm) hplace
      rw [← htext, ← hlength] at hresume
      rw [← hlength]
      exact ih hnext hresume
    · rw [← hlength]
      refine ih hnext (hstart.imp id ?_)
      omega

/-- The matches for variables follow one another as searches from `start` on find them. -/
theorem Pattern.declarations_inSuccession (pattern : Pattern) (text : List Char) (start : Nat) :
    InSuccession text start (pattern.declarations text start) := by
  rw [declarations]
  rcases hwindow : pattern.window? text start with - | window
  · trivial
  · have hfirst : window.first = start := by
      unfold window? at hwindow
      split at hwindow
      · rw [← Option.some.inj hwindow]
      · obtain ⟨_, -, rfl⟩ := Option.map_eq_some_iff.mp hwindow
        rfl
    have htext : text = [] ++ text := rfl
    exact Tree.declarationsAlong_inSuccession text htext (.inl hfirst.ge)

/-! ## The order of successive matches -/

theorem Match.Lies.start_le_stop {m : Match} {offset : Nat} {text : List Char}
    (h : m.Lies offset text) : m.span.start ≤ m.span.stop := by
  obtain ⟨_, _, _, -, -, hstop, -⟩ := h
  omega

/-- The search does not go back behind the end of a match. -/
theorem stop_le_resumeAt {text : List Char} {m : Match} (h : m.Lies 0 text) :
    m.span.stop ≤ resumeAt text m := by
  obtain ⟨before, taken, after, rfl, hstart, hstop⟩ := h.span
  unfold resumeAt
  split
  · exact le_rfl
  · split
    · simp only [Text.byteLength_append]
      omega
    · exact Nat.le_add_right ..

/-- No match of a succession starts before the search for the first one does. -/
theorem InSuccession.bounds {text : List Char} {start : Nat} {found : List Match}
    (h : InSuccession text start found) : ∀ m ∈ found, start ≤ m.span.start ∧ m.Lies 0 text := by
  induction found generalizing start with
  | nil => exact fun m hm => absurd hm List.not_mem_nil
  | cons first rest ih =>
    obtain ⟨hle, hlies, hrest⟩ := h
    intro m hm
    rcases List.mem_cons.mp hm with rfl | hm
    · exact ⟨hle, hlies⟩
    · obtain ⟨hlater, hmlies⟩ := ih hrest m hm
      have hresume := stop_le_resumeAt hlies
      have horder := hlies.start_le_stop
      exact ⟨by omega, hmlies⟩

/-- Matches that are found in succession do not overlap. -/
theorem InSuccession.pairwise {text : List Char} {start : Nat} {found : List Match}
    (h : InSuccession text start found) :
    found.Pairwise (fun a b => a.span.stop ≤ b.span.start) := by
  induction found generalizing start with
  | nil => exact .nil
  | cons first rest ih =>
    obtain ⟨-, hlies, hrest⟩ := h
    refine List.pairwise_cons.mpr ⟨fun m hm => ?_, ih hrest⟩
    exact (stop_le_resumeAt hlies).trans (hrest.bounds m hm).1

end ProgramOutline.Regex
