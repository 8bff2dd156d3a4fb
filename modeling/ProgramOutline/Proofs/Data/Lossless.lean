import Mathlib.Tactic
import ProgramOutline.Data.Basic

/-!
# Writing and reading without loss

`Lossless write read Fit` says that the values with the property `Fit` are read back from what is
written of them, and that no other values are read, however they are spelled. So reading, writing
and reading again gives what was read at first (`Lossless.again`).

Results:
* `Lossless.text`, `Lossless.nat`, `Lossless.choice`: texts, numbers and names of alternatives.
* `Lossless.optional`, `Lossless.list`: values that may be missing, and lists of values.
* `Lossless.fit_required`, `Lossless.fit_withDefault`: what is read from a field is fit.
-/

namespace ProgramOutline

variable {α : Type}

/-- Fit values are read back, and only fit values are read. -/
structure Lossless (write : α → Data) (read : Data → Option α) (Fit : α → Prop) : Prop where
  read_write : ∀ {x}, Fit x → read (write x) = some x
  fit_of_read : ∀ {d x}, read d = some x → Fit x

namespace Lossless

variable {write : α → Data} {read : Data → Option α} {Fit : α → Prop}

/-- Whatever spelling a value is read from, writing it and reading it again makes no difference. -/
theorem again (h : Lossless write read Fit) {d : Data} {x : α} (hread : read d = some x) :
    read (write x) = some x := h.read_write (h.fit_of_read hread)

/-! ## Single values -/

theorem text : Lossless Data.str Data.text? (fun _ => True) := ⟨fun _ => rfl, fun _ => trivial⟩

theorem bool : Lossless Data.bool Data.bool? (fun _ => True) := ⟨fun _ => rfl, fun _ => trivial⟩

theorem nat (bound : Nat) :
    Lossless (fun n : Nat => .int n) (Data.nat? bound) (fun n => n < bound) where
  read_write {n} h := by
    rw [Data.nat?, if_pos ⟨Int.natCast_nonneg n, Int.ofNat_lt.mpr h⟩, Int.toNat_natCast]
  fit_of_read {d n} h := by
    unfold Data.nat? at h
    split at h
    · split at h
      · rename_i hbounds
        cases h
        omega
      · cases h
    · cases h

/-- An alternative that its name leads back to. -/
theorem choice (form : Data.Form) {names : List (String × α)} {name : α → String}
    (hnames : ∀ x, (names.find? (fun entry => entry.1 == name x)).map (·.2) = some x) :
    Lossless (fun x => .str (name x)) (Data.choice? form names) (fun _ => True) :=
  ⟨fun {x} _ => hnames x, fun _ => trivial⟩

/-! ## Missing values and lists -/

/-- A value that is not written as null may be missing. -/
theorem optional (h : Lossless write read Fit) (hnull : ∀ x, write x ≠ .null) :
    Lossless (fun x? : Option α => (x?.map write).getD .null) (Data.optional? read)
      (fun x? => ∀ x, x? = some x → Fit x) where
  read_write {x?} hfit := by
    cases x? with
    | none => rfl
    | some x =>
      rw [Option.map_some, Option.getD_some, Data.optional?, h.read_write (hfit x rfl)]
      · rfl
      · exact hnull x
  fit_of_read {d x?} hread x hx := by
    unfold Data.optional? at hread
    split at hread
    · rw [hx] at hread
      cases hread
    · obtain ⟨y, hy, hsome⟩ := Option.map_eq_some_iff.mp hread
      rw [hx] at hsome
      cases hsome
      exact h.fit_of_read hy

theorem optionalText : Lossless Data.ofOption (Data.optional? Data.text?) (fun _ => True) where
  read_write {x?} _ := by cases x? <;> rfl
  fit_of_read _ := trivial

/-- What is read from the items of a list has whatever property each item gives. -/
theorem forall_of_mapM (hfit : ∀ {d x}, read d = some x → Fit x) {values : List Data}
    {items : List α} (h : values.mapM read = some items) : ∀ x ∈ items, Fit x := by
  induction values generalizing items with
  | nil =>
    cases h
    exact List.forall_mem_nil _
  | cons value values ih =>
    rw [List.mapM_cons] at h
    obtain ⟨x, hx, h⟩ := Option.bind_eq_some_iff.mp h
    obtain ⟨rest, hrest, h⟩ := Option.bind_eq_some_iff.mp h
    cases h
    exact List.forall_mem_cons.mpr ⟨hfit hx, ih hrest⟩

theorem mapM_write (h : Lossless write read Fit) {items : List α} (hfit : ∀ x ∈ items, Fit x) :
    (items.map write).mapM read = some items := by
  induction items with
  | nil => rfl
  | cons x items ih =>
    obtain ⟨hx, hitems⟩ := List.forall_mem_cons.mp hfit
    rw [List.map_cons, List.mapM_cons, h.read_write hx, ih hitems]
    rfl

theorem list (h : Lossless write read Fit) :
    Lossless (fun items : List α => .list (items.map write)) (Data.list? read)
      (fun items => ∀ x ∈ items, Fit x) where
  read_write hfit := h.mapM_write hfit
  fit_of_read {d items} hread := by
    unfold Data.list? at hread
    split at hread
    · exact forall_of_mapM h.fit_of_read hread
    · cases hread

/-! ## Fields -/

theorem required (h : Lossless write read Fit) {x : α} (hfit : Fit x) :
    Data.required? read (some (write x)) = some x := h.read_write hfit

theorem fit_required (h : Lossless write read Fit) {field : Option Data} {x : α}
    (hread : Data.required? read field = some x) : Fit x := by
  cases field with
  | none => cases hread
  | some d => exact h.fit_of_read hread

theorem fit_withDefault (h : Lossless write read Fit) {default : α} (hdefault : Fit default)
    {field : Option Data} {x : α} (hread : Data.withDefault? default read field = some x) :
    Fit x := by
  cases field with
  | none =>
    cases hread
    exact hdefault
  | some d => exact h.fit_of_read hread

end Lossless

end ProgramOutline
