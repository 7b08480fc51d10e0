import Mathlib.Data.List.Forall2
import SmartQuotes.Outcome

/-!
# What outcomes yield

An outcome that goes on with the value of another one ends well only if both do. Of an outcome with
a list it is told what holds of all its members, whatever was noted on the way, and of any outcome
what holds of all that is noted, however it ends.
-/

namespace SmartQuotes

namespace Outcome

variable {α β : Type}

/-- All members of the list that is yielded, if one is, have the property. -/
def All (P : α → Prop) (x : Outcome (List α)) : Prop := ∀ l, x.result = .ok l → ∀ a ∈ l, P a

variable {P : α → Prop}

theorem result_bind {x : Outcome α} {f : α → Outcome β} {b : β} (h : (x >>= f).result = .ok b) :
    ∃ a, x.result = .ok a ∧ (f a).result = .ok b := by
  obtain ⟨notes, _ | a⟩ := x
  · cases h
  · exact ⟨a, rfl, h⟩

theorem result_bind_ok {x : Outcome α} {f : α → Outcome β} {a : α} (h : x.result = .ok a) :
    (x >>= f).result = (f a).result := by
  obtain ⟨notes, result⟩ := x
  cases h
  rfl

theorem notes_bind_ok {x : Outcome α} {f : α → Outcome β} {a : α} (h : x.result = .ok a) :
    (x >>= f).notes = x.notes ++ (f a).notes := by
  obtain ⟨notes, result⟩ := x
  cases h
  rfl

theorem all_value {l : List α} (h : ∀ a ∈ l, P a) : (value l).All P := by
  rintro _ ⟨⟩
  exact h

theorem all_nil : (value ([] : List α)).All P := all_value nofun

theorem all_ofExcept {x : Except Failure (List α)} (h : ∀ l, x = .ok l → ∀ a ∈ l, P a) :
    (ofExcept x).All P := h

theorem all_append {x y : Outcome (List α)} (hx : x.All P) (hy : y.All P) : (x ++ y).All P := by
  intro l h a ha
  obtain ⟨l₁, h₁, h⟩ := result_bind h
  obtain ⟨l₂, h₂, h⟩ := result_bind h
  cases h
  rcases List.mem_append.mp ha with ha | ha
  · exact hx l₁ h₁ a ha
  · exact hy l₂ h₂ a ha

theorem all_concat {l : List (Outcome (List α))} (h : ∀ x ∈ l, x.All P) : (concat l).All P := by
  induction l with
  | nil => exact all_nil
  | cons x rest ih =>
    rw [concat]
    exact all_append (h x List.mem_cons_self) (ih fun y hy => h y (List.mem_cons_of_mem _ hy))

/-! ## Putting together -/

theorem ok_append (notes : List Note) (l : List α) (y : Outcome (List α)) :
    (⟨notes, .ok l⟩ : Outcome (List α)) ++ y = ⟨notes ++ y.notes, y.result.map (l ++ ·)⟩ := by
  obtain ⟨notes', _ | l'⟩ := y
  · rfl
  · change (⟨notes ++ (notes' ++ []), .ok (l ++ l')⟩ : Outcome (List α)) = _
    rw [List.append_nil]
    rfl

theorem append_assoc (x y z : Outcome (List α)) : x ++ y ++ z = x ++ (y ++ z) := by
  obtain ⟨notes, _ | l⟩ := x
  · rfl
  · obtain ⟨notes', _ | l'⟩ := y
    · rfl
    · obtain ⟨notes'', _ | l''⟩ := z
      · simp only [ok_append, Except.map, List.append_assoc]
      · simp only [ok_append, Except.map, List.append_assoc]

theorem value_nil_append (x : Outcome (List α)) : value [] ++ x = x := by
  obtain ⟨notes, _ | l⟩ := x
  · rfl
  · rw [value, ok_append]
    rfl

theorem append_value_nil (x : Outcome (List α)) : x ++ value [] = x := by
  obtain ⟨notes, _ | l⟩ := x
  · rfl
  · rw [value, ok_append, Except.map, List.append_nil, List.append_nil]

theorem concat_append (xs ys : List (Outcome (List α))) :
    concat (xs ++ ys) = concat xs ++ concat ys := by
  induction xs with
  | nil => exact (value_nil_append _).symm
  | cons x xs ih => rw [List.cons_append, concat, concat, ih, append_assoc]

/-- Outcomes put together yield what each of them yields. -/
theorem exists_of_concat_map {f : β → Outcome (List α)} {R : β → List α → Prop} {xs : List β}
    (hR : ∀ x ∈ xs, ∀ l, (f x).result = .ok l → R x l) {l : List α}
    (h : (concat (xs.map f)).result = .ok l) :
    ∃ lists, List.Forall₂ R xs lists ∧ l = lists.flatten := by
  induction xs generalizing l with
  | nil =>
    cases h
    exact ⟨[], .nil, rfl⟩
  | cons x xs ih =>
    obtain ⟨l₁, h₁, h⟩ := result_bind h
    obtain ⟨l₂, h₂, h⟩ := result_bind h
    cases h
    obtain ⟨lists, hlists, rfl⟩ := ih (fun y hy => hR y (List.mem_cons_of_mem _ hy)) h₂
    exact ⟨l₁ :: lists, .cons (hR x List.mem_cons_self l₁ h₁) hlists, rfl⟩

theorem exists_of_mem_flatten {R : β → List α → Prop} {xs : List β} {lists : List (List α)}
    (h : List.Forall₂ R xs lists) {a : α} (ha : a ∈ lists.flatten) :
    ∃ x ∈ xs, ∃ l, R x l ∧ a ∈ l := by
  induction h with
  | nil => cases ha
  | @cons x l xs lists hl _ ih =>
    rw [List.flatten_cons] at ha
    rcases List.mem_append.mp ha with ha | ha
    · exact ⟨x, List.mem_cons_self, l, hl, ha⟩
    · obtain ⟨y, hy, l', hl', ha⟩ := ih ha
      exact ⟨y, List.mem_cons_of_mem _ hy, l', hl', ha⟩

/-- Outcomes put together fail where one of them does. -/
theorem exists_error_of_concat {xs : List (Outcome (List α))} {e : Failure}
    (h : (concat xs).result = .error e) : ∃ x ∈ xs, x.result = .error e := by
  induction xs with
  | nil => cases h
  | cons x xs ih =>
    rw [concat] at h
    obtain ⟨notes, error | l⟩ := x
    · cases h
      exact ⟨_, List.mem_cons_self, rfl⟩
    · rw [ok_append] at h
      cases hrest : (concat xs).result with
      | ok l' => rw [hrest] at h; cases h
      | error e' =>
        rw [hrest] at h
        cases h
        obtain ⟨x, hx, hresult⟩ := ih hrest
        exact ⟨x, List.mem_cons_of_mem _ hx, hresult⟩

/-! ## Notes -/

/-- Everything that is noted has the property. -/
def OnlyNotes (Q : Note → Prop) (x : Outcome α) : Prop := ∀ n ∈ x.notes, Q n

variable {Q : Note → Prop}

theorem onlyNotes_value {a : α} : (value a).OnlyNotes Q := nofun

theorem onlyNotes_ofExcept {x : Except Failure α} : (ofExcept x).OnlyNotes Q := nofun

theorem onlyNotes_note {notes : List Note} (h : ∀ n ∈ notes, Q n) : (note notes).OnlyNotes Q := h

theorem onlyNotes_bind {x : Outcome α} {f : α → Outcome β} (hx : x.OnlyNotes Q)
    (hf : ∀ a, x.result = .ok a → (f a).OnlyNotes Q) : (x >>= f).OnlyNotes Q := by
  obtain ⟨notes, _ | a⟩ := x
  · exact hx
  · rw [bind_ok]
    exact List.forall_mem_append.mpr ⟨hx, hf a rfl⟩

theorem onlyNotes_append {x y : Outcome (List α)} (hx : x.OnlyNotes Q) (hy : y.OnlyNotes Q) :
    (x ++ y).OnlyNotes Q :=
  onlyNotes_bind hx fun _ _ => onlyNotes_bind hy fun _ _ => onlyNotes_value

theorem onlyNotes_concat {l : List (Outcome (List α))} (h : ∀ x ∈ l, x.OnlyNotes Q) :
    (concat l).OnlyNotes Q := by
  induction l with
  | nil => exact onlyNotes_value
  | cons x rest ih =>
    rw [concat]
    exact onlyNotes_append (h x List.mem_cons_self)
      (ih fun y hy => h y (List.mem_cons_of_mem _ hy))

end Outcome

end SmartQuotes
