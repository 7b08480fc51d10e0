import SmartQuotes.Linter.Steps

/-!
# A session has no memory but its summary

Each document of a session is answered as by a fresh linter that was built from the options the
session was started with and that has the level assigned last. What went before leaves traces only in
the collected issues: they are those of the completed documents that were handled while issues were
collected, in the order of the steps.
-/

namespace SmartQuotes

/-! ## What steps assign -/

namespace Step

/-- The level that a step assigns, if it assigns one. -/
def level? : Step → Option Level
  | assign (.level level) => some level
  | _ => none

/-- Whether issues are collected from a step on, if it assigns that. -/
def summary? : Step → Option Bool
  | assign (.summary collects) => some collects
  | _ => none

/-- The level behind steps: the one assigned last. -/
def levelAfter (level : Level) (steps : List Step) : Level :=
  (steps.filterMap level?).getLast?.getD level

/-- Whether issues are collected behind steps, as it was assigned last. -/
def summaryAfter (collects : Bool) (steps : List Step) : Bool :=
  (steps.filterMap summary?).getLast?.getD collects

variable {α : Type}

/-- What was assigned last is told by the first assignment and those behind it. -/
theorem getD_getLast?_filterMap_cons (f : Step → Option α) (a : α) (x : Step) (rest : List Step) :
    ((x :: rest).filterMap f).getLast?.getD a =
      (rest.filterMap f).getLast?.getD ((f x).getD a) := by
  rw [List.filterMap_cons]
  cases f x with
  | none => rfl
  | some b =>
    rw [List.getLast?_cons]
    rfl

theorem levelAfter_cons (level : Level) (x : Step) (rest : List Step) :
    levelAfter level (x :: rest) = levelAfter (x.level?.getD level) rest :=
  getD_getLast?_filterMap_cons level? level x rest

theorem summaryAfter_cons (collects : Bool) (x : Step) (rest : List Step) :
    summaryAfter collects (x :: rest) = summaryAfter (x.summary?.getD collects) rest :=
  getD_getLast?_filterMap_cons summary? collects x rest

end Step

/-- The issues of a completed document; there are none if it was not completed. -/
def Answer.entries : Answer → List Entry
  | handled ⟨_, .ok r⟩ => r.issues.map (⟨r.path, ·⟩)
  | _ => []

/-- A document changes nothing of a linter but what is collected. -/
theorem Linter.after_eq (l : Linter) (x : Outcome Report) :
    l.after x = { l with
      collected := l.collected ++ if l.collects then (Answer.handled x).entries else [] } := by
  obtain ⟨notes, _ | r⟩ := x
  · simp [Linter.after, Answer.entries]
  · simp only [Linter.after, Linter.collect, Answer.entries]
    split
    · rfl
    · rw [List.append_nil]

namespace Session

variable {s : Session}

/-! ## One step -/

/-- A step keeps the marks, and the level and the summary if it does not assign them. It collects
the issues of its answer. -/
theorem step_spec (s : Session) (x : Step) :
    (s.step x).1.linter =
      { marks := s.linter.marks
        level := x.level?.getD s.linter.level
        collects := x.summary?.getD s.linter.collects
        collected := s.linter.collected ++
          if s.linter.collects then (s.step x).2.entries else [] } := by
  cases x with
  | assign setting =>
    have hnone : (if s.linter.collects then Answer.assigned.entries else []) = [] := ite_self []
    rw [step, hnone, List.append_nil]
    cases setting <;> rfl
  | inspect task language path document =>
    rw [step]
    split
    · have hnone : (if s.linter.collects then (Answer.unsupported
          (Language.unsupportedMessage language)).entries else []) = [] := ite_self []
      rw [hnone, List.append_nil]
      rfl
    · exact s.linter.after_eq _

/-- The answer depends on the marks and the level alone. -/
theorem step_answer_congr {t : Session} (hmarks : s.linter.marks = t.linter.marks)
    (hlevel : s.linter.level = t.linter.level) (x : Step) : (s.step x).2 = (t.step x).2 := by
  cases x with
  | assign setting => rfl
  | inspect task language path document =>
    have hinspector : ∀ l : Language, s.linter.inspector l = t.linter.inspector l := by
      intro l
      rw [Linter.inspector, Linter.inspector, hmarks, hlevel]
    rw [step, step]
    split
    · rfl
    · simp only [Linter.run, Linter.inspect, hinspector]

/-! ## Runs -/

theorem length_run (s : Session) (steps : List Step) : (s.run steps).2.length = steps.length := by
  induction steps generalizing s with
  | nil => rfl
  | cons x rest ih => simp only [run, List.length_cons, ih]

/-- A step of a run is answered as by any session with its marks and the level of the moment. -/
theorem run_answer {t : Session} {steps : List Step} {k : Nat} {x : Step}
    (hx : steps[k]? = some x) (hmarks : s.linter.marks = t.linter.marks)
    (hlevel : Step.levelAfter s.linter.level (steps.take k) = t.linter.level) :
    (s.run steps).2[k]? = some (t.step x).2 := by
  induction steps generalizing s k with
  | nil => cases hx
  | cons y rest ih =>
    cases k with
    | zero =>
      obtain rfl := Option.some.inj hx
      exact congrArg some (step_answer_congr hmarks hlevel y)
    | succ k =>
      -- behind the first step the marks are the same, and the level is the one that it assigns
      refine ih (s := (s.step y).1) hx ?_ ?_
      · rwa [step_spec]
      · rwa [step_spec, ← Step.levelAfter_cons]

/-- A run collects the issues of its answers while issues are collected. -/
theorem run_collected (s : Session) (steps : List Step) :
    (s.run steps).1.linter.collected = s.linter.collected ++
      ((s.run steps).2.mapIdx fun k answer =>
        if Step.summaryAfter s.linter.collects (steps.take k) then answer.entries
        else []).flatten := by
  induction steps generalizing s with
  | nil => exact (List.append_nil _).symm
  | cons x rest ih =>
    simp only [run, List.mapIdx_cons, List.flatten_cons, List.take_succ_cons, List.take_zero,
      Step.summaryAfter_cons]
    rw [ih, step_spec, List.append_assoc]
    rfl

/-- Whatever steps are taken, in any order, each one is answered as by a fresh session with the
options of the start and the level of the moment. The collected issues are those of the documents
that were completed while issues were collected, in the order of the steps. -/
theorem run_eq_fresh {options : Config.Value} {level : Level} {collects : Bool}
    (h : start options level collects = .ok s) (steps : List Step) :
    (s.run steps).2.length = steps.length ∧
    (∀ (k : Nat) (x : Step), steps[k]? = some x → ∀ summary, ∃ fresh,
      start options (Step.levelAfter level (steps.take k)) summary = .ok fresh ∧
        (s.run steps).2[k]? = some (fresh.step x).2) ∧
    (s.run steps).1.linter.collected =
      ((s.run steps).2.mapIdx fun k answer =>
        if Step.summaryAfter collects (steps.take k) then answer.entries else []).flatten := by
  unfold start at h ⊢
  cases hmarks : Config.marksOf options with
  | error e =>
    rw [hmarks] at h
    cases h
  | ok marks =>
    rw [hmarks] at h
    cases h
    refine ⟨length_run _ steps, fun k x hx summary => ⟨_, rfl, run_answer hx rfl rfl⟩, ?_⟩
    exact run_collected _ steps

/-- A session with a mark of its own: the issue of a string is collected, a document that cannot be
parsed and one in another language leave nothing, and neither does what is linted after the summary
was given up. The last document is answered at the level `warn` with the mark of the start. -/
theorem run_eq_fresh_of_failures :
    let options : Config.Value := .mapping [(.text (text "double-opening"), .text (text "«"))]
    let s : Session := ⟨{ marks := { doubleOpening := text "«" }, collects := true }, options⟩
    let last : Step := .inspect .lint "script" (text "d.js") (text "d = '\"';")
    let steps : List Step := [.inspect .lint "script" (text "a.js") (text "a = '\"b';"),
      .inspect .fix "script" (text "b.js") (text "b = (;"),
      .inspect .lint "python" (text "c.py") (text "c = 1"),
      .assign (.options .null), .assign (.level .warn), .assign (.summary false), last]
    start options .fix true = .ok s ∧ steps[6]? = some last ∧
      (∃ fresh, start options .warn true = .ok fresh ∧
        (s.run steps).2[6]? = some (fresh.step last).2) ∧
      (s.run steps).1.linter.collected = [⟨text "a.js", ⟨1, 5, some (text "'«b'")⟩⟩] := by
  intro options s last steps
  have hstart : start options .fix true = .ok s := by rfl
  obtain ⟨-, hanswer, -⟩ := run_eq_fresh hstart steps
  exact ⟨hstart, rfl, hanswer 6 last rfl true, by decide +kernel⟩

end Session

end SmartQuotes
