import SmartQuotes.Text.Class

/-!
# Tags

A tag is written between angle brackets. Its attributes run up to the first closing bracket that
does not stand in a quoted run; a quote that is never closed leaves no tag. A name may hold quotes,
so that the longest name with which a tag can be read is taken.
-/

namespace SmartQuotes.Markup

/-- Whether a character opens and closes quoted runs. -/
def isQuote (c : Char) : Bool := c == '\x27' || c == '\x22'

/-! ## Attribute runs -/

/-- A text cut after its first `quote`; nothing when there is none. -/
def cutAfter? (quote : Char) : Text → Option (Text × Text)
  | [] => none
  | c :: t =>
    if c = quote then some ([c], t)
    else match cutAfter? quote t with
      | none => none
      | some (run, rest) => some (c :: run, rest)

theorem append_of_cutAfter? {quote : Char} {t run rest : Text}
    (h : cutAfter? quote t = some (run, rest)) : run ++ rest = t := by
  induction t generalizing run rest with
  | nil => simp [cutAfter?] at h
  | cons c t ih =>
    simp only [cutAfter?] at h
    split at h
    · simp_all
      obtain ⟨rfl, rfl⟩ := h
      rfl
    · split at h
      · simp at h
      · next hr =>
        simp only [Option.some.injEq, Prod.mk.injEq] at h
        obtain ⟨rfl, rfl⟩ := h
        simp [ih hr]

/-- Cut a text in front of the first closing bracket or quote without a partner that stands outside
quoted runs. -/
def cutAttributes (t : Text) : Text × Text :=
  match t with
  | [] => ([], [])
  | c :: r =>
    if c = '>' then ([], c :: r)
    else if isQuote c then
      match h : cutAfter? c r with
      | none => ([], c :: r)
      | some (run, rest) =>
        have := congrArg List.length (append_of_cutAfter? h)
        let (more, rest) := cutAttributes rest
        (c :: run ++ more, rest)
    else
      let (more, rest) := cutAttributes r
      (c :: more, rest)
termination_by t.length
decreasing_by all_goals (simp only [List.length_cons, List.length_append] at *; omega)

/-! ## Tags -/

/-- A tag: an element name and the text of the attributes. -/
structure Tag where
  closing : Bool
  name : Text
  attributes : Text
deriving DecidableEq, Repr

namespace Tag

/-- What stands in front of the attributes. -/
def head (g : Tag) : Text := (if g.closing then ['<', '/'] else ['<']) ++ g.name

/-- The written tag. -/
def toText (g : Tag) : Text := g.head ++ g.attributes ++ ['>']

/-- Characters of a name behind the first one. -/
def isNameChar (c : Char) : Bool := !(Text.Class.isBlank c || c == '/' || c == '>')

/-- The name at the start of a text, as long as possible. -/
def takeName : Text → Text
  | [] => []
  | c :: t => if Text.Class.isAsciiLetter c then c :: t.takeWhile isNameChar else []

/-- The tag whose name is the first `n` characters of a text, or fewer but at least one. -/
def withName? (closing : Bool) (t : Text) : Nat → Option Tag
  | 0 => none
  | n + 1 =>
    let (attributes, rest) := cutAttributes (t.drop (n + 1))
    if rest.head? = some '>' then some ⟨closing, t.take (n + 1), attributes⟩
    else withName? closing t n

/-- The tag at the start of a text. -/
def ofText? : Text → Option Tag
  | '<' :: '/' :: t => withName? true t (takeName t).length
  | '<' :: t => withName? false t (takeName t).length
  | _ => none

end Tag

end SmartQuotes.Markup
