import SmartQuotes.Quote.Fragment

/-!
# Embedded expressions of a template literal

A template literal embeds expressions between a dollar sign with an opening brace and the brace
that closes it. The scanner reads a template without a parser: it skips the strings, comments,
braces and templates that an expression nests, and knows nothing of regular expression literals.
Each step returns the rest of the text, so that nothing is read twice.
-/

namespace SmartQuotes.Interpolation

/-- The rest after the line feed that ends a line comment. -/
def afterLine : Text → Text
  | [] => []
  | c :: t => if c = '\n' then t else afterLine t

/-- The rest after the end of a block comment. -/
def afterBlock : Text → Text
  | [] => []
  | '*' :: '/' :: t => t
  | _ :: t => afterBlock t

/-- The rest after a quoted string; a line feed ends it too. -/
def afterString (quote : Char) : Text → Text
  | [] => []
  | '\\' :: _ :: t => afterString quote t
  | c :: t => if c = quote || c = '\n' then t else afterString quote t

theorem length_afterLine_le (t : Text) : (afterLine t).length ≤ t.length := by
  fun_induction afterLine t <;> grind

theorem length_afterBlock_le (t : Text) : (afterBlock t).length ≤ t.length := by
  fun_induction afterBlock t <;> simp_all <;> omega

theorem length_afterString_le (q : Char) (t : Text) : (afterString q t).length ≤ t.length := by
  fun_induction afterString q t <;> simp_all <;> omega

mutual

/-- The rest after the brace that closes an expression in which `depth` further braces are open;
the end of the text when there is none. -/
def afterExpression (depth : Nat) (t : Text) : { r : Text // r.length ≤ t.length } :=
  match t with
  | [] => ⟨[], Nat.le_refl _⟩
  | '\x27' :: t =>
    have h := length_afterString_le '\x27' t
    let ⟨r, hr⟩ := afterExpression depth (afterString '\x27' t)
    ⟨r, by simp; omega⟩
  | '\x22' :: t =>
    have h := length_afterString_le '\x22' t
    let ⟨r, hr⟩ := afterExpression depth (afterString '\x22' t)
    ⟨r, by simp; omega⟩
  | '\x60' :: t =>
    let ⟨inner, h⟩ := afterTemplate t
    let ⟨r, hr⟩ := afterExpression depth inner
    ⟨r, by simp; omega⟩
  | '/' :: '/' :: t =>
    have h := length_afterLine_le t
    let ⟨r, hr⟩ := afterExpression depth (afterLine t)
    ⟨r, by simp; omega⟩
  | '/' :: '*' :: t =>
    have h := length_afterBlock_le t
    let ⟨r, hr⟩ := afterExpression depth (afterBlock t)
    ⟨r, by simp; omega⟩
  | '\x7b' :: t =>
    let ⟨r, hr⟩ := afterExpression (depth + 1) t
    ⟨r, by simp; omega⟩
  | '\x7d' :: t =>
    match depth with
    | 0 => ⟨t, by simp⟩
    | depth + 1 =>
      let ⟨r, hr⟩ := afterExpression depth t
      ⟨r, by simp; omega⟩
  | _ :: t =>
    let ⟨r, hr⟩ := afterExpression depth t
    ⟨r, by simp; omega⟩
termination_by t.length

/-- The rest after the end of a nested template literal. -/
def afterTemplate (t : Text) : { r : Text // r.length ≤ t.length } :=
  match t with
  | [] => ⟨[], Nat.le_refl _⟩
  | '\\' :: _ :: t =>
    let ⟨r, hr⟩ := afterTemplate t
    ⟨r, by simp; omega⟩
  | '\x60' :: t => ⟨t, by simp⟩
  | '$' :: '\x7b' :: t =>
    let ⟨inner, h⟩ := afterExpression 0 t
    let ⟨r, hr⟩ := afterTemplate inner
    ⟨r, by simp; omega⟩
  | _ :: t =>
    let ⟨r, hr⟩ := afterTemplate t
    ⟨r, by simp; omega⟩
termination_by t.length

end

/-- The embedded expressions of a template text that is read from position `i` on. -/
def spansFrom (i : Nat) (t : Text) : List Span :=
  match t with
  | [] => []
  | '\\' :: _ :: t => spansFrom (i + 2) t
  | '$' :: '\x7b' :: t =>
    let ⟨r, hr⟩ := afterExpression 0 t
    let stop := i + 2 + (t.length - r.length)
    ⟨i, stop⟩ :: spansFrom stop r
  | _ :: t => spansFrom (i + 1) t
termination_by t.length

/-- The embedded expressions of a template literal, from each dollar sign through the matching
brace. -/
def spans (t : Text) : List Span :=
  match t with
  | '\x60' :: r => spansFrom 1 r
  | _ => spansFrom 0 t

/-- The sorted, disjoint spans of a fragment text to leave untouched: those that are given, or else
those that the scanner finds. Only template literals embed expressions. -/
def excluded (t : Text) (kind : Kind) (known : Option (List Span)) : List Span :=
  match kind with
  | .templateLiteral => Span.merge (known.getD (spans t))
  | _ => []

end SmartQuotes.Interpolation
