import SmartQuotes.Proofs.Quote.Interpolation
import SmartQuotes.Proofs.Text.Slice

/-!
# Template texts by their grammar

A template is written between backquotes. Between them stand characters, escaped characters and
embedded expressions; in an expression, between its braces, stand characters, strings, comments,
further braces and further templates, to any depth. `Items` and `Code` are the syntax trees of both,
`IsWellFormed` says which of them are written as they are meant. The reader of embedded expressions
builds no tree: it counts braces and looks one character ahead. For every well-formed tree it comes
out behind an expression where the tree says (`Code.val_afterExpression`), and it finds the
top-level expressions of a template and nothing else (`excluded_template`).
-/

namespace SmartQuotes.Interpolation

/-! ## Syntax -/

/-- What stands between the quotes of a string. -/
inductive Quoted
  | nil
  | character (c : Char) (rest : Quoted)
  | escape (c : Char) (rest : Quoted)

mutual

/-- What stands between the backquotes of a template. -/
inductive Items
  | nil
  | character (c : Char) (rest : Items)
  | escape (c : Char) (rest : Items)
  | segment (code : Code) (rest : Items)

/-- What stands between the braces of an embedded expression. -/
inductive Code
  | nil
  | character (c : Char) (rest : Code)
  | string (quote : Char) (body : Quoted) (rest : Code)
  | line (comment : Text) (rest : Code)
  | block (comment : Text) (rest : Code)
  | braces (inner rest : Code)
  | template (items : Items) (rest : Code)

end

def Quoted.toText : Quoted → Text
  | nil => []
  | character c rest => c :: rest.toText
  | escape c rest => '\\' :: c :: rest.toText

mutual

def Items.toText : Items → Text
  | .nil => []
  | .character c rest => c :: rest.toText
  | .escape c rest => '\\' :: c :: rest.toText
  | .segment code rest => '$' :: '\x7b' :: (code.toText ++ '\x7d' :: rest.toText)

def Code.toText : Code → Text
  | .nil => []
  | .character c rest => c :: rest.toText
  | .string quote body rest => quote :: (body.toText ++ quote :: rest.toText)
  | .line comment rest => '/' :: '/' :: (comment ++ '\n' :: rest.toText)
  | .block comment rest => '/' :: '*' :: (comment ++ '*' :: '/' :: rest.toText)
  | .braces inner rest => '\x7b' :: (inner.toText ++ '\x7d' :: rest.toText)
  | .template items rest => '\x60' :: (items.toText ++ '\x60' :: rest.toText)

end

/-- A string between such quotes holds no quote, backslash or line feed that is not escaped. -/
def Quoted.IsWellFormed (quote : Char) : Quoted → Prop
  | nil => True
  | character c rest => (c ≠ quote ∧ c ≠ '\\' ∧ c ≠ '\n') ∧ rest.IsWellFormed quote
  | escape _ rest => rest.IsWellFormed quote

mutual

/-- The characters of a template are neither backslashes nor backquotes, and a dollar sign among
them is not followed by a brace. -/
def Items.IsWellFormed : Items → Prop
  | .nil => True
  | .character c rest =>
    (c ≠ '\\' ∧ c ≠ '\x60' ∧ (c = '$' → rest.toText.head? ≠ some '\x7b')) ∧ rest.IsWellFormed
  | .escape _ rest => rest.IsWellFormed
  | .segment code rest => code.IsWellFormed ∧ rest.IsWellFormed

/-- The characters of an expression are neither quotes nor backquotes nor braces, and a slash among
them is followed neither by a slash nor by an asterisk. Comments do not hold what ends them. -/
def Code.IsWellFormed : Code → Prop
  | .nil => True
  | .character c rest =>
    (¬ IsStraight c ∧ c ≠ '\x60' ∧ c ≠ '\x7b' ∧ c ≠ '\x7d' ∧
      (c = '/' → rest.toText.head? ≠ some '/' ∧ rest.toText.head? ≠ some '*')) ∧ rest.IsWellFormed
  | .string quote body rest => IsStraight quote ∧ body.IsWellFormed quote ∧ rest.IsWellFormed
  | .line comment rest => '\n' ∉ comment ∧ rest.IsWellFormed
  | .block comment rest => ¬ ['*', '/'] <:+: comment ∧ rest.IsWellFormed
  | .braces inner rest => inner.IsWellFormed ∧ rest.IsWellFormed
  | .template items rest => items.IsWellFormed ∧ rest.IsWellFormed

end

/-- An embedded expression with its delimiters. -/
def Code.embedded (code : Code) : Text := '$' :: '\x7b' :: (code.toText ++ ['\x7d'])

/-- The top-level expressions of items that start at position `i`, from each dollar sign through the
matching brace. -/
def Items.segmentsFrom (i : Nat) : Items → List Span
  | .nil => []
  | .character _ rest => rest.segmentsFrom (i + 1)
  | .escape _ rest => rest.segmentsFrom (i + 2)
  | .segment code rest =>
    ⟨i, (i + code.embedded.length : Nat)⟩ :: rest.segmentsFrom (i + code.embedded.length)

/-- The top-level expressions as they are written. -/
def Items.expressions : Items → List Text
  | .nil => []
  | .character _ rest => rest.expressions
  | .escape _ rest => rest.expressions
  | .segment code rest => code.embedded :: rest.expressions

/-- A template with its backquotes. -/
def Items.template (items : Items) : Text := '\x60' :: (items.toText ++ ['\x60'])

/-! ## Stretches that end themselves -/

theorem head?_append_cons_ne {t r : Text} {c d : Char} (ht : t.head? ≠ some d) (hc : c ≠ d) :
    (t ++ c :: r).head? ≠ some d := by
  cases t with
  | nil => simpa using hc
  | cons a t => simpa using ht

theorem afterLine_append {comment : Text} (h : '\n' ∉ comment) (r : Text) :
    afterLine (comment ++ '\n' :: r) = r := by
  induction comment with
  | nil => rfl
  | cons c comment ih =>
    rw [List.mem_cons, not_or] at h
    rw [List.cons_append, afterLine, if_neg (Ne.symm h.1), ih h.2]

theorem afterBlock_append {comment : Text} (h : ¬ ['*', '/'] <:+: comment) (r : Text) :
    afterBlock (comment ++ '*' :: '/' :: r) = r := by
  induction comment with
  | nil => rfl
  | cons c comment ih =>
    rw [List.infix_cons_iff, not_or] at h
    rw [List.cons_append, afterBlock, ih h.2]
    -- a slash behind an asterisk would end the comment, and behind its last one stands an asterisk
    rintro u rfl hu
    have hslash : comment.head? ≠ some '/' := by
      intro hhead
      obtain ⟨v, rfl⟩ := List.head?_eq_some_iff.mp hhead
      exact h.1 ((List.prefix_append ['*', '/'] v))
    exact head?_append_cons_ne hslash (by decide) (List.head?_eq_some_iff.mpr ⟨u, hu⟩)

theorem Quoted.afterString_append {quote : Char} (hquote : quote ≠ '\\') {body : Quoted}
    (h : body.IsWellFormed quote) (r : Text) :
    afterString quote (body.toText ++ quote :: r) = r := by
  induction body with
  | nil =>
    rw [toText, List.nil_append, afterString, if_pos (by simp)]
    exact fun _ _ hq => absurd hq hquote
  | character c rest ih =>
    obtain ⟨⟨hc, hescape, hline⟩, hrest⟩ := h
    rw [toText, List.cons_append, afterString, if_neg (by simp [hc, hline]), ih hrest]
    exact fun _ _ hq => absurd hq hescape
  | escape c rest ih =>
    rw [toText, List.cons_append, List.cons_append, afterString, ih h]

/-! ## Trees -/

mutual

/-- An expression is read up to the brace that closes it, however many further ones are open. -/
theorem Code.val_afterExpression (code : Code) (h : code.IsWellFormed) (depth : Nat) (r : Text) :
    (afterExpression depth (code.toText ++ '\x7d' :: r)).val =
      (afterExpression depth ('\x7d' :: r)).val := by
  match code, h with
  | .nil, _ => rfl
  | .character c rest, ⟨⟨hquote, hback, hopening, hclosing, hslash⟩, hrest⟩ =>
    have hnext : c = '/' → (rest.toText ++ '\x7d' :: r).head? ≠ some '/' ∧
        (rest.toText ++ '\x7d' :: r).head? ≠ some '*' := fun hc =>
      ⟨head?_append_cons_ne (hslash hc).1 (by decide),
        head?_append_cons_ne (hslash hc).2 (by decide)⟩
    rw [Code.toText, List.cons_append,
      val_afterExpression_other hquote hback hopening hclosing hnext,
      rest.val_afterExpression hrest]
  | .string quote body rest, ⟨hquote, hbody, hrest⟩ =>
    have hescape : quote ≠ '\\' := by
      rintro rfl
      exact absurd hquote (by decide)
    rw [Code.toText, List.cons_append, List.append_assoc, List.cons_append,
      val_afterExpression_quote hquote, Quoted.afterString_append hescape hbody,
      rest.val_afterExpression hrest]
  | .line comment rest, ⟨hcomment, hrest⟩ =>
    rw [Code.toText, List.cons_append, List.cons_append, List.append_assoc, List.cons_append,
      val_afterExpression_line, afterLine_append hcomment, rest.val_afterExpression hrest]
  | .block comment rest, ⟨hcomment, hrest⟩ =>
    rw [Code.toText, List.cons_append, List.cons_append, List.append_assoc, List.cons_append,
      List.cons_append, val_afterExpression_block, afterBlock_append hcomment,
      rest.val_afterExpression hrest]
  | .braces inner rest, ⟨hinner, hrest⟩ =>
    rw [Code.toText, List.cons_append, List.append_assoc, List.cons_append,
      val_afterExpression_opening, inner.val_afterExpression hinner, val_afterExpression_closing,
      rest.val_afterExpression hrest]
  | .template items rest, ⟨hitems, hrest⟩ =>
    rw [Code.toText, List.cons_append, List.append_assoc, List.cons_append,
      val_afterExpression_backquote, items.val_afterTemplate hitems, rest.val_afterExpression hrest]

/-- A nested template is read up to the backquote that ends it. -/
theorem Items.val_afterTemplate (items : Items) (h : items.IsWellFormed) (r : Text) :
    (afterTemplate (items.toText ++ '\x60' :: r)).val = r := by
  match items, h with
  | .nil, _ => exact val_afterTemplate_backquote
  | .character c rest, ⟨⟨hescape, hback, hdollar⟩, hrest⟩ =>
    have hnext : c = '$' → (rest.toText ++ '\x60' :: r).head? ≠ some '\x7b' := fun hc =>
      head?_append_cons_ne (hdollar hc) (by decide)
    rw [Items.toText, List.cons_append,
      val_afterTemplate_other (fun hc => absurd hc hescape) hback hnext,
      rest.val_afterTemplate hrest]
  | .escape c rest, hrest =>
    rw [Items.toText, List.cons_append, List.cons_append, val_afterTemplate_escape,
      rest.val_afterTemplate hrest]
  | .segment code rest, ⟨hcode, hrest⟩ =>
    rw [Items.toText, List.cons_append, List.cons_append, List.append_assoc, List.cons_append,
      val_afterTemplate_opening, code.val_afterExpression hcode, val_afterExpression_last,
      rest.val_afterTemplate hrest]

end

/-! ## Templates -/

namespace Items

theorem toText_segment (code : Code) (rest : Items) :
    (segment code rest).toText = code.embedded ++ rest.toText := by
  rw [toText, Code.embedded, List.cons_append, List.cons_append, List.append_assoc,
    List.singleton_append]

/-- The reader finds the top-level expressions of the items and nothing else. -/
theorem spansFrom_toText (items : Items) (h : items.IsWellFormed) (i : Nat) :
    spansFrom i (items.toText ++ ['\x60']) = items.segmentsFrom i := by
  match items, h with
  | .nil, _ =>
    rw [toText, List.nil_append, spansFrom_other (fun _ => rfl) (fun hc => absurd hc (by decide)),
      spansFrom_nil, segmentsFrom]
  | .character c rest, ⟨⟨hescape, hback, hdollar⟩, hrest⟩ =>
    have hnext : c = '$' → (rest.toText ++ ['\x60']).head? ≠ some '\x7b' := fun hc =>
      head?_append_cons_ne (hdollar hc) (by decide)
    rw [toText, List.cons_append, spansFrom_other (fun hc => absurd hc hescape) hnext,
      rest.spansFrom_toText hrest, segmentsFrom]
  | .escape c rest, hrest =>
    rw [toText, List.cons_append, List.cons_append, spansFrom_escape, rest.spansFrom_toText hrest,
      segmentsFrom]
  | .segment code rest, ⟨hcode, hrest⟩ =>
    have hread : (afterExpression 0 ((code.toText ++ ['\x7d']) ++ (rest.toText ++ ['\x60']))).val =
        rest.toText ++ ['\x60'] := by
      rw [List.append_assoc, List.singleton_append, code.val_afterExpression hcode,
        val_afterExpression_last]
    have hlength : i + 2 + (code.toText ++ ['\x7d']).length = i + code.embedded.length := by
      rw [Code.embedded, List.length_cons, List.length_cons]
      omega
    rw [toText_segment, Code.embedded, List.append_assoc, List.cons_append, List.cons_append,
      spansFrom_opening hread, rest.spansFrom_toText hrest, hlength, segmentsFrom]

/-- The spans of the top-level expressions hold what is written there. -/
theorem map_slice_segmentsFrom (items : Items) (front back : Text) :
    ((items.segmentsFrom front.length).map fun s =>
      (front ++ (items.toText ++ back)).slice s.start s.stop) = items.expressions := by
  match items with
  | .nil => rfl
  | .character c rest =>
    have ih := rest.map_slice_segmentsFrom (front ++ [c]) back
    rwa [List.length_append, List.append_assoc] at ih
  | .escape c rest =>
    have ih := rest.map_slice_segmentsFrom (front ++ ['\\', c]) back
    rwa [List.length_append, List.append_assoc] at ih
  | .segment code rest =>
    have ih := rest.map_slice_segmentsFrom (front ++ code.embedded) back
    rw [List.length_append, List.append_assoc] at ih
    rw [toText_segment, List.append_assoc, segmentsFrom, List.map_cons, ih, expressions,
      Text.slice_append_append]

/-- Of a template that is written by the grammar, to any depth, exactly the spans of its top-level
expressions are excluded, each from the dollar sign through the matching brace, in their order. -/
theorem excluded_template (items : Items) (h : items.IsWellFormed) :
    excluded items.template .templateLiteral none = items.segmentsFrom 1 ∧
      ((items.segmentsFrom 1).map fun s => items.template.slice s.start s.stop) =
        items.expressions := by
  refine ⟨?_, items.map_slice_segmentsFrom ['\x60'] ['\x60']⟩
  rw [excluded_eq_spans, template, spans_backquote, items.spansFrom_toText h]

/-- A brace in a string, one in a comment, further braces with a template between them, and an
escaped backquote. -/
theorem excluded_template_of_nested :
    let code : Code :=
      .string doubleQuote (.character '\x7d' .nil) (.block ['\x7b']
        (.braces (.template (.segment (.character 'x' .nil) .nil) .nil) .nil))
    let items : Items := .character singleQuote (.segment code (.escape '\x60' .nil))
    items.IsWellFormed ∧ excluded items.template .templateLiteral none = [⟨2, 21⟩] := by
  refine ⟨?_, (excluded_template _ ?_).1⟩ <;>
    simp [IsWellFormed, Code.IsWellFormed, Quoted.IsWellFormed, toText, Code.toText]
  <;> decide

end Items

end SmartQuotes.Interpolation
