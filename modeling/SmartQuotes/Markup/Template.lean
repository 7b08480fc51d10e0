import SmartQuotes.Markup.Attribute
import SmartQuotes.Script.Extract

/-!
# Markup templates

A template is cut into comments, tags and the runs of text between them; a run is cut into prose
and embedded expressions between double braces. An opening bracket that starts neither a comment
nor a tag belongs to its run, and so does everything up to the end of the range behind double braces
that are never closed. The pieces and the segments put together give back the text.
-/

namespace SmartQuotes.Markup

/-! ## Runs -/

/-- A stretch of a run. -/
inductive Segment
  | prose (t : Text)
  | embedded (expression : Text)
deriving DecidableEq, Repr

namespace Segment

def opening : Text := ['\x7b', '\x7b']

def closing : Text := ['\x7d', '\x7d']

def toText : Segment → Text
  | prose t => t
  | embedded t => opening ++ t ++ closing

/-- The length of the prose in front of the first complete embedded expression, and that of the
expression. -/
def firstEmbedded? (t : Text) : Option (Nat × Nat) :=
  (Text.locate? opening t).bind fun i => (Text.locate? closing (t.drop (i + 2))).map fun n => (i, n)

theorem length_pos_of_firstEmbedded? {t : Text} {i n : Nat} (h : firstEmbedded? t = some (i, n)) :
    0 < t.length := by
  cases t with
  | nil => simp [firstEmbedded?, Text.locate?, opening] at h
  | cons c t => simp

/-- The segments of a run: prose alternates with expressions, and prose comes first and last. -/
def list (t : Text) : List Segment :=
  match h : firstEmbedded? t with
  | none => [prose t]
  | some (i, n) =>
    have := length_pos_of_firstEmbedded? h
    prose (t.take i) :: embedded ((t.drop (i + 2)).take n) :: list (t.drop (i + 2 + n + 2))
termination_by t.length
decreasing_by simp; omega

end Segment

/-! ## Pieces -/

/-- A stretch of a template. -/
inductive Piece
  | run (t : Text)
  | comment (t : Text)
  | tag (g : Tag)
deriving DecidableEq, Repr

namespace Piece

def toText : Piece → Text
  | run t => t
  | comment t => t
  | tag g => g.toText

/-- Whether a comment starts here. The characters `beyond` the end of the range count, too. -/
def startsComment (beyond t : Text) : Bool :=
  (text "<!--").isPrefixOf (t.take 4 ++ beyond.take 3)

/-- Whether a comment or a tag starts here. -/
def startsMarkup (beyond t : Text) : Bool :=
  startsComment beyond t || (Tag.ofText? t).isSome

/-- Cut a text in front of the first comment or tag. -/
def cutRun (beyond : Text) (t : Text) : Text × Text :=
  match t with
  | [] => ([], [])
  | '<' :: r =>
    if startsMarkup beyond ('<' :: r) then ([], '<' :: r)
    else
      let (more, rest) := cutRun beyond r
      ('<' :: more, rest)
  | '\x7b' :: '\x7b' :: r =>
    match Text.locate? Segment.closing r with
    | none => ('\x7b' :: '\x7b' :: r, [])
    | some n =>
      let (more, rest) := cutRun beyond (r.drop (n + 2))
      ('\x7b' :: '\x7b' :: r.take (n + 2) ++ more, rest)
  | c :: r =>
    let (more, rest) := cutRun beyond r
    (c :: more, rest)
termination_by t.length
decreasing_by all_goals simp only [List.length_cons, List.length_drop]; omega

theorem append_cutRun (beyond t : Text) : (cutRun beyond t).1 ++ (cutRun beyond t).2 = t := by
  fun_induction cutRun beyond t <;> simp_all

/-- The comment at the start of a text; it goes on to the end when it is not closed. -/
def takeComment (t : Text) : Text :=
  match Text.locate? (text "-->") (t.drop 4) with
  | none => t
  | some n => t.take (4 + n + 3)

/-- The pieces of a range; `beyond` are the characters behind it. -/
def list (beyond : Text) (t : Text) : List Piece :=
  match h : (cutRun beyond t).2 with
  | [] => [run t]
  | c :: r =>
    have hlen : (c :: r).length ≤ t.length := by
      have := congrArg List.length (append_cutRun beyond t)
      rw [List.length_append, h] at this
      omega
    let between := run (cutRun beyond t).1
    if startsComment beyond (c :: r) then
      let found := takeComment (c :: r)
      between :: comment found :: list beyond (r.drop (found.length - 1))
    else match Tag.ofText? (c :: r) with
      | none => [between, run (c :: r)]
      | some g => between :: tag g :: list beyond (r.drop (g.toText.length - 1))
termination_by t.length
decreasing_by all_goals (simp at hlen ⊢; omega)

end Piece

/-! ## Fragments -/

/-- A fragment of a template between two offsets of its document. -/
def fragmentAt (document : Text) (kind : Kind) (start stop : Int) : Fragment :=
  { kind, start, stop, text := document.slice start stop, region := .template
    interpolations := none }

/-- Prose that is not blank. -/
def extractProse (document : Text) (start stop : Int) : List Fragment :=
  let f := fragmentAt document .markupText start stop
  if start < stop && !f.text.isBlank then [f] else []

/-- The fragments of the segments of a run; the last one goes on to `stop`. -/
def extractSegments (document : Text) (start stop : Int) :
    List Segment → Outcome (List Fragment)
  | [] => .value []
  | .prose t :: rest =>
    let next := start + t.length
    .value (extractProse document start (if rest.isEmpty then stop else next)) ++
      extractSegments document next stop rest
  | .embedded t :: rest =>
    Script.extractExpression document (start + 2) (start + 2 + t.length) ++
      extractSegments document (start + 2 + t.length + 2) stop rest

/-- The fragments of an attribute; `base` is the offset at which the attributes of the tag start. -/
def extractAttribute (document : Text) (base : Int) (a : Attribute) : Outcome (List Fragment) :=
  let start := base + a.offset
  let stop := start + a.value.length
  match a.role with
  | .plain => .value [fragmentAt document .attributeValue (start - 1) (stop + 1)]
  | .binding => .value []
  | .expression => Script.extractExpression document start stop
  | .iteration =>
    match a.aliasWidth? with
    | none => .value []
    | some n => Script.extractExpression document (start + n) stop

/-- The fragments of a tag that starts at the given offset; closing tags have none. -/
def extractTag (document : Text) (start : Int) (g : Tag) : Outcome (List Fragment) :=
  if g.closing then .value []
  else .concat ((Attribute.list g.attributes).map
    (extractAttribute document (start + g.head.length)))

/-- The fragments of pieces that follow one another; the last one goes on to `stop`. -/
def extractPieces (document : Text) (start stop : Int) :
    List Piece → Outcome (List Fragment)
  | [] => .value []
  | p :: rest =>
    let next := start + p.toText.length
    let found := match p with
      | .run t =>
        extractSegments document start (if rest.isEmpty then stop else next) (Segment.list t)
      | .comment _ => .value []
      | .tag g => extractTag document start g
    found ++ extractPieces document next stop rest

/-- The fragments of the template between two offsets of a document, from left to right. -/
def extractTemplate (document : Text) (start stop : Int) : Outcome (List Fragment) :=
  let beyond := document.drop (Text.bound document.length stop)
  extractPieces document start stop (Piece.list beyond (document.slice start stop))

end SmartQuotes.Markup
